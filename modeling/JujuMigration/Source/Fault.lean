import JujuMigration.Text.Quoted
import JujuMigration.Source.Position
/-! Why a text cannot be read as a configuration, and where. -/

namespace JujuMigration.Source

inductive Cause
  | unterminatedComment
  | notEndOfLine (found : Char)
  | notIdentifier (found : Option Char)
  | unterminatedString
  | unterminatedInterpolation
  | malformedHeredoc
  | unclosedHeredoc (marker : Text)
  | unbalanced (closer : Char)
  | mismatched (closer : Char)
  | unclosedBracket
  | unexpectedEnd
  | unexpectedBrace
  | missingExpression (name : Text)
  | notLabel (kind : Text)
  deriving DecidableEq, Repr

/-- A cause and the rest of the text from the place on that it concerns. -/
structure Fault where
  rest : Text
  cause : Cause
  deriving DecidableEq, Repr

open Text (quotedString)

def Cause.message : Cause → String
  | .unterminatedComment => "unterminated block comment"
  | .notEndOfLine c => s!"unexpected {quotedString [c]}, expected a newline"
  | .notIdentifier c => s!"expected an identifier, found {quotedString c.toList}"
  | .unterminatedString => "unterminated string literal"
  | .unterminatedInterpolation => "unterminated template interpolation"
  | .malformedHeredoc => "malformed heredoc"
  | .unclosedHeredoc marker => s!"heredoc is missing its closing marker {quotedString marker}"
  | .unbalanced c => s!"unbalanced {quotedString [c]}"
  | .mismatched c => s!"mismatched {quotedString [c]}"
  | .unclosedBracket => "unclosed bracket in expression"
  | .unexpectedEnd => "unexpected end of file, expected '\x7d'"
  | .unexpectedBrace => "unexpected '\x7d'"
  | .missingExpression name => s!"missing expression for attribute {quotedString name}"
  | .notLabel kind => s!"expected a block label or '\x7b' after {quotedString kind}"

/-- Where the fault lies in the whole text. -/
def Fault.position (s : Text) (f : Fault) : Position := Position.ofRest s f.rest

end JujuMigration.Source
