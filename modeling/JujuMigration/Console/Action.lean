import JujuMigration.Text.Basic
import JujuMigration.Text.WordClass
/-! The actions that markup can name: perhaps a name, and arguments as data, which are read when the tag is
closed. Of the arguments it matters only whether they can be read: brackets have to match, quoted texts have to
end, and between two items there has to be a comma. -/

namespace JujuMigration.Action

def isNameChar (c : Char) : Bool := CharClass.isWord c || c == '.'

/-- The arguments of an action: those in parentheses behind a name, none behind a name alone, and otherwise the
whole text. -/
def arguments (t : Text) : Text :=
  let t := Text.trim CharClass.isBlank t
  let rest := t.dropWhile isNameChar
  if rest.isEmpty then ['(', ')']
  else if rest.head? = some '(' ∧ rest.getLast? = some ')' ∧ '\n' ∉ rest then rest
  else t

inductive Token
  | opening (c : Char)
  | closing (c : Char)
  | comma
  | colon
  /-- A sign in front of an item or between two. -/
  | sign
  | item (quoted : Bool)
  | openQuote
  /-- Digits with letters behind them. -/
  | malformedNumber
  | stray
  deriving DecidableEq, Repr

/-- The text behind the closing quote. -/
def afterQuote? (mark : Char) : Text → Option Text
  | [] => none
  | '\\' :: _ :: r => afterQuote? mark r
  | c :: r => if c = mark then some r else if c = '\n' then none else afterQuote? mark r

/-- The letters that a number can have. -/
def numberLetters : List Char := "bejoxBEJOX_".toList

/-- A number, or names with dots between them. -/
def wordToken (w : Text) : Token :=
  let parts := Text.splitAt (· = '.') w
  if w.all (fun c => c.isDigit || c = '.') && w.any Char.isDigit && parts.length ≤ 2 then .item false
  else if parts.any List.isEmpty then .stray
  else if w.head?.any Char.isDigit && !w.all (fun c => c.isDigit || c = '.' || numberLetters.contains c) then
    .malformedNumber
  else .item false

/-- Tokens of the data, at most `bound`. -/
def tokens : Nat → Text → List Token
  | 0, _ => []
  | _, [] => []
  | bound + 1, c :: r =>
    if CharClass.isBlank c then tokens bound r
    else if c = '\'' ∨ c = '"' then
      match afterQuote? c r with
      | some rest => .item true :: tokens bound rest
      | none => [.openQuote]
    else if isNameChar c then wordToken (c :: r.takeWhile isNameChar) :: tokens bound (r.dropWhile isNameChar)
    else
      (if c = '(' ∨ c = '{' then .opening c
        else if c = ')' ∨ c = '}' then .closing c
        else if c = ',' then .comma
        else if c = ':' then .colon
        else if c = '+' ∨ c = '-' then .sign
        else .stray) :: tokens bound r

def closingOf (c : Char) : Char := if c = '(' then ')' else '}'

/-- How far the data has been read. -/
structure State where
  /-- Brackets that are open, the innermost first. -/
  stack : List Char := []
  /-- What comes next may be an item. -/
  ready : Bool := true
  /-- What comes next has to be an item. -/
  needed : Bool := true
  /-- The item before was a quoted text. -/
  quoted : Bool := false
  /-- Something stands where it cannot stand. -/
  misplaced : Bool := false
  /-- Two items stand side by side; in brackets that may be for want of a comma. -/
  adjacent : Option Bool := none

def invalid : String := "invalid syntax"

/-- What is wrong with the data, if anything is. -/
def fault? (s : State) : List Token → Option String
  | [] =>
    if s.misplaced then some invalid
    else
      match s.stack, s.adjacent with
      | c :: _, _ => some s!"'{c}' was never closed"
      | [], some true => some (invalid ++ ". Perhaps you forgot a comma?")
      | [], some false => some invalid
      | [], none => if s.needed then some invalid else none
  | .openQuote :: _ => some "unterminated string literal (detected at line 1)"
  | .malformedNumber :: _ => some "invalid decimal literal"
  | .opening c :: ts =>
    fault? { s with stack := c :: s.stack, ready := true, needed := false, quoted := false
                    misplaced := s.misplaced || (c = '{' && !s.ready) } ts
  | .closing c :: ts =>
    match s.stack with
    | [] => some s!"unmatched '{c}'"
    | o :: stack =>
      if c = closingOf o then
        fault? { s with stack := stack, ready := false, needed := false, quoted := false
                        misplaced := s.misplaced || s.needed } ts
      else some s!"closing parenthesis '{c}' does not match opening parenthesis '{o}'"
  | .item quoted :: ts =>
    if s.ready || (s.quoted && quoted) then
      fault? { s with ready := false, needed := false, quoted := quoted } ts
    else fault? { s with adjacent := s.adjacent.or (some !s.stack.isEmpty) } ts
  | .comma :: ts =>
    fault? { s with ready := true, needed := false, misplaced := s.misplaced || s.ready } ts
  | .colon :: ts =>
    let fits := s.stack.head? = some '{' && !s.ready
    fault? { s with ready := true, needed := true, misplaced := s.misplaced || !fits } ts
  | .sign :: ts => fault? { s with ready := true, needed := true } ts
  | .stray :: ts => fault? { s with misplaced := true } ts

/-- What is wrong with the arguments of an action, if anything is. -/
def argumentsFault? (t : Text) : Option String := fault? {} (tokens t.length t)

example : argumentsFault? "(1, 'a', {2})".toList = none := by decide +kernel
example : argumentsFault? (arguments "f(".toList) = some "'(' was never closed" := by decide +kernel
example : argumentsFault? "(a b)".toList = some "invalid syntax. Perhaps you forgot a comma?" := by decide +kernel

end JujuMigration.Action
