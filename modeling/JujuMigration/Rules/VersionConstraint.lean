import JujuMigration.Text.Basic
import JujuMigration.Text.WordClass
/-! Version constraints on a release 0.x, as they stand in an expression: `version`, an equals sign and a
quoted constraint with at most one operator. The expression is cut into pieces, each a constraint or a single
character, so that constraints are found leftmost first and never overlap. -/

namespace JujuMigration.VersionConstraint

/-- The text behind `p`, if it begins with it. -/
def behind? (p s : Text) : Option Text := if p.isPrefixOf s then some (s.drop p.length) else none

def skipBlanks (s : Text) : Text := s.dropWhile CharClass.isBlank

/-- The operators; one that begins another comes after it. -/
def operators : List Text := ["~>", ">=", "<=", "!=", ">", "<", "="].map String.toList

def skipOperator (s : Text) : Text := (operators.findSome? (behind? · s)).getD s

/-- The text behind the constraint that the text begins with. -/
def afterZero? (s : Text) : Option Text := do
  let s ← behind? "version".toList s
  let s ← behind? ['='] (skipBlanks s)
  let s ← behind? ['"'] (skipBlanks s)
  let s ← behind? ['0', '.'] (skipBlanks (skipOperator (skipBlanks s)))
  match s.dropWhile (· ≠ '"') with
  | [] => none
  | _ :: rest => some rest

inductive Piece
  | char (c : Char)
  /-- A constraint on a release 0.x. -/
  | zero (t : Text)
  deriving DecidableEq, Repr

/-- The pieces behind `skip` characters that belong to the piece before. -/
def piecesAfter : Nat → Text → List Piece
  | _, [] => []
  | skip + 1, _ :: r => piecesAfter skip r
  | 0, c :: r =>
    match afterZero? (c :: r) with
    | none => .char c :: piecesAfter 0 r
    | some rest =>
      let found := Text.before rest (c :: r)
      .zero found :: piecesAfter (found.length - 1) r

def pieces (s : Text) : List Piece := piecesAfter 0 s

def Piece.text : Piece → Text
  | .char c => [c]
  | .zero t => t

/-- Where the constraints begin and end, for pieces that begin at offset `pos`. -/
def spansFrom (pos : Nat) : List Piece → List (Nat × Nat)
  | [] => []
  | .char _ :: ps => spansFrom (pos + 1) ps
  | .zero t :: ps => (pos, pos + t.length) :: spansFrom (pos + t.length) ps

def spans (s : Text) : List (Nat × Nat) := spansFrom 0 (pieces s)

def occursIn (s : Text) : Bool := !(spans s).isEmpty

/-- The constraint on the releases 1.x that takes the place of a constraint on a release 0.x. -/
def upgrade : Text := "version = \"~> 1.0\"".toList

def Piece.upgraded : Piece → Text
  | .char c => [c]
  | .zero _ => upgrade

/-- The expression with every constraint on a release 0.x replaced. -/
def replaceZero (s : Text) : Text := (pieces s).flatMap Piece.upgraded

example : replaceZero "\x7b version= \">= 0.9, < 1\" \x7d".toList = "\x7b version = \"~> 1.0\" \x7d".toList := by
  decide +kernel
example : spans "version = \"1.0\" version = \"0.1\"".toList = [(16, 31)] := by decide +kernel

end JujuMigration.VersionConstraint
