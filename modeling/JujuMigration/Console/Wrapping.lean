import JujuMigration.Text.CellWidth
import JujuMigration.Text.Words
/-! Lines that are too wide for their place. They are broken between words, and a word that is too wide for a
line of its own is broken as well or cut off. -/

namespace JujuMigration.Wrapping

/-- What becomes of a word that is wider than a line. -/
inductive Overflow
  /-- It goes on in the next lines. -/
  | fold
  /-- It is cut off, and an ellipsis stands for what is missing. -/
  | ellipsis
  deriving DecidableEq, Repr

/-- A text in front of a tab, filled up to the next multiple of `size`. -/
def fillUp (size : Nat) (measure : Text → Nat) (t : Text) : Text :=
  let t := t ++ [' ']
  t ++ Text.spaces ((size - measure t % size) % size)

/-- Replaces each tab of a line by spaces up to the next multiple of `size`. -/
def expandTabs (size : Nat) (measure : Text → Nat) (t : Text) : Text :=
  let parts := Text.splitAt (· = '\t') t
  parts.dropLast.flatMap (fillUp size measure) ++ parts.getLast?.getD []

/-- Cells between two tab stops. -/
def tabSize : Nat := 8

def nonempty (line : Text) : List Text := if line.isEmpty then [] else [line]

/-- Lines of spaced words, behind the words of the line at hand, which take `used` cells. The blanks behind a
word may stand beyond the width. -/
def fill (overflow : Overflow) (width : Nat) (line : Text) (used : Nat) : List Text → List Text
  | [] => [line]
  | word :: rest =>
    let bare := (Text.trimEnd CharClass.isBlank word).cells
    if used + bare ≤ width then fill overflow width (line ++ word) (used + word.cells) rest
    else if overflow = .fold ∧ width < bare then
      let pieces := word.pieces width
      let last := pieces.getLast?.getD []
      nonempty line ++ pieces.dropLast ++ fill overflow width last last.cells rest
    else nonempty line ++ fill overflow width word word.cells rest

/-- Removes blanks at the end of a line that has more than `width` characters, as many as are too many. -/
def trimExcess (width : Nat) (line : Text) : Text :=
  let blanks := line.length - (Text.trimEnd CharClass.isBlank line).length
  line.take (line.length - min blanks (line.length - width))

/-- Cuts a line off that is too wide. -/
def cut (overflow : Overflow) (width : Nat) (line : Text) : Text :=
  if line.cells ≤ width then line
  else
    match overflow with
    | .fold => line.fit width
    | .ellipsis => line.fit (width - 1) ++ ['…']

/-- The lines of a text in `width` cells. -/
def lines (overflow : Overflow) (width : Nat) (t : Text) : List Text :=
  (Text.splitAt (· = '\n') t).flatMap fun line =>
    (fill overflow width [] 0 (expandTabs tabSize Text.cells line).spacedWords).map fun line =>
      cut overflow width (trimExcess width line)

example : lines .fold 4 "ab cdefgh i".toList = ["ab ", "cdef", "gh i"].map String.toList := by decide +kernel
example : lines .ellipsis 4 "ab cdefgh\ti".toList = ["ab ", "cde…", "i"].map String.toList := by decide +kernel

end JujuMigration.Wrapping
