import JujuMigration.Console.Wrapping
import JujuMigration.Text.Lines
/-! The screen and the frames on it: what a text takes by itself, texts that fill a given number of cells, and
panels. -/

namespace JujuMigration.Layout

/-- Cells in a line of the screen. -/
def screenWidth : Nat := 200

/-- The cells of the widest line of a text. -/
def naturalWidth (t : Text) : Nat := ((Text.screenLines t).map Text.cells).foldl max 0

/-- The text in `width` cells, with the space in front of it and without blanks behind it. -/
def fitRight (width : Nat) (t : Text) : Text :=
  let t := Text.trimEnd CharClass.isBlank t
  Text.spaces (width - t.cells) ++ t

/-- The text in the middle of `width` cells, between copies of a character; an odd one stands behind it. -/
def center (fill : Char) (width : Nat) (t : Text) : Text :=
  let t := if t.cells ≤ width then t else t.fit width
  let free := width - t.cells
  List.replicate (free / 2) fill ++ t ++ List.replicate (free - free / 2) fill

/-- A line of a frame: its ends, what separates columns, and the columns. -/
def frameLine (left separator right : Char) (columns : List Text) : Text :=
  left :: (Text.join [separator] columns ++ [right])

/-- A line of a frame without a text, given the cells of the columns. -/
def rule (left fill separator right : Char) (widths : List Nat) : Text :=
  frameLine left separator right (widths.map fun w => List.replicate w fill)

/-- The cells inside a panel over the whole screen. -/
def panelRoom : Nat := screenWidth - 4

/-- A panel: the upper line of its frame, and its lines, which all take the same cells. -/
def panel (width : Nat) (top : Text) (lines : List Text) : List Text :=
  top :: (lines.map fun line => frameLine '│' '│' '│' [' ' :: (line ++ [' '])]) ++ [rule '╰' '─' '─' '╯' [width + 2]]

/-- A panel over the whole screen with a title in its frame. -/
def titledPanel (title : Text) (lines : List Text) : List Text :=
  panel panelRoom (['╭', '─'] ++ center '─' panelRoom title ++ ['─', '╮']) lines

/-- A panel no wider than its text. -/
def smallPanel (t : Text) : List Text :=
  let width := min panelRoom (naturalWidth t)
  panel width (rule '╭' '─' '─' '╮' [width + 2]) ((Wrapping.lines .fold width t).map (·.fit width))

example : smallPanel ['a', 'b', '\n', 'c'] =
    ["╭────╮", "│ ab │", "│ c  │", "╰────╯"].map String.toList := by decide +kernel

end JujuMigration.Layout
