import JujuMigration.Console.Layout
import JujuMigration.Number.Rounding
/-! Tables: a title, headings, and rows whose cells can have several lines. A column is as wide as its widest line,
but where the columns together are wider than the screen, the widest of them give way. -/

namespace JujuMigration

/-- A column of a table: its heading, and whether its cells stand on the right. -/
structure Column where
  heading : Text
  onRight : Bool
  deriving DecidableEq, Repr

structure Table where
  title : Text
  columns : List Column
  rows : List (List Text)
  deriving DecidableEq, Repr

namespace Table

/-- The cells that the frame and the lines between the columns leave. -/
def room (columns : Nat) : Nat := Layout.screenWidth - (columns + 1)

/-- Takes `excess` from the values, as evenly as whole numbers allow, from those `chosen` and at most `most` from
each; `count` of them are chosen. -/
def reduce (chosen : Nat → Bool) (most : Nat) : Nat → Nat → List Nat → List Nat
  | _, _, [] => []
  | excess, count, v :: vs =>
    if chosen v && 0 < count then
      let share := min most (roundQuotient excess count)
      (v - share) :: reduce chosen most (excess - share) (count - 1) vs
    else v :: reduce chosen most excess count vs

/-- Narrows the widest columns to the next narrower ones, `steps` times at most, until all take `room` cells. -/
def narrow (room : Nat) : Nat → List Nat → List Nat
  | 0, widths => widths
  | steps + 1, widths =>
    let excess := widths.foldl (· + ·) 0 - room
    let widest := widths.foldl max 0
    let next := (widths.filter (· ≠ widest)).foldl max 0
    if excess = 0 then widths
    else
      narrow room steps (reduce (· = widest) (min excess (widest - next)) excess (widths.count widest) widths)

/-- The texts of a column. -/
def columnTexts (t : Table) (i : Nat) : List Text :=
  (t.columns[i]?.map Column.heading).toList ++ t.rows.filterMap (·[i]?)

/-- The cells of each column, with a space on either side. -/
def widths (t : Table) : List Nat :=
  let room := room t.columns.length
  narrow room (t.columns.length + 1)
    ((List.range t.columns.length).map fun i =>
      min room (2 + ((t.columnTexts i).map Layout.naturalWidth).foldl max 0))

/-- The lines of a cell. -/
def cellLines (c : Column) (width : Nat) (t : Text) : List Text :=
  (Wrapping.lines .ellipsis (width - 2) t).map fun line =>
    let line := if c.onRight then Layout.fitRight (width - 2) line else line.fit (width - 2)
    ' ' :: (line ++ [' '])

/-- The lines of a row: those of its cells side by side, filled up with empty lines. -/
def rowLines (bar : Char) (columns : List (Column × Nat)) (row : List Text) : List Text :=
  let cells := (columns.zip row).map fun ((c, width), t) => (width, cellLines c width t)
  let height := (cells.map fun (_, lines) => lines.length).foldl max 1
  (List.range height).map fun n =>
    Layout.frameLine bar bar bar (cells.map fun (width, lines) => (lines[n]?).getD (Text.spaces width))

/-- The lines of a table. -/
def lines (t : Table) : List Text :=
  let columns := t.columns.zip t.widths
  let widths := t.widths
  let top := Layout.rule '┏' '━' '┳' '┓' widths
  Layout.center ' ' top.length t.title :: top ::
    (rowLines '┃' columns (t.columns.map Column.heading) ++ Layout.rule '┡' '━' '╇' '┩' widths ::
      (t.rows.flatMap (rowLines '│' columns) ++ [Layout.rule '└' '─' '┴' '┘' widths]))

example : narrow 20 4 [4, 15, 12] = [4, 8, 8] := by decide +kernel
example : lines ⟨['T'], [⟨['A'], false⟩, ⟨['N'], true⟩], [[['a', 'b'], ['1']], [['c'], ['1', '2']]]⟩ =
    ["     T     ", "┏━━━━┳━━━━┓", "┃ A  ┃  N ┃", "┡━━━━╇━━━━┩", "│ ab │  1 │", "│ c  │ 12 │", "└────┴────┘"].map
      String.toList := by decide +kernel

end Table
end JujuMigration
