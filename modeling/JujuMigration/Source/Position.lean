import JujuMigration.Text.Basic
/-! Where a place in a text is, for a reader: its line and its column. Only the line feed ends a line. The line of an
offset is found by bisection in a table of the offsets at which the lines begin. -/

namespace JujuMigration

/-- A line and a column, both counted from one. -/
structure Position where
  line : Nat
  column : Nat
  deriving DecidableEq, Repr

namespace Position

/-- The offsets behind the line feeds of a text that begins at an offset. -/
def startsBehind (offset : Nat) : Text → List Nat
  | [] => []
  | c :: r => if c = '\n' then (offset + 1) :: startsBehind (offset + 1) r else startsBehind (offset + 1) r

/-- The offsets at which the lines begin, the first one at the beginning of the text. -/
def lineStarts (s : Text) : Array Nat := (0 :: startsBehind 0 s).toArray

/-- How many entries of an ascending table are not behind an offset, if at least `low` are and at most `high`. -/
def bisect (table : Array Nat) (offset low high : Nat) : Nat :=
  if low < high then
    if offset < table.getD ((low + high) / 2) 0 then bisect table offset low ((low + high) / 2)
    else bisect table offset ((low + high) / 2 + 1) high
  else low
termination_by high - low

/-- The position of an offset; an offset past the end lies on the last line. -/
def ofOffset (s : Text) (offset : Nat) : Position :=
  let table := lineStarts s
  let line := bisect table offset 0 table.size
  ⟨line, offset - table.getD (line - 1) 0 + 1⟩

/-- The position at which the suffix `rest` of the text begins. -/
def ofRest (s rest : Text) : Position := ofOffset s (s.length - rest.length)

example : ofOffset "a\nbc".toList 4 = ⟨2, 3⟩ := by decide +kernel

end Position
end JujuMigration
