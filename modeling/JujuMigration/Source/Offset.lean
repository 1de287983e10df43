import JujuMigration.Source.Expression
/-! The scanners by offset into a whole text. An offset past the end stands for the end, and a scanner that
finds nothing to skip there returns it unchanged. -/

namespace JujuMigration.Source

/-- The offset at which `rest` begins, for a suffix `rest` of the text from `pos` on. -/
def offsetAfter (s : Text) (pos : Nat) (rest : Text) : Nat := pos + ((s.drop pos).length - rest.length)

/-- Runs a scanner at an offset. -/
def scanAt (scan : Text → Except Fault Text) (s : Text) (pos : Nat) : Except Fault Nat :=
  (scan (s.drop pos)).map (offsetAfter s pos)

/-- Runs a reader at an offset. -/
def readAt (read : Text → Except Fault (Text × Text)) (s : Text) (pos : Nat) : Except Fault (Text × Nat) :=
  (read (s.drop pos)).map fun x => (x.1, offsetAfter s pos x.2)

/-- The offset of the end of the line; the end of the text if the line has none. -/
def lineEndAt (s : Text) (pos : Nat) : Nat := s.length - (skipLine (s.drop pos)).length

def skipCommentAt (s : Text) (pos : Nat) : Except Fault Nat :=
  (skipComment (s.drop pos)).map fun rest => s.length - rest.length

/-- Moves `stop` back over trailing blanks, not beyond `start`; nothing if `stop` lies outside the text. -/
def trimRight? (s : Text) (start stop : Nat) : Option Nat :=
  if stop ≤ start then some stop
  else if s.length < stop then none
  else some (start + (Text.trimEnd isSpace ((s.take stop).drop start)).length)

end JujuMigration.Source
