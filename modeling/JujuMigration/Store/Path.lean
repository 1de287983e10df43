import JujuMigration.Text.Basic
/-! Paths. A path is kept without the parts that say nothing: `.` and the empty parts between doubled slashes;
`..` says something, since what it leads to depends on links. -/

namespace JujuMigration

structure Path where
  /-- Whether it leads from the root rather than from the working directory. -/
  rooted : Bool
  parts : List Text
  deriving DecidableEq, Repr

namespace Path

def slash : Char := '/'

/-- The nonempty parts of a text between slashes. -/
def segments (t : Text) : List Text := (Text.splitAt (· = slash) t).filter (!·.isEmpty)

def isRooted (t : Text) : Bool := t.head? = some slash

def ofText (t : Text) : Path := ⟨isRooted t, (segments t).filter (· ≠ ['.'])⟩

/-- A path with every part that the text has. A slash at the end gives an empty last part: the path is one of a
directory. -/
def literal (t : Text) : Path :=
  ⟨isRooted t, segments t ++ if t.getLast? = some slash then [[]] else []⟩

def toText (p : Path) : Text :=
  match p.rooted, p.parts with
  | false, [] => ['.']
  | false, parts => Text.join [slash] parts
  | true, parts => slash :: Text.join [slash] parts

def child (p : Path) (name : Text) : Path := { p with parts := p.parts ++ [name] }

def name (p : Path) : Text := p.parts.getLast?.getD []

def parent (p : Path) : Path := { p with parts := p.parts.dropLast }

/-- The path with another last part. -/
def withName (p : Path) (name : Text) : Path := p.parent.child name

example : ofText "./a//b/../c/".toList = ⟨false, [['a'], ['b'], ['.', '.'], ['c']]⟩ := by decide +kernel
example : (ofText []).toText = ['.'] := by decide +kernel

end Path
end JujuMigration
