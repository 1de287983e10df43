import JujuMigration.Store.Basic
/-! From a path to a place. Parts are looked up one after the other, each in a directory; a link is replaced by
the parts of its target, and no more than forty links are followed. -/

namespace JujuMigration.Store

def maxLinks : Nat := 40
def maxNameLength : Nat := 255
def maxPathLength : Nat := 4095

/-- Bytes of a text. -/
def width (t : Text) : Nat := (Utf8.encode t).length

/-- What a path is looked up for. -/
inductive Purpose
  /-- What stands there: a link itself. -/
  | entry
  /-- What it leads to: what a link leads to. -/
  | target
  /-- A file to be written at what it leads to, which cannot be at a path of a directory. -/
  | writing
  deriving DecidableEq, Repr

/-- The place that `parts` lead to from the place `here`, up to a link that has to be followed: how it is followed,
from which place, to which target and with which parts behind it, is for `follow` to say. The last part need not
exist. -/
def walkToLink (s : Store) (purpose : Purpose) (follow : Place → Text → List Text → Except Refusal Place) :
    Place → List Text → Except Refusal Place
  | here, [] => .ok here
  | here, part :: parts =>
    match s.entry? here with
    | some (.directory mode) =>
      if !s.allows mode .search then .error .denied
      else if part.isEmpty || part = ['.'] then walkToLink s purpose follow here parts
      else if part = ['.', '.'] then walkToLink s purpose follow here.dropLast parts
      else if purpose = .writing && parts = [[]] then .error .isDirectory
      else if maxNameLength < width part then .error .nameTooLong
      else
        let place := here ++ [part]
        match s.entry? place with
        | some (.link target) => if parts.isEmpty && purpose = .entry then .ok place else follow here target parts
        | some _ => walkToLink s purpose follow place parts
        | none => if parts.isEmpty then .ok place else .error .notFound
    | some (.file ..) => .error .notDirectory
    | _ => .error .notFound

/-- The place that `parts` lead to from the place `here`. At most `budget` links are followed. -/
def walk (s : Store) (purpose : Purpose) : (budget : Nat) → (here : Place) → (parts : List Text) → Except Refusal Place
  | 0 => walkToLink s purpose fun _ _ _ => .error .tooManyLinks
  | budget + 1 => walkToLink s purpose fun here target parts =>
    let onward := Path.literal target
    if target.isEmpty then .error .notFound
    else walk s purpose budget (if onward.rooted then [] else here) (onward.parts ++ parts)

/-- The place of a path; the last part need not exist. -/
def place (s : Store) (purpose : Purpose) (p : Path) : Except Refusal Place :=
  if p.parts.any fun part => '\x00' ∈ part then .error .nulByte
  else if maxPathLength < width p.toText then .error .nameTooLong
  else walk s purpose maxLinks (if p.rooted then [] else s.user.home) p.parts

/-- The entry that a path leads to, through links. -/
def stat (s : Store) (p : Path) : Except Refusal Entry := do
  match s.entry? (← s.place .target p) with
  | some e => .ok e
  | none => .error .notFound

def Entry.isDirectory : Entry → Bool
  | .directory _ => true
  | _ => false

def isDirectory (s : Store) (p : Path) : Bool := (s.stat p).toOption.any Entry.isDirectory

/-- Whether a path leads to something. A path that cannot lead anywhere does not, but one that must not be
looked up is refused. -/
def exists? (s : Store) (p : Path) : Except Refusal Bool :=
  match s.stat p with
  | .ok _ => .ok true
  | .error .notFound | .error .notDirectory | .error .tooManyLinks | .error .nulByte => .ok false
  | .error r => .error r

end JujuMigration.Store
