import JujuMigration.Store.Path
import JujuMigration.Text.Quoted
import JujuMigration.Text.Utf8
/-! A store of files: directories, files and symbolic links, each at its place, with the permission bits that count
for the one who works with the store, unless that one is the superuser. Everything belongs to that one but what is kept
for others. -/

namespace JujuMigration

/-- Where an entry is: the names that lead to it from the root, through no link. -/
abbrev Place := List Text

/-- Permission bits, as in an octal mode. -/
abbrev FileMode := Nat

inductive Entry
  | directory (mode : FileMode)
  | file (mode : FileMode) (content : Bytes)
  | link (target : Text)
  deriving DecidableEq, Repr

/-- Why the store refuses an operation. -/
inductive Refusal
  | notPermitted
  | notFound
  | denied
  | notDirectory
  | isDirectory
  | nameTooLong
  | tooManyLinks
  /-- The path holds a NUL, which no name can. -/
  | nulByte
  deriving DecidableEq, Repr

namespace Refusal

def number : Refusal → Nat
  | notPermitted => 1
  | notFound => 2
  | denied => 13
  | notDirectory => 20
  | isDirectory => 21
  | nameTooLong => 36
  | tooManyLinks => 40
  | nulByte => 0

def description : Refusal → String
  | notPermitted => "Operation not permitted"
  | notFound => "No such file or directory"
  | denied => "Permission denied"
  | notDirectory => "Not a directory"
  | isDirectory => "Is a directory"
  | nameTooLong => "File name too long"
  | tooManyLinks => "Too many levels of symbolic links"
  | nulByte => "embedded null byte"

/-- The refusal as a message about a path. -/
def message (r : Refusal) (path : Text) : String :=
  if r = nulByte then r.description
  else s!"[Errno {r.number}] {r.description}: {Text.quotedString path}"

end Refusal

/-- Who works with a store. -/
structure User where
  /-- The working directory. -/
  home : Place
  /-- Whether everything is allowed, whatever the permission bits say. -/
  privileged : Bool := false
  /-- The places that are kept for others, in directories that protect what is someone else's. What stands there may be
  read and written as its bits say, but only its owner may give it other bits, move it, replace it or remove it, and
  nobody else may make anything there. -/
  foreign : List Place := []
  deriving DecidableEq, Repr

structure Store where
  /-- The root is the entry at the empty place. -/
  entries : List (Place × Entry)
  user : User
  deriving Repr

namespace Store

def empty : Store := ⟨[([], .directory 0o755)], { home := [] }⟩

def entry? (s : Store) (place : Place) : Option Entry := s.entries.lookup place

/-- The store with an entry at a place, whatever was there before. -/
def put (s : Store) (place : Place) (e : Entry) : Store :=
  if (s.entry? place).isSome then
    { s with entries := s.entries.map fun x => if x.1 = place then (place, e) else x }
  else { s with entries := s.entries ++ [(place, e)] }

/-- The store with nothing at a place. -/
def clear (s : Store) (place : Place) : Store := { s with entries := s.entries.filter (·.1 ≠ place) }

/-- The name of an entry directly in a directory. -/
def childName? (directory place : Place) : Option Text :=
  if place.dropLast = directory then place.getLast? else none

/-- The entries directly in a directory, sorted by name. -/
def children (s : Store) (directory : Place) : List (Text × Entry) :=
  let named := s.entries.filterMap fun (place, e) => (childName? directory place).map (·, e)
  named.mergeSort fun a b => a.1.sortsUpTo b.1

end Store

/-- Whether the owner may read, write or, for a directory, look up names. -/
inductive Access
  | read
  | write
  | search
  deriving DecidableEq, Repr

def Access.bit : Access → Nat
  | read => 8
  | write => 7
  | search => 6

def FileMode.allows (mode : FileMode) (a : Access) : Bool := mode.testBit a.bit

/-- Whether the user of a store may do this with an entry that has these bits. -/
def Store.allows (s : Store) (mode : FileMode) (a : Access) : Bool := s.user.privileged || FileMode.allows mode a

/-- Whether a place is the user's own, or everything is allowed. -/
def Store.owns (s : Store) (place : Place) : Bool := s.user.privileged || decide (place ∉ s.user.foreign)

end JujuMigration
