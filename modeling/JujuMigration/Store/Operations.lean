import JujuMigration.Store.Lookup
/-! What can be done with the files of a store. An operation that is refused leaves the store as it was. -/

namespace JujuMigration

def Entry.mode : Entry → FileMode
  | .directory mode | .file mode _ => mode
  | .link _ => 0o777

namespace Store

/-- The mode of a new file. -/
def newFileMode : FileMode := 0o644

/-- Whether names may be added, replaced and removed in the directory that holds a place. -/
def mayChange (s : Store) (place : Place) : Bool :=
  (s.entry? place.dropLast).any fun e => s.allows e.mode .write

/-- Why a place may not be given another entry, or none: the names in its directory may not be changed, or it is kept
for others. -/
def bar? (s : Store) (place : Place) : Option Refusal :=
  if !s.mayChange place then some .denied else if !s.owns place then some .notPermitted else none

def read (s : Store) (p : Path) : Except Refusal Bytes := do
  match ← s.stat p with
  | .file mode content => if s.allows mode .read then .ok content else .error .denied
  | .directory mode => if s.allows mode .read then .error .isDirectory else .error .denied
  | .link _ => .error .tooManyLinks

/-- Gives a file this content and makes the file if there is none; a link is followed. -/
def write (s : Store) (p : Path) (content : Bytes) : Except Refusal Store := do
  let place ← s.place .writing p
  match s.entry? place with
  | some (.file mode _) =>
    if s.allows mode .write then .ok (s.put place (.file mode content)) else .error .denied
  | some (.directory _) => .error .isDirectory
  | some (.link _) => .error .tooManyLinks
  | none =>
    match s.bar? place with
    | some r => .error r
    | none => .ok (s.put place (.file newFileMode content))

/-- Gives the entry that a path leads to other permission bits. -/
def setMode (s : Store) (p : Path) (mode : FileMode) : Except Refusal Store := do
  let place ← s.place .target p
  match s.entry? place with
  | some (.directory _) => if s.owns place then .ok (s.put place (.directory mode)) else .error .notPermitted
  | some (.file _ content) => if s.owns place then .ok (s.put place (.file mode content)) else .error .notPermitted
  | _ => .error .notFound

/-- Moves what is at one path, a file or a link itself, to another and replaces what is there. -/
def rename (s : Store) (source target : Path) : Except Refusal Store := do
  let sourcePlace ← s.place .entry source
  let targetPlace ← s.place .entry target
  match s.entry? sourcePlace, s.entry? targetPlace with
  | none, _ => .error .notFound
  | some _, some (.directory _) => .error .isDirectory
  | some e, _ =>
    match (s.bar? sourcePlace).or (s.bar? targetPlace) with
    | some r => .error r
    | none => .ok ((s.clear sourcePlace).put targetPlace e)

/-- Removes a file or a link. -/
def remove (s : Store) (p : Path) : Except Refusal Store := do
  let place ← s.place .entry p
  match s.entry? place with
  | none => .error .notFound
  | some e =>
    match s.bar? place with
    | some r => .error r
    | none => if Entry.isDirectory e then .error .isDirectory else .ok (s.clear place)

/-- The names in a directory, sorted, with their entries. -/
def list (s : Store) (p : Path) : Except Refusal (List (Text × Entry)) := do
  let place ← s.place .target p
  match s.entry? place with
  | some (.directory mode) => if s.allows mode .read then .ok (s.children place) else .error .denied
  | some _ => .error .notDirectory
  | none => .error .notFound

/-- Whether names can be added to a directory. -/
def isWritable (s : Store) (p : Path) : Bool := (s.stat p).toOption.any fun e => s.allows e.mode .write

/-- Copies content and mode of a file; links are followed on both sides. -/
def copy (s : Store) (source target : Path) : Except (Refusal × Path) Store := do
  let content ← (s.read source).mapError (·, source)
  let s ← (s.write target content).mapError (·, target)
  let e ← (s.stat source).mapError (·, source)
  (s.setMode target e.mode).mapError (·, target)

/-- Gives everything to an ordinary user, who works with the store from then on. Only the superuser may do that. -/
def changeOwner (s : Store) : Except Refusal Store :=
  if s.user.privileged then .ok { s with user := { s.user with privileged := false } } else .error .notPermitted

end Store
end JujuMigration
