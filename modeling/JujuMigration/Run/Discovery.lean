import JujuMigration.Store.Operations
/-! Which files a run is about. A target that is no directory is taken as it is; below a directory every
configuration file counts, but for those that a run has written under another name and those in the
directories where modules are cached. Links to directories are not entered. -/

namespace JujuMigration

/-- Why the files cannot be found. -/
inductive DiscoveryError
  | target (r : Refusal) (path : Text)
  | directory (r : Refusal) (path : Text)
  deriving DecidableEq, Repr

namespace DiscoveryError

/-- Whether the target is no path at all. -/
def isMalformed : DiscoveryError → Bool
  | target r _ => r = .nulByte
  | directory .. => false

def message : DiscoveryError → String
  | target .nulByte path => Refusal.nulByte.message path
  | target r path => s!"error accessing target: {r.message path}"
  | directory r path => s!"error walking directory: {r.message path}"

end DiscoveryError

namespace Discovery

def extension : Text := ".tf".toList
def upgradedMark : Text := "_upgraded".toList
def cacheDirectory : Text := ".terraform".toList

/-- Whether an entry of a directory is a directory or a link to one. -/
def leadsToDirectory (s : Store) (directory : Path) : Text × Entry → Bool
  | (_, .directory _) => true
  | (_, .file ..) => false
  | (name, .link _) => s.isDirectory (directory.child name)

def isEntered : Text × Entry → Bool
  | (name, .directory _) => name ≠ cacheDirectory
  | _ => false

def isWanted (directory : Path) (name : Text) : Bool :=
  extension.isSuffixOf name && !Text.contains upgradedMark (directory.child name).toText

/-- The name of an entry behind its directory, as a message shows it. -/
def shownChild (directory name : Text) : Text :=
  if directory.getLast? = some Path.slash then directory ++ name else directory ++ Path.slash :: name

/-- The files below a directory, those directly in it first. At most `depth` levels are entered. -/
def filesBelow (s : Store) : Nat → Text → Path → Except DiscoveryError (List Path)
  | 0, _, _ => .ok []
  | depth + 1, shown, directory => do
    match s.list directory with
    | .error r => .error (.directory r shown)
    | .ok entries =>
      let files := (entries.filter fun e => !leadsToDirectory s directory e && isWanted directory e.1).map
        fun e => directory.child e.1
      let inner ← (entries.filter isEntered).mapM fun e =>
        filesBelow s depth (shownChild shown e.1) (directory.child e.1)
      .ok (files ++ inner.flatten)

/-- More levels than the store has. -/
def depth (s : Store) : Nat := s.entries.foldl (fun n e => max n e.1.length) 0 + 1

end Discovery

/-- The files that a run on the target is about. -/
def discover (s : Store) (target : Path) : Except DiscoveryError (List Path) :=
  match s.stat target with
  | .error r => .error (.target r target.toText)
  | .ok (.directory _) => Discovery.filesBelow s (Discovery.depth s) target.toText target
  | .ok _ => .ok [target]

end JujuMigration
