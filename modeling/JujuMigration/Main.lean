import JujuMigration.CommandLine.Session
import Std.Time
/-! The command. It takes what it needs of the file system into a store, runs on the store, and carries out what
has changed there. A file that exists is written in place and keeps its mode. -/

namespace JujuMigration.Main

open CommandLine

def absolute (place : Place) : String := String.ofList (Path.toText ⟨true, place⟩)

/-- What the system has at a place. -/
def systemEntry (place : Place) : IO.FS.DirEntry := ⟨"/", absolute place⟩

/-- Where a path leads, through links. -/
def realPlace (path : String) : IO Place := do
  return (Path.ofText (← IO.FS.realPath path).toString.toList).parts

/-- Adds a directory and those above it. -/
def addDirectory (s : Store) (place : Place) : Store :=
  (List.range (place.length + 1)).foldl
    (fun s n => if (s.entry? (place.take n)).isSome then s else s.put (place.take n) (.directory 0o755)) s

/-- Adds a file. Its content is read if it is `wanted`; one that cannot be read has no permission bits. -/
def loadFile (s : Store) (place : Place) (wanted : Bool) : IO Store := do
  if wanted then
    let entry ← try pure (Entry.file 0o644 (← IO.FS.readBinFile (absolute place)).toList)
      catch _ => pure (Entry.file 0 [])
    return s.put place entry
  else if (s.entry? place).isSome then return s
  else return s.put place (.file 0o644 [])

/-- Adds what is at a place, but nothing below it. -/
def loadEntry (s : Store) (place : Place) (wanted : Bool) : IO Store := do
  let s := addDirectory s place.dropLast
  match (← (systemEntry place).path.symlinkMetadata).type with
  | .dir => return addDirectory s place
  | .symlink =>
    try
      let target ← realPlace (absolute place)
      let s := (addDirectory s target.dropLast).put place (.link (absolute target).toList)
      if ← (systemEntry target).path.isDir then return addDirectory s target else loadFile s target wanted
    catch _ => return s.put place (.link [])
  | _ => loadFile s place wanted

/-- Adds what is at a place and as many levels below it. -/
def load : Nat → Store → Place → Bool → IO Store
  | 0, s, place, wanted => loadEntry s place wanted
  | levels + 1, s, place, wanted => do
    let s ← loadEntry s place wanted
    let children ← try (systemEntry place).path.readDir catch _ => pure #[]
    children.foldlM (fun s child =>
      load levels s (place ++ [child.fileName.toList]) (child.fileName.endsWith ".tf")) s

/-- Adds what a path leads to and as many levels below it; nothing if it leads nowhere. -/
def loadPath (s : Store) (path : Path) (levels : Nat) : IO Store :=
  try load levels s (← realPlace (String.ofList path.toText)) true
  catch _ => return s

/-- No path has more parts. -/
def allLevels : Nat := 4096

/-- The part of the file system that a run can see. -/
def loadStore (o : Options) : IO Store := do
  let home ← realPlace "."
  let s := addDirectory { Store.empty with user := { home := home } } home
  let target := Path.ofText o.path
  let s ← loadPath s target allLevels
  let s ← if target.parts.isEmpty then pure s else loadPath s target.parent 1
  match o.report with
  | some name => loadPath s (Path.ofText name).parent 1
  | none => return s

/-- Carries out the change from one store to another. -/
def store (before after : Store) : IO Unit := do
  for (place, e) in before.entries do
    let gone := match e, after.entry? place with
      | .directory _, _ => false
      | _, none => true
      | .link _, some (.file ..) => true
      | _, _ => false
    if gone then IO.FS.removeFile (absolute place)
  for (place, e) in after.entries do
    match e with
    | .file _ content =>
      if before.entry? place ≠ some e then IO.FS.writeBinFile (absolute place) ⟨content.toArray⟩
    | _ => pure ()

def timestamp : IO Text := do
  return ((← Std.Time.PlainDateTime.now).format "uuuu-MM-dd HH:mm:ss").toList

/-- Prints what a run has to say and gives its status. -/
def report (session : Session) : IO UInt32 := do
  IO.print (String.ofList session.output)
  match session.ending with
  | .status code => return code.toUInt32
  | .markup e =>
    IO.eprintln e.message
    return 1
  | .refused r path =>
    IO.eprintln (r.message path)
    return 1

end JujuMigration.Main

open JujuMigration in
/-- Runs the command with its arguments. -/
def main (arguments : List String) : IO UInt32 := do
  let arguments := arguments.map String.toList
  match CommandLine.parse arguments with
  | .run o =>
    let before ← Main.loadStore o
    let session := CommandLine.execute (← Main.timestamp) arguments before
    Main.store before session.store
    Main.report session
  | .misuse =>
    IO.eprint (String.ofList CommandLine.usageText)
    return 2
  | _ => Main.report (CommandLine.execute [] arguments Store.empty)
