import JujuMigration.Run.Discovery
import JujuMigration.Run.Report
/-! Processing files in a store: a file is read, upgraded and, unless the run is dry, backed up and replaced. The
new content is written to a file of its own beside the target, which is then moved onto it, so that the target
has its old or its new content at every moment. What goes wrong with a file is said in its report. -/

namespace JujuMigration

structure Settings where
  dryRun : Bool := false
  backup : Bool := false
  deriving DecidableEq, Repr

/-- A refusal that no report can hold, with the path that was refused. -/
structure Escape where
  refusal : Refusal
  path : Path
  deriving DecidableEq, Repr

def Escape.message (e : Escape) : String := e.refusal.message e.path.toText

namespace Process

def backupEnding : Text := ".tfupgrade.backup".toList
def temporaryEnding : Text := ".tfupgrade.tmp".toList

/-- The names that a backup may have, in the order in which they are tried. -/
def backupPath (target : Path) : Nat → Path
  | 0 => target.withName (target.name ++ backupEnding)
  | n + 1 => target.withName (target.name ++ '-' :: (Nat.toDigits 10 (n + 1) ++ backupEnding))

/-- The first of the backup names from the one with this number on that leads to nothing; at most `bound`
names are passed over. -/
def freeBackupPath (s : Store) (target : Path) : Nat → Nat → Except Escape Path
  | 0, n => .ok (backupPath target n)
  | bound + 1, n =>
    match s.exists? (backupPath target n) with
    | .ok false => .ok (backupPath target n)
    | .ok true => freeBackupPath s target bound (n + 1)
    | .error r => .error ⟨r, backupPath target n⟩

def temporaryPath (target : Path) : Path := target.withName (target.name ++ temporaryEnding)

/-- Removes the temporary file behind a failure. -/
def abandon (s : Store) (temporary : Path) (message : String) : Store × Writing :=
  match s.exists? temporary with
  | .error r => (s, .failed (r.message temporary.toText))
  | .ok false => (s, .failed s!"Atomic write failed: {message}")
  | .ok true =>
    match s.remove temporary with
    | .ok s => (s, .failed s!"Atomic write failed: {message}")
    | .error r => (s, .failed (r.message temporary.toText))

/-- Replaces a file by one with this content and mode. -/
def replace (s : Store) (target : Path) (content : Bytes) (mode : FileMode) : Store × Writing :=
  let temporary := temporaryPath target
  let parent := target.parent
  if !s.isWritable parent then (s, .failed s!"No write access to {String.ofList parent.toText}")
  else
    match s.write temporary content with
    | .error r => abandon s temporary (r.message temporary.toText)
    | .ok s =>
      match s.setMode temporary mode with
      | .error r => abandon s temporary (r.message temporary.toText)
      | .ok s =>
        match s.rename temporary target with
        | .error r =>
          abandon s temporary s!"{r.message temporary.toText} -> {Text.quotedString target.toText}"
        | .ok s => (s, .done)

/-- Why a copy was refused; a directory that a backup would be written to may not be there at all. -/
def copyMessage (s : Store) (r : Refusal) (p : Path) : String :=
  if r = .isDirectory ∧ (s.stat p).isOk = false then s!"Directory does not exist: {String.ofList p.toText}"
  else r.message p.toText

/-- Copies a file to a backup. -/
def makeBackup (s : Store) (target backup : Path) : Store × Backup :=
  match s.copy target backup with
  | .ok s => (s, .created backup)
  | .error (r, p) => (s, .failed s!"Backup failed: {copyMessage s r p}")

/-- What is read of a file: its mode and its bytes. -/
def readFile (s : Store) (p : Path) : Except Refusal (FileMode × Bytes) := do
  let e ← s.stat p
  .ok (e.mode, ← s.read p)

/-- A text of bytes that are known to be UTF-8. -/
def textOf (bytes : Bytes) : Text := (Utf8.decode bytes).toOption.getD []

/-- Backs up and replaces an upgraded file. -/
def store (settings : Settings) (s : Store) (p : Path) (mode : FileMode) (content : Bytes) :
    Except Escape (Store × Backup × Writing) := do
  if settings.dryRun then .ok (s, .none, .none)
  else if settings.backup then
    let backup ← freeBackupPath s p (s.entries.length + 1) 0
    let (s, made) := makeBackup s p backup
    let (s, writing) := replace s p content mode
    .ok (s, made, writing)
  else
    let (s, writing) := replace s p content mode
    .ok (s, .none, writing)

end Process

open Process

/-- Processes one file. -/
def processFile (settings : Settings) (s : Store) (p : Path) : Except Escape (Report × Store) :=
  match readFile s p with
  | .error .nulByte => .ok (.failed p .path (Refusal.nulByte.message p.toText), s)
  | .error r => .ok (.failed p .read (r.message p.toText), s)
  | .ok (mode, source) =>
    match upgradeFile p.toText source with
    | .error e => .ok (.failed p .parse e.message, s)
    | .ok result => do
      let report : Processed :=
        { path := p
          dryRun := settings.dryRun
          source := textOf source
          record := result.record
          upgraded := if result.record.wasUpgraded then some (textOf result.content) else none
          backup := .none
          writing := .none }
      if result.record.wasUpgraded then
        let (s, backup, writing) ← Process.store settings s p mode result.content
        .ok (.processed { report with backup := backup, writing := writing }, s)
      else .ok (.processed report, s)

/-- Processes files one after the other, as far as no refusal escapes. -/
def processFiles (settings : Settings) (s : Store) : List Path → Except Escape (List Report) × Store
  | [] => (.ok [], s)
  | p :: ps =>
    match processFile settings s p with
    | .error e => (.error e, s)
    | .ok (report, s) =>
      let (reports, s) := processFiles settings s ps
      (reports.map (report :: ·), s)

/-- Why a run gives no reports. -/
inductive RunError
  | discovery (e : DiscoveryError)
  | escape (e : Escape)
  deriving DecidableEq, Repr

/-- Processes every file of the target. -/
def run (settings : Settings) (s : Store) (target : Path) : Except RunError (List Report) × Store :=
  match discover s target with
  | .error e => (.error (.discovery e), s)
  | .ok files =>
    let (reports, s) := processFiles settings s files
    (reports.mapError .escape, s)

end JujuMigration
