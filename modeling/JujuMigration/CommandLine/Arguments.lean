import JujuMigration.Text.Basic
import JujuMigration.Text.WordClass
/-! The arguments of the command. Options may stand anywhere before a lone `--`; a long one may be cut short as
long as it stays distinct, and short ones may share a dash. -/

namespace JujuMigration.CommandLine

inductive Flag
  | help
  | version
  | dryRun
  | diff
  | backup
  | report
  | verbose
  deriving DecidableEq, Repr

def flagNames : List (Text × Flag) :=
  [("-h", Flag.help), ("--help", .help), ("-V", .version), ("--version", .version), ("--dry-run", .dryRun),
    ("--diff", .diff), ("--backup", .backup), ("--report", .report), ("-v", .verbose),
    ("--verbose", .verbose)].map fun (name, flag) => (name.toList, flag)

structure Options where
  path : Text
  dryRun : Bool := false
  diff : Bool := false
  backup : Bool := false
  verbose : Bool := false
  report : Option Text := none
  deriving DecidableEq, Repr

/-- What the arguments ask for. -/
inductive Request
  | run (o : Options)
  | help
  | version
  /-- The arguments make no sense. -/
  | misuse
  deriving DecidableEq, Repr

/-- What an argument is by itself. -/
inductive Word
  | value (t : Text)
  /-- A flag with the text that is attached to it. A shared dash makes the text a row of further flags. -/
  | flag (f : Flag) (attached : Option Text) (sharesDash : Bool)
  | unknown
  | separator
  deriving DecidableEq, Repr

def startsWith (p s : Text) : Bool := p.isPrefixOf s

/-- The part in front of the first equals sign and the part behind it. -/
def splitEquals? (t : Text) : Option (Text × Text) :=
  if '=' ∈ t then some (t.takeWhile (· ≠ '='), (t.dropWhile (· ≠ '=')).drop 1) else none

/-- The flags that a shortened argument may stand for. -/
def shortened (t : Text) : List Word :=
  if startsWith ['-', '-'] t then
    let (name, attached) :=
      match splitEquals? t with
      | some (name, value) => (name, some value)
      | none => (t, none)
    (flagNames.filter fun x => startsWith name x.1).map fun x => .flag x.2 attached false
  else
    flagNames.filterMap fun x =>
      if x.1 = t.take 2 then some (.flag x.2 (some (t.drop 2)) true)
      else if startsWith t x.1 then some (.flag x.2 none true)
      else none

/-- Whether the text is a negative number, which is no option; a line feed may end it. -/
def isNegativeNumber (t : Text) : Bool :=
  match if t.getLast? = some '\n' then t.dropLast else t with
  | '-' :: r =>
    let fraction := r.dropWhile CharClass.isDecimal
    match fraction with
    | [] => !r.isEmpty
    | '.' :: q => !q.isEmpty && q.all CharClass.isDecimal
    | _ => false
  | _ => false

/-- What an argument is; nothing if it may stand for several flags. -/
def readWord (t : Text) : Option Word :=
  let named := (splitEquals? t).bind fun (name, value) => (flagNames.lookup name).map (·, value)
  if t.head? ≠ some '-' ∨ t.length = 1 then some (.value t)
  else
    match flagNames.lookup t, named, shortened t with
    | some f, _, _ => some (.flag f none false)
    | none, some (f, value), _ => some (.flag f (some value) false)
    | none, none, [word] => some word
    | none, none, _ :: _ :: _ => none
    | none, none, [] => some (if isNegativeNumber t || ' ' ∈ t then .value t else .unknown)

/-- What the arguments are; those behind a lone `--` are values. -/
def readWords : List Text → Option (List Word)
  | [] => some []
  | t :: ts =>
    if t = ['-', '-'] then some (.separator :: ts.map .value)
    else do some ((← readWord t) :: (← readWords ts))

/-- What has been read so far. -/
structure Reading where
  path : Option Text := none
  options : Options := { path := [] }
  /-- Whether there was something that has no meaning. -/
  surplus : Bool := false
  deriving DecidableEq, Repr

namespace Reading

def set (r : Reading) (change : Options → Options) : Reading := { r with options := change r.options }

/-- Takes a value that belongs to no flag. -/
def take (r : Reading) (t : Text) : Reading :=
  if r.path.isNone then { r with path := some t } else { r with surplus := true }

def finish (r : Reading) : Request :=
  match r.path with
  | some path => if r.surplus then .misuse else .run { r.options with path := path }
  | none => .misuse

/-- Applies a flag that takes no value. A flag that answers by itself ends the reading. -/
def apply (r : Reading) : Flag → Except Request Reading
  | .help => .error .help
  | .version => .error .version
  | .dryRun => .ok (r.set ({ · with dryRun := true }))
  | .diff => .ok (r.set ({ · with diff := true }))
  | .backup => .ok (r.set ({ · with backup := true }))
  | .verbose => .ok (r.set ({ · with verbose := true }))
  | .report => .error .misuse

def setReport (r : Reading) (t : Text) : Reading := r.set ({ · with report := some t })

end Reading

/-- The flags of a text behind a shared dash, up to a letter that names none, and whether there is one. A dash
cannot stand there, nor an equals sign behind a flag. -/
def sharedFlags : Text → Option (List Flag × Bool)
  | [] => some ([], false)
  | c :: r =>
    match flagNames.lookup ['-', c] with
    | some f =>
      if r.head? = some '=' then none else (sharedFlags r).map fun (fs, surplus) => (f :: fs, surplus)
    | none => if c = '-' then none else some ([], true)

/-- The request of a list of words. A lone `--` right behind the path, or in front of it, has no meaning of its
own; `justTaken` tells whether the path has been read last. -/
def interpret (r : Reading) (justTaken : Bool) : List Word → Request
  | [] => r.finish
  | .value t :: words => interpret (r.take t) r.path.isNone words
  | .unknown :: words => interpret { r with surplus := true } false words
  | .separator :: words =>
    if r.path.isNone ∨ justTaken then interpret r false words else .misuse
  | .flag .report none _ :: .value t :: words => interpret (r.setReport t) false words
  | .flag .report (some t) _ :: words => interpret (r.setReport t) false words
  | .flag f none _ :: words =>
    match r.apply f with
    | .ok r => interpret r false words
    | .error request => request
  | .flag f (some t) sharesDash :: words =>
    match if sharesDash && !t.isEmpty then sharedFlags t else none with
    | none => .misuse
    | some (fs, surplus) =>
      match (f :: fs).foldlM Reading.apply r with
      | .ok r => interpret { r with surplus := r.surplus || surplus } false words
      | .error request => request

def parse (arguments : List Text) : Request :=
  match readWords arguments with
  | none => .misuse
  | some words => interpret {} false words

def usageText : Text := String.toList <|
  "usage: juju-tf-upgrader [-h] [-V] [--dry-run] [--diff] [--backup]\n" ++
  "                        [--report FILE] [-v]\n" ++
  "                        path\n"

def helpText : Text := usageText ++ String.toList (
  "\nUpgrade Terraform configurations from Juju provider 0.x to 1.x\n\n" ++
  "positional arguments:\n" ++
  "  path           Terraform file or directory to upgrade\n\n" ++
  "options:\n" ++
  "  -h, --help     show this help message and exit\n" ++
  "  -V, --version  show program's version number and exit\n" ++
  "  --dry-run      Report changes without writing files\n" ++
  "  --diff         Show a unified diff for each upgraded file\n" ++
  "  --backup       Keep a copy of every file before rewriting it\n" ++
  "  --report FILE  Write a YAML report of the run to FILE\n" ++
  "  -v, --verbose  Enable debug logging\n")

def versionText : Text := "juju-tf-upgrader 1.0.0\n".toList

example : parse ["p".toList, "--dry".toList] = .run { path := ['p'], dryRun := true } := by decide +kernel
example : parse ["p".toList, "--d".toList] = .misuse := by decide +kernel
example : parse ["--".toList, "-v".toList] = .run { path := ['-', 'v'] } := by decide +kernel

end JujuMigration.CommandLine
