import JujuMigration.Config.Reader
import JujuMigration.Source.Fault
import JujuMigration.Strict.BlockIndex
import JujuMigration.Text.Utf8
import JujuMigration.Upgrade.Block
/-! The upgrade of a whole file, from bytes to bytes. A file is read twice: strictly, which refuses what the
language does not allow and yields the lines that advice points to, and as a tree, which is changed and
rendered. A file that either reading refuses is not upgraded at all. -/

namespace JujuMigration

/-- Why a file cannot be read, with the place if there is one. -/
structure ParseError where
  file : Text
  place : Option Position
  reason : String
  deriving DecidableEq, Repr

def ParseError.message (e : ParseError) : String :=
  match e.place with
  | some p => s!"{String.ofList e.file}:{p.line}:{p.column}: {e.reason}"
  | none => s!"{String.ofList e.file}: {e.reason}"

structure Document where
  file : Text
  /-- The byte order mark, if the file begins with one. -/
  mark : Text
  body : Body
  /-- The line of a block, by its address. -/
  lines : Strict.Entries
  deriving Repr

/-- What upgrading a file has come to: each change, with the flag that noting one sets, and each piece of advice. -/
structure Record where
  wasUpgraded : Bool := false
  changes : List Change := []
  advice : List Advice := []
  deriving Repr

def Record.append (a b : Record) : Record :=
  ⟨a.wasUpgraded || b.wasUpgraded, a.changes ++ b.changes, a.advice ++ b.advice⟩

instance : Append Record := ⟨Record.append⟩

/-- The bytes of an upgraded file and the record of its upgrade. -/
structure Upgraded where
  content : Bytes
  record : Record
  deriving Repr

def Record.warnings (r : Record) : Nat := r.advice.length

namespace Document

def byteOrderMark : Char := Char.ofNat 0xFEFF

def splitMark (s : Text) : Text × Text :=
  match s with
  | c :: r => if c = byteOrderMark then ([c], r) else ([], s)
  | [] => ([], [])

/-- The tree of a text, or its first fault as an error in the file. -/
def readBody (file text : Text) : Except ParseError Body :=
  match Body.read text with
  | .ok body => .ok body
  | .error f => .error ⟨file, some (f.position text), f.cause.message⟩

/-- The notes of lines in a text, or the refusal as an error in the file. -/
def readIndex (file text : Text) : Except ParseError Strict.Entries :=
  match Strict.blockIndex text with
  | .ok entries => .ok entries
  | .error (.unreadable p) => .error ⟨file, some p, s!"Syntax error at line {p.line}, column {p.column}."⟩
  | .error (.defect d) => .error ⟨file, none, d.message⟩

def decode (file : Text) (source : Bytes) : Except ParseError Text :=
  match Utf8.decode source with
  | .ok text => .ok text
  | .error f => .error ⟨file, none, s!"file is not valid UTF-8: {f.message}"⟩

def read (file : Text) (source : Bytes) : Except ParseError Document := do
  let (mark, text) := splitMark (← decode file source)
  let lines ← readIndex file text
  let body ← readBody file text
  .ok ⟨file, mark, body, lines⟩

def render (d : Document) : Bytes := Utf8.encode (d.mark ++ Body.render d.body)

/-- The line of a block by the index, or else the one it was read on. -/
def lineOf (d : Document) (b : Block) : Strict.Value :=
  (Strict.lookup b.address d.lines).getD (.int b.head.line)

/-- The record of a block's notes. -/
def record (d : Document) (b : Block) (notes : Notes) : Record :=
  ⟨notes.wasUpgraded, notes.changes, notes.concerns.map fun c => ⟨d.file, d.lineOf b, c⟩⟩

def upgradeNode (d : Document) : Node → Node × Record
  | .block head body closing =>
    let b : Block := ⟨head, body, closing⟩
    let (upgraded, notes) := b.upgrade
    (upgraded.toNode, d.record b notes)
  | node => (node, {})

/-- Upgrades nodes from first to last. -/
def upgradeNodes (d : Document) : Body → Body × Record
  | [] => ([], {})
  | node :: nodes =>
    let (node, first) := d.upgradeNode node
    let (nodes, rest) := upgradeNodes d nodes
    (node :: nodes, first ++ rest)

def upgrade (d : Document) : Upgraded :=
  let (body, record) := d.upgradeNodes d.body
  ⟨{ d with body := body }.render, record⟩

end Document

/-- Upgrades the bytes of a file. -/
def upgradeFile (file : Text) (source : Bytes) : Except ParseError Upgraded :=
  (Document.read file source).map Document.upgrade

end JujuMigration
