import JujuMigration.Strict.Evaluation
import JujuMigration.Strict.Parser
/-! The index of a text's blocks: the line on which each block begins, by its address. To build it the whole
text is read by the strict grammar and evaluated, so that a text with an index is one that the grammar
accepts. -/

namespace JujuMigration.Strict

abbrev Entries := List (Text × Value)

def lookup (key : Text) (entries : Entries) : Option Value := (entries.find? (·.1 = key)).map (·.2)

def startKey : Text := "__start_line__".toList
def endKey : Text := "__end_line__".toList

/-- Labels of a block around its body, the first outermost. -/
def underLabels : List Text → Entries → Entries
  | [], body => body
  | label :: labels, body => [(label, .object (underLabels labels body))]

/-- Adds an attribute to the entries of a body. -/
def addAttribute (name : Text) (value : Value) (entries : Entries) : Except Defect Entries :=
  if (lookup name entries).isSome then .error .repeatedName else .ok (entries ++ [(name, value)])

/-- Adds a block to the entries of a body, where `names` are those of the attributes before it; blocks of one
kind share an entry. -/
def addBlock (names : List Text) (kind : Text) (block : Value) (entries : Entries) : Except Defect Entries :=
  if names.contains kind then .error .repeatedName
  else
    match lookup kind entries with
    | some (.list blocks) => .ok (setEntry kind (.list (blocks ++ [block])) entries)
    | _ => .ok (setEntry kind (.list [block]) entries)

/-- An evaluated item of a body. -/
inductive Member
  | attribute (name : Text) (value : Value)
  | block (kind : Text) (value : Value)

/-- The entries of a body with these members behind those in `done`; `names` are the attributes among the latter. -/
def collect (names : List Text) (done : Entries) : List Member → Except Defect Entries
  | [] => .ok done
  | .attribute name value :: members => do
    let done ← addAttribute name value done
    collect (name :: names) done members
  | .block kind value :: members => do
    let done ← addBlock names kind value done
    collect names done members

def labelTexts (labels : List Expr) : Except Defect (List Text) := do
  .ok ((← values labels).zipWith (fun v e => bare ((dottedName? e).getD v.display)) labels)

mutual

def Item.member : Item → Except Defect Member
  | .attribute name value => do .ok (.attribute name (← value.value).wrap)
  | .block kind labels line endLine body => do
    let labels ← labelTexts labels
    let entries ← collect [] [] (← members body)
    let marked := setEntry endKey (.int endLine) (setEntry startKey (.int line) entries)
    .ok (.block kind (.object (underLabels labels marked)))

def members : List Item → Except Defect (List Member)
  | [] => .ok []
  | i :: is => do
    let m ← i.member
    .ok (m :: (← members is))

end

/-- A text without the pair of quotes that it may stand between. -/
def unpaired (label : Text) : Text :=
  if 2 ≤ label.length then (unquoted? label).getD label else label

mutual

/-- The addresses below a value that has `address`, down to where a line is noted. -/
def Value.lines (address : Text) : Value → Entries
  | .object entries =>
    match lookup startKey entries with
    | some line => [(address, line)]
    | none => entryLines address entries
  | _ => []

def entryLines (address : Text) : List (Text × Value) → Entries
  | [] => []
  | (label, value) :: rest => value.lines (address ++ '.' :: unpaired label) ++ entryLines address rest

end

/-- The addresses below the entries of a whole text; only lists can hold blocks. -/
def topLines : Entries → Entries
  | [] => []
  | (kind, .list blocks) :: rest => blocks.flatMap (Value.lines kind) ++ topLines rest
  | _ :: rest => topLines rest

/-- The first entry of every key. -/
def firsts : Entries → Entries
  | [] => []
  | (key, value) :: rest => (key, value) :: (firsts rest).filter (·.1 ≠ key)

/-- Why the strict reading refuses a text. -/
inductive Refusal
  | unreadable (place : Position)
  | defect (d : Defect)
  deriving DecidableEq, Repr

/-- The first noted line of every address. A line is a number unless the text has an entry of its own under the key
of a line: an entry of an object in a list, or a block whose label is that key. -/
def blockIndex (s : Text) : Except Refusal Entries :=
  let whole := Text.replaceAll ['\r', '\n'] ['\n'] s ++ ['\n']
  match parse whole with
  | .error rest => .error (.unreadable (Position.ofRest whole rest))
  | .ok items =>
    match members items >>= collect [] [] with
    | .error d => .error (.defect d)
    | .ok entries => .ok (firsts (topLines entries))

end JujuMigration.Strict
