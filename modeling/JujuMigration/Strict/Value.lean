import JujuMigration.Number.Binary64
import JujuMigration.Text.Quoted
/-! The value of an expression of the strict grammar: what a literal says, or the text of what only a run of
the configuration could compute. -/

namespace JujuMigration.Strict

inductive Value
  | null
  | bool (b : Bool)
  | int (n : Int)
  | number (x : Binary64)
  | text (t : Text)
  | list (items : List Value)
  /-- No key stands twice. -/
  | object (entries : List (Text × Value))
  deriving Inhabited, Repr

/-- Entries without repetition: an entry whose key is there already takes the place of the old one. -/
def setEntry (key : Text) (value : Value) : List (Text × Value) → List (Text × Value)
  | [] => [(key, value)]
  | (k, v) :: rest => if k = key then (key, value) :: rest else (k, v) :: setEntry key value rest

mutual

/-- A value as it stands inside a list or an object. -/
def Value.nested : Value → Text
  | .null => "None".toList
  | .bool b => (if b then "True" else "False").toList
  | .int n => Text.ofInt n
  | .number x => x.toText
  | .text t => Text.quoted t
  | .list items => '[' :: (Text.join [',', ' '] (Value.nestedItems items) ++ [']'])
  | .object entries => '{' :: (Text.join [',', ' '] (Value.nestedEntries entries) ++ ['}'])

def Value.nestedItems : List Value → List Text
  | [] => []
  | v :: vs => v.nested :: Value.nestedItems vs

def Value.nestedEntries : List (Text × Value) → List Text
  | [] => []
  | (k, v) :: es => (Text.quoted k ++ [':', ' '] ++ v.nested) :: Value.nestedEntries es

end

/-- A value as it stands in a text around it: texts as they are. -/
def Value.display : Value → Text
  | .text t => t
  | v => v.nested

/-- A text in double quotes, with escapes for whatever is no printable character of ASCII. -/
def doubleQuoted (t : Text) : Text :=
  let unit (n : Nat) : Text := '\\' :: 'u' :: Text.hexadecimal 4 n
  '"' :: (t.flatMap (fun c =>
    match shortEscapes.lookup c.toNat with
    | some e => ['\\', e]
    | none =>
      if 0x20 ≤ c.toNat ∧ c.toNat < 0x7f then [c]
      else if c.toNat < 0x10000 then unit c.toNat
      else unit (0xd800 + (c.toNat - 0x10000) / 0x400) ++ unit (0xdc00 + (c.toNat - 0x10000) % 0x400)) ++ ['"'])
where
  shortEscapes : List (Nat × Char) :=
    [(8, 'b'), (9, 't'), (10, 'n'), (12, 'f'), (13, 'r'), (34, '"'), (92, '\\')]

mutual

/-- A value as data on one line. -/
def Value.data : Value → Text
  | .null => "null".toList
  | .bool b => (if b then "true" else "false").toList
  | .int n => Text.ofInt n
  | .number x => x.textWith "Infinity".toList
  | .text t => doubleQuoted t
  | .list items => '[' :: (Text.join [',', ' '] (Value.dataItems items) ++ [']'])
  | .object entries => '{' :: (Text.join [',', ' '] (Value.dataEntries entries) ++ ['}'])

def Value.dataItems : List Value → List Text
  | [] => []
  | v :: vs => v.data :: Value.dataItems vs

def Value.dataEntries : List (Text × Value) → List Text
  | [] => []
  | (k, v) :: es => (doubleQuoted k ++ [':', ' '] ++ v.data) :: Value.dataEntries es

end

/-- Quotes lose their escapes from the first opening of a hole on. -/
def bareFromHole : Text → Text
  | [] => []
  | c :: r =>
    if ['$', '{'].isPrefixOf (c :: r) then Text.replaceAll ['\\', '"'] ['"'] (c :: r) else c :: bareFromHole r

mutual

/-- A value as a part of an expression. -/
def Value.inline : Value → Text
  | .bool b => (if b then "true" else "false").toList
  | .text t => t
  | .list items => '[' :: (Text.join [',', ' '] (Value.inlineItems items) ++ [']'])
  | .object entries => bareFromHole (Value.object entries).data
  | v => v.nested

def Value.inlineItems : List Value → List Text
  | [] => []
  | v :: vs => v.inline :: Value.inlineItems vs

end

/-- Replaces the escapes of a quoted text, one kind after the other. -/
def unescape (t : Text) : Text :=
  [('n', '\n'), ('r', '\r'), ('t', '\t'), ('"', '"'), ('\\', '\\')].foldl
    (fun t (e, c) => Text.replaceAll ['\\', e] [c] t) t

/-- The inside of a text in double quotes. -/
def unquoted? (t : Text) : Option Text :=
  if t.head? = some '"' ∧ t.getLast? = some '"' then some (t.drop 1).dropLast else none

/-- A text without its double quotes and escapes; a text without quotes as it is. -/
def bare (t : Text) : Text := ((unquoted? t).map unescape).getD t

/-- Whether a text stands between `${` and the closing brace. -/
def isHole (t : Text) : Bool := ['$', '{'].isPrefixOf t && t.getLast? = some '}'

def typeWords : List Text := ["bool", "number", "string"].map String.toList

/-- A text as a value of its own: what is no literal is put in a hole. -/
def Value.wrap : Value → Value
  | .text t =>
    if isHole t || typeWords.contains t then .text t
    else .text (((unquoted? t).map unescape).getD ('$' :: '{' :: (t ++ ['}'])))
  | v => v

/-- The inside of a hole. -/
def unhole (t : Text) : Text := if isHole t then (t.drop 2).dropLast else t

example : (Value.number (.ofLiteral "1.50".toList)).display = "1.5".toList := by decide +kernel
example : (Value.list [.text ['a'], .null]).display = "['a', None]".toList := by decide +kernel
example : (Value.object [(['a'], .list [.text ['b'], .null])]).inline = "\x7b\"a\": [\"b\", null]\x7d".toList := by
  decide +kernel

end JujuMigration.Strict
