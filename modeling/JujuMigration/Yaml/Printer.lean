import JujuMigration.Yaml.Basic
import JujuMigration.Yaml.Scalar
/-! Printing of YAML in block style: an entry of a map on a line of its own, with what is nested two columns
further in, and an item of a list behind a dash, four columns a level. A key that is no simple one stands behind
a question mark, and its value behind a colon below. -/

namespace JujuMigration.Yaml

/-- Puts a text in front of a line. -/
def Line.behind (head : Text) (line : Line) : Line := { line with text := head ++ line.text }

/-- A line further in; an empty one, which stands inside quotes, stays as it is. -/
def Line.indent (columns : Nat) (line : Line) : Line :=
  if line.text.isEmpty then line else line.behind (List.replicate columns ' ')

/-- Puts a text in front of the first line, and indents the others; without lines the text stands alone. -/
def hang (head : Text) (columns : Nat) : List Line → List Line
  | [] => [⟨head, '\n'⟩]
  | first :: rest => first.behind head :: rest.map (Line.indent columns)

/-- The lines of an item of a list, made from the lines of its data. -/
def itemLines (inner : List Line) : List Line := hang [' ', ' ', '-', ' '] 4 inner

/-- The lines of an entry of a map, made from the lines of its data. Behind a simple key a list stands no further
in than the key, since its dashes do. -/
def entryLines (key : Text) (y : Yaml) (inner : List Line) : List Line :=
  let colon := if inner.isEmpty then [':'] else [':', ' ']
  if isSimpleKey key then
    let head := (scalar key).flatMap Line.text ++ [':']
    match y with
    | .list (_ :: _) => ⟨head, '\n'⟩ :: inner
    | .map (_ :: _) => ⟨head, '\n'⟩ :: inner.map (Line.indent 2)
    | _ => hang ((scalar key).flatMap Line.text ++ colon) 2 inner
  else hang ['?', ' '] 2 (scalar key) ++ hang colon 2 inner

mutual

/-- The lines of data: none for null, and as a rule one for a scalar and for what is empty. -/
def lines : Yaml → List Line
  | .null => []
  | .bool b => [⟨if b then "true".toList else "false".toList, '\n'⟩]
  | .int n => [⟨Text.ofInt n, '\n'⟩]
  | .number x => [⟨x.textWith ".inf".toList, '\n'⟩]
  | .text t => scalar t
  | .list [] => [⟨['[', ']'], '\n'⟩]
  | .list items => listLines items
  | .map [] => [⟨['\x7b', '\x7d'], '\n'⟩]
  | .map entries => mapLines entries

def listLines : List Yaml → List Line
  | [] => []
  | y :: ys => itemLines (lines y) ++ listLines ys

def mapLines : List (Text × Yaml) → List Line
  | [] => []
  | (key, y) :: es => entryLines key y (lines y) ++ mapLines es

end

/-- A document: a comment and the entries of a map. -/
def document (comment : Text) (entries : List (Text × Yaml)) : Text :=
  (⟨'#' :: ' ' :: comment, '\n'⟩ :: mapLines entries).flatMap fun line => line.text ++ [line.ending]

example : (lines (.map [(['a'], .list [.int 1, .list [.int 2, .null], .map [(['b'], .text [])]])])).map Line.text =
    ["a:", "  - 1", "  -   - 2", "      - ", "  - b: ''"].map String.toList := by decide +kernel
example : (lines (.map [(['a', '\n'], .list [.int 1, .int 2])])).map Line.text =
    ["? \"a\\n\"", ":   - 1", "    - 2"].map String.toList := by decide +kernel

end JujuMigration.Yaml
