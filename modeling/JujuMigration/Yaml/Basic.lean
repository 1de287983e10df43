import JujuMigration.Number.Binary64
/-! Data to be written as YAML. -/

namespace JujuMigration

inductive Yaml
  | null
  | bool (b : Bool)
  | int (n : Int)
  | number (x : Binary64)
  | text (t : Text)
  | list (items : List Yaml)
  | map (entries : List (Text × Yaml))
  deriving Inhabited, Repr

namespace Yaml

mutual

/-- The data without the entries under some keys, at every depth. -/
def without (keys : List Text) : Yaml → Yaml
  | .list items => .list (withoutItems keys items)
  | .map entries => .map (withoutEntries keys entries)
  | y => y

def withoutItems (keys : List Text) : List Yaml → List Yaml
  | [] => []
  | y :: ys => y.without keys :: withoutItems keys ys

def withoutEntries (keys : List Text) : List (Text × Yaml) → List (Text × Yaml)
  | [] => []
  | (k, y) :: es =>
    if keys.contains k then withoutEntries keys es else (k, y.without keys) :: withoutEntries keys es

end

end Yaml
end JujuMigration
