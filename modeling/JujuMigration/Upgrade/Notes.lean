import JujuMigration.Rules.Reference
import JujuMigration.Rules.Tables
import JujuMigration.Strict.Value
/-! What an upgrade notes down: the changes it has made and the concerns that need a human. A note is data;
its words are made only where it is shown. -/

namespace JujuMigration

/-- One change that has been made. -/
inductive Change
  /-- A field that held a reference to a model's name. -/
  | reference (type name : Text) (rename : FieldRename) (referent : Referent)
  /-- A field that holds a variable. -/
  | variable (type name : Text) (rename : FieldRename)
  | removedField (type name field : Text)
  | renamedField (type name field replacement : Text)
  | output (name : Text) (referent : Referent)
  /-- The required version of the provider. -/
  | provider
  deriving DecidableEq, Repr

/-- Something that needs a human's judgement. -/
inductive Concern
  | deprecatedField (type name field replacement : Text)
  | dataSource (type : Text)
  /-- A variable whose name speaks of a model; so may its description. -/
  | variable (name : Text) (description : Option Text)
  deriving DecidableEq, Repr

def dotted (type name : Text) : String := String.ofList (type ++ '.' :: name)

namespace Change

open String (ofList)

/-- The address of what has been changed. -/
def address : Change → Text
  | .reference type name .. | .variable type name _ | .removedField type name _ | .renamedField type name .. =>
    type ++ '.' :: name
  | .output name _ => "output.".toList ++ name
  | .provider => "terraform.required_providers.juju".toList

def message : Change → String
  | .reference type name r referent =>
    if r.source = r.target then
      s!"Upgraded {dotted type name}: {ofList r.source} reference .name -> .uuid ({referent.description} reference)"
    else
      s!"Upgraded {dotted type name}: {ofList r.source} -> {ofList r.target} ({referent.description} reference)"
  | .variable type name r =>
    if r.source = r.target then
      s!"Upgraded {dotted type name}: {ofList r.source} with variable reference (field name unchanged)"
    else
      s!"Upgraded {dotted type name}: {ofList r.source} -> {ofList r.target} (variable reference)"
  | .removedField type name field =>
    s!"Removed deprecated '{ofList field}' field from {dotted type name} (field was unused)"
  | .renamedField type name field replacement =>
    s!"Upgraded {dotted type name}: '{ofList field}' -> '{ofList replacement}'"
  | .output name referent =>
    s!"Upgraded output.{ofList name}: .name -> .uuid ({referent.description} reference)"
  | .provider => "Upgraded terraform.required_providers.juju: version 0.x -> ~> 1.0"

end Change

namespace Concern

open String (ofList)

def message : Concern → String
  | .deprecatedField type name field replacement =>
    s!"{dotted type name} uses deprecated '{ofList field}' field - use '{ofList replacement}' instead. " ++
      "See documentation for migration guidance."
  | .dataSource type =>
    s!"Data source '{ofList type}' may need review - check if it should use model UUID instead of name"
  | .variable name _ =>
    s!"Variable '{ofList name}' may need review - check if it should use model UUID instead of name"

def description : Concern → Option Text
  | .variable _ description => description
  | _ => none

end Concern

/-- Changes and concerns, each in the order in which they arose, and the flag that noting a change sets. -/
structure Notes where
  wasUpgraded : Bool := false
  changes : List Change := []
  concerns : List Concern := []
  deriving DecidableEq, Repr

namespace Notes

def ofChange (c : Change) : Notes := { wasUpgraded := true, changes := [c] }

def ofConcern (c : Concern) : Notes := { concerns := [c] }

def append (a b : Notes) : Notes :=
  ⟨a.wasUpgraded || b.wasUpgraded, a.changes ++ b.changes, a.concerns ++ b.concerns⟩

instance : Append Notes := ⟨append⟩

end Notes

/-- A concern with the place of the block that it is about. The line is a number unless the file has an entry of
its own where the line is noted. -/
structure Advice where
  file : Text
  line : Strict.Value
  concern : Concern
  deriving Repr

/-- The beginning of the line. -/
def Advice.location (a : Advice) : String := s!"{String.ofList a.file}:{String.ofList a.line.display}:1"

end JujuMigration
