import JujuMigration.Config.Edit
import JujuMigration.Rules.VersionConstraint
import JujuMigration.Upgrade.Notes
/-! The upgrade of a single block of the top level. What a rule matches without doubt is rewritten, what needs
judgement is noted as a concern, and a rule whose conditions are not met does nothing: no block is refused. -/

namespace JujuMigration

/-- The word that makes a variable or a data source worth a look. -/
def modelHint : Text := "model".toList

namespace Body

/-- Renames a field that holds a reference to a model's name or a variable. A variable keeps its expression,
since it is taken to hold the right identifier already. -/
def renameField? (type name : Text) (rename : FieldRename) (body : Body) : Option (Body × Change) := do
  let a ← attribute? body rename.source
  match Reference.kind a.expr with
  | .modelName =>
    let expr ← Reference.upgraded? a.expr
    let body ← renameAttribute? rename.source rename.target (some expr) body
    some (body, .reference type name rename (Reference.referent a.expr))
  | .variable =>
    let body ← renameAttribute? rename.source rename.target none body
    some (body, .variable type name rename)
  | .other => none

/-- Deals with one retired field of a resource. -/
def retireField (type name : Text) (body : Body) (field : DeprecatedField) : Body × Notes :=
  if has body field.name then
    match field.fate with
    | .review replacement => (body, .ofConcern (.deprecatedField type name field.name replacement))
    | .remove =>
      ((removeAttribute? field.name body).getD body, .ofChange (.removedField type name field.name))
    | .rename replacement =>
      ((renameAttribute? field.name replacement none body).getD body,
        .ofChange (.renamedField type name field.name replacement))
  else (body, {})

/-- Deals with retired fields, one after the other. -/
def retireFields (type name : Text) : List DeprecatedField → Body → Body × Notes
  | [], body => (body, {})
  | field :: fields, body =>
    let (body, first) := retireField type name body field
    let (body, rest) := retireFields type name fields body
    (body, first ++ rest)

/-- A rewritten body with its note, or the body as it was. -/
def orUnchanged (body : Body) : Option (Body × Change) → Body × Notes
  | some (body, change) => (body, .ofChange change)
  | none => (body, {})

def upgradeResource (type name : Text) (body : Body) : Body × Notes :=
  let (body, renamed) := orUnchanged body ((resourceRename? type).bind (renameField? type name · body))
  let (body, retired) := retireFields type name (deprecatedFields type) body
  (body, renamed ++ retired)

/-- Whether a field refers to a model's name or to a variable. -/
def refersIn (field : Text) (body : Body) : Bool :=
  (attribute? body field).any fun a => Reference.kind a.expr ≠ .other

def upgradeDataSource (type name : Text) (body : Body) : Body × Notes :=
  match dataSourceRename? type with
  | none => (body, {})
  | some rename =>
    match renameField? type name rename body with
    | some (body, change) => (body, .ofChange change)
    | none =>
      if refersIn rename.source body = false ∧ Text.contains modelHint type = true then
        (body, .ofConcern (.dataSource type))
      else (body, {})

/-- Rewrites an output that gives out a model's name. -/
def rewriteOutput? (name : Text) (body : Body) : Option (Body × Change) := do
  let a ← attribute? body "value".toList
  if Reference.kind a.expr ≠ .modelName then none
  let expr ← Reference.upgraded? a.expr
  let body ← setExpression? "value".toList expr body
  some (body, .output name (Reference.referent a.expr))

/-- The text of a description, without blanks and quotes around it. -/
def plainDescription (expr : Text) : Text :=
  let trim := Text.trim CharClass.isBlank
  trim (Text.trim (· = '"') (trim expr))

/-- A description that speaks of a model, in whatever case. -/
def modelDescription? (body : Body) : Option Text :=
  (attribute? body "description".toList).bind fun a =>
    let text := plainDescription a.expr
    if Text.contains modelHint (text.map Char.toLower) then some text else none

def reviewVariable (name : Text) (body : Body) : Notes :=
  if Text.contains modelHint name then .ofConcern (.variable name (modelDescription? body)) else {}

/-- Changes the body of the first block of a kind. -/
def modifyFirstBlock (kind : Text) (change : Body → Body) (body : Body) : Body :=
  modifyBlock ((blocks body).findIdx (·.head.kind = kind)) change body

/-- Rewrites the version constraint of the provider, if it asks for a release 0.x. -/
def rewriteProvider? (body : Body) : Option (Body × Change) := do
  let providers ← block? body "required_providers".toList
  let a ← attribute? providers.body "juju".toList
  if !VersionConstraint.occursIn a.expr then none
  let inner ← setExpression? "juju".toList (VersionConstraint.replaceZero a.expr) providers.body
  some (modifyFirstBlock "required_providers".toList (fun _ => inner) body, .provider)

/-- Upgrades the body of a block with this head. -/
def upgrade (head : BlockHead) (body : Body) : Body × Notes :=
  match String.ofList head.kind, head.labels with
  | "resource", type :: name :: _ => upgradeResource type name body
  | "data", type :: name :: _ => upgradeDataSource type name body
  | "output", name :: _ => orUnchanged body (rewriteOutput? name body)
  | "variable", name :: _ => (body, reviewVariable name body)
  | "terraform", _ => orUnchanged body (rewriteProvider? body)
  | _, _ => (body, {})

end Body

/-- The upgraded block and what was noted on the way. -/
def Block.upgrade (b : Block) : Block × Notes :=
  let (body, notes) := Body.upgrade b.head b.body
  ({ b with body := body }, notes)

end JujuMigration
