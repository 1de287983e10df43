import JujuMigration.Text.Basic
/-! The fields that the upgrade renames or retires, by the declared type of a resource or of a data source. A
type that is not listed here is left alone. -/

namespace JujuMigration

structure FieldRename where
  source : Text
  target : Text
  deriving DecidableEq, Repr

def FieldRename.modelToUuid : FieldRename := ⟨"model".toList, "model_uuid".toList⟩
def FieldRename.nameToUuid : FieldRename := ⟨"name".toList, "uuid".toList⟩

/-- What becomes of a field that is no longer supported. -/
inductive Retirement
  /-- Its meaning has changed, and only an operator can say how to migrate it to `replacement`. -/
  | review (replacement : Text)
  | remove
  /-- The same value goes by another name. -/
  | rename (replacement : Text)
  deriving DecidableEq, Repr

structure DeprecatedField where
  name : Text
  fate : Retirement
  deriving DecidableEq, Repr

inductive ResourceType
  | application
  | offer
  | sshKey
  | accessModel
  | accessSecret
  | integration
  | secret
  | machine
  deriving DecidableEq, Repr

namespace ResourceType

def all : List ResourceType :=
  [application, offer, sshKey, accessModel, accessSecret, integration, secret, machine]

def name : ResourceType → Text
  | application => "juju_application".toList
  | offer => "juju_offer".toList
  | sshKey => "juju_ssh_key".toList
  | accessModel => "juju_access_model".toList
  | accessSecret => "juju_access_secret".toList
  | integration => "juju_integration".toList
  | secret => "juju_secret".toList
  | machine => "juju_machine".toList

def ofName? (t : Text) : Option ResourceType := all.find? (·.name = t)

def rename : ResourceType → FieldRename
  | _ => .modelToUuid

def seriesToBase : DeprecatedField := ⟨"series".toList, .rename "base".toList⟩

/-- The retired fields, in the order in which they are handled. -/
def deprecated : ResourceType → List DeprecatedField
  | application =>
    [⟨"placement".toList, .review "machines".toList⟩, ⟨"principal".toList, .remove⟩, seriesToBase]
  | machine => [seriesToBase]
  | _ => []

theorem mem_all (t : ResourceType) : t ∈ all := by cases t <;> decide

theorem ofName?_name (t : ResourceType) : ofName? t.name = some t := by cases t <;> decide +kernel

end ResourceType

inductive DataSourceType
  | model
  | application
  | secret
  | machine
  deriving DecidableEq, Repr

namespace DataSourceType

def all : List DataSourceType := [model, application, secret, machine]

def name : DataSourceType → Text
  | model => "juju_model".toList
  | application => "juju_application".toList
  | secret => "juju_secret".toList
  | machine => "juju_machine".toList

def ofName? (t : Text) : Option DataSourceType := all.find? (·.name = t)

def rename : DataSourceType → FieldRename
  | model => .nameToUuid
  | application | secret | machine => .modelToUuid

theorem mem_all (t : DataSourceType) : t ∈ all := by cases t <;> decide

theorem ofName?_name (t : DataSourceType) : ofName? t.name = some t := by cases t <;> decide +kernel

end DataSourceType

/-- The rename for resources of the declared type. -/
def resourceRename? (type : Text) : Option FieldRename := (ResourceType.ofName? type).map ResourceType.rename

/-- The rename for data sources of the declared type. -/
def dataSourceRename? (type : Text) : Option FieldRename := (DataSourceType.ofName? type).map DataSourceType.rename

/-- The retired fields of resources of the declared type. -/
def deprecatedFields (type : Text) : List DeprecatedField :=
  ((ResourceType.ofName? type).map ResourceType.deprecated).getD []

end JujuMigration
