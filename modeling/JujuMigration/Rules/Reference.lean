import JujuMigration.Text.Basic
import JujuMigration.Text.WordClass
/-! What an expression refers to, decided by its text. A mention of a model together with a final `.name` makes
a reference to a model's name, even inside a longer expression; but only a plain traversal is rewritten, since
in any other expression the final `.name` need not belong to the model. -/

namespace JujuMigration

/-- What kind of value an expression holds. -/
inductive ExpressionKind
  | modelName
  | variable
  | other
  deriving DecidableEq, Repr

/-- Where a referenced model is declared. -/
inductive Referent
  | dataSource
  | resource
  deriving DecidableEq, Repr

def Referent.description : Referent → String
  | .dataSource => "data source"
  | .resource => "resource"

namespace Reference

def modelMention : Text := "juju_model.".toList
def dataModelMention : Text := "data.juju_model.".toList
def nameEnding : Text := ".name".toList
def uuidEnding : Text := ".uuid".toList
def variableStart : Text := "var.".toList

def isModelName (expr : Text) : Bool := Text.contains modelMention expr && nameEnding.isSuffixOf expr

def isVariable (expr : Text) : Bool := variableStart.isPrefixOf (expr.dropWhile CharClass.isBlank)

def kind (expr : Text) : ExpressionKind :=
  if isModelName expr then .modelName else if isVariable expr then .variable else .other

def referent (expr : Text) : Referent :=
  if Text.contains dataModelMention expr then .dataSource else .resource

/-- How far a traversal has come: a name, or a name with `.name`, `.0` and `[index]` behind it. -/
inductive Stage
  | start
  | name
  | dot
  | digits
  | bracket
  | index
  | closed
  deriving DecidableEq, Repr

def opensName (c : Char) : Bool := c.isAlpha || c == '_'

/-- The stage behind a segment that `c` does not continue. -/
def Stage.next? (c : Char) : Option Stage :=
  if c = '.' then some .dot else if c = '[' then some .bracket else none

def isIndexChar (c : Char) : Bool := c != '[' && c != ']' && c != '\n'

def Stage.step (stage : Stage) (c : Char) : Option Stage :=
  match stage with
  | .start => if opensName c then some .name else none
  | .name => if CharClass.isWord c || c == '-' then some .name else next? c
  | .dot => if opensName c then some .name else if CharClass.isDecimal c then some .digits else none
  | .digits => if CharClass.isDecimal c then some .digits else next? c
  | .bracket => if isIndexChar c then some .index else none
  | .index => if c = ']' then some .closed else if isIndexChar c then some .index else none
  | .closed => next? c

def Stage.isComplete : Stage → Bool
  | .name | .digits | .closed => true
  | .start | .dot | .bracket | .index => false

/-- Whether the text is a name followed by attributes and indexes, and nothing else. -/
def isTraversal (s : Text) : Bool := (s.foldlM Stage.step Stage.start).any Stage.isComplete

/-- The traversal with `.uuid` in place of its final `.name`; nothing if the text is no such traversal. -/
def upgraded? (expr : Text) : Option Text :=
  let text := Text.trim CharClass.isBlank expr
  if nameEnding.isSuffixOf text && isTraversal text then
    some (text.take (text.length - nameEnding.length) ++ uuidEnding)
  else none

example : upgraded? " juju_model.m[0].name".toList = some "juju_model.m[0].uuid".toList := by decide +kernel
example : upgraded? "f(juju_model.m.name)".toList = none := by decide +kernel
example : kind "f(juju_model.m.x, y.name".toList = .modelName := by decide +kernel

end Reference
end JujuMigration
