import JujuMigration.Text.Basic
/-! A configuration as a tree that keeps the text it was read from. A body is a list of nodes in source order;
every node holds its text in pieces, so that a body renders back to what it was read from, and a change of
one piece leaves all others as they were. -/

namespace JujuMigration

/-- One line `name = expr`, with the text around its parts. -/
structure Attribute where
  /-- Indentation in front of the name. -/
  lead : Text
  name : Text
  /-- Everything between the name and the expression. -/
  sep : Text
  expr : Text
  /-- What follows the expression up to and with the line end. -/
  tail : Text
  /-- Line of the name in the source. -/
  line : Nat
  deriving DecidableEq, Repr

/-- What stands in front of a block's body, and the line it stands on. -/
structure BlockHead where
  lead : Text
  kind : Text
  labels : List Text
  /-- The text from the kind to the opening brace. -/
  header : Text
  line : Nat
  deriving DecidableEq, Repr

inductive Node
  /-- Text between items: blank lines and comments. -/
  | gap (text : Text)
  | attribute (a : Attribute)
  /-- `closing` is the closing brace and the rest of its line. -/
  | block (head : BlockHead) (body : List Node) (closing : Text)
  deriving Repr

abbrev Body := List Node

mutual

/-- Whether two nodes are equal, piece by piece; nodes of different kinds never are. -/
def Node.decEq : (m n : Node) → Decidable (m = n)
  | .gap t, .gap u => decidable_of_iff (t = u) (by simp)
  | .attribute a, .attribute b => decidable_of_iff (a = b) (by simp)
  | .block head body closing, .block head' body' closing' =>
    have := Body.decEq body body'
    decidable_of_iff (head = head' ∧ body = body' ∧ closing = closing') (by simp)
  | .gap _, .attribute _ | .gap _, .block .. | .attribute _, .gap _ | .attribute _, .block .. | .block .., .gap _
  | .block .., .attribute _ => isFalse nofun

def Body.decEq : (a b : List Node) → Decidable (a = b)
  | [], [] => isTrue rfl
  | m :: ms, n :: ns =>
    have := Node.decEq m n
    have := Body.decEq ms ns
    decidable_of_iff (m = n ∧ ms = ns) (by simp)
  | [], _ :: _ | _ :: _, [] => isFalse nofun

end

instance : DecidableEq Node := Node.decEq

/-- A block seen from outside its body. -/
structure Block where
  head : BlockHead
  body : Body
  closing : Text
  deriving Repr

def Attribute.render (a : Attribute) : Text := a.lead ++ a.name ++ a.sep ++ a.expr ++ a.tail

mutual

def Node.render : Node → Text
  | .gap text => text
  | .attribute a => a.render
  | .block head body closing => head.lead ++ head.header ++ Body.render body ++ closing

def Body.render : List Node → Text
  | [] => []
  | node :: nodes => node.render ++ Body.render nodes

end

@[simp] theorem Body.render_nil : Body.render [] = [] := by simp [Body.render]

@[simp] theorem Body.render_cons (n : Node) (ns : Body) : Body.render (n :: ns) = n.render ++ Body.render ns := by
  simp [Body.render]

@[simp] theorem Body.render_append (a b : Body) : Body.render (a ++ b) = Body.render a ++ Body.render b := by
  induction a with
  | nil => simp
  | cons n ns ih => simp [ih]

namespace Block

def toNode (b : Block) : Node := .block b.head b.body b.closing

def render (b : Block) : Text := b.toNode.render

def labels (b : Block) : List Text := b.head.labels

/-- The kind and the labels, joined by dots. -/
def address (b : Block) : Text := Text.join ['.'] (b.head.kind :: b.head.labels)

end Block

namespace Body

def attributes (body : Body) : List Attribute :=
  body.filterMap fun
    | .attribute a => some a
    | _ => none

def blocks (body : Body) : List Block :=
  body.filterMap fun
    | .block head inner closing => some ⟨head, inner, closing⟩
    | _ => none

theorem mem_attributes {body : Body} {a : Attribute} : a ∈ attributes body ↔ .attribute a ∈ body := by
  rw [attributes, List.mem_filterMap]
  constructor
  · rintro ⟨_ | b | _, hn, ha⟩ <;> cases ha
    exact hn
  · exact fun h => ⟨_, h, rfl⟩

theorem mem_blocks {body : Body} {b : Block} : b ∈ blocks body ↔ b.toNode ∈ body := by
  rw [blocks, List.mem_filterMap]
  constructor
  · rintro ⟨_ | _ | _, hn, hb⟩ <;> cases hb
    exact hn
  · exact fun h => ⟨_, h, rfl⟩

/-- The first attribute of that name. -/
def attribute? (body : Body) (name : Text) : Option Attribute := (attributes body).find? (·.name = name)

/-- The first block of that kind. -/
def block? (body : Body) (kind : Text) : Option Block := (blocks body).find? (·.head.kind = kind)

def has (body : Body) (name : Text) : Bool := (attribute? body name).isSome

end Body
end JujuMigration
