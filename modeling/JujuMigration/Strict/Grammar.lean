import JujuMigration.Text.Basic
/-! What the strict grammar reads: expressions and items. Literals keep their text; blanks, line ends and
comments are gone. -/

namespace JujuMigration.Strict

/-- A part of a quoted text: characters as they stand, or a hole. -/
inductive Part (ε : Type)
  | chars (t : Text)
  | hole (e : ε)
  deriving Repr

inductive Expr
  | name (t : Text)
  /-- Digits, with a minus sign in front if there is one. -/
  | integer (t : Text)
  | decimal (t : Text)
  | template (parts : List (Part Expr))
  | heredoc (trimmed : Bool) (t : Text)
  | group (e : Expr)
  | tuple (items : List Expr)
  | object (entries : List (Expr × Expr))
  /-- A call; the name of a provider's function has three parts. -/
  | call (name : List Text) (arguments : List Expr)
  | attributeOf (e : Expr) (name : Text)
  | digitOf (e : Expr) (digits : Text)
  | indexOf (e : Expr) (index : Expr)
  | splat (e : Expr)
  | dotSplat (e : Expr)
  | unary (operator : Text) (e : Expr)
  | binary (left : Expr) (operator : Text) (right : Expr)
  | conditional (condition yes no : Expr)
  | forTuple (key : Text) (value : Option Text) (source item : Expr) (guard : Option Expr)
  | forObject (key : Text) (value : Option Text) (source itemKey item : Expr) (grouped : Bool)
      (guard : Option Expr)
  deriving Repr

inductive Item
  | attribute (name : Text) (value : Expr)
  /-- A block: its labels, the line of its first word and the line of its closing brace. -/
  | block (kind : Text) (labels : List Expr) (line endLine : Nat) (body : List Item)
  deriving Repr

end JujuMigration.Strict
