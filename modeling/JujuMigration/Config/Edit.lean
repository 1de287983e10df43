import JujuMigration.Config.Basic
/-! Changes of single attributes. Each acts on the first attribute of a name and answers nothing if the body has
none; no change moves a node. -/

namespace JujuMigration

/-- Keeps the column of the equals sign of aligned attributes where the padding allows: a separator that
begins with more than one space gains or loses as many as the name changes by, but keeps one. -/
def realignSeparator (sep : Text) (oldLength newLength : Int) : Text :=
  let padding := (sep.takeWhile (· = ' ')).length
  if padding ≤ 1 then sep
  else List.replicate (max 1 (padding + oldLength - newLength)).toNat ' ' ++ sep.dropWhile (· = ' ')

namespace Body

/-- Changes the first attribute of that name. -/
def modifyFirst (name : Text) (change : Attribute → Attribute) : Body → Body
  | [] => []
  | .attribute a :: nodes =>
    if a.name = name then .attribute (change a) :: nodes else .attribute a :: modifyFirst name change nodes
  | node :: nodes => node :: modifyFirst name change nodes

def setExpression? (name expr : Text) (body : Body) : Option Body :=
  (attribute? body name).map fun _ => modifyFirst name ({ · with expr := expr }) body

/-- Removes the first node that equals the attribute of that name. -/
def removeAttribute? (name : Text) (body : Body) : Option Body :=
  (attribute? body name).map fun a => body.erase (.attribute a)

/-- Renames the first attribute called `old`, with the expression `expr` or the one it has. If the body has an
attribute called `new` already, that one takes the expression, and the first node that equals the attribute called
`old` is removed, so that no name comes to stand twice. -/
def renameAttribute? (old new : Text) (expr : Option Text) (body : Body) : Option Body :=
  (attribute? body old).map fun a =>
    let value := expr.getD a.expr
    if old = new then modifyFirst old ({ · with expr := value }) body
    else if has body new then (modifyFirst new ({ · with expr := value }) body).erase (.attribute a)
    else
      modifyFirst old
        (fun a => { a with
          name := new
          sep := realignSeparator a.sep old.length new.length
          expr := value })
        body

/-- Replaces the body of the block with that index among the blocks of a body. -/
def modifyBlock (index : Nat) (change : Body → Body) : Body → Body
  | [] => []
  | .block head inner closing :: nodes =>
    match index with
    | 0 => .block head (change inner) closing :: nodes
    | index + 1 => .block head inner closing :: modifyBlock index change nodes
  | node :: nodes => node :: modifyBlock index change nodes

/-- The body at the end of a path of block indices, the empty path leading to the body itself. -/
def inner? : List Nat → Body → Option Body
  | [], body => some body
  | index :: path, body => ((blocks body)[index]?).bind fun b => inner? path b.body

/-- Replaces the body at the end of a path. -/
def modifyInner : List Nat → (Body → Body) → Body → Body
  | [], change => change
  | index :: path, change => modifyBlock index (modifyInner path change)

end Body
end JujuMigration
