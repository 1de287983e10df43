import JujuMigration.Proofs.Config.Edited
import JujuMigration.Proofs.Config.Reading
/-! Trees with other texts and other line numbers. A lookup finds the same nodes, and a change of one node changes the
same one, as long as the names that are looked for can be told as before. -/

namespace JujuMigration

/-- What the texts and the line numbers of a tree become. -/
structure Recasting where
  text : Text → Text
  line : Nat → Nat

/-- The word is told from other texts as before. -/
def Recasting.Keeps (R : Recasting) (word : Text) : Prop := ∀ t, R.text t = word ↔ t = word

theorem Recasting.Keeps.text_eq {R : Recasting} {word : Text} (h : R.Keeps word) : R.text word = word := (h word).2 rfl

variable (R : Recasting)

def Attribute.recast (a : Attribute) : Attribute :=
  ⟨R.text a.lead, R.text a.name, R.text a.sep, R.text a.expr, R.text a.tail, R.line a.line⟩

def BlockHead.recast (head : BlockHead) : BlockHead :=
  ⟨R.text head.lead, R.text head.kind, head.labels.map R.text, R.text head.header, R.line head.line⟩

mutual

def Node.recast : Node → Node
  | .gap text => .gap (R.text text)
  | .attribute a => .attribute (a.recast R)
  | .block head body closing => .block (head.recast R) (Body.recast body) (R.text closing)

def Body.recast : Body → Body
  | [] => []
  | node :: nodes => node.recast :: Body.recast nodes

end

def Block.recast (b : Block) : Block := ⟨b.head.recast R, b.body.recast R, R.text b.closing⟩

namespace Body

@[simp] theorem recast_nil : recast R [] = [] := by rw [recast]

@[simp] theorem recast_cons (n : Node) (ns : Body) : recast R (n :: ns) = n.recast R :: recast R ns := by rw [recast]

theorem recast_eq_map (body : Body) : body.recast R = body.map (·.recast R) := by
  induction body with
  | nil => rw [recast_nil]; rfl
  | cons n ns ih => rw [recast_cons, ih]; rfl

end Body

namespace Node

@[simp] theorem recast_gap (t : Text) : (Node.gap t).recast R = .gap (R.text t) := by rw [recast]

@[simp] theorem recast_attribute (a : Attribute) :
    (Node.attribute a).recast R = .attribute (a.recast R) := by
  rw [recast]

@[simp] theorem recast_block (head : BlockHead) (body : Body) (closing : Text) :
    (Node.block head body closing).recast R = .block (head.recast R) (body.recast R) (R.text closing) := by rw [recast]

end Node

namespace Body

variable {name : Text}

theorem attributes_recast (body : Body) : attributes (body.recast R) = (attributes body).map (·.recast R) := by
  induction body with
  | nil => rw [recast_nil]; rfl
  | cons n ns ih =>
      rw [recast_cons]
      rcases n with t | a | ⟨head, inner, closing⟩
      · rw [Node.recast_gap]
        exact ih
      · rw [Node.recast_attribute]
        exact congrArg (a.recast R :: ·) ih
      · rw [Node.recast_block]
        exact ih

theorem blocks_recast (body : Body) : blocks (body.recast R) = (blocks body).map (·.recast R) := by
  induction body with
  | nil => rw [recast_nil]; rfl
  | cons n ns ih =>
      rw [recast_cons]
      rcases n with t | a | ⟨head, inner, closing⟩
      · rw [Node.recast_gap]
        exact ih
      · rw [Node.recast_attribute]
        exact ih
      · rw [Node.recast_block]
        exact congrArg (_ :: ·) ih

variable {R}

theorem attribute?_recast (hn : R.Keeps name) (body : Body) :
    attribute? (body.recast R) name = (attribute? body name).map (·.recast R) := by
  have hname : ((fun a : Attribute => decide (a.name = name)) ∘ Attribute.recast R) = fun a => decide (a.name = name) :=
    funext fun a => decide_eq_decide.2 (hn a.name)
  rw [attribute?, attributes_recast, List.find?_map, hname]
  rfl

theorem has_recast (hn : R.Keeps name) (body : Body) : has (body.recast R) name = has body name := by
  rw [has, has, attribute?_recast hn, Option.isSome_map]

theorem isKind_recast {kind : Text} (hk : R.Keeps kind) :
    ((fun b : Block => decide (b.head.kind = kind)) ∘ Block.recast R) = fun b => decide (b.head.kind = kind) :=
  funext fun b => decide_eq_decide.2 (hk b.head.kind)

theorem block?_recast {kind : Text} (hk : R.Keeps kind) (body : Body) :
    block? (body.recast R) kind = (block? body kind).map (·.recast R) := by
  rw [block?, blocks_recast, List.find?_map, isKind_recast hk]
  rfl

theorem isNamed_recast (hn : R.Keeps name) (n : Node) : (n.recast R).isNamed name = n.isNamed name := by
  rcases n with t | a | ⟨head, inner, closing⟩
  · rw [Node.recast_gap]
    rfl
  · rw [Node.recast_attribute]
    exact decide_eq_decide.2 (hn a.name)
  · rw [Node.recast_block]
    rfl

theorem modifyFirst_recast (hn : R.Keeps name) {change change' : Attribute → Attribute}
    (hc : ∀ a, change' (a.recast R) = (change a).recast R) (body : Body) :
    modifyFirst name change' (body.recast R) = (modifyFirst name change body).recast R := by
  induction body with
  | nil => rw [recast_nil, modifyFirst, modifyFirst, recast_nil]
  | cons n ns ih =>
      have hnamed := isNamed_recast hn n
      rw [recast_cons]
      by_cases h : n.isNamed name = true
      · obtain ⟨a, rfl, ha⟩ := eq_attribute_of_isNamed h
        have ha' : (a.recast R).name = name := (hn a.name).2 ha
        rw [Node.recast_attribute, modifyFirst, modifyFirst, if_pos ha, if_pos ha', hc, recast_cons,
          Node.recast_attribute]
      · have h' := Bool.eq_false_iff.2 h
        rw [modifyFirst_cons_of_neg h', modifyFirst_cons_of_neg (hnamed.trans h'), ih, recast_cons]

theorem dropFirst_recast (hn : R.Keeps name) (body : Body) :
    dropFirst name (body.recast R) = (dropFirst name body).recast R := by
  unfold dropFirst
  induction body with
  | nil => rw [recast_nil, List.eraseP_nil, recast_nil]
  | cons n ns ih =>
      have hnamed := isNamed_recast hn n
      rw [recast_cons]
      by_cases h : n.isNamed name = true
      · rw [List.eraseP_cons_of_pos h, List.eraseP_cons_of_pos (hnamed.trans h)]
      · rw [List.eraseP_cons_of_neg h, List.eraseP_cons_of_neg (by rwa [hnamed]), ih, recast_cons]

theorem setExpression?_recast (hn : R.Keeps name) (expr : Text) (body : Body) :
    setExpression? name (R.text expr) (body.recast R) = (setExpression? name expr body).map (·.recast R) := by
  unfold setExpression?
  rw [attribute?_recast hn]
  cases attribute? body name with
  | none => rfl
  | some a =>
      apply congrArg some
      apply modifyFirst_recast hn
      intro b
      rfl

theorem removeAttribute?_recast (hn : R.Keeps name) (body : Body) :
    removeAttribute? name (body.recast R) = (removeAttribute? name body).map (·.recast R) := by
  rw [removeAttribute?_eq, removeAttribute?_eq, attribute?_recast hn]
  cases attribute? body name with
  | none => rfl
  | some a => exact congrArg some (dropFirst_recast hn body)

theorem renameAttribute?_recast {old new : Text} (ho : R.Keeps old) (hn : R.Keeps new)
    (hsep : ∀ sep m n, realignSeparator (R.text sep) m n = R.text (realignSeparator sep m n))
    (expr : Option Text) (body : Body) :
    renameAttribute? old new (expr.map R.text) (body.recast R) =
      (renameAttribute? old new expr body).map (·.recast R) := by
  rw [renameAttribute?_eq, renameAttribute?_eq, attribute?_recast ho]
  cases attribute? body old with
  | none => rfl
  | some a =>
      have hexpr : (expr.map R.text).getD (a.recast R).expr = R.text (expr.getD a.expr) := by cases expr <;> rfl
      apply congrArg some
      simp only [has_recast hn, hexpr]
      split
      · apply modifyFirst_recast ho
        intro b
        rfl
      · split
        · rw [modifyFirst_recast hn, dropFirst_recast ho]
          intro b
          rfl
        · apply modifyFirst_recast ho
          intro b
          simp only [Attribute.recast, hsep, hn.text_eq]

theorem modifyBlock_recast {change change' : Body → Body} (hc : ∀ b, change' (b.recast R) = (change b).recast R)
    (index : Nat) (body : Body) :
    modifyBlock index change' (body.recast R) = (modifyBlock index change body).recast R := by
  induction body generalizing index with
  | nil => rw [recast_nil, modifyBlock, modifyBlock, recast_nil]
  | cons n ns ih =>
      rw [recast_cons]
      rcases n with t | a | ⟨head, inner, closing⟩
      · rw [Node.recast_gap, modifyBlock, modifyBlock, ih, recast_cons, Node.recast_gap]
        all_goals exact fun _ _ _ => Node.noConfusion
      · rw [Node.recast_attribute, modifyBlock, modifyBlock, ih, recast_cons, Node.recast_attribute]
        all_goals exact fun _ _ _ => Node.noConfusion
      · rw [Node.recast_block]
        cases index with
        | zero => rw [modifyBlock, modifyBlock, hc, recast_cons, Node.recast_block]
        | succ index => rw [modifyBlock, modifyBlock, ih, recast_cons, Node.recast_block]

end Body
end JujuMigration
