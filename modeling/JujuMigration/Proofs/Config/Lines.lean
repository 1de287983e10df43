import JujuMigration.Proofs.Config.Layout
import JujuMigration.Proofs.Config.Recast
/-! Line numbers. A tree that is read further down in a file is the same tree with greater line numbers. -/

namespace JujuMigration

open Source

def Attribute.shift (k : Nat) (a : Attribute) : Attribute := { a with line := a.line + k }

def BlockHead.shift (k : Nat) (head : BlockHead) : BlockHead := { head with line := head.line + k }

mutual

def Node.shift (k : Nat) : Node → Node
  | .gap text => .gap text
  | .attribute a => .attribute (a.shift k)
  | .block head body closing => .block (head.shift k) (Body.shift k body) closing

/-- The tree `k` lines further down. -/
def Body.shift (k : Nat) : Body → Body
  | [] => []
  | node :: nodes => node.shift k :: Body.shift k nodes

end

namespace Body

@[simp] theorem shift_nil (k : Nat) : shift k [] = [] := by rw [shift]

@[simp] theorem shift_cons (k : Nat) (n : Node) (ns : Body) : shift k (n :: ns) = n.shift k :: shift k ns := by
  rw [shift]

@[simp] theorem shift_append (k : Nat) (a b : Body) : shift k (a ++ b) = shift k a ++ shift k b := by
  induction a with
  | nil => rw [shift_nil, List.nil_append, List.nil_append]
  | cons n ns ih => rw [List.cons_append, shift_cons, shift_cons, ih, List.cons_append]

end Body

namespace Node

@[simp] theorem shift_gap (k : Nat) (t : Text) : (Node.gap t).shift k = .gap t := by rw [shift]

@[simp] theorem shift_attribute (k : Nat) (a : Attribute) :
    (Node.attribute a).shift k = .attribute (a.shift k) := by rw [shift]

@[simp] theorem shift_block (k : Nat) (head : BlockHead) (body : Body) (closing : Text) :
    (Node.block head body closing).shift k = .block (head.shift k) (body.shift k) closing := by rw [shift]

end Node

@[simp] theorem shift_gapNodes (k : Nat) (t : Text) : (gapNodes t).shift k = gapNodes t := by
  unfold gapNodes
  split
  · rw [Body.shift_nil]
  · rw [Body.shift_cons, Body.shift_nil, Node.shift_gap]

mutual

theorem Node.render_shift (k : Nat) : ∀ n : Node, (n.shift k).render = n.render
  | .gap text => by rw [Node.shift_gap]
  | .attribute a => by rw [Node.shift_attribute, Node.render, Node.render]; rfl
  | .block head body closing => by
      rw [Node.shift_block, Node.render, Node.render, Body.render_shift k body]
      rfl

theorem Body.render_shift (k : Nat) : ∀ body : List Node, Body.render (Body.shift k body) = Body.render body
  | [] => by rw [Body.shift_nil]
  | n :: ns => by
      rw [Body.shift_cons, Body.render_cons, Body.render_cons, Node.render_shift k n, Body.render_shift k ns]

end

/-- Further down every text stays and every line number grows. -/
def Recasting.down (k : Nat) : Recasting := ⟨id, (· + k)⟩

theorem BlockHead.shift_eq_recast (k : Nat) (head : BlockHead) : head.shift k = head.recast (.down k) := by
  have hlabels : head.labels.map (Recasting.down k).text = head.labels := List.map_id _
  rw [BlockHead.recast, hlabels]
  rfl

mutual

theorem Node.shift_eq_recast (k : Nat) : ∀ n : Node, n.shift k = n.recast (.down k)
  | .gap text => by rw [Node.shift_gap, Node.recast_gap]; rfl
  | .attribute a => by rw [Node.shift_attribute, Node.recast_attribute]; rfl
  | .block head body closing => by
      rw [Node.shift_block, Node.recast_block, head.shift_eq_recast, Body.shift_eq_recast k body]
      rfl

theorem Body.shift_eq_recast (k : Nat) : ∀ body : List Node, Body.shift k body = Body.recast (.down k) body
  | [] => by rw [Body.shift_nil, Body.recast_nil]
  | n :: ns => by rw [Body.shift_cons, Body.recast_cons, Node.shift_eq_recast k n, Body.shift_eq_recast k ns]

end

/-- Reading does not depend on the line that it begins on. -/
theorem Reads.shift {line : Nat} {s r : Text} {nodes : Body} (h : Reads line s nodes r) (k : Nat) :
    Reads (line + k) s (nodes.shift k) r := by
  induction h with
  | @stop _ _ gap _ hs hgap hr =>
      rw [Body.shift_append, shift_gapNodes, shift_gapNodes]
      exact .stop hs hgap hr
  | @field line _ gap _ _ a _ hs hgap hlead hline hfits _ ih =>
      rw [Body.shift_append, shift_gapNodes, Body.shift_cons, Node.shift_attribute]
      have hline' : a.line + k = line + k + Text.newlines gap := by omega
      refine .field hs hgap hlead hline' (fits_line hfits _) ?_
      rwa [Nat.add_right_comm] at ih
  | @block line _ gap _ tail _ _ head body _ hs hgap hlead hline hopens _ htail _ ih ih' =>
      rw [Body.shift_append, shift_gapNodes, Body.shift_cons, Node.shift_block]
      have hline' : head.line + k = line + k + Text.newlines gap := by omega
      refine .block hs hgap hlead hline' hopens ?_ htail ?_
      · rwa [Nat.add_right_comm] at ih
      · rw [Body.render_shift]
        rwa [Nat.add_right_comm] at ih'

end JujuMigration
