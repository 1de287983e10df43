import JujuMigration.Proofs.Config.Concat
import JujuMigration.Proofs.Upgrade.Recast
import JujuMigration.Upgrade.Document
/-! Files one behind the other. No rule looks at a line number, and no block is upgraded by what stands around it; so
the upgrade of two files in one is the upgrade of the first and that of the second, but for the lines of the advice. -/

namespace JujuMigration

/-! ### Rules do not look at lines -/

theorem unseen_down (k : Nat) : (Recasting.down k).Unseen where
  keeps _ _ _ := Iff.rfl
  separator _ _ _ := rfl
  kind _ := rfl
  referent _ := rfl
  upgraded _ := (congrFun Option.map_id _).symm
  occurs _ := rfl
  replaced _ := rfl
  hint _ := rfl
  description _ := rfl
  hintInAnyCase _ := rfl

theorem Change.mapTexts_id : Change.mapTexts id = id := by
  funext c
  cases c <;> rfl

theorem Concern.mapTexts_id : Concern.mapTexts id = id := by
  funext c
  cases c with
  | «variable» name description => exact congrArg (Concern.variable name) (congrFun Option.map_id description)
  | _ => rfl

/-! ### Files -/

/-- The advice `k` lines further down, where its line is a number. -/
def Advice.shift (k : Nat) (a : Advice) : Advice :=
  { a with
    line := match a.line with
      | .int n => .int (n + k)
      | line => line }

theorem Record.append_assoc (a b c : Record) : a ++ b ++ c = a ++ (b ++ c) := by
  have happend (a b : Record) :
      a ++ b = ⟨a.wasUpgraded || b.wasUpgraded, a.changes ++ b.changes, a.advice ++ b.advice⟩ := rfl
  simp only [happend, Bool.or_assoc, List.append_assoc]

namespace Document

/-- A document without an index of lines. -/
def unindexed (file : Text) (body : Body) : Document := ⟨file, [], body, []⟩

/-- What nodes are upgraded to does not depend on the tree that they stand in. -/
theorem upgradeNodes_unindexed (file : Text) (a b nodes : Body) :
    (unindexed file a).upgradeNodes nodes = (unindexed file b).upgradeNodes nodes := by
  induction nodes with
  | nil => rfl
  | cons n ns ih =>
      have hnode : (unindexed file a).upgradeNode n = (unindexed file b).upgradeNode n := by
        rcases n with _ | _ | _ <;> rfl
      rw [upgradeNodes, upgradeNodes, ih, hnode]

theorem upgradeNodes_append (d : Document) (a b : Body) :
    d.upgradeNodes (a ++ b) =
      ((d.upgradeNodes a).1 ++ (d.upgradeNodes b).1, (d.upgradeNodes a).2 ++ (d.upgradeNodes b).2) := by
  induction a with
  | nil => rfl
  | cons n ns ih =>
      rw [List.cons_append, upgradeNodes, ih, upgradeNodes]
      refine Prod.ext rfl ?_
      exact (Record.append_assoc _ _ _).symm

/-- Gaps are no matter of an upgrade, so it is all the same whether two of them are one. -/
theorem upgradeNodes_joins (d : Document) {front back nodes : Body} (h : Joins front back nodes) :
    Body.render (d.upgradeNodes nodes).1 = Body.render (d.upgradeNodes (front ++ back)).1 ∧
      (d.upgradeNodes nodes).2 = (d.upgradeNodes (front ++ back)).2 := by
  cases h with
  | apart => exact ⟨rfl, rfl⟩
  | @joined before behind t u hf hb =>
      have hgap (t : Text) (ns : Body) :
          d.upgradeNodes (.gap t :: ns) = (.gap t :: (d.upgradeNodes ns).1, {} ++ (d.upgradeNodes ns).2) := rfl
      rw [hf, hb, List.append_assoc, List.singleton_append, upgradeNodes_append, upgradeNodes_append, hgap, hgap, hgap]
      refine ⟨?_, rfl⟩
      simp only [Body.render_append, Body.render_cons, Node.render, List.append_assoc]

/-- A tree with other texts and lines is upgraded as the tree is, and advised upon as `advise` says. -/
theorem upgradeNodes_recast {R : Recasting} (hR : R.Unseen) {file : Text} {advise : Advice → Advice}
    (hadvise : ∀ (line : Nat) c, advise ⟨file, .int line, c⟩ = ⟨file, .int (R.line line), c.mapTexts R.text⟩)
    (body nodes : Body) :
    (unindexed file body).upgradeNodes (nodes.recast R) =
      (((unindexed file body).upgradeNodes nodes).1.recast R,
        { ((unindexed file body).upgradeNodes nodes).2 with
          changes := ((unindexed file body).upgradeNodes nodes).2.changes.map (Change.mapTexts R.text)
          advice := ((unindexed file body).upgradeNodes nodes).2.advice.map advise }) := by
  induction nodes with
  | nil => rw [Body.recast_nil]; rfl
  | cons n ns ih =>
      have hnode : (unindexed file body).upgradeNode (n.recast R) =
          (((unindexed file body).upgradeNode n).1.recast R,
            { ((unindexed file body).upgradeNode n).2 with
              changes := ((unindexed file body).upgradeNode n).2.changes.map (Change.mapTexts R.text)
              advice := ((unindexed file body).upgradeNode n).2.advice.map advise }) := by
        rcases n with t | a | ⟨head, inner, closing⟩
        · show _ = ((Node.gap t).recast R, _)
          rw [Node.recast_gap]
          rfl
        · show _ = ((Node.attribute a).recast R, _)
          rw [Node.recast_attribute]
          rfl
        · rw [Node.recast_block, upgradeNode, upgradeNode]
          simp only [Block.upgrade, Body.upgrade_recast hR, Prod.map, Block.toNode, Node.recast_block, record,
            Notes.mapTexts, List.map_map]
          refine congrArg (fun advice => (_, Record.mk _ _ advice)) (List.map_congr_left fun c _ => ?_)
          exact (hadvise head.line c).symm
      rw [Body.recast_cons, upgradeNodes, hnode, ih, upgradeNodes]
      simp only [Body.recast_cons, Prod.mk.injEq, true_and]
      exact congrArg₂ (Record.mk _) List.map_append.symm List.map_append.symm

theorem upgradeNodes_shift (k : Nat) {file : Text} {body : Body} (nodes : Body) :
    (unindexed file body).upgradeNodes (Body.shift k nodes) =
      (Body.shift k ((unindexed file body).upgradeNodes nodes).1,
        { ((unindexed file body).upgradeNodes nodes).2 with
          advice := ((unindexed file body).upgradeNodes nodes).2.advice.map (Advice.shift k) }) := by
  have hadvise (line : Nat) (c : Concern) : Advice.shift k ⟨file, .int line, c⟩ =
      ⟨file, .int ((Recasting.down k).line line), c.mapTexts (Recasting.down k).text⟩ := by
    rw [show c.mapTexts (Recasting.down k).text = c from congrFun Concern.mapTexts_id c]
    rfl
  have hchanges : Change.mapTexts (Recasting.down k).text = id := Change.mapTexts_id
  rw [Body.shift_eq_recast, Body.shift_eq_recast, upgradeNodes_recast (unseen_down k) hadvise, hchanges, List.map_id]

end Document

/-- Two files that are read, the first empty or with its last line ended, are upgraded as one file as each is alone. -/
theorem upgrade_append {a b : Text} {front back : Body} (ha : Body.read a = .ok front) (hb : Body.read b = .ok back)
    (hend : a ≠ [] → a.getLast? = some '\n') :
    ∃ nodes, Body.read (a ++ b) = .ok nodes ∧ Joins front (back.shift (Text.newlines a)) nodes ∧
      ∀ file, let up (body : Body) := (Document.unindexed file body).upgrade
        (up nodes).content = (up front).content ++ (up back).content ∧
        (up nodes).record.changes = (up front).record.changes ++ (up back).record.changes ∧
        (up nodes).record.wasUpgraded = ((up front).record.wasUpgraded || (up back).record.wasUpgraded) ∧
        (up nodes).record.advice =
          (up front).record.advice ++ (up back).record.advice.map (Advice.shift (Text.newlines a)) := by
  obtain ⟨nodes, hread, hjoins⟩ := read_append ha hb hend
  refine ⟨nodes, hread, hjoins, fun file => ?_⟩
  obtain ⟨hrender, hrecord⟩ := Document.upgradeNodes_joins (Document.unindexed file nodes) hjoins
  rw [Document.upgradeNodes_append, Document.upgradeNodes_shift, Document.upgradeNodes_unindexed file nodes front front,
    Document.upgradeNodes_unindexed file nodes back back] at hrender hrecord
  have hcontent (body : Body) : (Document.unindexed file body).upgrade.content =
      Utf8.encode (Body.render ((Document.unindexed file body).upgradeNodes body).1) := rfl
  have hnotes (body : Body) : (Document.unindexed file body).upgrade.record =
      ((Document.unindexed file body).upgradeNodes body).2 := rfl
  simp only [hcontent, hnotes, hrender, hrecord]
  refine ⟨?_, rfl, rfl, rfl⟩
  rw [Body.render_append, Body.render_shift, Utf8.encode, List.flatMap_append]
  rfl

/-- A file that ends in a comment, and one that begins with one; both hold a variable that speaks of a model. -/
def seamFront : Text := "variable \"model\" \x7b\x7d\n# a\n".toList

def seamBack : Text := "# b\nvariable \"model\" \x7b\x7d".toList

theorem upgrade_append_seam :
    ∃ front back nodes, Body.read seamFront = .ok front ∧ Body.read seamBack = .ok back ∧
      Body.read (seamFront ++ seamBack) = .ok nodes ∧ Joins front (back.shift 2) nodes ∧
        (Document.unindexed [] nodes).upgrade.record.advice =
          (Document.unindexed [] front).upgrade.record.advice ++
            (Document.unindexed [] back).upgrade.record.advice.map (Advice.shift 2) := by
  have hreads : (Body.read seamFront).toBool = true ∧ (Body.read seamBack).toBool = true := by decide +kernel
  cases hfront : Body.read seamFront with
  | error f =>
      rw [hfront] at hreads
      cases hreads.1
  | ok front =>
      cases hback : Body.read seamBack with
      | error f =>
          rw [hback] at hreads
          cases hreads.2
      | ok back =>
          have hlines : Text.newlines seamFront = 2 := by decide
          obtain ⟨nodes, hread, hjoins, hup⟩ := upgrade_append hfront hback (fun _ => by decide)
          rw [hlines] at hjoins hup
          exact ⟨front, back, nodes, rfl, rfl, hread, hjoins, (hup []).2.2.2⟩

end JujuMigration
