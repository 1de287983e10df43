import JujuMigration.Proofs.Config.Layout
import JujuMigration.Proofs.Config.Names
import JujuMigration.Proofs.Rules.Reference
import JujuMigration.Proofs.Rules.VersionConstraint
import JujuMigration.Proofs.Upgrade.Frame
/-! Settled blocks. A block is settled if no rule finds anything to change in it, and exactly then its upgrade records
no change. The upgrade of a block in which every name stands once is settled. -/

namespace JujuMigration

open Body

/-! ### What no rule applies to -/

/-- The rename finds nothing to rename. -/
def FieldRename.Settled (r : FieldRename) (body : Body) : Prop :=
  ∀ a, attribute? body r.source = some a → ∀ expr, ¬RenameOf a.expr expr

/-- The field is absent, unless it is only reviewed. -/
def DeprecatedField.Settled (f : DeprecatedField) (body : Body) : Prop :=
  (∀ replacement, f.fate ≠ .review replacement) → has body f.name = false

/-- No rule for a block with this head finds anything to change in the body. -/
def Body.Settled (head : BlockHead) (body : Body) : Prop :=
  match String.ofList head.kind, head.labels with
  | "resource", type :: _ :: _ =>
    (∀ r, resourceRename? type = some r → r.Settled body) ∧ ∀ f ∈ deprecatedFields type, f.Settled body
  | "data", type :: _ :: _ => ∀ r, dataSourceRename? type = some r → r.Settled body
  | "output", _ :: _ =>
    ∀ a, attribute? body "value".toList = some a → Reference.kind a.expr = .modelName →
      Reference.upgraded? a.expr = none
  | "terraform", _ =>
    ∀ providers a, block? body "required_providers".toList = some providers →
      attribute? providers.body "juju".toList = some a → VersionConstraint.occursIn a.expr = false
  | _, _ => True

namespace Body

variable {type label : Text} {body body' : Body} {fields : List DeprecatedField}

theorem changes_orUnchanged {result : Option (Body × Change)} :
    (orUnchanged body result).2.changes = [] ↔ result = none := by
  cases result with
  | none => exact iff_of_true rfl rfl
  | some p => exact iff_of_false (List.cons_ne_nil _ _) (Option.some_ne_none p)

theorem settled_renameField? (type label : Text) {r : FieldRename} :
    r.Settled body ↔ renameField? type label r body = none :=
  renameField?_eq_none.symm

theorem settled_retireField (type label : Text) (f : DeprecatedField) :
    f.Settled body ↔ (retireField type label body f).2.changes = [] := by
  have h := retired_retireField type label body f
  generalize retireField type label body f = p at h ⊢
  obtain ⟨body', notes⟩ := p
  cases h with
  | absent h => exact iff_of_true (fun _ => h) rfl
  | review hf hn => exact iff_of_true (fun h => absurd hf (h _)) hn
  | removed h hf hn =>
      refine iff_of_false (fun hs => ?_) hn
      rw [hs fun t ht => by rw [hf] at ht; cases ht] at h
      cases h
  | renamed h hf _ hn =>
      refine iff_of_false (fun hs => ?_) hn
      rw [hs fun t ht => by rw [hf] at ht; cases ht] at h
      cases h

/-- Where nothing is recorded the body stays. -/
theorem retireField_of_changes {f : DeprecatedField} (h : (retireField type label body f).2.changes = []) :
    (retireField type label body f).1 = body := by
  have hr := retired_retireField type label body f
  generalize retireField type label body f = p at h hr ⊢
  obtain ⟨body', notes⟩ := p
  cases hr with
  | absent => rfl
  | review => rfl
  | removed _ _ hn => exact absurd h hn
  | renamed _ _ _ hn => exact absurd h hn

theorem settled_retireFields :
    (∀ f ∈ fields, f.Settled body) ↔ (retireFields type label fields body).2.changes = [] := by
  induction fields with
  | nil => simp [retireFields]
  | cons f fs ih =>
      rw [retireFields_cons, changes_append, List.append_eq_nil_iff, List.forall_mem_cons,
        settled_retireField type label f]
      refine and_congr_right fun h => ?_
      rw [retireField_of_changes h, ih]

theorem settled_upgradeResource :
    ((∀ r, resourceRename? type = some r → r.Settled body) ∧ ∀ f ∈ deprecatedFields type, f.Settled body) ↔
      (upgradeResource type label body).2.changes = [] := by
  have hrename : (∀ r, resourceRename? type = some r → r.Settled body) ↔
      (resourceRename? type).bind (renameField? type label · body) = none := by
    rw [Option.bind_eq_none_iff]
    exact forall₂_congr fun r _ => settled_renameField? type label
  have hchanges : (upgradeResource type label body).2.changes = [] ↔
      (orUnchanged body ((resourceRename? type).bind (renameField? type label · body))).2.changes = [] ∧
        (retireFields type label (deprecatedFields type)
          (orUnchanged body ((resourceRename? type).bind (renameField? type label · body))).1).2.changes = [] :=
    List.append_eq_nil_iff
  rw [hchanges, changes_orUnchanged, ← hrename]
  refine and_congr_right fun h => ?_
  rw [hrename.1 h]
  exact settled_retireFields

theorem settled_upgradeDataSource :
    (∀ r, dataSourceRename? type = some r → r.Settled body) ↔ (upgradeDataSource type label body).2.changes = [] := by
  unfold upgradeDataSource
  split
  · next hr => simp [hr]
  · next r hr =>
      simp only [hr, Option.some.injEq, forall_eq']
      rw [settled_renameField? type label]
      split
      · next h => exact iff_of_false (by simp [h]) (List.cons_ne_nil _ _)
      · next h =>
          refine iff_of_true h ?_
          split <;> rfl

/-- A block is settled if and only if its upgrade records no change. -/
theorem settled_iff (head : BlockHead) (body : Body) : Settled head body ↔ (upgrade head body).2.changes = [] := by
  unfold upgrade
  split
  · next hkind hlabels =>
      simp only [Settled, hkind, hlabels]
      exact settled_upgradeResource
  · next hkind hlabels =>
      simp only [Settled, hkind, hlabels]
      exact settled_upgradeDataSource
  · next label _ hkind hlabels =>
      simp only [Settled, hkind, hlabels]
      rw [changes_orUnchanged, rewriteOutput?_eq_none]
  · next hkind hlabels =>
      simp only [Settled, hkind, hlabels]
      refine iff_of_true trivial ?_
      unfold reviewVariable
      split <;> rfl
  · next hkind =>
      simp only [Settled, hkind]
      rw [changes_orUnchanged, rewriteProvider?_eq_none]
  · next hterraform hresource hdata houtput _ =>
      refine iff_of_true ?_ rfl
      unfold Settled
      split
      · next hkind hlabels => exact (hresource _ _ _ hkind hlabels).elim
      · next hkind hlabels => exact (hdata _ _ _ hkind hlabels).elim
      · next hkind hlabels => exact (houtput _ _ hkind hlabels).elim
      · next hkind => exact (hterraform hkind).elim
      · trivial

/-! ### The upgrade settles -/

theorem FieldRename.settled_of_not_mem {r : FieldRename} (h : r.source ∉ names body) : r.Settled body := by
  intro a ha
  rw [mem_names, has, ha] at h
  exact absurd rfl h

/-- A field that has been renamed is gone. -/
theorem settled_orUnchanged (type label : Text) {r : FieldRename} (hne : r.source ≠ r.target) (h : (names body).Nodup) :
    r.Settled (orUnchanged body (renameField? type label r body)).1 ∧
      (names (orUnchanged body (renameField? type label r body)).1).Nodup := by
  cases hr : renameField? type label r body with
  | none => exact ⟨(settled_renameField? type label).2 hr, h⟩
  | some p =>
      obtain ⟨-, expr, -, -, hb⟩ := renameField?_eq_some hr
      obtain ⟨hn, hgone⟩ := nodup_renameAttribute? h hne hb
      exact ⟨FieldRename.settled_of_not_mem hgone, hn⟩

theorem settled_retired (type label : Text) {f : DeprecatedField} (hf : f.fate ≠ .rename f.name)
    (h : (names body).Nodup) :
    f.Settled (retireField type label body f).1 ∧ (names (retireField type label body f).1).Nodup := by
  have hr := retired_retireField type label body f
  generalize retireField type label body f = p at hr ⊢
  obtain ⟨body', notes⟩ := p
  have gone {b : Body} (hb : f.name ∉ names b) : has b f.name = false := by
    rw [mem_names] at hb
    simpa using hb
  cases hr with
  | absent habs => exact ⟨fun _ => habs, h⟩
  | review hfate => exact ⟨fun hs => absurd hfate (hs _), h⟩
  | removed =>
      obtain ⟨hn, hgone⟩ := nodup_dropFirst h f.name
      exact ⟨fun _ => gone hgone, hn⟩
  | renamed _ hfate hr =>
      obtain ⟨hn, hgone⟩ := nodup_renameAttribute? h (fun he => hf (by rw [hfate, he])) hr
      exact ⟨fun _ => gone hgone, hn⟩

theorem has_edited {names : List Text} {name : Text} (h : Edited names body body') (hn : name ∉ names) :
    has body' name = has body name := by
  rw [has, has, attribute?_edited h hn]

/-- Retired fields are gone if no later one brings an earlier one back. -/
theorem settled_after_retireFields (hf : ∀ f ∈ fields, f.fate ≠ .rename f.name)
    (hd : fields.Pairwise fun f g => f.name ∉ g.names) (h : (names body).Nodup) :
    ∀ f ∈ fields, f.Settled (retireFields type label fields body).1 := by
  induction fields generalizing body with
  | nil => exact fun _ h => by cases h
  | cons f fs ih =>
      obtain ⟨hfirst, hn⟩ := settled_retired type label (hf f List.mem_cons_self) h
      obtain ⟨hlater, hd⟩ := List.pairwise_cons.1 hd
      rw [retireFields_cons]
      refine List.forall_mem_cons.2 ⟨fun hfate => ?_, ih (fun g hg => hf g (List.mem_cons_of_mem _ hg)) hd hn⟩
      rw [has_edited (edited_retireFields type label fs _), hfirst hfate]
      intro hmem
      obtain ⟨g, hg, hmem⟩ := List.mem_flatMap.1 hmem
      exact hlater g hg hmem

theorem settled_upgradeResource_self (type label : Text) (h : (names body).Nodup) :
    (∀ r, resourceRename? type = some r → r.Settled (upgradeResource type label body).1) ∧
      ∀ f ∈ deprecatedFields type, f.Settled (upgradeResource type label body).1 := by
  obtain ⟨hrename, hn⟩ : (∀ r, resourceRename? type = some r →
      r.Settled (orUnchanged body ((resourceRename? type).bind (renameField? type label · body))).1) ∧
      (names (orUnchanged body ((resourceRename? type).bind (renameField? type label · body))).1).Nodup := by
    cases hr : resourceRename? type with
    | none => exact ⟨fun r hr => (nomatch hr), h⟩
    | some r =>
        obtain rfl := resourceRename?_eq_some hr
        obtain ⟨hs, hn⟩ := settled_orUnchanged type label (r := .modelToUuid) (by decide) h
        exact ⟨fun r hr => Option.some.inj hr ▸ hs, hn⟩
  have hfields : (∀ f ∈ deprecatedFields type, f.fate ≠ .rename f.name) ∧
      (deprecatedFields type).Pairwise (fun f g => f.name ∉ g.names) ∧
      FieldRename.modelToUuid.source ∉ (deprecatedFields type).flatMap DeprecatedField.names := by
    rcases deprecatedFields_cases type with h | h | h <;> rw [h] <;> decide
  obtain ⟨hfate, hpair, hmodel⟩ := hfields
  refine ⟨fun r hr => ?_, settled_after_retireFields hfate hpair hn⟩
  obtain rfl := resourceRename?_eq_some hr
  intro a ha
  rw [upgradeResource, attribute?_edited (edited_retireFields type label _ _) hmodel] at ha
  exact hrename _ hr a ha

theorem settled_upgradeDataSource_self (type label : Text) (h : (names body).Nodup) :
    ∀ r, dataSourceRename? type = some r → r.Settled (upgradeDataSource type label body).1 := by
  intro r hr
  have hne : r.source ≠ r.target := by
    rcases dataSourceRename?_eq_some hr with rfl | rfl <;> decide
  obtain ⟨hs, -⟩ := settled_orUnchanged type label hne h
  unfold upgradeDataSource
  rw [hr]
  dsimp only
  split
  · next h =>
      rw [h] at hs
      exact hs
  · next h =>
      rw [h] at hs
      split <;> exact hs

theorem block?_modifyFirstBlock {change : Body → Body} {kind : Text} {b : Block} (hb : block? body kind = some b) :
    block? (modifyFirstBlock kind change body) kind = some { b with body := change b.body } := by
  obtain ⟨before, behind, rfl, hk, hbefore, hc⟩ := block?_eq_some hb
  rw [hc, block?_append, hbefore, Option.none_or, block?_cons_block, if_pos hk]

theorem settled_rewriteOutput? (label : Text) (body : Body) :
    ∀ a, attribute? (orUnchanged body (rewriteOutput? label body)).1 "value".toList = some a →
      Reference.kind a.expr = .modelName → Reference.upgraded? a.expr = none := by
  cases h : rewriteOutput? label body with
  | none => exact rewriteOutput?_eq_none.1 h
  | some p =>
      obtain ⟨a, expr, ha, -, hu, hb⟩ := rewriteOutput?_eq_some h
      intro b hfound hkind
      rw [orUnchanged, hb, attribute?_modifyFirst_expr ha] at hfound
      obtain rfl := Option.some.inj hfound
      exact absurd hkind (Reference.kind_upgraded? hu)

theorem settled_rewriteProvider? (body : Body) :
    ∀ providers a, block? (orUnchanged body (rewriteProvider? body)).1 "required_providers".toList = some providers →
      attribute? providers.body "juju".toList = some a → VersionConstraint.occursIn a.expr = false := by
  cases h : rewriteProvider? body with
  | none => exact rewriteProvider?_eq_none.1 h
  | some p =>
      obtain ⟨providers, a, hp, ha, -, hb⟩ := rewriteProvider?_eq_some h
      intro found b hfound hattribute
      rw [orUnchanged, hb, block?_modifyFirstBlock hp] at hfound
      obtain rfl := Option.some.inj hfound
      rw [attribute?_modifyFirst_expr ha] at hattribute
      obtain rfl := Option.some.inj hattribute
      exact VersionConstraint.occursIn_replaceZero a.expr

/-- The upgrade of a block in which every name stands once is settled. -/
theorem settled_upgrade (head : BlockHead) (h : (names body).Nodup) : Settled head (upgrade head body).1 := by
  unfold upgrade
  split
  · next hkind hlabels =>
      simp only [Settled, hkind, hlabels]
      exact settled_upgradeResource_self _ _ h
  · next hkind hlabels =>
      simp only [Settled, hkind, hlabels]
      exact settled_upgradeDataSource_self _ _ h
  · next label _ hkind hlabels =>
      simp only [Settled, hkind, hlabels]
      exact settled_rewriteOutput? label body
  · unfold Settled
    split <;> simp_all
  · next hkind =>
      simp only [Settled, hkind]
      exact settled_rewriteProvider? body
  · unfold Settled
    split <;> simp_all

/-! ### Settled trees that are read again -/

theorem has_canonical (body : Body) (name : Text) : has (canonical body) name = has body name := by
  simp [has, attribute?_canonical]

/-- Whether a block is settled does not depend on lines and on gaps that stand side by side. -/
theorem settled_canonical (head : BlockHead) (body : Body) :
    Settled { head with line := 0 } (canonical body) ↔ Settled head body := by
  have hfield (r : FieldRename) : r.Settled (canonical body) ↔ r.Settled body := by
    simp [FieldRename.Settled, attribute?_canonical]
  have hretired (f : DeprecatedField) : f.Settled (canonical body) ↔ f.Settled body := by
    rw [DeprecatedField.Settled, DeprecatedField.Settled, has_canonical]
  unfold Settled
  dsimp only
  split
  · simp only [hfield, hretired]
  · simp only [hfield]
  · simp [attribute?_canonical]
  · rw [block?_canonical]
    constructor
    · intro h providers a hp ha
      refine h providers.canonical { a with line := 0 } (by rw [hp]; rfl) ?_
      rw [Block.canonical, attribute?_canonical, ha]
      rfl
    · intro h providers a hp ha
      obtain ⟨found, hfound, rfl⟩ := Option.map_eq_some_iff.1 hp
      rw [Block.canonical, attribute?_canonical] at ha
      obtain ⟨b, hb, rfl⟩ := Option.map_eq_some_iff.1 ha
      exact h found b hfound hb
  · rfl

end Body
end JujuMigration
