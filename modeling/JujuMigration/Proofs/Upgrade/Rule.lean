import JujuMigration.Proofs.Config.Edited
import JujuMigration.Upgrade.Document
/-! What each rule of the upgrade asks for and what it does. Every later fact about the upgrade of a block is drawn from
the statements here, so that no other proof opens a rule. -/

namespace JujuMigration

namespace Body

variable {type label : Text} {body body' : Body} {change : Change}

/-- What the rename of a field puts in its place: a new expression for a reference, none for a variable. -/
inductive RenameOf (expr : Text) : Option Text → Prop
  | reference {upgraded : Text} (hkind : Reference.kind expr = .modelName)
      (h : Reference.upgraded? expr = some upgraded) : RenameOf expr (some upgraded)
  | kept (hkind : Reference.kind expr = .variable) : RenameOf expr none

theorem renameField?_eq_some {r : FieldRename} (h : renameField? type label r body = some (body', change)) :
    ∃ a expr, attribute? body r.source = some a ∧ RenameOf a.expr expr ∧
      renameAttribute? r.source r.target expr body = some body' := by
  obtain ⟨a, ha, h⟩ := Option.bind_eq_some_iff.1 h
  split at h
  · next hkind =>
      obtain ⟨expr, he, h⟩ := Option.bind_eq_some_iff.1 h
      obtain ⟨renamed, hr, h⟩ := Option.bind_eq_some_iff.1 h
      obtain ⟨rfl, -⟩ := Prod.mk.inj (Option.some.inj h)
      exact ⟨a, some expr, ha, .reference hkind he, hr⟩
  · next hkind =>
      obtain ⟨renamed, hr, h⟩ := Option.bind_eq_some_iff.1 h
      obtain ⟨rfl, -⟩ := Prod.mk.inj (Option.some.inj h)
      exact ⟨a, none, ha, .kept hkind, hr⟩
  · simp at h

theorem renameField?_eq_none {r : FieldRename} :
    renameField? type label r body = none ↔
      ∀ a, attribute? body r.source = some a → ∀ expr, ¬RenameOf a.expr expr := by
  constructor
  · intro h a ha expr hr
    have hb := Option.bind_eq_none_iff.1 h a ha
    cases hr with
    | reference hkind he =>
        simp only [hkind, he] at hb
        simp [renameAttribute?, ha] at hb
    | kept hkind =>
        simp only [hkind] at hb
        simp [renameAttribute?, ha] at hb
  · intro h
    refine Option.bind_eq_none_iff.2 fun a ha => ?_
    split
    · next hkind =>
        refine Option.bind_eq_none_iff.2 fun expr he => ?_
        exact absurd (.reference hkind he) (h a ha _)
    · next hkind => exact absurd (.kept hkind) (h a ha none)
    · rfl

/-- What retiring a field does, if it does anything. -/
inductive Retired (body : Body) (f : DeprecatedField) : Body → Notes → Prop
  | absent (h : has body f.name = false) : Retired body f body {}
  | review {replacement : Text} {notes : Notes} (hf : f.fate = .review replacement) (hn : notes.changes = []) :
      Retired body f body notes
  | removed {notes : Notes} (h : has body f.name = true) (hf : f.fate = .remove) (hn : notes.changes ≠ []) :
      Retired body f (dropFirst f.name body) notes
  | renamed {replacement : Text} {body' : Body} {notes : Notes} (h : has body f.name = true)
      (hf : f.fate = .rename replacement) (hr : renameAttribute? f.name replacement none body = some body')
      (hn : notes.changes ≠ []) : Retired body f body' notes

theorem retired_retireField (type label : Text) (body : Body) (f : DeprecatedField) :
    Retired body f (retireField type label body f).1 (retireField type label body f).2 := by
  obtain ⟨field, fate⟩ := f
  unfold retireField
  split
  · next h =>
      obtain ⟨a, ha⟩ := Option.isSome_iff_exists.1 h
      cases fate with
      | review replacement => exact .review rfl rfl
      | remove =>
          have hr : removeAttribute? field body = some (dropFirst field body) := by rw [removeAttribute?_eq, ha]; rfl
          dsimp only
          rw [hr]
          exact .removed h rfl (by simp [Notes.ofChange])
      | rename replacement =>
          obtain ⟨renamed, hr⟩ : ∃ renamed, renameAttribute? field replacement none body = some renamed :=
            ⟨_, by rw [renameAttribute?, ha]; rfl⟩
          dsimp only
          rw [hr]
          exact .renamed h rfl hr (by simp [Notes.ofChange])
  · next h => exact .absent (by simpa using h)

theorem retireFields_cons (type label : Text) (f : DeprecatedField) (fs : List DeprecatedField) (body : Body) :
    retireFields type label (f :: fs) body =
      ((retireFields type label fs (retireField type label body f).1).1,
        (retireField type label body f).2 ++ (retireFields type label fs (retireField type label body f).1).2) := rfl

theorem changes_append (a b : Notes) : (a ++ b).changes = a.changes ++ b.changes := rfl

theorem notes_append_empty (notes : Notes) : notes ++ {} = notes := by
  have happend : notes ++ {} = ⟨notes.wasUpgraded || false, notes.changes ++ [], notes.concerns ++ []⟩ := rfl
  rw [happend, Bool.or_false, List.append_nil, List.append_nil]

theorem deprecatedFields_cases (type : Text) :
    deprecatedFields type = [] ∨ deprecatedFields type = [ResourceType.seriesToBase] ∨
      deprecatedFields type = [⟨"placement".toList, .review "machines".toList⟩, ⟨"principal".toList, .remove⟩,
        ResourceType.seriesToBase] := by
  unfold deprecatedFields
  cases ResourceType.ofName? type with
  | none => exact .inl rfl
  | some t =>
      cases t with
      | application => exact .inr (.inr rfl)
      | machine => exact .inr (.inl rfl)
      | _ => exact .inl rfl

theorem resourceRename?_eq_some {r : FieldRename} (h : resourceRename? type = some r) : r = .modelToUuid := by
  obtain ⟨t, -, rfl⟩ := Option.map_eq_some_iff.1 h
  rfl

theorem dataSourceRename?_eq_some {r : FieldRename} (h : dataSourceRename? type = some r) :
    r = .modelToUuid ∨ r = .nameToUuid := by
  obtain ⟨t, -, rfl⟩ := Option.map_eq_some_iff.1 h
  cases t with
  | model => exact .inr rfl
  | _ => exact .inl rfl

theorem rewriteOutput?_eq_some (h : rewriteOutput? label body = some (body', change)) :
    ∃ a expr, attribute? body "value".toList = some a ∧ Reference.kind a.expr = .modelName ∧
      Reference.upgraded? a.expr = some expr ∧ body' = modifyFirst "value".toList ({ · with expr := expr }) body := by
  obtain ⟨a, ha, h⟩ := Option.bind_eq_some_iff.1 h
  by_cases hkind : Reference.kind a.expr = .modelName
  · rw [if_neg (not_not_intro hkind)] at h
    obtain ⟨expr, he, h⟩ := Option.bind_eq_some_iff.1 h
    obtain ⟨changed, hc, h⟩ := Option.bind_eq_some_iff.1 h
    obtain ⟨rfl, -⟩ := Prod.mk.inj (Option.some.inj h)
    rw [setExpression?, ha] at hc
    exact ⟨a, expr, ha, hkind, he, (Option.some.inj hc).symm⟩
  · rw [if_pos hkind] at h
    cases h

theorem rewriteOutput?_eq_none :
    rewriteOutput? label body = none ↔ ∀ a, attribute? body "value".toList = some a →
      Reference.kind a.expr = .modelName → Reference.upgraded? a.expr = none := by
  unfold rewriteOutput?
  generalize "value".toList = field
  cases ha : attribute? body field with
  | none => simp
  | some a =>
      by_cases hkind : Reference.kind a.expr = .modelName
      · cases he : Reference.upgraded? a.expr <;> simp [hkind, he, setExpression?, ha]
      · simp [hkind]

theorem rewriteProvider?_eq_some (h : rewriteProvider? body = some (body', change)) :
    ∃ providers a, block? body "required_providers".toList = some providers ∧
      attribute? providers.body "juju".toList = some a ∧ VersionConstraint.occursIn a.expr = true ∧
      body' = modifyFirstBlock "required_providers".toList
        (fun _ => modifyFirst "juju".toList ({ · with expr := VersionConstraint.replaceZero a.expr }) providers.body)
        body := by
  obtain ⟨providers, hp, h⟩ := Option.bind_eq_some_iff.1 h
  obtain ⟨a, ha, h⟩ := Option.bind_eq_some_iff.1 h
  by_cases hv : VersionConstraint.occursIn a.expr = true
  · rw [if_neg (by simp [hv])] at h
    obtain ⟨changed, hc, h⟩ := Option.bind_eq_some_iff.1 h
    obtain ⟨rfl, -⟩ := Prod.mk.inj (Option.some.inj h)
    rw [setExpression?, ha] at hc
    exact ⟨providers, a, hp, ha, hv, by rw [← Option.some.inj hc]⟩
  · rw [if_pos (by simpa using hv)] at h
    cases h

theorem rewriteProvider?_eq_none :
    rewriteProvider? body = none ↔ ∀ providers a, block? body "required_providers".toList = some providers →
      attribute? providers.body "juju".toList = some a → VersionConstraint.occursIn a.expr = false := by
  unfold rewriteProvider?
  generalize "required_providers".toList = kind
  generalize "juju".toList = field
  cases hp : block? body kind with
  | none => simp
  | some providers =>
      cases ha : attribute? providers.body field with
      | none =>
          refine ⟨fun _ p a h h' => ?_, fun _ => by simp [ha]⟩
          rw [← Option.some.inj h, ha] at h'
          cases h'
      | some a =>
          refine ⟨fun h p b hp' hb => ?_, fun h => by simp [ha, h providers a rfl ha]⟩
          rw [← Option.some.inj hp', ha] at hb
          rw [← Option.some.inj hb]
          refine Bool.eq_false_iff.2 fun hv => ?_
          simp [ha, hv, setExpression?] at h

theorem block?_append (front back : Body) (kind : Text) :
    block? (front ++ back) kind = (block? front kind).or (block? back kind) := by
  rw [block?, blocks, List.filterMap_append, List.find?_append]
  rfl

section

variable (head : BlockHead) (inner : Body) (closing : Text) (ns : Body) (kind : Text)

theorem block?_cons_block : block? (.block head inner closing :: ns) kind =
    if head.kind = kind then some ⟨head, inner, closing⟩ else block? ns kind := by
  by_cases h : head.kind = kind <;> simp [block?, blocks, h]

theorem modifyFirstBlock_cons_block (change : Body → Body) :
    modifyFirstBlock kind change (.block head inner closing :: ns) =
      if head.kind = kind then .block head (change inner) closing :: ns
      else .block head inner closing :: modifyFirstBlock kind change ns := by
  by_cases h : head.kind = kind <;> simp [modifyFirstBlock, blocks, h, List.findIdx_cons, modifyBlock]

end

/-- The first block of a kind stands between two bodies, and a change of its body leaves them. -/
theorem block?_eq_some {kind : Text} {b : Block} (h : block? body kind = some b) :
    ∃ before behind, body = before ++ b.toNode :: behind ∧ b.head.kind = kind ∧ block? before kind = none ∧
      ∀ change, modifyFirstBlock kind change body = before ++ .block b.head (change b.body) b.closing :: behind := by
  induction body with
  | nil => cases h
  | cons n ns ih =>
      have skip (hn : ∀ ms, block? (n :: ms) kind = block? ms kind)
          (hm : ∀ change, modifyFirstBlock kind change (n :: ns) = n :: modifyFirstBlock kind change ns) :
          ∃ before behind, n :: ns = before ++ b.toNode :: behind ∧ b.head.kind = kind ∧ block? before kind = none ∧
            ∀ change, modifyFirstBlock kind change (n :: ns) =
              before ++ .block b.head (change b.body) b.closing :: behind := by
        obtain ⟨before, behind, hb, hk, hf, hc⟩ := ih (hn ns ▸ h)
        exact ⟨n :: before, behind, by rw [hb]; rfl, hk, (hn before).trans hf, fun change => by rw [hm, hc]; rfl⟩
      rcases n with _ | _ | ⟨head, inner, closing⟩
      · exact skip (fun _ => rfl) fun _ => rfl
      · exact skip (fun _ => rfl) fun _ => rfl
      · by_cases hk : head.kind = kind
        · rw [block?_cons_block, if_pos hk] at h
          obtain rfl := Option.some.inj h
          exact ⟨[], ns, rfl, hk, rfl, fun change => by rw [modifyFirstBlock_cons_block, if_pos hk]; rfl⟩
        · exact skip (fun ms => by rw [block?_cons_block, if_neg hk])
            fun change => by rw [modifyFirstBlock_cons_block, if_neg hk]

end Body

/-! ### The flag -/

/-- The flag is set exactly where a change is noted. -/
def Notes.IsFlagged (notes : Notes) : Prop := notes.wasUpgraded = !notes.changes.isEmpty

@[simp] theorem Notes.isFlagged_empty : Notes.IsFlagged {} := rfl

@[simp] theorem Notes.isFlagged_ofChange (c : Change) : (Notes.ofChange c).IsFlagged := rfl

@[simp] theorem Notes.isFlagged_ofConcern (c : Concern) : (Notes.ofConcern c).IsFlagged := rfl

theorem Notes.IsFlagged.append {a b : Notes} (ha : a.IsFlagged) (hb : b.IsFlagged) : (a ++ b).IsFlagged := by
  have happend : (a ++ b).wasUpgraded = (a.wasUpgraded || b.wasUpgraded) := rfl
  rw [IsFlagged, happend, ha, hb, Body.changes_append]
  cases a.changes <;> rfl

namespace Body

theorem isFlagged_orUnchanged (body : Body) (result : Option (Body × Change)) :
    (orUnchanged body result).2.IsFlagged := by
  cases result <;> rfl

theorem isFlagged_retireFields (type label : Text) (fields : List DeprecatedField) (body : Body) :
    (retireFields type label fields body).2.IsFlagged := by
  induction fields generalizing body with
  | nil => rfl
  | cons f fields ih =>
      rw [retireFields_cons]
      refine Notes.IsFlagged.append ?_ (ih _)
      unfold retireField
      split
      · cases f.fate <;> rfl
      · rfl

theorem isFlagged_upgrade (head : BlockHead) (body : Body) : (upgrade head body).2.IsFlagged := by
  unfold upgrade
  split
  · exact (isFlagged_orUnchanged _ _).append (isFlagged_retireFields _ _ _ _)
  · unfold upgradeDataSource
    split
    · rfl
    · split
      · rfl
      · split <;> rfl
  · exact isFlagged_orUnchanged _ _
  · unfold reviewVariable
    split <;> rfl
  · exact isFlagged_orUnchanged _ _
  · rfl

end Body

/-- Nodes are upgraded with the flag set exactly where there is a change. -/
theorem Document.wasUpgraded_upgradeNodes (d : Document) (nodes : Body) :
    (d.upgradeNodes nodes).2.wasUpgraded = !(d.upgradeNodes nodes).2.changes.isEmpty := by
  induction nodes with
  | nil => rfl
  | cons node nodes ih =>
      have hfirst : (d.upgradeNode node).2.wasUpgraded = !(d.upgradeNode node).2.changes.isEmpty := by
        rcases node with _ | _ | ⟨head, body, closing⟩
        · rfl
        · rfl
        · exact Body.isFlagged_upgrade head body
      have hflag : (d.upgradeNodes (node :: nodes)).2.wasUpgraded =
          ((d.upgradeNode node).2.wasUpgraded || (d.upgradeNodes nodes).2.wasUpgraded) := rfl
      have hchanges : (d.upgradeNodes (node :: nodes)).2.changes =
          (d.upgradeNode node).2.changes ++ (d.upgradeNodes nodes).2.changes := rfl
      rw [hflag, hchanges, hfirst, ih]
      cases (d.upgradeNode node).2.changes <;> rfl

theorem Document.wasUpgraded_upgrade (d : Document) :
    d.upgrade.record.wasUpgraded = !d.upgrade.record.changes.isEmpty := d.wasUpgraded_upgradeNodes d.body

end JujuMigration
