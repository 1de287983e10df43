import JujuMigration.Proofs.Config.Bindings
import JujuMigration.Proofs.Rules.Reference
import JujuMigration.Proofs.Upgrade.Settled
/-! What the upgrade of a resource or a data source means. The rules are stated once more on the bindings of a block,
where no node, no order and no layout is left: a field hands its expression on to another name, or it vanishes. The
upgrade of a block in which every name stands once is this migration of its bindings, and what it records are the rules
that applied, in their order. -/

namespace JujuMigration

/-- The expression is taken for a reference to a model's name, and it is the plain traversal `t` with `.name` behind
it. -/
def Reference.NamesModel (expr t : Text) : Prop :=
  kind expr = .modelName ∧ Text.trim CharClass.isBlank expr = t ++ ".name".toList ∧
    isTraversal (t ++ ".name".toList) = true

/-! ### The rules on bindings -/

/-- A field hands its expression on to another name, a reference with its other ending and a variable as it is; or it
holds neither, and stays. -/
inductive Bindings.Renames (type label : Text) (rule : Option FieldRename) (m : Bindings) :
    Bindings → List Change → Prop
  | reference {r : FieldRename} {expr t : Text} (hrule : rule = some r) (hsource : m r.source = some expr)
      (h : Reference.NamesModel expr t) :
      Renames type label rule m (m.move r.source r.target (t ++ ".uuid".toList))
        [.reference type label r (Reference.referent expr)]
  | kept {r : FieldRename} {expr : Text} (hrule : rule = some r) (hsource : m r.source = some expr)
      (h : Reference.kind expr = .variable) :
      Renames type label rule m (m.move r.source r.target expr) [.variable type label r]
  | untouched (h : ∀ r expr, rule = some r → m r.source = some expr →
      Reference.kind expr ≠ .variable ∧ ∀ t, ¬Reference.NamesModel expr t) : Renames type label rule m m []

/-- An application has no principal, and neither it nor a machine has a series: its base is what the series was. -/
def Bindings.retire (type : Text) (m : Bindings) : Bindings :=
  let unbound := if type = "juju_application".toList then m.drop "principal".toList else m
  if type = "juju_application".toList ∨ type = "juju_machine".toList then
    match m "series".toList with
    | some expr => unbound.move "series".toList "base".toList expr
    | none => unbound
  else unbound

/-- What there was to retire. -/
def Bindings.retirements (type label : Text) (m : Bindings) : List Change :=
  (if type = "juju_application".toList ∧ (m "principal".toList).isSome = true then
    [.removedField type label "principal".toList] else []) ++
  (if (type = "juju_application".toList ∨ type = "juju_machine".toList) ∧ (m "series".toList).isSome = true then
    [.renamedField type label "series".toList "base".toList] else [])

/-- How the bindings of a block of that kind are migrated, and what is recorded. Only resources have retired fields. -/
inductive Bindings.Migrates (kind type label : Text) (m : Bindings) : Bindings → List Change → Prop
  | resource {renamed : Bindings} {changes : List Change} (hkind : kind = "resource".toList)
      (h : Renames type label (resourceRename? type) m renamed changes) :
      Migrates kind type label m (renamed.retire type) (changes ++ renamed.retirements type label)
  | data {renamed : Bindings} {changes : List Change} (hkind : kind = "data".toList)
      (h : Renames type label (dataSourceRename? type) m renamed changes) :
      Migrates kind type label m renamed changes

namespace Reference

theorem NamesModel.unique {expr t t' : Text} (h : NamesModel expr t) (h' : NamesModel expr t') : t = t' :=
  List.append_cancel_right (h.2.1.symm.trans h'.2.1)

theorem NamesModel.kind_ne {expr t : Text} (h : NamesModel expr t) : kind expr ≠ .variable := by
  rw [h.1]
  decide

/-- What is rewritten is exactly a plain traversal with a name at its end. -/
theorem upgraded?_iff {expr u : Text} (hkind : kind expr = .modelName) :
    upgraded? expr = some u ↔ ∃ t, NamesModel expr t ∧ u = t ++ ".uuid".toList := by
  constructor
  · intro h
    obtain ⟨t, ht, htraversal, hu⟩ := upgraded?_eq_some h
    exact ⟨t, ⟨hkind, ht, htraversal⟩, hu⟩
  · rintro ⟨t, ⟨-, ht, htraversal⟩, rfl⟩
    exact upgraded?_of_trim ht htraversal

end Reference

namespace Bindings

variable {type label : Text} {rule : Option FieldRename} {m renamed renamed' : Bindings}
  {changes changes' : List Change}

/-- The rules leave no choice. -/
theorem Renames.unique (h : Renames type label rule m renamed changes)
    (h' : Renames type label rule m renamed' changes') :
    renamed = renamed' ∧ changes = changes' := by
  cases h with
  | @reference r expr t hrule hsource h =>
      cases h' with
      | @reference r' expr' t' hrule' hsource' h' =>
          obtain rfl := Option.some.inj (hrule.symm.trans hrule')
          obtain rfl := Option.some.inj (hsource.symm.trans hsource')
          rw [h.unique h']
          exact ⟨rfl, rfl⟩
      | @kept r' expr' hrule' hsource' h' =>
          obtain rfl := Option.some.inj (hrule.symm.trans hrule')
          obtain rfl := Option.some.inj (hsource.symm.trans hsource')
          exact absurd h' h.kind_ne
      | untouched h' => exact absurd h ((h' r expr hrule hsource).2 t)
  | @kept r expr hrule hsource h =>
      cases h' with
      | @reference r' expr' t' hrule' hsource' h' =>
          obtain rfl := Option.some.inj (hrule.symm.trans hrule')
          obtain rfl := Option.some.inj (hsource.symm.trans hsource')
          exact absurd h h'.kind_ne
      | @kept r' expr' hrule' hsource' h' =>
          obtain rfl := Option.some.inj (hrule.symm.trans hrule')
          obtain rfl := Option.some.inj (hsource.symm.trans hsource')
          exact ⟨rfl, rfl⟩
      | untouched h' => exact absurd h (h' r expr hrule hsource).1
  | untouched h =>
      cases h' with
      | @reference r expr t hrule hsource h' => exact absurd h' ((h r expr hrule hsource).2 t)
      | @kept r expr hrule hsource h' => exact absurd h' (h r expr hrule hsource).1
      | untouched => exact ⟨rfl, rfl⟩

theorem Migrates.unique {kind : Text} (h : Migrates kind type label m renamed changes)
    (h' : Migrates kind type label m renamed' changes') : renamed = renamed' ∧ changes = changes' := by
  have hkinds : "resource".toList ≠ "data".toList := by decide
  cases h with
  | resource hkind h =>
      cases h' with
      | resource _ h' =>
          obtain ⟨rfl, rfl⟩ := h.unique h'
          exact ⟨rfl, rfl⟩
      | data hkind' => exact absurd (hkind.symm.trans hkind') hkinds
  | data hkind h =>
      cases h' with
      | resource hkind' => exact absurd (hkind'.symm.trans hkind) hkinds
      | data _ h' => exact h.unique h'

end Bindings

/-! ### The upgrade follows the rules -/

namespace Body

variable {type label : Text} {body body' : Body} {change : Change}

theorem renameField?_change {r : FieldRename} (h : renameField? type label r body = some (body', change)) :
    ∃ a expr, attribute? body r.source = some a ∧ RenameOf a.expr expr ∧
      renameAttribute? r.source r.target expr body = some body' ∧
      change = if expr.isSome then .reference type label r (Reference.referent a.expr) else .variable type label r := by
  obtain ⟨a, ha, h⟩ := Option.bind_eq_some_iff.1 h
  split at h
  · next hkind =>
      obtain ⟨expr, he, h⟩ := Option.bind_eq_some_iff.1 h
      obtain ⟨renamed, hr, h⟩ := Option.bind_eq_some_iff.1 h
      obtain ⟨rfl, rfl⟩ := Prod.mk.inj (Option.some.inj h)
      exact ⟨a, some expr, ha, .reference hkind he, hr, rfl⟩
  · next hkind =>
      obtain ⟨renamed, hr, h⟩ := Option.bind_eq_some_iff.1 h
      obtain ⟨rfl, rfl⟩ := Prod.mk.inj (Option.some.inj h)
      exact ⟨a, none, ha, .kept hkind, hr, rfl⟩
  · simp at h

/-- The rename of a field that the table may or may not list. -/
theorem renames_orUnchanged {rule : Option FieldRename} (h : (names body).Nodup)
    (hne : ∀ r, rule = some r → r.source ≠ r.target) :
    Bindings.Renames type label rule (bindings body)
      (bindings (orUnchanged body (rule.bind (renameField? type label · body))).1)
      (orUnchanged body (rule.bind (renameField? type label · body))).2.changes := by
  cases hresult : rule.bind (renameField? type label · body) with
  | none =>
      apply Bindings.Renames.untouched
      intro r expr hrule hsource
      rw [hrule, Option.bind_some] at hresult
      obtain ⟨a, ha, rfl⟩ := bindings_eq_some.1 hsource
      have hnone := renameField?_eq_none.1 hresult a ha
      constructor
      · intro hkind
        exact hnone none (.kept hkind)
      · intro t hnames
        exact hnone _ (.reference hnames.1 ((Reference.upgraded?_iff hnames.1).2 ⟨t, hnames, rfl⟩))
  | some result =>
      obtain ⟨r, hrule, hresult⟩ := Option.bind_eq_some_iff.1 hresult
      obtain ⟨a, expr, ha, hof, hrename, hchange⟩ := renameField?_change hresult
      have hsource := bindings_of_attribute? ha
      have hmove := bindings_renameAttribute? h (hne r hrule) ha hrename
      rw [orUnchanged, hmove]
      cases hof with
      | reference hkind hupgraded =>
          obtain ⟨t, hnames, rfl⟩ := (Reference.upgraded?_iff hkind).1 hupgraded
          rw [hchange]
          exact .reference hrule hsource hnames
      | kept hkind =>
          rw [hchange]
          exact .kept hrule hsource hkind

theorem nodup_orUnchanged {rule : Option FieldRename} (h : (names body).Nodup)
    (hne : ∀ r, rule = some r → r.source ≠ r.target) :
    (names (orUnchanged body (rule.bind (renameField? type label · body))).1).Nodup := by
  cases rule with
  | none => exact h
  | some r => exact (settled_orUnchanged type label (hne r rfl) h).2

/-- A field that is removed. -/
theorem bindings_remove (type label : Text) (h : (names body).Nodup) (field : Text) :
    bindings (retireField type label body ⟨field, .remove⟩).1 = (bindings body).drop field ∧
      (retireField type label body ⟨field, .remove⟩).2.changes =
        if (bindings body field).isSome then [.removedField type label field] else [] := by
  rw [isSome_bindings]
  by_cases hhas : has body field = true
  · obtain ⟨a, ha⟩ := Option.isSome_iff_exists.1 hhas
    have hremove : removeAttribute? field body = some (dropFirst field body) := by rw [removeAttribute?_eq, ha]; rfl
    rw [retireField, if_pos hhas, if_pos hhas]
    dsimp only
    rw [hremove]
    exact ⟨bindings_dropFirst h field, rfl⟩
  · have hunbound : bindings body field = none := by
      rw [← Option.not_isSome_iff_eq_none, isSome_bindings]
      exact hhas
    rw [retireField, if_neg hhas, if_neg hhas, Bindings.drop_of_eq_none hunbound]
    exact ⟨rfl, rfl⟩

/-- A field that goes by another name. -/
theorem bindings_replace (type label : Text) (h : (names body).Nodup) {field new : Text} (hne : field ≠ new) :
    bindings (retireField type label body ⟨field, .rename new⟩).1 =
        (match bindings body field with
        | some expr => (bindings body).move field new expr
        | none => bindings body) ∧
      (retireField type label body ⟨field, .rename new⟩).2.changes =
        if (bindings body field).isSome then [.renamedField type label field new] else [] := by
  rw [isSome_bindings]
  by_cases hhas : has body field = true
  · obtain ⟨a, ha⟩ := Option.isSome_iff_exists.1 hhas
    obtain ⟨renamed, hrename⟩ : ∃ renamed, renameAttribute? field new none body = some renamed :=
      ⟨_, by rw [renameAttribute?, ha]; rfl⟩
    rw [retireField, if_pos hhas, if_pos hhas, bindings_of_attribute? ha]
    dsimp only
    rw [hrename]
    exact ⟨bindings_renameAttribute? h hne ha hrename, rfl⟩
  · have hunbound : bindings body field = none := by
      rw [← Option.not_isSome_iff_eq_none, isSome_bindings]
      exact hhas
    rw [retireField, if_neg hhas, if_neg hhas, hunbound]
    exact ⟨rfl, rfl⟩

theorem deprecatedFields_other (happlication : type ≠ "juju_application".toList)
    (hmachine : type ≠ "juju_machine".toList) :
    deprecatedFields type = [] := by
  unfold deprecatedFields
  cases htype : ResourceType.ofName? type with
  | none => rfl
  | some t =>
      have hname : t.name = type := by simpa using List.find?_some htype
      cases t with
      | application => exact absurd hname.symm happlication
      | machine => exact absurd hname.symm hmachine
      | _ => rfl

theorem retireFields_single (type label : Text) (f : DeprecatedField) (body : Body) :
    retireFields type label [f] body = retireField type label body f := by
  rw [retireFields_cons, retireFields]
  exact Prod.ext rfl (notes_append_empty _)

theorem bindings_seriesToBase (type label : Text) (h : (names body).Nodup) :
    bindings (retireField type label body ResourceType.seriesToBase).1 =
        (match bindings body "series".toList with
        | some expr => (bindings body).move "series".toList "base".toList expr
        | none => bindings body) ∧
      (retireField type label body ResourceType.seriesToBase).2.changes =
        if (bindings body "series".toList).isSome then
          [.renamedField type label "series".toList "base".toList] else [] :=
  bindings_replace type label h (by decide)

theorem nodup_retireFields (type label : Text) {fields : List DeprecatedField}
    (hf : ∀ f ∈ fields, f.fate ≠ .rename f.name)
    (h : (names body).Nodup) : (names (retireFields type label fields body).1).Nodup := by
  induction fields generalizing body with
  | nil => exact h
  | cons f fs ih =>
      rw [retireFields_cons]
      exact ih (fun g hg => hf g (List.mem_cons_of_mem f hg)) (settled_retired type label (hf f List.mem_cons_self) h).2

theorem deprecatedFields_fate (type : Text) : ∀ f ∈ deprecatedFields type, f.fate ≠ .rename f.name := by
  rcases deprecatedFields_cases type with h | h | h <;> rw [h] <;> decide

theorem bindings_retireFields (type label : Text) (h : (names body).Nodup) :
    bindings (retireFields type label (deprecatedFields type) body).1 = (bindings body).retire type ∧
      (retireFields type label (deprecatedFields type) body).2.changes = (bindings body).retirements type label := by
  have happlied : deprecatedFields "juju_application".toList =
      [⟨"placement".toList, .review "machines".toList⟩, ⟨"principal".toList, .remove⟩, ResourceType.seriesToBase] := by
    decide
  have hmachines : deprecatedFields "juju_machine".toList = [ResourceType.seriesToBase] := by decide
  have htypes : "juju_machine".toList ≠ "juju_application".toList := by decide
  by_cases happlication : type = "juju_application".toList
  · obtain ⟨hreview, hnone⟩ : (retireField type label body ⟨"placement".toList, .review "machines".toList⟩).1 = body ∧
        (retireField type label body ⟨"placement".toList, .review "machines".toList⟩).2.changes = [] := by
      unfold retireField
      split <;> exact ⟨rfl, rfl⟩
    obtain ⟨hdrop, hremoved⟩ := bindings_remove type label h "principal".toList
    have hdistinct : (names (retireField type label body ⟨"principal".toList, .remove⟩).1).Nodup :=
      (settled_retired type label (by simp) h).2
    obtain ⟨hmove, hrenamed⟩ := bindings_seriesToBase type label hdistinct
    have hseries : (bindings body).drop "principal".toList "series".toList = bindings body "series".toList :=
      Bindings.drop_of_ne (by decide)
    rw [hdrop, hseries] at hmove hrenamed
    rw [show deprecatedFields type = _ from happlication ▸ happlied, retireFields_cons, changes_append, hreview, hnone,
      List.nil_append, retireFields_cons, changes_append, retireFields_single]
    refine ⟨?_, ?_⟩
    · rw [hmove, Bindings.retire]
      simp only [happlication, true_or, if_true]
    · rw [hremoved, hrenamed, Bindings.retirements]
      simp only [happlication, true_or, true_and]
  · by_cases hmachine : type = "juju_machine".toList
    · obtain ⟨hmove, hrenamed⟩ := bindings_seriesToBase type label h
      rw [show deprecatedFields type = _ from hmachine ▸ hmachines, retireFields_single]
      refine ⟨?_, ?_⟩
      · rw [hmove, Bindings.retire]
        simp only [hmachine, htypes, or_true, if_true, if_false]
      · rw [hrenamed, Bindings.retirements]
        simp only [hmachine, htypes, or_true, true_and, false_and, if_false, List.nil_append]
    · rw [deprecatedFields_other happlication hmachine, Bindings.retire, Bindings.retirements]
      simp only [happlication, hmachine, or_self, false_and, if_false, List.append_nil]
      exact ⟨rfl, rfl⟩

theorem upgrade_of_resource {head : BlockHead} {labels : List Text} (hkind : head.kind = "resource".toList)
    (hlabels : head.labels = type :: label :: labels) : upgrade head body = upgradeResource type label body := by
  rw [upgrade, hkind, String.ofList_toList, hlabels]
  rfl

theorem upgrade_of_data {head : BlockHead} {labels : List Text} (hkind : head.kind = "data".toList)
    (hlabels : head.labels = type :: label :: labels) : upgrade head body = upgradeDataSource type label body := by
  rw [upgrade, hkind, String.ofList_toList, hlabels]
  rfl

/-- But for a concern, a data source is upgraded by its rename alone. -/
theorem upgradeDataSource_eq (type label : Text) (body : Body) :
    (upgradeDataSource type label body).1 =
        (orUnchanged body ((dataSourceRename? type).bind (renameField? type label · body))).1 ∧
      (upgradeDataSource type label body).2.changes =
        (orUnchanged body ((dataSourceRename? type).bind (renameField? type label · body))).2.changes := by
  unfold upgradeDataSource
  cases dataSourceRename? type with
  | none => exact ⟨rfl, rfl⟩
  | some r =>
      simp only [Option.bind_some]
      cases renameField? type label r body with
      | some result => exact ⟨rfl, rfl⟩
      | none =>
          dsimp only
          split <;> exact ⟨rfl, rfl⟩

theorem resourceRename?_ne {r : FieldRename} (h : resourceRename? type = some r) : r.source ≠ r.target := by
  rw [resourceRename?_eq_some h]
  decide

theorem dataSourceRename?_ne {r : FieldRename} (h : dataSourceRename? type = some r) : r.source ≠ r.target := by
  rcases dataSourceRename?_eq_some h with rfl | rfl <;> decide

/-- A rule leaves every name once. -/
theorem nodup_upgrade (head : BlockHead) (h : (names body).Nodup) : (names (upgrade head body).1).Nodup := by
  unfold upgrade
  split
  · next type label _ _ _ =>
      exact nodup_retireFields type label (deprecatedFields_fate type)
        (nodup_orUnchanged h fun r hr => resourceRename?_ne hr)
  · next type label _ _ _ =>
      rw [(upgradeDataSource_eq type label body).1]
      exact nodup_orUnchanged h fun r hr => dataSourceRename?_ne hr
  · next label _ _ _ =>
      cases hr : rewriteOutput? label body with
      | none => exact h
      | some p =>
          obtain ⟨a, expr, -, -, -, hb⟩ := rewriteOutput?_eq_some hr
          rw [orUnchanged, hb, names_modifyFirst]
          · exact h
          · exact fun _ => rfl
  · exact h
  · cases hr : rewriteProvider? body with
    | none => exact h
    | some p =>
        obtain ⟨providers, a, -, -, -, hb⟩ := rewriteProvider?_eq_some hr
        rw [orUnchanged, hb, names, modifyFirstBlock, attributes_modifyBlock]
        exact h
  · exact h

end Body

open Body in
/-- The upgrade of a resource or a data source in which every name stands once migrates its bindings: there is one
migration of them, and it is what the upgrade leaves and what it records. No name comes to stand twice. -/
theorem Block.upgrade_migrates (b : Block) {type label : Text} {labels : List Text}
    (hkind : b.head.kind = "resource".toList ∨ b.head.kind = "data".toList)
    (hlabels : b.labels = type :: label :: labels) (hnames : (names b.body).Nodup) :
    (names b.upgrade.1.body).Nodup ∧ ∀ m changes,
      Bindings.Migrates b.head.kind type label (bindings b.body) m changes ↔
        m = bindings b.upgrade.1.body ∧ changes = b.upgrade.2.changes := by
  obtain ⟨hdistinct, hmigrates⟩ : (names b.upgrade.1.body).Nodup ∧
      Bindings.Migrates b.head.kind type label (bindings b.body) (bindings b.upgrade.1.body) b.upgrade.2.changes := by
    have hbody : b.upgrade.1.body = (Body.upgrade b.head b.body).1 := rfl
    have hnotes : b.upgrade.2 = (Body.upgrade b.head b.body).2 := rfl
    rw [hbody, hnotes]
    rcases hkind with hkind | hkind
    · have hfirst : ∀ r, resourceRename? type = some r → r.source ≠ r.target := fun r hr => resourceRename?_ne hr
      have hmid :
          (names (orUnchanged b.body ((resourceRename? type).bind (renameField? type label · b.body))).1).Nodup :=
        nodup_orUnchanged hnames hfirst
      obtain ⟨hretired, hrecorded⟩ := bindings_retireFields type label hmid
      rw [upgrade_of_resource hkind hlabels]
      refine ⟨nodup_retireFields type label (deprecatedFields_fate type) hmid, ?_⟩
      rw [upgradeResource, hretired, changes_append, hrecorded]
      exact .resource hkind (renames_orUnchanged hnames hfirst)
    · have hfirst : ∀ r, dataSourceRename? type = some r → r.source ≠ r.target := fun r hr => dataSourceRename?_ne hr
      obtain ⟨hsame, hrecorded⟩ := upgradeDataSource_eq type label b.body
      rw [upgrade_of_data hkind hlabels, hsame, hrecorded]
      exact ⟨nodup_orUnchanged hnames hfirst, .data hkind (renames_orUnchanged hnames hfirst)⟩
  refine ⟨hdistinct, fun m changes => ⟨fun h => h.unique hmigrates, ?_⟩⟩
  rintro ⟨rfl, rfl⟩
  exact hmigrates

/-- A subordinate with a model and the identifier of one, and with a base in front of its series. -/
def subordinate : Block :=
  let field (name expr : String) : Node := .attribute ⟨"  ".toList, name.toList, " = ".toList, expr.toList, ['\n'], 2⟩
  ⟨⟨[], "resource".toList, ["juju_application".toList, "a".toList], "resource juju_application a \x7b\n".toList, 1⟩,
    [field "base" "var.b", field "model" "juju_model.m[0].name", field "principal" "true", field "series" "\"jammy\"",
      field "model_uuid" "null"],
    "\x7d\n".toList⟩

open Body in
theorem Block.upgrade_migrates_subordinate :
    Bindings.Migrates "resource".toList "juju_application".toList "a".toList (bindings subordinate.body)
        (bindings subordinate.upgrade.1.body) subordinate.upgrade.2.changes ∧
      (names subordinate.upgrade.1.body).map (bindings subordinate.upgrade.1.body) =
        [some "\"jammy\"".toList, some "juju_model.m[0].uuid".toList] ∧
      subordinate.upgrade.2.changes =
        [.reference "juju_application".toList "a".toList .modelToUuid .resource,
          .removedField "juju_application".toList "a".toList "principal".toList,
          .renamedField "juju_application".toList "a".toList "series".toList "base".toList] := by
  refine ⟨?_, by decide +kernel, by decide +kernel⟩
  exact ((Block.upgrade_migrates subordinate (.inl rfl) rfl (by decide +kernel)).2 _ _).2 ⟨rfl, rfl⟩

end JujuMigration
