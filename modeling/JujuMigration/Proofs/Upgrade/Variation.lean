import JujuMigration.Proofs.Rules.Comment
import JujuMigration.Proofs.Upgrade.Frame
/-! The upgrade of bodies that vary in comments. Where the rules read the expressions that they look at alike, every
rule makes the same changes, and what it makes of the bodies varies again; a comment is lost only with an attribute
that is dropped or overwritten. -/

namespace JujuMigration

open Source Reference VersionConstraint

variable {c c' : Text}

/-! ### What the rules read -/

/-- The field whose text decides what becomes of a block. -/
def BlockHead.referenceField? (head : BlockHead) : Option Text :=
  match String.ofList head.kind, head.labels with
  | "resource", type :: _ :: _ => (resourceRename? type).map FieldRename.source
  | "data", type :: _ :: _ => (dataSourceRename? type).map FieldRename.source
  | "output", _ :: _ => some "value".toList
  | _, _ => none

/-- The text of the expression that decides what becomes of a block. -/
def Block.reference? (b : Block) : Option Text :=
  b.head.referenceField?.bind fun field => (Body.attribute? b.body field).map (·.expr)

/-- The text in which the version of the provider is looked for. -/
def Block.requirement? (b : Block) : Option Text :=
  if b.head.kind = "terraform".toList then
    (Body.block? b.body "required_providers".toList).bind fun providers =>
      (Body.attribute? providers.body "juju".toList).map (·.expr)
  else none

/-- The rules read the two blocks alike: the expression that may refer to a model, and the requirement of the provider,
in which no constraint may reach into the comment. -/
structure ReadAlike (c c' : Text) (b b' : Block) : Prop where
  reference : ∀ e e', b.reference? = some e → b'.reference? = some e' → reading e' = reading e
  requirement : ∀ e e' u v, b.requirement? = some e → b'.requirement? = some e' → e = u ++ (c ++ v) →
    e' = u ++ (c' ++ v) → Spares u c v ∧ Spares u c' v

/-! ### What the rules drop -/

namespace Body

/-- The names of the attributes that the rename of a field makes one of. -/
def mergedByRename (type name : Text) (rule : Option FieldRename) (body : Body) : List Text :=
  rule.elim [] fun r => if (renameField? type name r body).isSome then mergedNames r.source r.target body else []

/-- The names of the attributes that retiring a field drops or gives another expression. -/
def lostByField (body : Body) (field : DeprecatedField) : List Text :=
  match field.fate with
  | .review _ => []
  | .remove => [field.name]
  | .rename replacement => mergedNames field.name replacement body

/-- The names of the attributes that the upgrade of a block drops or whose expressions it overwrites with another's. -/
def lostNames (head : BlockHead) (body : Body) : List Text :=
  match String.ofList head.kind, head.labels with
  | "resource", type :: name :: _ =>
    mergedByRename type name (resourceRename? type) body ++ (deprecatedFields type).flatMap (lostByField body)
  | "data", type :: name :: _ => mergedByRename type name (dataSourceRename? type) body
  | _, _ => []

variable {k : Nat} {body body' : Body} {type label : Text}

theorem lostByField_subset (f : DeprecatedField) (body : Body) : ∀ t ∈ lostByField body f, t ∈ f.names := by
  obtain ⟨field, fate⟩ := f
  intro t ht
  cases fate with
  | review replacement => cases ht
  | remove => exact ht
  | rename replacement => exact mergedNames_subset field replacement body t ht

/-- What retiring a field loses depends on no other names than its own. -/
theorem lostByField_edited {edited : List Text} {f : DeprecatedField} (he : Edited edited body body')
    (hf : ∀ t ∈ f.names, t ∉ edited) : lostByField body' f = lostByField body f := by
  obtain ⟨field, fate⟩ := f
  cases fate with
  | review replacement => rfl
  | remove => rfl
  | rename replacement =>
      have hhas {t : Text} (ht : t ∈ [field, replacement]) : has body' t = has body t := by
        rw [has, has, attribute?_edited he (hf t ht)]
      show mergedNames field replacement body' = mergedNames field replacement body
      rw [mergedNames, mergedNames, hhas List.mem_cons_self, hhas (List.mem_cons_of_mem _ (List.mem_singleton_self _))]

theorem lostByFields_edited {edited : List Text} {fields : List DeprecatedField} (he : Edited edited body body')
    (hf : ∀ f ∈ fields, ∀ t ∈ f.names, t ∉ edited) :
    fields.flatMap (lostByField body') = fields.flatMap (lostByField body) ∧
      ∀ t ∈ fields.flatMap (lostByField body), t ∉ edited := by
  constructor
  · exact List.flatMap_congr fun f hmem => lostByField_edited he (hf f hmem)
  · intro t ht
    obtain ⟨f, hmem, htf⟩ := List.mem_flatMap.1 ht
    exact hf f hmem t (lostByField_subset f body t htf)

theorem pairwise_deprecatedFields (type : Text) :
    (deprecatedFields type).Pairwise fun f g => ∀ t ∈ g.names, t ∉ f.names := by
  rcases deprecatedFields_cases type with h | h | h <;> rw [h] <;> decide

/-- No retired field goes by a name of the rename of a resource's field. -/
theorem names_ne_modelToUuid (type : Text) : ∀ f ∈ deprecatedFields type, ∀ t ∈ f.names,
    t ∉ [FieldRename.modelToUuid.source, FieldRename.modelToUuid.target] := by
  rcases deprecatedFields_cases type with h | h | h <;> rw [h] <;> decide

/-! ### Rules on bodies that vary -/

/-- The same changes are made in the bodies, what comes out varies again, and a comment is lost only with an attribute
that has one of these names. -/
def ChangedAlike (c c' : Text) (names : List Text) (k : Nat) (body body' : Body) (result result' : Body × Notes) :
    Prop :=
  result'.2.changes = result.2.changes ∧ ∃ k', Varies c c' k' result.1 result'.1 ∧ Leaves c c' names body body' k k'

theorem Varies.unchanged (h : Varies c c' k body body') (names : List Text) {notes notes' : Notes}
    (hnotes : notes'.changes = notes.changes) :
    ChangedAlike c c' names k body body' (body, notes) (body', notes') :=
  ⟨hnotes, k, h, .inl rfl⟩

/-- One change after the other, of attributes with other names. -/
theorem ChangedAlike.andThen {names names' edited : List Text} {result result' next next' : Body × Notes}
    (h : ChangedAlike c c' names k body body' result result')
    (hnext : ∀ k', Varies c c' k' result.1 result'.1 → ChangedAlike c c' names' k' result.1 result'.1 next next')
    (he : Edited edited body result.1) (he' : Edited edited body' result'.1) (hn : ∀ t ∈ names', t ∉ edited) :
    ChangedAlike c c' (names ++ names') k body body' (next.1, result.2 ++ next.2) (next'.1, result'.2 ++ next'.2) := by
  obtain ⟨hchanges, k₁, hvaries₁, hleaves₁⟩ := h
  obtain ⟨hchanges', k₂, hvaries₂, hleaves₂⟩ := hnext k₁ hvaries₁
  refine ⟨by rw [changes_append, changes_append, hchanges, hchanges'], k₂, hvaries₂, ?_⟩
  have hfront := hleaves₁.mono fun t (ht : t ∈ names) => List.mem_append_left names' ht
  have hback := (hleaves₂.of_edited he he' hn).mono fun t (ht : t ∈ names') => List.mem_append_right names ht
  exact hfront.trans hback

theorem renameField?_of_rewritten {r : FieldRename} {a : Attribute} {referent : Referent} {u : Text}
    (ha : attribute? body r.source = some a) (hreading : reading a.expr = .rewritten referent)
    (hu : Reference.upgraded? a.expr = some u) :
    renameField? type label r body = (renameAttribute? r.source r.target (some u) body).bind fun renamed =>
      some (renamed, Change.reference type label r referent) := by
  obtain ⟨hkind, hreferent, -⟩ := of_reading_rewritten hreading
  rw [renameField?, ha]
  simp only [Option.bind_eq_bind, Option.bind_some, hkind, hu, hreferent]

theorem renameField?_of_kept {r : FieldRename} {a : Attribute} (ha : attribute? body r.source = some a)
    (hreading : reading a.expr = .kept) :
    renameField? type label r body = (renameAttribute? r.source r.target none body).bind fun renamed =>
      some (renamed, Change.variable type label r) := by
  rw [renameField?, ha]
  simp only [Option.bind_eq_bind, Option.bind_some, of_reading_kept hreading]

theorem renameField?_of_untouched {r : FieldRename} {a : Attribute} (ha : attribute? body r.source = some a)
    (hreading : reading a.expr = .untouched) : renameField? type label r body = none := by
  obtain ⟨hkind, hnone⟩ := of_reading_untouched hreading
  rw [renameField?, ha]
  cases hname : Reference.kind a.expr with
  | modelName => simp only [Option.bind_eq_bind, Option.bind_some, hname, hnone hname, Option.bind_none]
  | «variable» => exact absurd hname hkind
  | other => simp only [Option.bind_eq_bind, Option.bind_some, hname]

theorem Varies.renameField (h : Varies c c' k body body') (hs : SameStyle c c') {r : FieldRename}
    (hread : ∀ a a', attribute? body r.source = some a → attribute? body' r.source = some a' →
      reading a'.expr = reading a.expr) :
    (renameField? type label r body = none ∧ renameField? type label r body' = none) ∨
      ∃ renamed renamed' change k', renameField? type label r body = some (renamed, change) ∧
        renameField? type label r body' = some (renamed', change) ∧ Varies c c' k' renamed renamed' ∧
        Leaves c c' (mergedNames r.source r.target body) body body' k k' := by
  rcases h.pairs r.source with ⟨hl, hr⟩ | ⟨i, j, a, a', hp⟩
  · left
    rw [renameField?, renameField?, hl, hr]
    exact ⟨rfl, rfl⟩
  · have hreading' := hread a a' hp.left hp.right
    cases hreading : reading a.expr with
    | rewritten referent =>
        right
        rw [hreading] at hreading'
        obtain ⟨-, -, u, hu⟩ := of_reading_rewritten hreading
        obtain ⟨-, -, u', hu'⟩ := of_reading_rewritten hreading'
        have hvalue : ExpressionVaries c c' i u u' := hp.varies.expr.upgraded? hs hu hu'
        obtain ⟨renamed, renamed', k', hb, hb', hrenamed⟩ := hp.rename (some u) (some u') h hvalue
        rw [renameField?_of_rewritten hp.left hreading hu, renameField?_of_rewritten hp.right hreading' hu', hb, hb']
        exact ⟨renamed, renamed', _, k', rfl, rfl, hrenamed⟩
    | kept =>
        right
        rw [hreading] at hreading'
        obtain ⟨renamed, renamed', k', hb, hb', hrenamed⟩ := hp.rename none none h hp.varies.expr
        rw [renameField?_of_kept hp.left hreading, renameField?_of_kept hp.right hreading', hb, hb']
        exact ⟨renamed, renamed', _, k', rfl, rfl, hrenamed⟩
    | untouched =>
        left
        rw [hreading] at hreading'
        exact ⟨renameField?_of_untouched hp.left hreading, renameField?_of_untouched hp.right hreading'⟩

/-- The rename of a field, or none. -/
theorem Varies.renameRule (type label : Text) (h : Varies c c' k body body') (hs : SameStyle c c')
    {rule : Option FieldRename}
    (hread : ∀ r a a', rule = some r → attribute? body r.source = some a → attribute? body' r.source = some a' →
      reading a'.expr = reading a.expr) :
    ChangedAlike c c' (mergedByRename type label rule body) k body body'
      (orUnchanged body (rule.bind (renameField? type label · body)))
      (orUnchanged body' (rule.bind (renameField? type label · body'))) := by
  cases rule with
  | none => exact h.unchanged _ rfl
  | some r =>
      rw [Option.bind_some, Option.bind_some, mergedByRename, Option.elim_some]
      rcases h.renameField hs fun a a' => hread r a a' rfl with
        ⟨hl, hr⟩ | ⟨renamed, renamed', change, k', hl, hr, hrenamed⟩
      · rw [hl, hr]
        exact h.unchanged _ rfl
      · rw [hl, hr]
        exact ⟨rfl, k', hrenamed⟩

theorem Varies.retire (type label : Text) (h : Varies c c' k body body') (f : DeprecatedField) :
    ChangedAlike c c' (lostByField body f) k body body' (retireField type label body f)
      (retireField type label body' f) := by
  obtain ⟨field, fate⟩ := f
  unfold retireField
  simp only [h.has_eq]
  split
  · next hhas =>
      obtain ⟨i, j, a, a', hp⟩ : ∃ i j a a', Pairs c c' field k body body' i j a a' := by
        apply (h.pairs field).resolve_left
        rintro ⟨hl, -⟩
        rw [has, hl] at hhas
        cases hhas
      cases fate with
      | review replacement => exact h.unchanged _ rfl
      | remove =>
          refine ⟨rfl, ?_⟩
          rw [removeAttribute?_eq, removeAttribute?_eq, hp.left, hp.right]
          exact hp.drop
      | rename replacement =>
          obtain ⟨renamed, renamed', k', hl, hr, hrenamed⟩ := hp.rename none none h hp.varies.expr
          dsimp only
          rw [hl, hr]
          exact ⟨rfl, k', hrenamed⟩
  · exact h.unchanged _ rfl

theorem Varies.retireAll (type label : Text) {fields : List DeprecatedField} (h : Varies c c' k body body')
    (hpair : fields.Pairwise fun f g => ∀ t ∈ g.names, t ∉ f.names) :
    ChangedAlike c c' (fields.flatMap (lostByField body)) k body body' (retireFields type label fields body)
      (retireFields type label fields body') := by
  induction fields generalizing body body' k with
  | nil => exact h.unchanged _ rfl
  | cons f fs ih =>
      obtain ⟨hapart, hpair⟩ := List.pairwise_cons.1 hpair
      have hedited := edited_retireField type label body f
      obtain ⟨hlost, hnames⟩ := lostByFields_edited hedited hapart
      rw [retireFields_cons, retireFields_cons, List.flatMap_cons]
      apply (h.retire type label f).andThen _ hedited (edited_retireField type label body' f) hnames
      intro k' h'
      rw [← hlost]
      exact ih h' hpair

theorem Varies.resource (h : Varies c c' k body body') (hs : SameStyle c c')
    (hread : ∀ r a a', resourceRename? type = some r → attribute? body r.source = some a →
      attribute? body' r.source = some a' → reading a'.expr = reading a.expr) :
    ChangedAlike c c' (mergedByRename type label (resourceRename? type) body ++
        (deprecatedFields type).flatMap (lostByField body)) k body body' (upgradeResource type label body)
      (upgradeResource type label body') := by
  have hedited (b : Body) : Edited [FieldRename.modelToUuid.source, FieldRename.modelToUuid.target] b
      (orUnchanged b ((resourceRename? type).bind (renameField? type label · b))).1 := by
    apply edited_orUnchanged
    intro renamed change hr
    obtain ⟨r, hr, hrenamed⟩ := Option.bind_eq_some_iff.1 hr
    obtain rfl := resourceRename?_eq_some hr
    exact edited_renameField? hrenamed
  obtain ⟨hlost, hnames⟩ := lostByFields_edited (hedited body) (names_ne_modelToUuid type)
  apply (h.renameRule type label hs hread).andThen _ (hedited body) (hedited body') hnames
  intro k' h'
  rw [← hlost]
  exact h'.retireAll type label (pairwise_deprecatedFields type)

theorem Varies.dataSource (h : Varies c c' k body body') (hs : SameStyle c c')
    (hread : ∀ r a a', dataSourceRename? type = some r → attribute? body r.source = some a →
      attribute? body' r.source = some a' → reading a'.expr = reading a.expr) :
    ChangedAlike c c' (mergedByRename type label (dataSourceRename? type) body) k body body'
      (upgradeDataSource type label body) (upgradeDataSource type label body') := by
  unfold upgradeDataSource
  cases hrule : dataSourceRename? type with
  | none => exact h.unchanged _ rfl
  | some r =>
      rw [hrule] at hread
      rcases h.renameField hs fun a a' => hread r a a' rfl with
        ⟨hl, hr⟩ | ⟨renamed, renamed', change, k', hl, hr, hrenamed⟩
      · -- What is left is advice at most.
        have hleft (b : Body) : ∃ notes : Notes, notes.changes = [] ∧ (if refersIn r.source b = false ∧
            Text.contains modelHint type = true then (b, Notes.ofConcern (.dataSource type)) else (b, {})) =
              (b, notes) := by
          split
          · exact ⟨_, rfl, rfl⟩
          · exact ⟨_, rfl, rfl⟩
        obtain ⟨notes, hchanges, hnotes⟩ := hleft body
        obtain ⟨notes', hchanges', hnotes'⟩ := hleft body'
        dsimp only
        rw [hl, hr]
        dsimp only
        rw [hnotes, hnotes']
        exact h.unchanged _ (hchanges'.trans hchanges.symm)
      · dsimp only
        rw [mergedByRename, Option.elim_some, hl, hr]
        exact ⟨rfl, k', hrenamed⟩

theorem rewriteOutput?_of_rewritten {a : Attribute} {referent : Referent} {u : Text}
    (ha : attribute? body "value".toList = some a) (hreading : reading a.expr = .rewritten referent)
    (hu : Reference.upgraded? a.expr = some u) :
    rewriteOutput? label body =
      some (modifyFirst "value".toList ({ · with expr := u }) body, .output label referent) := by
  obtain ⟨hkind, hreferent, -⟩ := of_reading_rewritten hreading
  unfold rewriteOutput?
  generalize "value".toList = field at ha ⊢
  simp [ha, hkind, hu, hreferent, setExpression?]

theorem rewriteOutput?_of_not_rewritten {a : Attribute} (ha : attribute? body "value".toList = some a)
    (hreading : ∀ referent, reading a.expr ≠ .rewritten referent) : rewriteOutput? label body = none := by
  rw [rewriteOutput?_eq_none]
  intro b hb hkind
  obtain rfl := Option.some.inj (ha.symm.trans hb)
  cases hr : reading a.expr with
  | rewritten referent => exact absurd hr (hreading referent)
  | kept => cases hkind.symm.trans (of_reading_kept hr)
  | untouched => exact (of_reading_untouched hr).2 hkind

theorem Varies.output (label : Text) (h : Varies c c' k body body') (hs : SameStyle c c')
    (hread : ∀ a a', attribute? body "value".toList = some a → attribute? body' "value".toList = some a' →
      reading a'.expr = reading a.expr) :
    ChangedAlike c c' [] k body body' (orUnchanged body (rewriteOutput? label body))
      (orUnchanged body' (rewriteOutput? label body')) := by
  rcases h.pairs "value".toList with ⟨hl, hr⟩ | ⟨i, j, a, a', hp⟩
  · have hnone {b : Body} (hb : attribute? b "value".toList = none) : rewriteOutput? label b = none := by
      rw [rewriteOutput?_eq_none, hb]
      intro a ha
      cases ha
    rw [hnone hl, hnone hr]
    exact h.unchanged [] rfl
  · have hreading' := hread a a' hp.left hp.right
    by_cases hrewritten : ∃ referent, reading a.expr = .rewritten referent
    · obtain ⟨referent, hreading⟩ := hrewritten
      rw [hreading] at hreading'
      obtain ⟨-, -, u, hu⟩ := of_reading_rewritten hreading
      obtain ⟨-, -, u', hu'⟩ := of_reading_rewritten hreading'
      rw [rewriteOutput?_of_rewritten hp.left hreading hu, rewriteOutput?_of_rewritten hp.right hreading' hu']
      exact ⟨rfl, k, hp.setExpression (hp.varies.expr.upgraded? hs hu hu'), .inl rfl⟩
    · have hnot := not_exists.1 hrewritten
      rw [rewriteOutput?_of_not_rewritten hp.left hnot, rewriteOutput?_of_not_rewritten hp.right (hreading' ▸ hnot)]
      exact h.unchanged [] rfl

theorem Varies.provider (h : Varies c c' k body body')
    (hread : ∀ p p' a a' u v, block? body "required_providers".toList = some p →
      block? body' "required_providers".toList = some p' → attribute? p.body "juju".toList = some a →
      attribute? p'.body "juju".toList = some a' → a.expr = u ++ (c ++ v) → a'.expr = u ++ (c' ++ v) →
      Spares u c v ∧ Spares u c' v) :
    ChangedAlike c c' [] k body body' (orUnchanged body (rewriteProvider? body))
      (orUnchanged body' (rewriteProvider? body')) := by
  unfold rewriteProvider?
  generalize "required_providers".toList = kind at hread ⊢
  generalize "juju".toList = field at hread ⊢
  rcases h.firstBlocks kind with ⟨hl, hr⟩ | ⟨p, p', i, hl, hr, hinner, hmodify⟩
  · rw [hl, hr]
    exact h.unchanged [] rfl
  · rw [hl, hr]
    simp only [Option.bind_eq_bind, Option.bind_some]
    rcases hinner.pairs field with ⟨ha, ha'⟩ | ⟨i₁, j₁, a, a', hp⟩
    · rw [ha, ha']
      exact h.unchanged [] rfl
    · have ha := hp.left
      have ha' := hp.right
      obtain ⟨hoccurs, hreplaced⟩ := hp.varies.expr.replaceZero fun u v => hread p p' a a' u v hl hr ha ha'
      simp only [ha, ha', Option.bind_some, hoccurs]
      split
      · exact h.unchanged [] rfl
      · rw [setExpression?, setExpression?, ha, ha']
        exact ⟨rfl, k, hmodify _ _ (hp.setExpression hreplaced), .inl rfl⟩

/-- Which rule a block with this head comes under, with the field that the rule reads and the names that it loses. -/
inductive UnderRule (head : BlockHead) : Prop
  | resource {type name : Text} (hrule : ∀ body, Body.upgrade head body = upgradeResource type name body)
      (hfield : head.referenceField? = (resourceRename? type).map FieldRename.source)
      (hlost : ∀ body, lostNames head body = mergedByRename type name (resourceRename? type) body ++
        (deprecatedFields type).flatMap (lostByField body))
  | dataSource {type name : Text} (hrule : ∀ body, Body.upgrade head body = upgradeDataSource type name body)
      (hfield : head.referenceField? = (dataSourceRename? type).map FieldRename.source)
      (hlost : ∀ body, lostNames head body = mergedByRename type name (dataSourceRename? type) body)
  | output {name : Text} (hrule : ∀ body, Body.upgrade head body = orUnchanged body (rewriteOutput? name body))
      (hfield : head.referenceField? = some "value".toList)
  | provider (hkind : head.kind = "terraform".toList)
      (hrule : ∀ body, Body.upgrade head body = orUnchanged body (rewriteProvider? body))
  | unchanged (hrule : ∀ body, (Body.upgrade head body).1 = body ∧ (Body.upgrade head body).2.changes = [])

theorem underRule (head : BlockHead) : UnderRule head := by
  have hsplit : (∃ type name rest, String.ofList head.kind = "resource" ∧ head.labels = type :: name :: rest) ∨
      (∃ type name rest, String.ofList head.kind = "data" ∧ head.labels = type :: name :: rest) ∨
      (∃ name rest, String.ofList head.kind = "output" ∧ head.labels = name :: rest) ∨
      String.ofList head.kind = "terraform" ∨
      ∀ body, (Body.upgrade head body).1 = body ∧ (Body.upgrade head body).2.changes = [] := by
    unfold Body.upgrade
    split
    · next type name rest hkind hlabels => exact .inl ⟨type, name, rest, hkind, hlabels⟩
    · next type name rest hkind hlabels => exact .inr (.inl ⟨type, name, rest, hkind, hlabels⟩)
    · next name rest hkind hlabels => exact .inr (.inr (.inl ⟨name, rest, hkind, hlabels⟩))
    · next name rest hkind hlabels =>
        refine .inr (.inr (.inr (.inr fun body => ⟨rfl, ?_⟩)))
        show (reviewVariable name body).changes = []
        unfold reviewVariable
        split <;> rfl
    · next hkind => exact .inr (.inr (.inr (.inl hkind)))
    · exact .inr (.inr (.inr (.inr fun _ => ⟨rfl, rfl⟩)))
  rcases hsplit with ⟨type, name, rest, hkind, hlabels⟩ | ⟨type, name, rest, hkind, hlabels⟩ |
    ⟨name, rest, hkind, hlabels⟩ | hkind | hrule
  · apply UnderRule.resource
    · intro body
      rw [Body.upgrade, hkind, hlabels]
      rfl
    · rw [BlockHead.referenceField?, hkind, hlabels]
      rfl
    · intro body
      rw [lostNames, hkind, hlabels]
      rfl
  · apply UnderRule.dataSource
    · intro body
      rw [Body.upgrade, hkind, hlabels]
      rfl
    · rw [BlockHead.referenceField?, hkind, hlabels]
      rfl
    · intro body
      rw [lostNames, hkind, hlabels]
      rfl
  · apply UnderRule.output
    · intro body
      rw [Body.upgrade, hkind, hlabels]
      rfl
    · rw [BlockHead.referenceField?, hkind, hlabels]
      rfl
  · apply UnderRule.provider
    · rw [← hkind, String.toList_ofList]
    · intro body
      rw [Body.upgrade, hkind]
      rfl
  · exact .unchanged hrule

/-- Blocks that vary in a comment and are read alike are changed alike, and only what is dropped or overwritten is
lost. -/
theorem Varies.upgraded {head head' : BlockHead} {closing closing' : Text} (h : Varies c c' k body body')
    (hs : SameStyle c c') (hhead : head' = { head with line := head'.line })
    (hread : ReadAlike c c' ⟨head, body, closing⟩ ⟨head', body', closing'⟩) :
    (Body.upgrade head' body').2.changes = (Body.upgrade head body).2.changes ∧
      ∃ k', Varies c c' k' (Body.upgrade head body).1 (Body.upgrade head' body').1 ∧
        Leaves c c' (lostNames head body) body body' k k' := by
  have hup : Body.upgrade head' body' = Body.upgrade head body' := by
    rw [hhead]
    rfl
  obtain ⟨hreference, hrequirement⟩ := hread
  have hsame : ∀ field a a', head.referenceField? = some field → attribute? body field = some a →
      attribute? body' field = some a' → reading a'.expr = reading a.expr := by
    intro field a a' hfield ha ha'
    have hfield' : head'.referenceField? = some field := by
      rw [hhead]
      exact hfield
    apply hreference
    · rw [Block.reference?, hfield, Option.bind_some, ha]
      rfl
    · rw [Block.reference?, hfield', Option.bind_some, ha']
      rfl
  rw [hup]
  cases underRule head with
  | @resource type name hrule hfield hlost =>
      rw [hlost, hrule, hrule]
      have hfields (r : FieldRename) (hr : resourceRename? type = some r) : head.referenceField? = some r.source := by
        rw [hfield, hr]
        rfl
      obtain ⟨hchanges, hvaries⟩ := h.resource hs fun r a a' hr => hsame r.source a a' (hfields r hr)
      exact ⟨hchanges, hvaries⟩
  | @dataSource type name hrule hfield hlost =>
      rw [hlost, hrule, hrule]
      have hfields (r : FieldRename) (hr : dataSourceRename? type = some r) : head.referenceField? = some r.source := by
        rw [hfield, hr]
        rfl
      obtain ⟨hchanges, hvaries⟩ := h.dataSource hs fun r a a' hr => hsame r.source a a' (hfields r hr)
      exact ⟨hchanges, hvaries⟩
  | @output name hrule hfield =>
      rw [hrule, hrule]
      obtain ⟨hchanges, k', hvaries, hleaves⟩ := h.output name hs fun a a' => hsame "value".toList a a' hfield
      exact ⟨hchanges, k', hvaries, hleaves.mono fun t ht => absurd ht List.not_mem_nil⟩
  | provider hkind hrule =>
      rw [hrule, hrule]
      have hkind' : head'.kind = "terraform".toList := by
        rw [hhead]
        exact hkind
      have hspares : ∀ p p' a a' u v, block? body "required_providers".toList = some p →
          block? body' "required_providers".toList = some p' → attribute? p.body "juju".toList = some a →
          attribute? p'.body "juju".toList = some a' → a.expr = u ++ (c ++ v) → a'.expr = u ++ (c' ++ v) →
          Spares u c v ∧ Spares u c' v := by
        intro p p' a a' u v hp hp' ha ha' he he'
        apply hrequirement a.expr a'.expr u v _ _ he he'
        · rw [Block.requirement?, if_pos hkind, hp, Option.bind_some, ha]
          rfl
        · rw [Block.requirement?, if_pos hkind', hp', Option.bind_some, ha']
          rfl
      obtain ⟨hchanges, k', hvaries, hleaves⟩ := h.provider hspares
      exact ⟨hchanges, k', hvaries, hleaves.mono fun t ht => absurd ht List.not_mem_nil⟩
  | unchanged hrule =>
      obtain ⟨hbody, hchanges⟩ := hrule body
      obtain ⟨hbody', hchanges'⟩ := hrule body'
      rw [hbody, hbody', hchanges, hchanges']
      exact ⟨rfl, k, h, .inl rfl⟩

end Body

end JujuMigration
