import JujuMigration.Proofs.Upgrade.Migration
import JujuMigration.Proofs.Upgrade.Stable
/-! One upgrade is enough. If in no body of a tree a name stands twice, then so it is in the upgraded tree, and to
upgrade that one once more changes nothing and gives every advice of the first time again, with more only for data
sources whose field has gone. -/

namespace JujuMigration

open Body

/-- In no body of the tree, at whatever depth, a name stands twice. -/
inductive Body.Unambiguous : Body → Prop
  | intro {body : Body} (hnames : (names body).Nodup) (hblocks : ∀ b ∈ blocks body, Unambiguous b.body) :
      Unambiguous body

/-- Nothing is left in a block that a rule for resources or data sources renames or retires. -/
structure Block.IsMigrated (b : Block) : Prop where
  renamed {type label : Text} {labels : List Text} {r : FieldRename} {a : Attribute}
    (hlabels : b.labels = type :: label :: labels)
    (hrule : b.head.kind = "resource".toList ∧ resourceRename? type = some r ∨
      b.head.kind = "data".toList ∧ dataSourceRename? type = some r)
    (ha : attribute? b.body r.source = some a) :
    Reference.kind a.expr ≠ .variable ∧ (Reference.kind a.expr = .modelName → Reference.upgraded? a.expr = none)
  retired {type label : Text} {labels : List Text} {f : DeprecatedField}
    (hlabels : b.labels = type :: label :: labels) (hkind : b.head.kind = "resource".toList)
    (hf : f ∈ deprecatedFields type) (hfate : ∀ replacement, f.fate ≠ .review replacement) :
    has b.body f.name = false

namespace Body

variable {type label name : Text} {body body' : Body} {fields : List DeprecatedField}

/-! ### Names -/

theorem Unambiguous.names (h : Unambiguous body) : (names body).Nodup := by
  cases h with
  | intro hnames => exact hnames

theorem Unambiguous.blocks (h : Unambiguous body) : ∀ b ∈ blocks body, Unambiguous b.body := by
  cases h with
  | intro _ hblocks => exact hblocks

/-- A rule leaves every block inside as it was, or changes an expression in one. -/
theorem unambiguous_of_framed {head : BlockHead} {closing : Text} (h : Unambiguous body)
    (hnames : (Body.names body').Nodup) (hframed : Framed (.block head body closing) (.block head body' closing)) :
    Unambiguous body' := by
  cases hframed with
  | same => exact h
  | fields _ hedited => exact ⟨hnames, by rw [blocks_edited hedited]; exact h.blocks⟩
  | @provider _ providers _ inside before behind front back a expr =>
      refine ⟨hnames, fun b hb => ?_⟩
      have hinner : Unambiguous (front ++ .attribute a :: back) := by
        refine h.blocks ⟨providers, front ++ .attribute a :: back, inside⟩ ?_
        rw [blocks_append]
        exact List.mem_append_right _ List.mem_cons_self
      rw [blocks_append] at hb
      rcases List.mem_append.1 hb with hb | hb
      · exact h.blocks b (by rw [blocks_append]; exact List.mem_append_left _ hb)
      rcases List.mem_cons.1 hb with rfl | hb
      · refine ⟨?_, ?_⟩
        · have hsame := hinner.names
          rw [names_append, names_cons_attribute] at hsame ⊢
          exact hsame
        · have hsame := hinner.blocks
          rw [blocks_append] at hsame ⊢
          exact hsame
      · exact h.blocks b (by rw [blocks_append]; exact List.mem_append_right _ (List.mem_cons_of_mem _ hb))

theorem Unambiguous.upgrade (head : BlockHead) (h : Unambiguous body) : Unambiguous (upgrade head body).1 :=
  unambiguous_of_framed h (nodup_upgrade head h.names) (framed_upgrade head body [])

/-! ### What is noted -/

/-- A field to be reviewed gives a concern as long as it is there. -/
def concern? (type label : Text) (body : Body) (f : DeprecatedField) : Option Concern :=
  match f.fate with
  | .review replacement => if has body f.name then some (.deprecatedField type label f.name replacement) else none
  | _ => none

theorem concern?_congr {f : DeprecatedField} (h : has body' f.name = has body f.name) :
    concern? type label body' f = concern? type label body f := by
  rw [concern?, concern?, h]

theorem concern?_eq_none {f : DeprecatedField} (h : ∀ replacement, f.fate ≠ .review replacement) :
    concern? type label body f = none := by
  unfold concern?
  split
  · next replacement hfate => exact absurd hfate (h replacement)
  · rfl

theorem concerns_retireField (type label : Text) (body : Body) (f : DeprecatedField) :
    (retireField type label body f).2.concerns = (concern? type label body f).toList := by
  unfold retireField concern?
  split <;> cases f.fate <;> rfl

/-- Each field to be reviewed gives its concern, if no field in front of it touches it. -/
theorem concerns_retireFields (hd : fields.Pairwise fun f g => g.name ∉ f.names) :
    (retireFields type label fields body).2.concerns = fields.filterMap (concern? type label body) := by
  induction fields generalizing body with
  | nil => rfl
  | cons f fs ih =>
      obtain ⟨hlater, hd⟩ := List.pairwise_cons.1 hd
      have hrest : fs.filterMap (concern? type label (retireField type label body f).1) =
          fs.filterMap (concern? type label body) :=
        List.filterMap_congr fun g hg =>
          concern?_congr (has_edited (edited_retireField type label body f) (hlater g hg))
      have hconcerns : (retireFields type label (f :: fs) body).2.concerns =
          (retireField type label body f).2.concerns ++
            (retireFields type label fs (retireField type label body f).1).2.concerns := rfl
      rw [hconcerns, concerns_retireField, ih hd, hrest, List.filterMap_cons]
      cases concern? type label body f <;> rfl

theorem not_mem_renamedNames {f : DeprecatedField} {replacement : Text} (hf : f ∈ deprecatedFields type)
    (hfate : f.fate = .review replacement) :
    f.name ∉ renamedNames (resourceRename? type) ++ retiredNames type := by
  obtain rfl : f = ⟨"placement".toList, .review "machines".toList⟩ := by
    rcases deprecatedFields_cases type with h | h | h <;> rw [h] at hf
    · cases hf
    · rw [List.mem_singleton.1 hf] at hfate
      cases hfate
    · simp only [List.mem_cons, List.not_mem_nil, or_false] at hf
      rcases hf with rfl | rfl | rfl
      · rfl
      · cases hfate
      · cases hfate
  rw [List.mem_append, not_or]
  constructor
  · cases hr : resourceRename? type with
    | none => exact List.not_mem_nil
    | some r =>
        rw [resourceRename?_eq_some hr]
        decide
  · unfold retiredNames
    split
    · decide
    split <;> decide

/-- What the rules for a resource change leaves every concern as it was. -/
theorem concern?_edited {f : DeprecatedField} (hf : f ∈ deprecatedFields type)
    (h : Edited (renamedNames (resourceRename? type) ++ retiredNames type) body body') :
    concern? type label body' f = concern? type label body f := by
  by_cases hfate : ∃ replacement, f.fate = .review replacement
  · obtain ⟨replacement, hfate⟩ := hfate
    exact concern?_congr (has_edited h (not_mem_renamedNames hf hfate))
  · rw [concern?_eq_none (not_exists.1 hfate), concern?_eq_none (not_exists.1 hfate)]

theorem concerns_orUnchanged (body : Body) (result : Option (Body × Change)) :
    (orUnchanged body result).2.concerns = [] := by
  cases result <;> rfl

theorem concerns_upgradeResource (type label : Text) (body : Body) :
    (upgradeResource type label body).2.concerns =
      (deprecatedFields type).filterMap (concern? type label body) := by
  have hapart : (deprecatedFields type).Pairwise fun f g => g.name ∉ f.names := by
    rcases deprecatedFields_cases type with h | h | h <;> rw [h] <;> decide
  have hrenamed : Edited (renamedNames (resourceRename? type) ++ retiredNames type) body _ :=
    (edited_resourceRename type label body).mono fun t ht => List.mem_append_left _ ht
  have hconcerns : (upgradeResource type label body).2.concerns =
      (orUnchanged body ((resourceRename? type).bind (renameField? type label · body))).2.concerns ++
        (retireFields type label (deprecatedFields type)
          (orUnchanged body ((resourceRename? type).bind (renameField? type label · body))).1).2.concerns := rfl
  rw [hconcerns, concerns_orUnchanged, List.nil_append, concerns_retireFields hapart]
  exact List.filterMap_congr fun f hf => concern?_edited hf hrenamed

/-! ### The second upgrade of a block -/

theorem orUnchanged_of_changes {result : Option (Body × Change)} (h : (orUnchanged body result).2.changes = []) :
    (orUnchanged body result).1 = body := by
  rw [changes_orUnchanged.1 h]
  rfl

theorem retireFields_of_changes (h : (retireFields type label fields body).2.changes = []) :
    (retireFields type label fields body).1 = body := by
  induction fields with
  | nil => rfl
  | cons f fs ih =>
      rw [retireFields_cons, changes_append, List.append_eq_nil_iff] at h
      obtain ⟨hfirst, hrest⟩ := h
      rw [retireField_of_changes hfirst] at hrest
      rw [retireFields_cons, retireField_of_changes hfirst]
      exact ih hrest

theorem upgradeResource_of_changes (h : (upgradeResource type label body).2.changes = []) :
    (upgradeResource type label body).1 = body := by
  obtain ⟨hrename, hretired⟩ :
      (orUnchanged body ((resourceRename? type).bind (renameField? type label · body))).2.changes = [] ∧
        (retireFields type label (deprecatedFields type)
          (orUnchanged body ((resourceRename? type).bind (renameField? type label · body))).1).2.changes = [] :=
    List.append_eq_nil_iff.1 h
  rw [orUnchanged_of_changes hrename] at hretired
  rw [upgradeResource]
  dsimp only
  rw [orUnchanged_of_changes hrename]
  exact retireFields_of_changes hretired

/-- An upgrade that records no change leaves the body. -/
theorem upgrade_of_changes {head : BlockHead} (h : (upgrade head body).2.changes = []) :
    (upgrade head body).1 = body := by
  unfold upgrade at h ⊢
  split at h
  · exact upgradeResource_of_changes h
  · next type label _ _ _ =>
      obtain ⟨hbody, hchanges⟩ := upgradeDataSource_eq type label body
      rw [hchanges] at h
      rw [hbody]
      exact orUnchanged_of_changes h
  · exact orUnchanged_of_changes h
  · rfl
  · exact orUnchanged_of_changes h
  · rfl

/-- A data source that is noted has not been changed. -/
theorem upgradeDataSource_of_concerns (h : (upgradeDataSource type label body).2.concerns ≠ []) :
    (upgradeDataSource type label body).1 = body := by
  unfold upgradeDataSource at h ⊢
  split
  · rfl
  · next r hr =>
      rw [hr] at h
      dsimp only at h ⊢
      split at h
      · exact absurd rfl h
      · next hnone => split <;> rfl

/-- A second upgrade of a block gives every concern of the first again. -/
theorem concerns_upgrade (head : BlockHead) (body : Body) :
    List.Sublist (upgrade head body).2.concerns (upgrade head (upgrade head body).1).2.concerns := by
  unfold upgrade
  split
  · next type label _ _ _ =>
      change List.Sublist _ (upgradeResource type label (upgradeResource type label body).1).2.concerns
      have hsame : (deprecatedFields type).filterMap (concern? type label (upgradeResource type label body).1) =
          (deprecatedFields type).filterMap (concern? type label body) :=
        List.filterMap_congr fun f hf => concern?_edited hf (edited_upgradeResource type label body)
      rw [concerns_upgradeResource, concerns_upgradeResource, hsame]
  · next type label _ _ _ =>
      change List.Sublist _ (upgradeDataSource type label (upgradeDataSource type label body).1).2.concerns
      by_cases h : (upgradeDataSource type label body).2.concerns = []
      · rw [h]
        exact List.nil_sublist _
      · rw [upgradeDataSource_of_concerns h]
  · rw [concerns_orUnchanged]
    exact List.nil_sublist _
  · exact List.Sublist.refl _
  · rw [concerns_orUnchanged]
    exact List.nil_sublist _
  · exact List.Sublist.refl _

/-- In a settled block nothing is left to migrate. -/
theorem isMigrated_of_settled {b : Block} (h : Settled b.head b.body) : b.IsMigrated := by
  constructor
  · intro type label labels r a hlabels hrule ha
    have hsettled : r.Settled b.body := by
      rw [Block.labels] at hlabels
      rcases hrule with ⟨hkind, hr⟩ | ⟨hkind, hr⟩
      · rw [Settled, hkind, String.ofList_toList, hlabels] at h
        exact h.1 r hr
      · rw [Settled, hkind, String.ofList_toList, hlabels] at h
        exact h r hr
    refine ⟨fun hkind => hsettled a ha none (.kept hkind), fun hkind => ?_⟩
    cases hupgraded : Reference.upgraded? a.expr with
    | none => rfl
    | some expr => exact absurd (.reference hkind hupgraded) (hsettled a ha (some expr))
  · intro type label labels f hlabels hkind hf hfate
    rw [Block.labels] at hlabels
    rw [Settled, hkind, String.ofList_toList, hlabels] at h
    exact h.2 f hf hfate

end Body

/-! ### The second upgrade of a tree -/

namespace Document

open Body

variable {nodes : Body}

theorem names_upgradeNodes (d : Document) (nodes : Body) : names (d.upgradeNodes nodes).1 = names nodes := by
  induction nodes with
  | nil => rfl
  | cons n ns ih =>
      rcases n with _ | a | _
      · exact ih
      · exact congrArg (a.name :: ·) ih
      · exact ih

/-- The upgrade of a tree that records no change leaves the tree. -/
theorem upgradeNodes_of_changes (d : Document) (h : (d.upgradeNodes nodes).2.changes = []) :
    (d.upgradeNodes nodes).1 = nodes := by
  induction nodes with
  | nil => rfl
  | cons n ns ih =>
      obtain ⟨hfirst, hrest⟩ : (d.upgradeNode n).2.changes = [] ∧ (d.upgradeNodes ns).2.changes = [] :=
        List.append_eq_nil_iff.1 h
      have hnode : (d.upgradeNode n).1 = n := by
        rcases n with _ | _ | ⟨head, body, closing⟩
        · rfl
        · rfl
        · exact congrArg (Node.block head · closing) (upgrade_of_changes hfirst)
      exact congrArg₂ List.cons hnode (ih hrest)

/-- Upgrading a node once more gives every advice again. -/
theorem advice_upgradeNode (d : Document) (n : Node) :
    List.Sublist (d.upgradeNode n).2.advice (d.upgradeNode (d.upgradeNode n).1).2.advice := by
  rcases n with _ | _ | ⟨head, body, closing⟩
  · exact List.Sublist.refl _
  · exact List.Sublist.refl _
  · exact (concerns_upgrade head body).map (Advice.mk d.file (d.lineOf ⟨head, body, closing⟩))

theorem advice_upgradeNodes (d : Document) (nodes : Body) :
    List.Sublist (d.upgradeNodes nodes).2.advice (d.upgradeNodes (d.upgradeNodes nodes).1).2.advice := by
  induction nodes with
  | nil => exact List.Sublist.refl _
  | cons n ns ih => exact (d.advice_upgradeNode n).append ih

theorem unambiguous_upgradeNodes (d : Document) (h : Unambiguous nodes) : Unambiguous (d.upgradeNodes nodes).1 := by
  refine ⟨by rw [names_upgradeNodes]; exact h.names, ?_⟩
  rw [blocks_upgradeNodes, List.forall_mem_map]
  exact fun b hb => (h.blocks b hb).upgrade b.head

theorem settled_upgradeNodes (d : Document) (h : Unambiguous nodes) :
    ∀ b ∈ blocks (d.upgradeNodes nodes).1, Settled b.head b.body := by
  rw [blocks_upgradeNodes, List.forall_mem_map]
  exact fun b hb => settled_upgrade b.head (h.blocks b hb).names

/-- The upgrade of a tree in which no name stands twice in a body is its own upgrade: a second one records no change and
gives every advice again. No name has come to stand twice, and no block has anything left to migrate. -/
theorem upgradeNodes_normal (d : Document) {nodes once twice : Body} {first second : Record}
    (hfirst : d.upgradeNodes nodes = (once, first)) (hsecond : d.upgradeNodes once = (twice, second))
    (h : Unambiguous nodes) :
    twice = once ∧ second.changes = [] ∧ List.Sublist first.advice second.advice ∧ Unambiguous once ∧
      ∀ b ∈ blocks once, b.IsMigrated := by
  obtain ⟨rfl, rfl⟩ : (d.upgradeNodes nodes).1 = once ∧ (d.upgradeNodes nodes).2 = first := Prod.mk.inj hfirst
  obtain ⟨rfl, rfl⟩ := Prod.mk.inj hsecond
  have hsettled := d.settled_upgradeNodes h
  have hnone := (changes_upgradeNodes d _).2 hsettled
  exact ⟨d.upgradeNodes_of_changes hnone, hnone, d.advice_upgradeNodes nodes, d.unambiguous_upgradeNodes h,
    fun b hb => isMigrated_of_settled (hsettled b hb)⟩

/-- A data source that goes by a variable, and an application with a block inside that has two fields of its own. -/
def unmigrated : Document :=
  let field (name expr : String) : Node := .attribute ⟨"  ".toList, name.toList, " = ".toList, expr.toList, ['\n'], 2⟩
  let units : Node := .block ⟨[], "units".toList, [], "units \x7b\n".toList, 6⟩ [field "series" "1", field "base" "2"]
    "\x7d\n".toList
  ⟨[], [],
    [.block ⟨[], "data".toList, ["juju_model".toList, "m".toList], "data juju_model m \x7b\n".toList, 1⟩
      [field "name" "var.m"] "\x7d\n".toList, .gap ['\n'],
    .block ⟨[], "resource".toList, ["juju_application".toList, "a".toList],
      "resource juju_application a \x7b\n".toList, 5⟩
      [field "model" "data.juju_model.m.name", field "placement" "\"0\"", field "base" "\"x\"", units,
        field "series" "\"jammy\""] "\x7d\n".toList], []⟩

theorem unambiguous_unmigrated : Unambiguous unmigrated.body := by
  have leaf {body : Body} (hnames : (names body).Nodup) (hnone : blocks body = []) : Unambiguous body :=
    ⟨hnames, by rw [hnone]; exact nofun⟩
  refine ⟨by decide, ?_⟩
  rintro b (_ | ⟨_, _ | ⟨_, ⟨⟩⟩⟩)
  · exact leaf (by decide) rfl
  · refine ⟨by decide, ?_⟩
    rintro b (_ | ⟨_, ⟨⟩⟩)
    exact leaf (by decide) rfl

theorem upgradeNodes_normal_unmigrated :
    let once := unmigrated.upgradeNodes unmigrated.body
    let twice := unmigrated.upgradeNodes once.1
    once.2.changes.length = 3 ∧ twice.1 = once.1 ∧ twice.2.changes = [] ∧
      once.2.advice.map Advice.concern =
        [.deprecatedField "juju_application".toList "a".toList "placement".toList "machines".toList] ∧
      twice.2.advice.map Advice.concern = [.dataSource "juju_model".toList,
        .deprecatedField "juju_application".toList "a".toList "placement".toList "machines".toList] := by
  obtain ⟨htwice, hnone, -⟩ := unmigrated.upgradeNodes_normal rfl rfl unambiguous_unmigrated
  exact ⟨by decide +kernel, htwice, hnone, by decide +kernel, by decide +kernel⟩

end Document
end JujuMigration
