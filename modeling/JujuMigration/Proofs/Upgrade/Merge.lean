import JujuMigration.Proofs.Config.Commute
import JujuMigration.Proofs.Config.Names
import JujuMigration.Proofs.Upgrade.Frame
/-! What an upgraded block is read as. A field that is renamed in its place and a reference that is rewritten are read
back as they stand, whatever surrounds them. Only an attribute that takes over an expression that was not written for
it, from another attribute or from the rewriting of version constraints, need not be; if each of these is read back,
the upgraded tree is laid out as the tree was. -/

namespace JujuMigration

open Source

/-! ### Attributes that take over an expression -/

/-- The attribute of the body is given the expression `value`, which stood under another name or holds constraints that
are replaced. -/
inductive Body.TakesOver (head : BlockHead) (body : Body) : Attribute → Text → Prop
  | renamed {type label : Text} {labels : List Text} {r : FieldRename} {a b : Attribute} {expr : Option Text}
      (hrule : String.ofList head.kind = "resource" ∧ resourceRename? type = some r ∨
        String.ofList head.kind = "data" ∧ dataSourceRename? type = some r)
      (hlabels : head.labels = type :: label :: labels) (ha : attribute? body r.source = some a)
      (hr : RenameOf a.expr expr) (hb : attribute? body r.target = some b) : TakesOver head body b (expr.getD a.expr)
  | retired {type label new : Text} {labels : List Text} {f : DeprecatedField} {a b : Attribute}
      (hkind : String.ofList head.kind = "resource") (hlabels : head.labels = type :: label :: labels)
      (hf : f ∈ deprecatedFields type) (hfate : f.fate = .rename new) (ha : attribute? body f.name = some a)
      (hb : attribute? body new = some b) : TakesOver head body b a.expr
  | constraint {providers : Block} {a : Attribute} (hkind : String.ofList head.kind = "terraform")
      (hp : block? body "required_providers".toList = some providers)
      (ha : attribute? providers.body "juju".toList = some a) (hv : VersionConstraint.occursIn a.expr = true) :
      TakesOver head body a (VersionConstraint.replaceZero a.expr)

/-- The attribute of the body is given the expression `value`: it takes it over, or its own reference is rewritten. -/
inductive Body.Receives (head : BlockHead) (body : Body) : Attribute → Text → Prop
  | moved {a : Attribute} {value : Text} (h : TakesOver head body a value) : Receives head body a value
  | renamed {type label : Text} {labels : List Text} {r : FieldRename} {a : Attribute} {expr : Option Text}
      (hrule : String.ofList head.kind = "resource" ∧ resourceRename? type = some r ∨
        String.ofList head.kind = "data" ∧ dataSourceRename? type = some r)
      (hlabels : head.labels = type :: label :: labels) (ha : attribute? body r.source = some a)
      (hr : RenameOf a.expr expr) : Receives head body a (expr.getD a.expr)
  | rewritten {a : Attribute} {value : Text} (hkind : String.ofList head.kind = "output")
      (ha : attribute? body "value".toList = some a) (hu : Reference.upgraded? a.expr = some value) :
      Receives head body a value

/-- The attribute that an item is, and the text behind it. -/
def Item.attribute? : Item → Option (Attribute × Text)
  | .attribute a rest => some (a, rest)
  | .opening _ _ => none

namespace Attribute

/-- The reader takes the attribute for what it is where it stands last in a body. -/
def ReadsBack (a : Attribute) : Prop :=
  (readItem a.lead a.line (a.text ++ ['}'])).toOption.bind Item.attribute? = some (a, ['}'])

instance (a : Attribute) : Decidable a.ReadsBack := inferInstanceAs (Decidable (_ = _))

theorem readsBack_iff {a : Attribute} : a.ReadsBack ↔ a.Fits ['}'] := by
  have hitem : readItem a.lead a.line (a.text ++ ['}']) = .ok (.attribute a ['}']) ↔ a.Fits ['}'] := by
    rw [readItem_eq_attribute]
    simp
  rw [ReadsBack, ← hitem]
  cases readItem a.lead a.line (a.text ++ ['}']) with
  | error f => exact iff_of_false nofun nofun
  | ok item => cases item <;> simp [Except.toOption, Item.attribute?]

end Attribute

/-- Whatever takes over an expression in the block is read back with it. -/
def Block.MergesWell (b : Block) : Prop :=
  ∀ a value, Body.TakesOver b.head b.body a value → ({ a with expr := value } : Attribute).ReadsBack

namespace Body

variable {type label : Text} {body mid body' : Body} {fields : List DeprecatedField} {change : Change}

/-! ### The rules -/

/-- The only retired field that goes by another name. -/
theorem eq_seriesToBase {f : DeprecatedField} {new : Text} (hf : f ∈ deprecatedFields type)
    (hfate : f.fate = .rename new) : f = ResourceType.seriesToBase ∧ new = "base".toList := by
  have hall : ∀ f ∈ deprecatedFields type, f = ResourceType.seriesToBase ∨ ∀ new, f.fate ≠ .rename new := by
    rcases deprecatedFields_cases type with h | h | h <;> rw [h] <;> simp
  rcases hall f hf with rfl | hne
  · exact ⟨rfl, (Retirement.rename.inj hfate).symm⟩
  · exact absurd hfate (hne new)

section

variable {P : Attribute → Prop}
  (hrenamed : ∀ {a : Attribute} {old new : Text}, IsIdentifier new → P a → P (a.renamed old new a.expr))

include hrenamed

theorem all_renameField? {r : FieldRename} (h : body.All P) (hne : r.source ≠ r.target) (hnew : IsIdentifier r.target)
    (hplace : ∀ a expr, attribute? body r.source = some a → RenameOf a.expr expr →
      P { a with expr := expr.getD a.expr })
    (hm : ∀ a b expr, attribute? body r.source = some a → RenameOf a.expr expr → attribute? body r.target = some b →
      P { b with expr := expr.getD a.expr })
    (hr : renameField? type label r body = some (body', change)) : body'.All P := by
  obtain ⟨a, expr, ha, hof, hr⟩ := renameField?_eq_some hr
  exact h.renameAttribute? (hrenamed hnew) hne ha (hplace a expr ha hof) (fun b hb => hm a b expr ha hof hb) hr

theorem all_retireField {f : DeprecatedField} (h : body.All P)
    (hrename : ∀ new, f.fate = .rename new → f.name ≠ new ∧ IsIdentifier new)
    (hm : ∀ new a b, f.fate = .rename new → attribute? body f.name = some a → attribute? body new = some b →
      P { b with expr := a.expr }) : (retireField type label body f).1.All P := by
  have hr := retired_retireField type label body f
  generalize retireField type label body f = p at hr ⊢
  obtain ⟨body', notes⟩ := p
  cases hr with
  | absent => exact h
  | review => exact h
  | removed => exact h.dropFirst
  | @renamed new _ _ hhas hfate hr =>
      obtain ⟨a, ha⟩ := Option.isSome_iff_exists.1 hhas
      obtain ⟨hne, hnew⟩ := hrename new hfate
      refine h.renameAttribute? (hrenamed hnew) hne ha ?_ ?_ hr
      · exact h.of_attribute? ha
      · exact fun b hb => hm new a b hfate ha hb

/-- Retiring fields of different names one after the other merges the attributes that were there at the beginning. -/
theorem all_retireFields (h : mid.All P)
    (hsame : ∀ f ∈ fields, ∀ n ∈ f.names, attribute? mid n = attribute? body n)
    (hpair : fields.Pairwise fun f g => ∀ n ∈ g.names, n ∉ f.names)
    (hrename : ∀ f ∈ fields, ∀ new, f.fate = .rename new → f.name ≠ new ∧ IsIdentifier new)
    (hm : ∀ f ∈ fields, ∀ new a b, f.fate = .rename new → attribute? body f.name = some a →
      attribute? body new = some b → P { b with expr := a.expr }) : (retireFields type label fields mid).1.All P := by
  induction fields generalizing mid with
  | nil => exact h
  | cons f fs ih =>
      obtain ⟨hlater, hpair⟩ := List.pairwise_cons.1 hpair
      rw [retireFields_cons]
      refine ih ?_ ?_ hpair (fun g hg => hrename g (List.mem_cons_of_mem _ hg))
        (fun g hg => hm g (List.mem_cons_of_mem _ hg))
      · refine all_retireField hrenamed h (hrename f List.mem_cons_self) fun new a b hfate ha hb => ?_
        have hnames : f.names = [f.name, new] := by rw [DeprecatedField.names, hfate]
        rw [hsame f List.mem_cons_self _ (by simp [hnames])] at ha hb
        exact hm f List.mem_cons_self new a b hfate ha hb
      · intro g hg n hn
        rw [attribute?_edited (edited_retireField type label mid f) (hlater g hg n hn)]
        exact hsame g (List.mem_cons_of_mem _ hg) n hn

variable {head : BlockHead} (hm : ∀ a value, Receives head body a value → P { a with expr := value })

include hm

/-- What a rule for resources leaves has the property, if whatever an attribute is given does. -/
theorem all_upgradeResource (h : body.All P) {labels : List Text} (hkind : String.ofList head.kind = "resource")
    (hlabels : head.labels = type :: label :: labels) : (upgradeResource type label body).1.All P := by
  obtain ⟨hfirst, hedited⟩ :
      (orUnchanged body ((resourceRename? type).bind (renameField? type label · body))).1.All P ∧
      Edited ["model".toList, "model_uuid".toList] body
        (orUnchanged body ((resourceRename? type).bind (renameField? type label · body))).1 := by
    cases hr : (resourceRename? type).bind (renameField? type label · body) with
    | none => exact ⟨h, .refl _ _⟩
    | some p =>
        obtain ⟨r, hrule, hr⟩ := Option.bind_eq_some_iff.1 hr
        obtain rfl := resourceRename?_eq_some hrule
        have hnew : IsIdentifier FieldRename.modelToUuid.target := isIdentifier_of_all (by decide) (by decide)
        refine ⟨all_renameField? hrenamed h (by decide) hnew ?_ ?_ hr, edited_renameField? hr⟩
        · exact fun a expr ha hof => hm a _ (.renamed (.inl ⟨hkind, hrule⟩) hlabels ha hof)
        · exact fun a b expr ha hof hb => hm b _ (.moved (.renamed (.inl ⟨hkind, hrule⟩) hlabels ha hof hb))
  have hfields : (∀ f ∈ deprecatedFields type, ∀ n ∈ f.names, n ∉ ["model".toList, "model_uuid".toList]) ∧
      (deprecatedFields type).Pairwise fun f g => ∀ n ∈ g.names, n ∉ f.names := by
    rcases deprecatedFields_cases type with h | h | h <;> rw [h] <;> decide
  refine all_retireFields hrenamed hfirst (fun f hf n hn => attribute?_edited hedited (hfields.1 f hf n hn))
    hfields.2 ?_ ?_
  · intro f hf new hfate
    obtain ⟨rfl, rfl⟩ := eq_seriesToBase hf hfate
    exact ⟨by decide, isIdentifier_of_all (by decide) (by decide)⟩
  · exact fun f hf new a b hfate ha hb => hm b _ (.moved (.retired hkind hlabels hf hfate ha hb))

theorem all_upgradeDataSource (h : body.All P) {labels : List Text} (hkind : String.ofList head.kind = "data")
    (hlabels : head.labels = type :: label :: labels) : (upgradeDataSource type label body).1.All P := by
  unfold upgradeDataSource
  split
  · exact h
  · next r hrule =>
      split
      · next body' change hr =>
          have hplace : ∀ a expr, attribute? body r.source = some a → RenameOf a.expr expr →
              P { a with expr := expr.getD a.expr } :=
            fun a expr ha hof => hm a _ (.renamed (.inr ⟨hkind, hrule⟩) hlabels ha hof)
          have htake : ∀ a b expr, attribute? body r.source = some a → RenameOf a.expr expr →
              attribute? body r.target = some b → P { b with expr := expr.getD a.expr } :=
            fun a b expr ha hof hb => hm b _ (.moved (.renamed (.inr ⟨hkind, hrule⟩) hlabels ha hof hb))
          rcases dataSourceRename?_eq_some hrule with rfl | rfl
          · exact all_renameField? hrenamed h (by decide) (isIdentifier_of_all (by decide) (by decide)) hplace htake hr
          · exact all_renameField? hrenamed h (by decide) (isIdentifier_of_all (by decide) (by decide)) hplace htake hr
      · split <;> exact h

omit hrenamed in
theorem all_rewriteOutput? (h : body.All P) (hkind : String.ofList head.kind = "output") (label : Text) :
    (orUnchanged body (rewriteOutput? label body)).1.All P := by
  cases hr : rewriteOutput? label body with
  | none => exact h
  | some p =>
      obtain ⟨a, expr, ha, -, hu, hb⟩ := rewriteOutput?_eq_some hr
      rw [orUnchanged, hb]
      exact h.modifyFirst ha (hm a expr (.rewritten hkind ha hu))

end

end Body

/-! ### Trees -/

namespace Body

variable {body : Body}

/-- What an attribute is given has the property, if it holds of whatever is taken over and a reference that is rewritten
keeps it. -/
theorem Receives.preserves {P : Attribute → Prop} {head : BlockHead} {a : Attribute} {value : Text}
    (hr : Receives head body a value) (h : body.All P)
    (hreference : body.All fun a => ∀ value, Reference.upgraded? a.expr = some value → P { a with expr := value })
    (hm : ∀ a value, TakesOver head body a value → P { a with expr := value }) : P { a with expr := value } := by
  cases hr with
  | moved ht => exact hm a value ht
  | renamed _ _ ha hr =>
      cases hr with
      | reference _ hu => exact hreference.of_attribute? ha _ hu
      | kept => exact h.of_attribute? ha
  | rewritten _ ha hu => exact hreference.of_attribute? ha value hu

theorem laid_rewriteProvider? {head : BlockHead} (h : Laid (some '}') body)
    (hkind : String.ofList head.kind = "terraform")
    (hm : ∀ a value, TakesOver head body a value → ({ a with expr := value } : Attribute).Fits ['}']) :
    Laid (some '}') (orUnchanged body (rewriteProvider? body)).1 := by
  cases hr : rewriteProvider? body with
  | none => exact h
  | some p =>
      obtain ⟨providers, a, hp, ha, hv, hb⟩ := rewriteProvider?_eq_some hr
      have hfit := hm a _ (.constraint hkind hp ha hv)
      obtain ⟨before, behind, rfl, -, -, hc⟩ := block?_eq_some hp
      have hinner : Laid (some '}') providers.body := h.of_mem_blocks (by simp [blocks, Block.toNode])
      rw [orUnchanged, hb, hc]
      exact Laid.exchange h (hinner.edited (edited_assign _ _ _) (hinner.fits.modifyFirst ha hfit))

/-- The upgrade of a body that is laid out is laid out. -/
theorem laid_upgrade (head : BlockHead) (h : Laid (some '}') body)
    (hm : ∀ a value, TakesOver head body a value → ({ a with expr := value } : Attribute).Fits ['}']) :
    Laid (some '}') (upgrade head body).1 := by
  have hreceives : ∀ a value, Receives head body a value → ({ a with expr := value } : Attribute).Fits ['}'] :=
    fun _ _ hr => hr.preserves h.fits (fun a ha _ hu => (h.fits a ha).upgraded hu) hm
  have hrenamed {a : Attribute} {old new : Text} (hnew : IsIdentifier new) (ha : a.Fits ['}']) :
      (a.renamed old new a.expr).Fits ['}'] := ha.renamed hnew old
  unfold upgrade
  split
  · next type label _ hkind hlabels =>
      exact h.edited (edited_upgradeResource type label body)
        (all_upgradeResource hrenamed hreceives h.fits hkind hlabels)
  · next type label _ hkind hlabels =>
      exact h.edited (edited_upgradeDataSource type label body)
        (all_upgradeDataSource hrenamed hreceives h.fits hkind hlabels)
  · next label _ hkind _ =>
      exact h.edited (edited_orUnchanged fun _ _ hr => edited_rewriteOutput? hr)
        (all_rewriteOutput? hreceives h.fits hkind label)
  · exact h
  · next hkind => exact laid_rewriteProvider? h hkind hm
  · exact h

end Body

theorem upgradeNodes_cons (d : Document) (n : Node) (ns : Body) :
    (d.upgradeNodes (n :: ns)).1 = (d.upgradeNode n).1 :: (d.upgradeNodes ns).1 := rfl

theorem upgradeNodes_of_gaps (d : Document) {nodes : Body} (h : ∀ n ∈ nodes, ∃ t, n = .gap t) :
    (d.upgradeNodes nodes).1 = nodes := by
  induction nodes with
  | nil => rfl
  | cons n ns ih =>
      obtain ⟨⟨t, rfl⟩, hns⟩ := List.forall_mem_cons.1 h
      rw [upgradeNodes_cons, ih hns]
      rfl

/-- An upgraded tree is laid out if its blocks are. -/
theorem Laid.upgradeNodes (d : Document) {stop : Option Char} {nodes : Body} (h : Laid stop nodes)
    (hb : ∀ b ∈ Body.blocks nodes, Laid (some '}') (Body.upgrade b.head b.body).1) :
    Laid stop (d.upgradeNodes nodes).1 := by
  induction h with
  | nil => exact .nil
  | finish hgaps h =>
      rw [upgradeNodes_of_gaps d hgaps]
      exact .finish hgaps h
  | gap ht htrim _ ih =>
      refine .gap ht (fun hn => htrim ?_) (ih hb)
      rintro rfl
      exact hn rfl
  | field hlead hfits _ ih =>
      exact .field hlead (fun r hr => hfits r fun hn => hr (by rw [hn]; rfl)) (ih hb)
  | @block _ head body nodes tail hlead hopens hbody htail _ _ ih =>
      have hfirst := hb ⟨head, body, '}' :: tail⟩ List.mem_cons_self
      refine .block hlead hopens hfirst (fun r hr => htail r fun hn => hr (by rw [hn]; rfl)) ?_
      exact ih fun b h => hb b (List.mem_cons_of_mem _ h)

end JujuMigration
