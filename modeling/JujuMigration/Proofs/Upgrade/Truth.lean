import JujuMigration.Proofs.Config.Rename
import JujuMigration.Proofs.Rules.Reference
import JujuMigration.Proofs.Rules.VersionConstraint
import JujuMigration.Proofs.Text.Utf8
import JujuMigration.Proofs.Upgrade.Rule
import JujuMigration.Upgrade.Document
/-! What an upgrade records is what it does. A rule that records nothing leaves the body as it was; a rule that records
a change takes an equals sign out of the text or makes it run on with another character, and no later rule undoes
that. So a file has been changed exactly if a change has been recorded. -/

namespace JujuMigration

open Text (equalsSigns Differs Splits)

/-- Either nothing has been recorded and nothing has changed, or both. -/
inductive Truthful (chars : Char → Char → Prop) (body body' : Body) (changes : List Change) : Prop
  | unchanged (hb : body' = body) (hc : changes = [])
  | changed (hb : Differs chars (Body.render body) (Body.render body')) (hc : changes ≠ [])

/-- Whatever characters the texts part at. -/
def anyChars (_ _ : Char) : Prop := True

theorem Truthful.mono {chars chars' : Char → Char → Prop} {body body' : Body} {changes : List Change}
    (h : ∀ c d, chars c d → chars' c d) (ht : Truthful chars body body' changes) :
    Truthful chars' body body' changes := by
  cases ht with
  | unchanged hb hc => exact .unchanged hb hc
  | changed hb hc => exact .changed (hb.mono h) hc

/-- Two rules after one another. -/
theorem Truthful.trans {chars chars' : Char → Char → Prop} {body mid body' : Body} {first rest : List Change}
    (h : Truthful chars body mid first) (h' : Truthful chars' mid body' rest)
    (hc : ∀ c d d' e, chars c d → chars' d' e → d ≠ d') : Truthful anyChars body body' (first ++ rest) := by
  cases h with
  | unchanged hb hf =>
      subst hb hf
      exact h'.mono fun _ _ _ => trivial
  | changed hb hf =>
      have hne : first ++ rest ≠ [] := by simp [hf]
      cases h' with
      | unchanged hb' _ => exact .changed (hb' ▸ hb.mono fun _ _ _ => trivial) hne
      | changed hb' _ => exact .changed (hb.trans hb' hc) hne

/-- A rule that only drops attributes, and another after it. -/
theorem Truthful.after_drop {chars : Char → Char → Prop} {body mid body' : Body} {first rest : List Change}
    (h : Truthful (fun _ _ => False) body mid first) (h' : Truthful chars mid body' rest) :
    Truthful chars body body' (first ++ rest) := by
  cases h with
  | unchanged hb hf =>
      subst hb hf
      exact h'
  | changed hb hf =>
      have hne : first ++ rest ≠ [] := by simp [hf]
      cases hb with
      | splits _ _ hc => exact hc.elim
      | fewer hless =>
          cases h' with
          | unchanged hb' _ => exact .changed (hb' ▸ .fewer hless) hne
          | changed hb' _ => exact .changed (.fewer (Nat.lt_of_le_of_lt hb'.le hless)) hne

namespace Body

variable {type label : Text} {body body' : Body} {change : Change}

/-! ### Renames -/

theorem splits_model (b : Attribute) (hb : b.Sound) (hn : b.name = "model".toList) (y : Text) :
    ∃ c d, d = '_' ∧ Splits b.text ("model_uuid".toList ++ y) c d := by
  obtain ⟨c, t, ht, hc⟩ := head_of_isSeparator hb.sep
  refine ⟨c, '_', rfl, ?_, "model".toList, t ++ (b.expr ++ b.tail), "uuid".toList ++ y, ?_, rfl⟩
  · rcases hc with rfl | rfl | rfl <;> decide
  · rw [Attribute.text, hn, ht]
    rfl

theorem splits_series (b : Attribute) (hn : b.name = "series".toList) (y : Text) :
    ∃ c d, c = 's' ∧ Splits b.text ("base".toList ++ y) c d :=
  ⟨'s', 'b', rfl, by decide, [], "eries".toList ++ (b.sep ++ (b.expr ++ b.tail)), "ase".toList ++ y,
    by rw [Attribute.text, hn]; rfl, rfl⟩

theorem splits_name (b : Attribute) (hn : b.name = "name".toList) (y : Text) :
    ∃ c d, anyChars c d ∧ Splits b.text ("uuid".toList ++ y) c d :=
  ⟨'n', 'u', trivial, by decide, [], "ame".toList ++ (b.sep ++ (b.expr ++ b.tail)), "uid".toList ++ y,
    by rw [Attribute.text, hn]; rfl, rfl⟩

theorem equalsSigns_renameOf {a : Text} {expr : Option Text} (h : RenameOf a expr) :
    equalsSigns (expr.getD a) ≤ equalsSigns a := by
  cases h with
  | reference hk hu => exact (Reference.splits_upgraded? hk hu).1
  | kept => exact Nat.le_refl _

theorem differs_renameField? {chars : Char → Char → Prop} {r : FieldRename} (hs : body.Sound)
    (hne : r.source ≠ r.target) (hnew : IsIdentifier r.target)
    (hsplit : ∀ b : Attribute, b.Sound → b.name = r.source → ∀ y, ∃ c d, chars c d ∧ Splits b.text (r.target ++ y) c d)
    (h : renameField? type label r body = some (body', change)) :
    Differs chars (render body) (render body') ∧ body'.Sound := by
  obtain ⟨a, expr, ha, hr, h⟩ := renameField?_eq_some h
  exact differs_renameAttribute? hs hne hnew ha (equalsSigns_renameOf hr) hsplit h

theorem differs_modelToUuid (hs : body.Sound) (h : renameField? type label .modelToUuid body = some (body', change)) :
    Differs (fun _ d => d = '_') (render body) (render body') ∧ body'.Sound :=
  differs_renameField? hs (by decide) (isIdentifier_of_all (by decide) (by decide)) splits_model h

theorem differs_nameToUuid (hs : body.Sound) (h : renameField? type label .nameToUuid body = some (body', change)) :
    Differs anyChars (render body) (render body') ∧ body'.Sound :=
  differs_renameField? hs (by decide) (isIdentifier_of_all (by decide) (by decide)) (fun b _ => splits_name b) h

/-! ### Retired fields -/

theorem truthful_review (type label : Text) (body : Body) {f : DeprecatedField} {replacement : Text}
    (hf : f.fate = .review replacement) :
    (retireField type label body f).1 = body ∧ (retireField type label body f).2.changes = [] := by
  have h := retired_retireField type label body f
  generalize retireField type label body f = p at h
  obtain ⟨body', notes⟩ := p
  cases h with
  | absent => exact ⟨rfl, rfl⟩
  | review _ hn => exact ⟨rfl, hn⟩
  | removed _ hf' => rw [hf] at hf'; cases hf'
  | renamed _ hf' => rw [hf] at hf'; cases hf'

theorem truthful_remove (type label : Text) {f : DeprecatedField} (hf : f.fate = .remove) (hs : body.Sound) :
    Truthful (fun _ _ => False) body (retireField type label body f).1 (retireField type label body f).2.changes ∧
      (retireField type label body f).1.Sound := by
  have h := retired_retireField type label body f
  generalize retireField type label body f = p at h
  obtain ⟨body', notes⟩ := p
  cases h with
  | absent => exact ⟨.unchanged rfl rfl, hs⟩
  | review hf' => rw [hf] at hf'; cases hf'
  | removed hhas _ hn =>
      obtain ⟨a, ha⟩ := Option.isSome_iff_exists.1 hhas
      have hless : equalsSigns (render (dropFirst f.name body)) < equalsSigns (render body) :=
        Nat.lt_of_le_of_lt (Nat.le_add_right _ _) (equalsSigns_dropFirst hs ha)
      exact ⟨.changed (.fewer hless) hn, hs.dropFirst⟩
  | renamed _ hf' => rw [hf] at hf'; cases hf'

theorem truthful_seriesToBase (type label : Text) (hs : body.Sound) :
    Truthful (fun c _ => c = 's') body (retireField type label body ResourceType.seriesToBase).1
      (retireField type label body ResourceType.seriesToBase).2.changes := by
  have h := retired_retireField type label body ResourceType.seriesToBase
  generalize retireField type label body ResourceType.seriesToBase = p at h
  obtain ⟨body', notes⟩ := p
  cases h with
  | absent => exact .unchanged rfl rfl
  | review hf => cases hf
  | removed _ hf => cases hf
  | renamed hhas hf hr hn =>
      obtain ⟨a, ha⟩ := Option.isSome_iff_exists.1 hhas
      obtain rfl := Retirement.rename.inj hf
      refine .changed (differs_renameAttribute? hs ?_ ?_ ha (Nat.le_refl _) (fun b _ => splits_series b) hr).1 hn
      · decide
      · exact isIdentifier_of_all (by decide) (by decide)

theorem truthful_retireFields (type label : Text) (hs : body.Sound) :
    Truthful (fun c _ => c = 's') body (retireFields type label (deprecatedFields type) body).1
      (retireFields type label (deprecatedFields type) body).2.changes := by
  have hseries {mid : Body} (hm : mid.Sound) :
      Truthful (fun c _ => c = 's') mid (retireFields type label [ResourceType.seriesToBase] mid).1
        (retireFields type label [ResourceType.seriesToBase] mid).2.changes := by
    rw [retireFields_cons, changes_append, retireFields, List.append_nil]
    exact truthful_seriesToBase type label hm
  rcases deprecatedFields_cases type with h | h | h
  · rw [h]
    exact .unchanged rfl rfl
  · rw [h]
    exact hseries hs
  · rw [h]
    obtain ⟨hsame, hnone⟩ := truthful_review type label body (f := ⟨"placement".toList, .review "machines".toList⟩) rfl
    obtain ⟨hdrop, hsound⟩ := truthful_remove type label (f := ⟨"principal".toList, .remove⟩) rfl hs
    rw [retireFields_cons, changes_append, hsame, hnone, List.nil_append, retireFields_cons, changes_append]
    exact hdrop.after_drop (hseries hsound)

/-! ### Blocks -/

theorem truthful_upgradeResource (type label : Text) (hs : body.Sound) :
    Truthful anyChars body (upgradeResource type label body).1 (upgradeResource type label body).2.changes := by
  have hrename : Truthful (fun _ d => d = '_') body
      (orUnchanged body ((resourceRename? type).bind (renameField? type label · body))).1
      (orUnchanged body ((resourceRename? type).bind (renameField? type label · body))).2.changes ∧
      (orUnchanged body ((resourceRename? type).bind (renameField? type label · body))).1.Sound := by
    cases h : (resourceRename? type).bind (renameField? type label · body) with
    | none => exact ⟨.unchanged rfl rfl, hs⟩
    | some p =>
        obtain ⟨r, hr, h⟩ := Option.bind_eq_some_iff.1 h
        obtain rfl := resourceRename?_eq_some hr
        obtain ⟨hd, hsound⟩ := differs_modelToUuid hs h
        exact ⟨.changed hd (List.cons_ne_nil _ _), hsound⟩
  refine hrename.1.trans (truthful_retireFields type label hrename.2) ?_
  rintro c d d' e rfl rfl
  decide

theorem truthful_upgradeDataSource (type label : Text) (hs : body.Sound) :
    Truthful anyChars body (upgradeDataSource type label body).1 (upgradeDataSource type label body).2.changes := by
  unfold upgradeDataSource
  split
  · exact .unchanged rfl rfl
  · next r hr =>
      split
      · next body' change h =>
          refine .changed ?_ (List.cons_ne_nil _ _)
          rcases dataSourceRename?_eq_some hr with rfl | rfl
          · exact (differs_modelToUuid hs h).1.mono fun _ _ _ => trivial
          · exact (differs_nameToUuid hs h).1
      · split <;> exact .unchanged rfl rfl

/-- An expression that is replaced by another shows in its body. -/
theorem differs_modifyFirst {name value : Text} {a : Attribute} (ha : attribute? body name = some a)
    (hle : equalsSigns value ≤ equalsSigns a.expr) (hsplit : ∃ c d, Splits a.expr value c d) :
    Differs anyChars (render body) (render (modifyFirst name ({ · with expr := value }) body)) := by
  obtain ⟨front, back, rfl, -, -, hm, -⟩ := attribute?_eq_some ha
  obtain ⟨c, d, hsp⟩ := hsplit
  rw [hm, render_append, render_append, render_cons, render_cons]
  have hexpr : Differs anyChars a.expr value := .splits hle hsp trivial
  have hattr : Differs anyChars (Node.attribute a).render (Node.attribute { a with expr := value }).render :=
    (hexpr.prepend (a.lead ++ a.name ++ a.sep)).append (Nat.le_refl (equalsSigns a.tail))
  exact (hattr.append (Nat.le_refl _)).prepend _

theorem truthful_rewriteOutput? (label : Text) (body : Body) :
    Truthful anyChars body (orUnchanged body (rewriteOutput? label body)).1
      (orUnchanged body (rewriteOutput? label body)).2.changes := by
  cases h : rewriteOutput? label body with
  | none => exact .unchanged rfl rfl
  | some p =>
      obtain ⟨a, expr, ha, hk, hu, hb⟩ := rewriteOutput?_eq_some h
      obtain ⟨hle, hsplit⟩ := Reference.splits_upgraded? hk hu
      refine .changed ?_ (List.cons_ne_nil _ _)
      rw [orUnchanged, hb]
      exact differs_modifyFirst ha hle hsplit

theorem truthful_rewriteProvider? (body : Body) :
    Truthful anyChars body (orUnchanged body (rewriteProvider? body)).1
      (orUnchanged body (rewriteProvider? body)).2.changes := by
  cases h : rewriteProvider? body with
  | none => exact .unchanged rfl rfl
  | some p =>
      obtain ⟨providers, a, hp, ha, hv, hb⟩ := rewriteProvider?_eq_some h
      obtain ⟨before, behind, hbody, -, -, hc⟩ := block?_eq_some hp
      have hinner := differs_modifyFirst ha (VersionConstraint.equalsSigns_replaceZero a.expr)
        (VersionConstraint.splits_replaceZero hv)
      refine .changed ?_ (List.cons_ne_nil _ _)
      rw [orUnchanged, hb, hc, hbody, render_append, render_append, render_cons, render_cons]
      have hblock := (hinner.prepend (providers.head.lead ++ providers.head.header)).append
        (Nat.le_refl (equalsSigns providers.closing))
      exact (hblock.append (Nat.le_refl _)).prepend _

theorem truthful_upgrade (head : BlockHead) (hs : body.Sound) :
    Truthful anyChars body (upgrade head body).1 (upgrade head body).2.changes := by
  unfold upgrade
  split
  · exact truthful_upgradeResource _ _ hs
  · exact truthful_upgradeDataSource _ _ hs
  · exact truthful_rewriteOutput? _ body
  · refine .unchanged rfl ?_
    unfold reviewVariable
    split <;> rfl
  · exact truthful_rewriteProvider? body
  · exact .unchanged rfl rfl

end Body

/-! ### Files -/

/-- A node after another. -/
theorem Truthful.cons {n n' : Node} {ns ns' : Body} {first rest : List Change}
    (h : Truthful anyChars [n] [n'] first) (h' : Truthful anyChars ns ns' rest) :
    Truthful anyChars (n :: ns) (n' :: ns') (first ++ rest) := by
  have hone (m : Node) (ms : Body) : Body.render (m :: ms) = Body.render [m] ++ Body.render ms := by simp
  cases h with
  | unchanged hn hf =>
      obtain rfl := (List.cons.inj hn).1
      subst hf
      cases h' with
      | unchanged hb hc => exact .unchanged (by rw [hb]) hc
      | changed hb hc =>
          refine .changed ?_ hc
          rw [hone n', hone n' ns']
          exact hb.prepend _
  | changed hn hf =>
      refine .changed ?_ (by simp [hf])
      rw [hone n, hone n']
      refine hn.append ?_
      cases h' with
      | unchanged hb _ => rw [hb]
      | changed hb _ => exact hb.le

theorem Body.truthful_block (head : BlockHead) {body : Body} (closing : Text) (hs : body.Sound) :
    Truthful anyChars [.block head body closing] [.block head (upgrade head body).1 closing]
      (upgrade head body).2.changes := by
  cases truthful_upgrade head hs with
  | unchanged hb hc => exact .unchanged (by rw [hb]) hc
  | changed hb hc =>
      refine .changed ?_ hc
      have hd := (hb.prepend (head.lead ++ head.header)).append (Nat.le_refl (equalsSigns closing))
      simpa [Node.render] using hd

theorem Block.render_upgrade_ne (b : Block) (hs : b.body.Sound) :
    b.upgrade.1.render ≠ b.render ↔ b.upgrade.2.changes ≠ [] := by
  have hrender (c : Block) : Body.render [c.toNode] = c.render := by simp [Block.render]
  rw [← hrender, ← hrender]
  cases Body.truthful_block b.head b.closing hs with
  | unchanged hb hc => exact iff_of_false (not_not_intro (congrArg Body.render hb)) (not_not_intro hc)
  | changed hb hc => exact iff_of_true hb.ne.symm hc

namespace Document

variable {file : Text} {source : Bytes} {d : Document}

theorem truthful_upgradeNodes (d : Document) {body : Body} (hs : ∀ b ∈ Body.blocks body, b.body.Sound) :
    Truthful anyChars body (d.upgradeNodes body).1 (d.upgradeNodes body).2.changes := by
  induction body with
  | nil => exact .unchanged rfl rfl
  | cons n ns ih =>
      rcases n with text | a | ⟨head, inner, closing⟩
      · exact Truthful.cons (.unchanged rfl rfl) (ih hs)
      · exact Truthful.cons (.unchanged rfl rfl) (ih hs)
      · have hinner : Body.Sound inner := hs ⟨head, inner, closing⟩ List.mem_cons_self
        exact (Body.truthful_block head closing hinner).cons (ih fun b hb => hs b (List.mem_cons_of_mem _ hb))

theorem splitMark_append (s : Text) : (splitMark s).1 ++ (splitMark s).2 = s := by
  unfold splitMark
  split
  · split <;> rfl
  · rfl

/-- What a file is read to. -/
theorem read_eq_ok : Document.read file source = .ok d ↔ ∃ text, Utf8.decode source = .ok text ∧
    d.mark = (splitMark text).1 ∧ Strict.blockIndex (splitMark text).2 = .ok d.lines ∧
    Body.read (splitMark text).2 = .ok d.body ∧ d.file = file := by
  unfold Document.read decode readIndex readBody
  cases hdec : Utf8.decode source with
  | error f => simp [bind, Except.bind]
  | ok text =>
      cases hidx : Strict.blockIndex (splitMark text).2 with
      | error f => cases f <;> simp [bind, Except.bind, hidx]
      | ok lines =>
          cases hbody : Body.read (splitMark text).2 with
          | error f => simp [bind, Except.bind, hidx, hbody]
          | ok body =>
              obtain ⟨file', mark', body', lines'⟩ := d
              simp only [bind, Except.bind, hidx, hbody, Except.ok.injEq, Document.mk.injEq, exists_eq_left']
              constructor
              · rintro ⟨hf, hm, hb, hl⟩
                exact ⟨hm.symm, hl, hb, hf.symm⟩
              · rintro ⟨hm, hl, hb, hf⟩
                exact ⟨hf.symm, hm.symm, hb, hl⟩

/-- A file renders to its bytes. -/
theorem render_of_read (h : Document.read file source = .ok d) : d.render = source := by
  obtain ⟨text, hdec, hmark, -, hbody, -⟩ := read_eq_ok.1 h
  have hs : Body.render d.body = (splitMark text).2 := by
    rw [(JujuMigration.read_eq_ok.1 hbody).render, List.append_nil]
  rw [render, hmark, hs, splitMark_append, Utf8.encode_decode hdec]

theorem blocks_sound (h : Document.read file source = .ok d) : ∀ b ∈ Body.blocks d.body, b.body.Sound := by
  obtain ⟨text, -, -, -, hbody, -⟩ := read_eq_ok.1 h
  exact fun b hb => ((JujuMigration.read_eq_ok.1 hbody).laid.of_mem_blocks hb).sound

end Document

theorem upgradeFile_eq_ok {file : Text} {source : Bytes} {up : Upgraded} :
    upgradeFile file source = .ok up ↔ ∃ d, Document.read file source = .ok d ∧ d.upgrade = up := by
  unfold upgradeFile
  cases Document.read file source <;> simp [Except.map]

/-- The record of an upgrade is true. The bytes are the same if and only if nothing is reported, and each block of the
top level is changed if and only if its own changes say so. -/
theorem upgradeFile_truthful {file : Text} {source : Bytes} {up : Upgraded} (h : upgradeFile file source = .ok up) :
    (up.content = source ↔ up.record.wasUpgraded = false) ∧
      (up.record.wasUpgraded = false ↔ up.record.changes = []) ∧
      ∃ d, Document.read file source = .ok d ∧ ∀ b ∈ Body.blocks d.body,
        (b.upgrade.1.render ≠ b.render ↔ b.upgrade.2.changes ≠ []) := by
  obtain ⟨d, hd, rfl⟩ := upgradeFile_eq_ok.1 h
  have hs := Document.blocks_sound hd
  have hflag : d.upgrade.record.wasUpgraded = false ↔ d.upgrade.record.changes = [] := by
    simp [d.wasUpgraded_upgrade]
  refine ⟨?_, hflag, d, hd, fun b hb => b.render_upgrade_ne (hs b hb)⟩
  rw [hflag]
  have hsource := Document.render_of_read hd
  have hcontent : d.upgrade.content = Utf8.encode (d.mark ++ Body.render (d.upgradeNodes d.body).1) := rfl
  have hchanges : d.upgrade.record.changes = (d.upgradeNodes d.body).2.changes := rfl
  rw [hcontent, hchanges, ← hsource, Document.render]
  cases d.truthful_upgradeNodes hs with
  | unchanged hb hc => exact iff_of_true (by rw [hb]) hc
  | changed hb hc =>
      refine iff_of_false (fun he => hb.ne ?_) hc
      have htext := congrArg Utf8.decode he
      rw [Utf8.decode_encode, Utf8.decode_encode] at htext
      exact (List.append_cancel_left (Except.ok.inj htext)).symm

/-- A file that an editor has begun with a byte order mark and whose lines end as on other systems. -/
def markedSource : Bytes :=
  Utf8.encode (Document.byteOrderMark ::
    "resource \"juju_secret\" \"é\" \x7b\r\n  model = var.m\r\n\x7d\r\n".toList)

theorem upgradeFile_truthful_marked :
    ∃ up, upgradeFile [] markedSource = .ok up ∧ up.record.wasUpgraded = true ∧ up.content ≠ markedSource := by
  have hflag : (upgradeFile [] markedSource).toOption.map (·.record.wasUpgraded) = some true := by decide +kernel
  cases h : upgradeFile [] markedSource with
  | error e =>
      rw [h] at hflag
      cases hflag
  | ok up =>
      rw [h] at hflag
      have hup : up.record.wasUpgraded = true := Option.some.inj hflag
      refine ⟨up, rfl, hup, fun he => ?_⟩
      rw [(upgradeFile_truthful h).1.1 he] at hup
      cases hup

end JujuMigration
