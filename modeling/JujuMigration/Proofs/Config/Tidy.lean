import JujuMigration.Proofs.Config.Edits
import JujuMigration.Proofs.Source.Filler
/-! Tidy trees. In a tree that has been read every piece has its form: names are identifiers, separators hold one equals
sign, expressions have no blanks around them, and what stands between the items and behind them are blanks and whole
comments. Dropping and renaming attributes, in any order and in any body of the tree, keeps all of it. -/

namespace JujuMigration

open Source

/-- An expression without blanks around it. -/
def IsBare (expr : Text) : Prop :=
  expr ≠ [] ∧ (∀ c ∈ expr.head?, isSpace c = false) ∧ ∀ c ∈ expr.getLast?, isSpace c = false

structure Attribute.Tidy (a : Attribute) (final : Prop) : Prop where
  lead : ∀ c ∈ a.lead, isSpace c = true
  name : IsIdentifier a.name
  sep : IsSeparator a.sep
  expr : IsBare a.expr
  tail : IsLineTail final a.tail

/-- Every piece of the body has its form, and an item that does not end a line stands last. The end of the body is the
end of everything if that is `final`; only there a line comment may lack its line end. -/
inductive Tidy : Prop → Body → Prop
  | nil {final : Prop} : Tidy final []
  | gap {final : Prop} {t : Text} {nodes : Body} (hne : t ≠ [])
      (ht : IsTrivia (final ∧ ∀ n ∈ nodes, ∃ u, n = .gap u) t) (h : Tidy final nodes) : Tidy final (.gap t :: nodes)
  | field {final : Prop} {a : Attribute} {nodes : Body} (ha : a.Tidy (final ∧ nodes = []))
      (hends : nodes ≠ [] → a.tail.getLast? = some '\n') (h : Tidy final nodes) : Tidy final (.attribute a :: nodes)
  | block {final : Prop} {head : BlockHead} {body nodes : Body} {tail : Text}
      (hlead : ∀ c ∈ head.lead, isSpace c = true) (hbody : Tidy False body)
      (htail : IsLineTail (final ∧ nodes = []) tail)
      (hends : nodes ≠ [] → tail.getLast? = some '\n') (h : Tidy final nodes) :
      Tidy final (.block head body ('}' :: tail) :: nodes)

/-- A removal, or a rename to an identifier that keeps the expression. -/
inductive Edit.IsPlain : Edit → Prop
  | remove (name : Text) : IsPlain (.remove name)
  | rename (old : Text) {new : Text} (hnew : IsIdentifier new) : IsPlain (.rename old new none)

/-- Calls on bodies inside the tree, each with the path that leads to its body. -/
def Body.editAll (edits : List (List Nat × Edit)) (tree : Body) : Body :=
  edits.foldl (fun tree x => modifyInner x.1 (fun body => (x.2.perform body).2) tree) tree

variable {final final' : Prop} {body nodes nodes' : Body} {n : Node} {name : Text}

/-! ### Trees that have been read -/

theorem Tidy.mono (hf : final → final') (h : Tidy final body) : Tidy final' body := by
  induction h with
  | nil => exact .nil
  | gap hne ht _ ih => exact .gap hne (ht.mono fun h => ⟨hf h.1, h.2⟩) (ih hf)
  | field ha hends _ ih => exact .field { ha with tail := ha.tail.mono fun h => ⟨hf h.1, h.2⟩ } hends (ih hf)
  | block hlead hbody htail hends _ _ ih => exact .block hlead hbody (htail.mono fun h => ⟨hf h.1, h.2⟩) hends (ih hf)

theorem Tidy.gapNodes {t : Text} (ht : IsTrivia (final ∧ ∀ n ∈ nodes, ∃ u, n = .gap u) t) (h : Tidy final nodes) :
    Tidy final (gapNodes t ++ nodes) := by
  by_cases hne : t = []
  · rw [hne]
    exact h
  · rw [gapNodes_of_ne_nil hne]
    exact .gap hne ht h

theorem isTrivia_of_gap {s gap r : Text} (hs : s = gap ++ r) (h : skipGap s = .ok r) : IsTrivia (r = []) gap := by
  obtain ⟨p, hp, htrivia⟩ := isTrivia_of_skipGap h
  rw [hs] at hp
  rwa [List.append_cancel_right hp]

/-- What stands behind an item on its line, if more of the body is read behind it. -/
theorem isLineTail_of_reads {line : Nat} {tail behind r : Text} (htail : skipLineTail (tail ++ behind) = .ok behind)
    (h : Reads line behind nodes r) :
    IsLineTail (r = [] ∧ nodes = []) tail ∧ (nodes ≠ [] → tail.getLast? = some '\n') := by
  obtain ⟨p, hp, hline⟩ := isLineTail_of_skipLineTail htail
  obtain ⟨q, hq, hfollows, -⟩ := skipLineTail_local htail
  obtain rfl := List.append_cancel_right hp
  obtain rfl := List.append_cancel_right hq
  constructor
  · refine hline.mono ?_
    rintro rfl
    obtain ⟨hnil, hr⟩ := h.eq_nil rfl
    exact ⟨hr.symm, hnil⟩
  · intro hne
    exact hfollows.resolve_right fun hbody => hne (h.eq_nil hbody.1).1

theorem isBare_of_fits {a : Attribute} {r : Text} (h : a.Fits r) : IsBare a.expr := by
  refine ⟨h.nonempty, fun c hc => ?_, fun c hc => ?_⟩
  · have hstart := h.start
    rwa [Option.mem_def.1 hc] at hstart
  · have hstop := Text.getLast?_trimEnd isSpace a.expr
    rw [h.trimmed, Option.mem_def.1 hc] at hstop
    simpa using hstop

/-- What is read is tidy, and a line comment may lack its line end only if nothing is left to read. -/
theorem Reads.tidy {line : Nat} {s r : Text} (h : Reads line s nodes r) : Tidy (r = []) nodes := by
  induction h with
  | @stop _ _ gap r hs hgap _ =>
      -- The blanks that end the last gap are a gap of their own, so that a comment in front of them may be the last.
      have hgaps : ∀ n ∈ JujuMigration.gapNodes (indentation gap), ∃ u, n = .gap u := by
        intro n hn
        exact eq_gap_of_mem_gapNodes hn
      have hblanks : IsTrivia (r = [] ∧ ∀ n ∈ ([] : Body), ∃ u, n = .gap u) (indentation gap ++ []) :=
        .blanks (fun c hc => isGapChar_of_isSpace (isSpace_of_mem_indentation c hc)) (.stop List.mem_cons_self)
      rw [List.append_nil] at hblanks
      refine .gapNodes ((isTrivia_of_gap hs hgap).trimEnd.mono fun hr => ⟨hr, hgaps⟩) ?_
      have hrest := Tidy.gapNodes hblanks .nil
      rwa [List.append_nil] at hrest
  | @field _ _ gap behind r a nodes hs hgap hlead _ hfits h ih =>
      have hne : a.text ++ behind ≠ [] := ne_nil_of_opensIdentifier hfits.opensIdentifier
      obtain ⟨htail, hends⟩ := isLineTail_of_reads hfits.tail h
      refine .gapNodes ((isTrivia_of_gap hs hgap).trimEnd.mono fun he => absurd he hne) (.field ?_ hends ih)
      exact ⟨hlead ▸ isSpace_of_mem_indentation, hfits.name, hfits.sep, isBare_of_fits hfits, htail⟩
  | @block _ _ gap inner tail behind r head body nodes hs hgap hlead _ hopens _ htail h ih ih' =>
      have hne : head.header ++ inner ≠ [] := ne_nil_of_opensIdentifier (hopens.opensIdentifier inner)
      obtain ⟨htail, hends⟩ := isLineTail_of_reads htail h
      refine .gapNodes ((isTrivia_of_gap hs hgap).trimEnd.mono fun he => absurd he hne) ?_
      exact .block (hlead ▸ isSpace_of_mem_indentation) (ih.mono nofun) htail hends ih'

/-! ### One call -/

theorem Tidy.tail (h : Tidy final (n :: nodes)) : Tidy final nodes := by
  cases h <;> assumption

/-- The nodes behind a node may be exchanged, as long as mere gaps stay what they are. -/
theorem Tidy.replace (h : Tidy final (n :: nodes)) (hgaps : (∀ n ∈ nodes, ∃ u, n = .gap u) → nodes' = nodes)
    (h' : Tidy final nodes') : Tidy final (n :: nodes') := by
  have hnil : nodes = [] → nodes' = [] := by
    rintro rfl
    exact hgaps fun _ hn => nomatch hn
  cases h with
  | gap hne ht _ =>
      refine .gap hne (ht.mono fun hf => ?_) h'
      rwa [hgaps hf.2]
  | field ha hends _ =>
      exact .field { ha with tail := ha.tail.mono fun hf => ⟨hf.1, hnil hf.2⟩ } (fun hne => hends (mt hnil hne)) h'
  | block hlead hbody htail hends _ =>
      exact .block hlead hbody (htail.mono fun hf => ⟨hf.1, hnil hf.2⟩) (fun hne => hends (mt hnil hne)) h'

theorem Tidy.dropFirst (h : Tidy final body) : Tidy final (Body.dropFirst name body) := by
  induction body with
  | nil => exact h
  | cons n ns ih =>
      by_cases hn : n.isNamed name = true
      · rw [Body.dropFirst, List.eraseP_cons_of_pos hn]
        exact h.tail
      · rw [Body.dropFirst, List.eraseP_cons_of_neg hn]
        refine h.replace (fun hgaps => List.eraseP_of_forall_not fun m hm => ?_) (ih h.tail)
        rw [Body.not_isNamed_of_gaps hgaps name m hm]
        exact Bool.false_ne_true

theorem Tidy.modifyFirst {change : Attribute → Attribute} (h : Tidy final body)
    (hc : ∀ a final, a.Tidy final → (change a).Tidy final ∧ (change a).tail = a.tail) :
    Tidy final (Body.modifyFirst name change body) := by
  induction body with
  | nil => exact h
  | cons n ns ih =>
      cases hn : n.isNamed name with
      | false =>
          rw [Body.modifyFirst_cons_of_neg hn]
          refine h.replace (fun hgaps => ?_) (ih h.tail)
          have hsame := Body.modifyFirst_append_of_unnamed (Body.not_isNamed_of_gaps hgaps name) change []
          rwa [List.append_nil, Body.modifyFirst, List.append_nil] at hsame
      | true =>
          obtain ⟨a, rfl, ha⟩ := Body.eq_attribute_of_isNamed hn
          rw [Body.modifyFirst, if_pos ha]
          cases h with
          | field htidy hends h =>
              obtain ⟨htidy', htail⟩ := hc a _ htidy
              exact .field htidy' (htail.symm ▸ hends) h

theorem Tidy.isBare {a : Attribute} (h : Tidy final body) (ha : Body.attribute? body name = some a) :
    IsBare a.expr := by
  obtain ⟨front, back, rfl, -⟩ := Body.attribute?_eq_some ha
  clear ha
  induction front with
  | nil =>
      cases h with
      | field htidy => exact htidy.expr
  | cons n front ih => exact ih h.tail

theorem Attribute.Tidy.withExpr {a : Attribute} {value : Text} (h : a.Tidy final) (hv : IsBare value) :
    ({ a with expr := value } : Attribute).Tidy final := { h with expr := hv }

theorem Attribute.Tidy.renamed {a : Attribute} {new value : Text} (h : a.Tidy final) (hnew : IsIdentifier new)
    (hv : IsBare value) (old : Text) : (a.renamed old new value).Tidy final :=
  { h with name := hnew, sep := (isSeparator_realign h.sep _ _).1, expr := hv }

theorem Edit.IsPlain.tidy {e : Edit} (he : e.IsPlain) (h : Tidy final body) : Tidy final (e.perform body).2 := by
  rw [perform]
  cases hbody : e.outcome? body with
  | none => exact h
  | some body' =>
      cases he with
      | remove =>
          obtain ⟨a, ha, rfl⟩ := Option.map_eq_some_iff.1 hbody
          rw [Body.erase_attribute ha]
          exact h.dropFirst
      | @rename old new hnew =>
          obtain ⟨a, ha, hrenamed⟩ := Option.map_eq_some_iff.1 hbody
          have hbare : IsBare a.expr := h.isBare ha
          by_cases hsame : old = new
          · rw [if_pos hsame] at hrenamed
            subst hrenamed
            exact h.modifyFirst fun b _ hb => ⟨hb.withExpr hbare, rfl⟩
          · rcases Body.renameAttribute?_cases hsame ha hbody with ⟨-, rfl⟩ | ⟨-, rfl⟩
            · exact (h.modifyFirst fun b _ hb => ⟨hb.withExpr hbare, rfl⟩).dropFirst
            · exact h.modifyFirst fun b _ hb => ⟨hb.renamed hnew hbare old, rfl⟩

/-! ### All calls -/

theorem Body.modifyBlock_of_gaps (hg : ∀ n ∈ body, ∃ u, n = .gap u) (index : Nat) (change : Body → Body) :
    modifyBlock index change body = body := by
  induction body with
  | nil => rfl
  | cons n ns ih =>
      obtain ⟨⟨u, rfl⟩, hns⟩ := List.forall_mem_cons.1 hg
      exact congrArg (.gap u :: ·) (ih hns)

theorem Tidy.modifyBlock {index : Nat} {change : Body → Body} (h : Tidy final body)
    (hc : ∀ inner, Tidy False inner → Tidy False (change inner)) : Tidy final (Body.modifyBlock index change body) := by
  induction body generalizing index with
  | nil => exact h
  | cons n ns ih =>
      rcases n with t | a | ⟨head, inner, closing⟩
      · exact h.replace (fun hg => Body.modifyBlock_of_gaps hg index change) (ih h.tail)
      · exact h.replace (fun hg => Body.modifyBlock_of_gaps hg index change) (ih h.tail)
      · cases index with
        | zero =>
            cases h with
            | block hlead hbody htail hends h => exact .block hlead (hc inner hbody) htail hends h
        | succ index => exact h.replace (fun hg => Body.modifyBlock_of_gaps hg index change) (ih h.tail)

theorem Tidy.modifyInner {path : List Nat} {change : Body → Body} (h : Tidy final body)
    (hc : ∀ final inner, Tidy final inner → Tidy final (change inner)) :
    Tidy final (Body.modifyInner path change body) := by
  induction path generalizing final body with
  | nil => exact hc final body h
  | cons index path ih => exact h.modifyBlock fun inner hinner => ih hinner

theorem Tidy.editAll {edits : List (List Nat × Edit)} (hplain : ∀ x ∈ edits, x.2.IsPlain) (h : Tidy final body) :
    Tidy final (Body.editAll edits body) := by
  induction edits generalizing body with
  | nil => exact h
  | cons x edits ih =>
      obtain ⟨hx, hedits⟩ := List.forall_mem_cons.1 hplain
      exact ih hedits (h.modifyInner fun _ _ hinner => hx.tidy hinner)

/-- A tree that is read is tidy, and it stays so whatever attributes are dropped or renamed to identifiers in its
bodies. -/
theorem tidy_of_read {s : Text} {tree : Body} (h : Body.read s = .ok tree) {edits : List (List Nat × Edit)}
    (hplain : ∀ x ∈ edits, x.2.IsPlain) : Tidy True (tree.editAll edits) :=
  ((read_eq_ok.1 h).tidy.mono fun _ => trivial).editAll hplain

/-- A rename that merges two attributes of a block, and one of an attribute that then ends the body on its line. -/
theorem tidy_of_read_merged :
    let edits : List (List Nat × Edit) :=
      [([0], .rename "a".toList "b".toList none), ([0], .rename "b".toList "c".toList none)]
    ∃ tree, Body.read "m \x7b\n  a = 1 # one\n  b   = 2 \x7d # end".toList = .ok tree ∧ (∀ x ∈ edits, x.2.IsPlain) ∧
      Tidy True (tree.editAll edits) ∧ Body.render (tree.editAll edits) = "m \x7b\n  c   = 1 \x7d # end".toList := by
  intro edits
  have hplain : ∀ x ∈ edits, x.2.IsPlain := by
    have hb : IsIdentifier "b".toList := isIdentifier_of_all (by decide) (by decide)
    have hc : IsIdentifier "c".toList := isIdentifier_of_all (by decide) (by decide)
    exact List.forall_mem_cons.2 ⟨.rename _ hb, List.forall_mem_singleton.2 (.rename _ hc)⟩
  have hrender : (Body.read "m \x7b\n  a = 1 # one\n  b   = 2 \x7d # end".toList).toOption.map
      (fun tree => Body.render (tree.editAll edits)) = some "m \x7b\n  c   = 1 \x7d # end".toList := by
    decide +kernel
  obtain ⟨tree, htree, hrender⟩ := Option.map_eq_some_iff.1 hrender
  have hread : Body.read "m \x7b\n  a = 1 # one\n  b   = 2 \x7d # end".toList = .ok tree := by
    cases h : Body.read "m \x7b\n  a = 1 # one\n  b   = 2 \x7d # end".toList with
    | error f =>
        rw [h] at htree
        cases htree
    | ok again =>
        rw [h] at htree
        rw [Option.some.inj htree]
  exact ⟨tree, hread, hplain, tidy_of_read hread hplain, hrender⟩

end JujuMigration
