import JujuMigration.Proofs.Config.Names
import JujuMigration.Proofs.Config.Traversal
import JujuMigration.Proofs.Upgrade.Rule
/-! Bodies that differ in a comment. Two texts vary if the one has `c` where the other has `c'`, and so do two bodies if
their pieces do. The places are counted, so that it can be seen which changes of a body lose one. -/

namespace JujuMigration

open Source

variable {c c' : Text}

/-- The texts are one but for `k` places, where the first has `c` and the second `c'`. -/
inductive Text.Varies (c c' : Text) : Nat → Text → Text → Prop
  | nil : Text.Varies c c' 0 [] []
  | cons (d : Char) {k : Nat} {s t : Text} (h : Text.Varies c c' k s t) : Text.Varies c c' k (d :: s) (d :: t)
  | comment {k : Nat} {s t : Text} (h : Text.Varies c c' k s t) : Text.Varies c c' (k + 1) (c ++ s) (c' ++ t)

namespace Text.Varies

variable {i j : Nat} {s s' t t' : Text}

theorem refl (c c' s : Text) : Text.Varies c c' 0 s s := by
  induction s with
  | nil => exact .nil
  | cons d s ih => exact .cons d ih

theorem append (h : Text.Varies c c' i s t) (h' : Text.Varies c c' j s' t') :
    Text.Varies c c' (i + j) (s ++ s') (t ++ t') := by
  induction h with
  | nil => rwa [Nat.zero_add]
  | cons d _ ih => exact .cons d ih
  | comment _ ih =>
      rw [List.append_assoc, List.append_assoc, Nat.add_right_comm]
      exact .comment ih

theorem append_left (p : Text) (h : Text.Varies c c' i s t) : Text.Varies c c' i (p ++ s) (p ++ t) := by
  have happend := (refl c c' p).append h
  rwa [Nat.zero_add] at happend

theorem eq_of_zero (h : Text.Varies c c' i s t) (hi : i = 0) : s = t := by
  induction h with
  | nil => rfl
  | cons d _ ih => rw [ih hi]
  | comment => cases hi

theorem one (u v : Text) : Text.Varies c c' 1 (u ++ (c ++ v)) (u ++ (c' ++ v)) :=
  append_left u (.comment (refl c c' v))

theorem exists_of_one (h : Text.Varies c c' i s t) (hi : i = 1) :
    ∃ u v, s = u ++ (c ++ v) ∧ t = u ++ (c' ++ v) := by
  induction h with
  | nil => cases hi
  | cons d _ ih =>
      obtain ⟨u, v, rfl, rfl⟩ := ih hi
      exact ⟨d :: u, v, rfl, rfl⟩
  | comment h => exact ⟨[], _, rfl, by rw [h.eq_of_zero (Nat.succ.inj hi)]; rfl⟩

end Text.Varies

/-- The expressions are one, or they differ in a comment with a bracket still open. -/
inductive ExpressionVaries (c c' : Text) : Nat → Text → Text → Prop
  | same (e : Text) : ExpressionVaries c c' 0 e e
  | inside (u : Text) {v : Text} {d : Char} (hd : d ∈ v) (ho : ¬IsOrdinary d) :
      ExpressionVaries c c' 1 (u ++ (c ++ v)) (u ++ (c' ++ v))

theorem ExpressionVaries.text {k : Nat} {e e' : Text} (h : ExpressionVaries c c' k e e') : Text.Varies c c' k e e' := by
  cases h with
  | same => exact .refl c c' e
  | inside u => exact .one u _

/-- The attributes differ in comments, `i` of them in the expression and `j` behind it. -/
structure Attribute.Varies (c c' : Text) (i j : Nat) (a a' : Attribute) : Prop where
  lead : a'.lead = a.lead
  name : a'.name = a.name
  sep : a'.sep = a.sep
  expr : ExpressionVaries c c' i a.expr a'.expr
  tail : Text.Varies c c' j a.tail a'.tail

theorem Attribute.Varies.render {i j : Nat} {a a' : Attribute} (h : a.Varies c c' i j a') :
    Text.Varies c c' (i + j) a.render a'.render := by
  rw [Attribute.render, Attribute.render, h.lead, h.name, h.sep]
  exact (h.expr.text.append_left _).append h.tail

/-- An attribute with another expression, if it varies as the one before. -/
theorem Attribute.Varies.setExpression {i j : Nat} {a a' : Attribute} (h : a.Varies c c' i j a') {k : Nat} {e e' : Text}
    (he : ExpressionVaries c c' k e e') : ({ a with expr := e }).Varies c c' k j { a' with expr := e' } :=
  ⟨h.lead, h.name, h.sep, he, h.tail⟩

/-- The bodies differ in `k` comments. -/
inductive Body.Varies (c c' : Text) : Nat → Body → Body → Prop
  | nil : Body.Varies c c' 0 [] []
  | gaps {k k' i : Nat} {g g' ns ns' : Body} (hg : ∀ n ∈ g, ∃ t, n = .gap t) (hg' : ∀ n ∈ g', ∃ t, n = .gap t)
      (ht : Text.Varies c c' i (render g) (render g')) (hk : k' = i + k) (h : Body.Varies c c' k ns ns') :
      Body.Varies c c' k' (g ++ ns) (g' ++ ns')
  | field {k k' i j : Nat} {a a' : Attribute} {ns ns' : Body} (ha : a.Varies c c' i j a') (hk : k' = i + j + k)
      (h : Body.Varies c c' k ns ns') : Body.Varies c c' k' (.attribute a :: ns) (.attribute a' :: ns')
  | block {k k' i j : Nat} {head head' : BlockHead} {body body' ns ns' : Body} {closing closing' : Text}
      (hhead : head' = { head with line := head'.line }) (hbody : Body.Varies c c' i body body')
      (hclosing : Text.Varies c c' j closing closing') (hk : k' = i + j + k) (h : Body.Varies c c' k ns ns') :
      Body.Varies c c' k' (.block head body closing :: ns) (.block head' body' closing' :: ns')

namespace Body

variable {name : Text} {k : Nat} {body body' : Body}

theorem Varies.text (h : Varies c c' k body body') : Text.Varies c c' k (render body) (render body') := by
  induction h with
  | nil => exact .refl c c' _
  | gaps _ _ ht hk _ ih =>
      rw [render_append, render_append, hk]
      exact ht.append ih
  | field ha hk _ ih =>
      rw [render_cons, render_cons, Node.render, Node.render, hk]
      exact ha.render.append ih
  | @block k _ i j head head' _ _ _ _ _ _ hhead _ hclosing hk _ ih ih' =>
      rw [render_cons, render_cons, Node.render, Node.render, hk, hhead]
      exact ((ih.append_left _).append hclosing).append ih'

/-- The first attributes of a name, with what is left of the bodies when they are gone or changed. -/
structure Pairs (c c' : Text) (name : Text) (k : Nat) (body body' : Body) (i j : Nat) (a a' : Attribute) : Prop where
  left : attribute? body name = some a
  right : attribute? body' name = some a'
  varies : a.Varies c c' i j a'
  rest : ∃ r, k = i + j + r ∧ Varies c c' r (dropFirst name body) (dropFirst name body') ∧
    ∀ change change' i' j', (change a).Varies c c' i' j' (change' a') →
      Varies c c' (i' + j' + r) (modifyFirst name change body) (modifyFirst name change' body')

/-- Neither body has an attribute of the name, or the first ones vary. -/
def Paired (c c' name : Text) (k : Nat) (body body' : Body) : Prop :=
  (attribute? body name = none ∧ attribute? body' name = none) ∨ ∃ i j a a', Pairs c c' name k body body' i j a a'

/-- Nodes of other names in front of the bodies change nothing. -/
theorem Paired.prepend {m k' : Nat} {front front' ns ns' : Body} (h : Paired c c' name k ns ns')
    (hf : ∀ n ∈ front, n.isNamed name = false) (hf' : ∀ n ∈ front', n.isNamed name = false)
    (hvaries : ∀ r r' ns ns', r' = m + r → Varies c c' r ns ns' → Varies c c' r' (front ++ ns) (front' ++ ns'))
    (hk : k' = m + k) : Paired c c' name k' (front ++ ns) (front' ++ ns') := by
  rcases h with ⟨hl, hr⟩ | ⟨i, j, a, a', hl, hr, hv, r, hr', hdrop, hmodify⟩
  · left
    rw [attribute?_append_of_unnamed hf, attribute?_append_of_unnamed hf']
    exact ⟨hl, hr⟩
  · right
    refine ⟨i, j, a, a', ?_, ?_, hv, m + r, by omega, ?_, ?_⟩
    · rwa [attribute?_append_of_unnamed hf]
    · rwa [attribute?_append_of_unnamed hf']
    · rw [dropFirst_append_of_unnamed hf, dropFirst_append_of_unnamed hf']
      exact hvaries _ _ _ _ rfl hdrop
    · intro change change' i' j' hc
      rw [modifyFirst_append_of_unnamed hf, modifyFirst_append_of_unnamed hf']
      exact hvaries _ _ _ _ (by omega) (hmodify change change' i' j' hc)

/-- Bodies that vary have attributes of the same names, and the first of a name vary. -/
theorem Varies.pairs (h : Varies c c' k body body') (name : Text) : Paired c c' name k body body' := by
  induction h with
  | nil => exact .inl ⟨rfl, rfl⟩
  | gaps hg hg' ht hk _ ih =>
      exact ih.prepend (not_isNamed_of_gaps hg name) (not_isNamed_of_gaps hg' name)
        (fun _ _ _ _ hr h => .gaps hg hg' ht hr h) hk
  | @field k _ i j b b' ns ns' hb hk h ih =>
      by_cases hname : b.name = name
      · have hname' : b'.name = name := hb.name.trans hname
        refine .inr ⟨i, j, b, b', attribute?_cons_of_pos hname ns, attribute?_cons_of_pos hname' ns', hb, k, hk, ?_, ?_⟩
        · rw [dropFirst, dropFirst, List.eraseP_cons_of_pos (by simp [Node.isNamed, hname]),
            List.eraseP_cons_of_pos (by simp [Node.isNamed, hname'])]
          exact h
        · intro change change' i₁ j₁ hc
          rw [modifyFirst, modifyFirst, if_pos hname, if_pos hname']
          exact .field hc rfl h
      · have hnamed : (Node.attribute b).isNamed name = false := decide_eq_false hname
        have hnamed' : (Node.attribute b').isNamed name = false := decide_eq_false (hb.name ▸ hname)
        exact ih.prepend (List.forall_mem_singleton.2 hnamed) (List.forall_mem_singleton.2 hnamed')
          (fun _ _ _ _ hr h => .field hb hr h) hk
  | block hhead hbody hclosing hk _ _ ih =>
      exact ih.prepend (List.forall_mem_singleton.2 rfl) (List.forall_mem_singleton.2 rfl)
        (fun _ _ _ _ hr h => .block hhead hbody hclosing hr h) hk

theorem Varies.has_eq (h : Varies c c' k body body') (name : Text) : has body' name = has body name := by
  rw [Body.has, Body.has]
  rcases h.pairs name with ⟨hl, hr⟩ | ⟨_, _, a, a', hp⟩
  · rw [hl, hr]
  · rw [hp.left, hp.right]
    rfl

theorem dropFirst_modifyFirst {old new : Text} (hne : old ≠ new) (value : Text) (body : Body) :
    dropFirst old (modifyFirst new ({ · with expr := value }) body) =
      modifyFirst new ({ · with expr := value }) (dropFirst old body) := by
  have cons_of_pos {n : Node} (h : n.isNamed old = true) (ns : Body) : dropFirst old (n :: ns) = ns :=
    List.eraseP_cons_of_pos h
  have cons_of_neg {n : Node} (h : n.isNamed old = false) (ns : Body) :
      dropFirst old (n :: ns) = n :: dropFirst old ns :=
    List.eraseP_cons_of_neg (by simp [h])
  induction body with
  | nil => rfl
  | cons n ns ih =>
      cases hnew : n.isNamed new with
      | true =>
          obtain ⟨a, rfl, ha⟩ := eq_attribute_of_isNamed hnew
          have hold (b : Attribute) (hb : b.name = new) : (Node.attribute b).isNamed old = false :=
            decide_eq_false fun h => hne (h.symm.trans hb)
          rw [modifyFirst, if_pos ha, cons_of_neg (hold { a with expr := value } ha), cons_of_neg (hold a ha),
            modifyFirst, if_pos ha]
      | false =>
          rw [modifyFirst_cons_of_neg hnew]
          cases hold : n.isNamed old with
          | true => rw [cons_of_pos hold, cons_of_pos hold]
          | false => rw [cons_of_neg hold, cons_of_neg hold, modifyFirst_cons_of_neg hnew, ih]

/-! ### Lost comments -/

/-- One of the first attributes of these names holds one of at most `k` comments in which the bodies differ. -/
def StandsOn (c c' : Text) (k : Nat) (names : List Text) (body body' : Body) : Prop :=
  ∃ name ∈ names, ∃ i j a a', attribute? body name = some a ∧ attribute? body' name = some a' ∧ a.Varies c c' i j a' ∧
    0 < i + j ∧ i + j ≤ k

/-- Of the `k` comments in which the bodies differ `k'` are left, and if some are gone, then one of them stood on an
attribute with one of these names. -/
def Leaves (c c' : Text) (names : List Text) (body body' : Body) (k k' : Nat) : Prop :=
  k' = k ∨ k' < k ∧ StandsOn c c' k names body body'

section

variable {names names' edited : List Text} {k₁ k₂ : Nat} {changed changed' : Body}

theorem StandsOn.mono_count (h : StandsOn c c' k₁ names body body') (hk : k₁ ≤ k) :
    StandsOn c c' k names body body' := by
  obtain ⟨name, hname, i, j, a, a', hl, hr, hv, hpos, hle⟩ := h
  exact ⟨name, hname, i, j, a, a', hl, hr, hv, hpos, Nat.le_trans hle hk⟩

theorem Leaves.mono (h : Leaves c c' names body body' k k₁) (hn : ∀ t ∈ names, t ∈ names') :
    Leaves c c' names' body body' k k₁ := by
  refine h.imp_right ?_
  rintro ⟨hless, name, hname, hstands⟩
  exact ⟨hless, name, hn name hname, hstands⟩

theorem Leaves.trans (h : Leaves c c' names body body' k k₁) (h' : Leaves c c' names body body' k₁ k₂) :
    Leaves c c' names body body' k k₂ := by
  rcases h with rfl | ⟨hless, hstands⟩
  · exact h'
  · right
    rcases h' with rfl | ⟨hless', -⟩
    · exact ⟨hless, hstands⟩
    · exact ⟨Nat.lt_trans hless' hless, hstands⟩

/-- What is lost of edited bodies is lost of the bodies before, if its names were not edited. -/
theorem Leaves.of_edited (h : Leaves c c' names changed changed' k k₁) (he : Edited edited body changed)
    (he' : Edited edited body' changed') (hn : ∀ t ∈ names, t ∉ edited) : Leaves c c' names body body' k k₁ := by
  refine h.imp_right ?_
  rintro ⟨hless, name, hname, i, j, a, a', hl, hr, hstands⟩
  rw [attribute?_edited he (hn name hname)] at hl
  rw [attribute?_edited he' (hn name hname)] at hr
  exact ⟨hless, name, hname, i, j, a, a', hl, hr, hstands⟩

end

/-- The names of two attributes that are there both. -/
def mergedNames (old new : Text) (body : Body) : List Text :=
  if has body old = true ∧ has body new = true then [old, new] else []

theorem mergedNames_subset (old new : Text) (body : Body) : ∀ t ∈ mergedNames old new body, t ∈ [old, new] := by
  unfold mergedNames
  split
  · exact fun t ht => ht
  · exact fun t ht => absurd ht List.not_mem_nil

section

variable {i j : Nat} {a a' : Attribute}

/-- Dropping an attribute loses a comment only if it stands on the attribute. -/
theorem Pairs.drop (hp : Pairs c c' name k body body' i j a a') :
    ∃ k', Varies c c' k' (dropFirst name body) (dropFirst name body') ∧ Leaves c c' [name] body body' k k' := by
  obtain ⟨hl, hr, hv, r, hk, hdrop, -⟩ := hp
  refine ⟨r, hdrop, ?_⟩
  by_cases hless : i + j = 0
  · exact .inl (by omega)
  · exact .inr ⟨by omega, name, List.mem_singleton_self name, i, j, a, a', hl, hr, hv, by omega, by omega⟩

/-- Setting the expression of an attribute loses nothing if the new expressions vary as the old ones. -/
theorem Pairs.setExpression (hp : Pairs c c' name k body body' i j a a') {e e' : Text}
    (he : ExpressionVaries c c' i e e') :
    Varies c c' k (modifyFirst name ({ · with expr := e }) body) (modifyFirst name ({ · with expr := e' }) body') := by
  obtain ⟨-, -, hv, r, hk, -, hmodify⟩ := hp
  rw [hk]
  exact hmodify _ _ i j (hv.setExpression he)

/-- Merging an attribute into another loses a comment only if it stands on one of the two. -/
theorem Pairs.merge {old new value value' : Text} (hp : Pairs c c' old k body body' i j a a') (hne : old ≠ new)
    (hnew : has body new = true) (hvalue : ExpressionVaries c c' i value value') :
    ∃ k', Varies c c' k' (dropFirst old (modifyFirst new ({ · with expr := value }) body))
        (dropFirst old (modifyFirst new ({ · with expr := value' }) body')) ∧
      Leaves c c' (mergedNames old new body) body body' k k' := by
  obtain ⟨hl, hr, hv, r, hk, hdrop, -⟩ := hp
  have hkept (b : Body) : attribute? (dropFirst old b) new = attribute? b new :=
    attribute?_edited (edited_dropFirst (List.mem_singleton_self old) b) (by simpa using Ne.symm hne)
  have hboth : mergedNames old new body = [old, new] := if_pos ⟨by rw [has, hl]; rfl, hnew⟩
  rw [dropFirst_modifyFirst hne, dropFirst_modifyFirst hne, hboth]
  rcases hdrop.pairs new with ⟨hb, -⟩ | ⟨i', j', b, b', hb, hb', hvb, r', hr', -, hmodify⟩
  · rw [has, ← hkept, hb] at hnew
    cases hnew
  · refine ⟨i + j' + r', hmodify _ _ i j' (hvb.setExpression hvalue), ?_⟩
    rw [hkept] at hb hb'
    -- What stood behind the old attribute is gone, and so is what the new one held.
    by_cases hless : j + i' = 0
    · exact .inl (by omega)
    · refine .inr ⟨by omega, ?_⟩
      by_cases hold : i + j = 0
      · exact ⟨new, by simp, i', j', b, b', hb, hb', hvb, by omega, by omega⟩
      · exact ⟨old, by simp, i, j, a, a', hl, hr, hv, by omega, by omega⟩

/-- A rename loses a comment only where it merges two attributes, and only one that stands on the two. -/
theorem Pairs.rename {old new : Text} (hp : Pairs c c' old k body body' i j a a') (expr expr' : Option Text)
    (h : Varies c c' k body body') (hvalue : ExpressionVaries c c' i (expr.getD a.expr) (expr'.getD a'.expr)) :
    ∃ renamed renamed' k', renameAttribute? old new expr body = some renamed ∧
      renameAttribute? old new expr' body' = some renamed' ∧ Varies c c' k' renamed renamed' ∧
      Leaves c c' (mergedNames old new body) body body' k k' := by
  rw [renameAttribute?_eq, renameAttribute?_eq, hp.left, hp.right, Option.map_some, Option.map_some]
  simp only [h.has_eq]
  generalize expr.getD a.expr = value at hvalue
  generalize expr'.getD a'.expr = value' at hvalue
  by_cases hsame : old = new
  · rw [if_pos hsame, if_pos hsame]
    exact ⟨_, _, k, rfl, rfl, hp.setExpression hvalue, .inl rfl⟩
  · rw [if_neg hsame, if_neg hsame]
    by_cases hnew : has body new = true
    · rw [if_pos hnew, if_pos hnew]
      obtain ⟨k', hmerged⟩ := hp.merge hsame hnew hvalue
      exact ⟨_, _, k', rfl, rfl, hmerged⟩
    · rw [if_neg hnew, if_neg hnew]
      obtain ⟨-, -, hv, r, hk, -, hmodify⟩ := hp
      have hrenamed : (a.renamed old new value).Varies c c' i j (a'.renamed old new value') :=
        ⟨hv.lead, rfl, by rw [Attribute.renamed, Attribute.renamed, hv.sep], hvalue, hv.tail⟩
      exact ⟨_, _, _, rfl, rfl, hmodify (·.renamed old new value) (·.renamed old new value') i j hrenamed, .inl hk.symm⟩

end

/-! ### Blocks -/

section

variable {g : Body} (hg : ∀ n ∈ g, ∃ t, n = .gap t)

include hg

theorem blocks_gaps_append (ns : Body) : blocks (g ++ ns) = blocks ns := by
  induction g with
  | nil => rfl
  | cons n g ih =>
      obtain ⟨⟨t, rfl⟩, hns⟩ := List.forall_mem_cons.1 hg
      exact ih hns

theorem modifyFirstBlock_gaps_append (kind : Text) (change : Body → Body) (ns : Body) :
    modifyFirstBlock kind change (g ++ ns) = g ++ modifyFirstBlock kind change ns := by
  induction g with
  | nil => rfl
  | cons n g ih =>
      obtain ⟨⟨t, rfl⟩, hns⟩ := List.forall_mem_cons.1 hg
      exact congrArg (Node.gap t :: ·) (ih hns)

end

/-- Bodies that vary have blocks of the same kinds, and the first of a kind vary. -/
theorem Varies.firstBlocks (h : Varies c c' k body body') (kind : Text) :
    (block? body kind = none ∧ block? body' kind = none) ∨
      ∃ b b' i, block? body kind = some b ∧ block? body' kind = some b' ∧ Varies c c' i b.body b'.body ∧
        ∀ inner inner', Varies c c' i inner inner' →
          Varies c c' k (modifyFirstBlock kind (fun _ => inner) body)
            (modifyFirstBlock kind (fun _ => inner') body') := by
  induction h with
  | nil => exact .inl ⟨rfl, rfl⟩
  | @gaps k _ i g g' ns ns' hg hg' ht hk _ ih =>
      rw [block?, block?, blocks_gaps_append hg, blocks_gaps_append hg']
      rcases ih with hnone | ⟨b, b', i', hb, hb', hv, hmodify⟩
      · exact .inl hnone
      · refine .inr ⟨b, b', i', hb, hb', hv, fun inner inner' hinner => ?_⟩
        rw [modifyFirstBlock_gaps_append hg, modifyFirstBlock_gaps_append hg']
        exact .gaps hg hg' ht hk (hmodify inner inner' hinner)
  | @field k _ i j a a' ns ns' ha hk _ ih =>
      rcases ih with hnone | ⟨b, b', i', hb, hb', hv, hmodify⟩
      · exact .inl hnone
      · exact .inr ⟨b, b', i', hb, hb', hv, fun inner inner' hinner => .field ha hk (hmodify inner inner' hinner)⟩
  | @block k _ i j head head' inner inner' ns ns' closing closing' hhead hbody hclosing hk h _ ih =>
      have hkind' : head'.kind = head.kind := by rw [hhead]
      by_cases hkind : head.kind = kind
      · right
        refine ⟨⟨head, inner, closing⟩, ⟨head', inner', closing'⟩, i, ?_, ?_, hbody,
          fun changed changed' hchanged => ?_⟩
        · rw [block?_cons_block, if_pos hkind]
        · rw [block?_cons_block, if_pos (hkind'.trans hkind)]
        · rw [modifyFirstBlock_cons_block, modifyFirstBlock_cons_block, if_pos hkind, if_pos (hkind'.trans hkind)]
          exact .block hhead hchanged hclosing hk h
      · rw [block?_cons_block, block?_cons_block, hkind', if_neg hkind, if_neg hkind]
        rcases ih with hnone | ⟨b, b', i', hb, hb', hv, hmodify⟩
        · exact .inl hnone
        · refine .inr ⟨b, b', i', hb, hb', hv, fun changed changed' hchanged => ?_⟩
          rw [modifyFirstBlock_cons_block, modifyFirstBlock_cons_block, hkind', if_neg hkind, if_neg hkind]
          exact .block hhead hbody hclosing hk (hmodify changed changed' hchanged)

end Body
end JujuMigration
