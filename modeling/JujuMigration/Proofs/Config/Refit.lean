import JujuMigration.Proofs.Config.Rename
import JujuMigration.Proofs.Config.Traversal
/-! Bodies whose attributes fit in front of a closing brace. A rename in its place keeps them so; an attribute that
takes over another's expression has to fit with it. A body that was laid out and has been edited is laid out if its
attributes fit, for they stand in front of what they stood in front of, or of what ends a line as well. -/

namespace JujuMigration

open Source

/-- An attribute that is renamed and keeps its expression fits where it did before. -/
theorem Attribute.Fits.renamed {a : Attribute} {r new : Text} (h : a.Fits r) (hn : IsIdentifier new) (old : Text) :
    (a.renamed old new a.expr).Fits r :=
  { h with
    name := hn
    sep := (isSeparator_realign h.sep _ _).1
    value := fun hl => h.value ((isSeparator_realign h.sep _ _).2 ▸ hl) }

namespace Body

variable {body body' : Body} {old new name value : Text}

/-- Every attribute has the property. -/
def All (P : Attribute → Prop) (body : Body) : Prop := ∀ a, .attribute a ∈ body → P a

/-- Every attribute is read as what it is in front of a closing brace. -/
abbrev Fits (body : Body) : Prop := body.All (·.Fits ['}'])

section

variable {P : Attribute → Prop}

theorem All.of_attribute? {a : Attribute} (h : body.All P) (ha : attribute? body name = some a) : P a := by
  obtain ⟨front, back, rfl, -⟩ := attribute?_eq_some ha
  exact h a (by simp)

theorem All.modifyFirst {change : Attribute → Attribute} {a : Attribute} (h : body.All P)
    (ha : attribute? body name = some a) (hc : P (change a)) : (modifyFirst name change body).All P := by
  obtain ⟨front, back, rfl, -, -, hm, -⟩ := attribute?_eq_some ha
  rw [hm]
  intro b hb
  rcases List.mem_append.1 hb with hb | hb
  · exact h b (List.mem_append_left _ hb)
  · rcases List.mem_cons.1 hb with hb | hb
    · rwa [Node.attribute.inj hb]
    · exact h b (List.mem_append_right _ (List.mem_cons_of_mem _ hb))

theorem All.dropFirst (h : body.All P) : (dropFirst name body).All P :=
  fun a ha => h a ((List.eraseP_sublist).subset ha)

/-- After a rename every attribute has the property if the renamed one has it with its value, in its own place and in
the place of the attribute that has the new name already, if there is one. -/
theorem All.renameAttribute? {expr : Option Text} {a : Attribute} (h : body.All P)
    (hrenamed : ∀ {a}, P a → P (a.renamed old new a.expr)) (hne : old ≠ new) (ha : attribute? body old = some a)
    (hplace : P { a with expr := expr.getD a.expr })
    (hmerge : ∀ b, attribute? body new = some b → P { b with expr := expr.getD a.expr })
    (hr : renameAttribute? old new expr body = some body') : body'.All P := by
  have hcases := renameAttribute?_cases hne ha hr
  generalize expr.getD a.expr = value at hplace hmerge hcases
  rcases hcases with ⟨hhas, rfl⟩ | ⟨-, rfl⟩
  · obtain ⟨b, hb⟩ := Option.isSome_iff_exists.1 hhas
    exact (h.modifyFirst hb (hmerge b hb)).dropFirst
  · exact h.modifyFirst ha (hrenamed hplace)

end

end Body

/-! ### Edited bodies that are laid out -/

theorem Laid.fits {body : Body} (h : Laid (some '}') body) : body.Fits := by
  intro a ha
  generalize hs : some '}' = stop at h
  induction h with
  | nil => cases ha
  | finish => cases hs
  | gap _ _ _ ih => exact ih ((List.mem_cons.1 ha).resolve_left (by simp)) hs
  | field _ hfits _ ih =>
      rcases List.mem_cons.1 ha with ha | ha
      · rw [Node.attribute.inj ha]
        exact hfits ['}'] fun _ => hs
      · exact ih ha hs
  | block _ _ _ _ _ _ ih => exact ih ((List.mem_cons.1 ha).resolve_left (by simp)) hs

theorem Edited.eq_nil {names : List Text} {old new : Body} (he : Edited names old new) (h : old = []) : new = [] := by
  subst h
  cases he
  rfl

/-- An attribute with the tail of one that stood here fits here if it fits in front of a closing brace. -/
theorem Attribute.Fits.of_tail {a b : Attribute} {nodes : Body} {r : Text} (hb : b.Fits ['}'])
    (htail : b.tail = a.tail) (ha : ∀ r, (nodes = [] → r.head? = some '}') → a.Fits r)
    (hr : nodes = [] → r.head? = some '}') : b.Fits r := by
  refine hb.follows ?_
  by_cases hn : nodes = []
  · exact .inr ⟨rfl, hr hn⟩
  · refine .inl ?_
    rw [htail]
    -- It fits in front of a letter, so it ends its line.
    exact (ha ['x'] fun h => absurd h hn).ends.resolve_right (by decide)

theorem Laid.edited {names : List Text} {old new : Body} (h : Laid (some '}') old) (he : Edited names old new)
    (hf : new.Fits) : Laid (some '}') new := by
  generalize hs : some '}' = stop at h
  induction h generalizing new with
  | nil =>
      cases he
      exact .nil
  | finish => cases hs
  | @gap stop t nodes ht htrim h ih =>
      cases he with
      | same _ he =>
          have hrest := ih he (fun b hb => hf b (List.mem_cons_of_mem _ hb)) hs
          exact .gap ht (fun hn => htrim fun h => hn (he.eq_nil h)) hrest
  | @field stop a nodes hlead hfits h ih =>
      subst hs
      cases he with
      | same _ he =>
          have hrest := ih he (fun b hb => hf b (List.mem_cons_of_mem _ hb)) rfl
          exact .field hlead (fun r hr => hfits r fun hn => hr (he.eq_nil hn)) hrest
      | @changed _ b _ _ ha hb hlead' htail hline he =>
          have hrest := ih he (fun b hb => hf b (List.mem_cons_of_mem _ hb)) rfl
          have hfit := hf b List.mem_cons_self
          exact .field (hlead' ▸ hlead) (fun r hr => hfit.of_tail htail hfits fun hn => hr (he.eq_nil hn)) hrest
      | dropped _ he => exact ih he hf rfl
  | @block stop head body nodes tail hlead hopens hbody htail h _ ih =>
      cases he with
      | same _ he =>
          have hrest := ih he (fun b hb => hf b (List.mem_cons_of_mem _ hb)) hs
          exact .block hlead hopens hbody (fun r hr => htail r fun hn => hr (he.eq_nil hn)) hrest

end JujuMigration
