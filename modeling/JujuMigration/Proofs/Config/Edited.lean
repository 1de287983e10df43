import JujuMigration.Config.Edit
/-! Changes of attributes inside a body. Each change finds the first attribute of a name and leaves the nodes on both
sides of it; a body is `Edited` if attributes of listed names have changed or vanished and nothing else has. -/

namespace JujuMigration

def Node.isNamed (name : Text) : Node → Bool
  | .attribute a => a.name = name
  | _ => false

namespace Body

variable {name : Text} {body : Body}

/-- The body without the first attribute of that name. -/
def dropFirst (name : Text) (body : Body) : Body := body.eraseP (Node.isNamed name)

/-! ### First matches -/

theorem attribute?_cons_of_pos {a : Attribute} (h : a.name = name) (ns : Body) :
    attribute? (.attribute a :: ns) name = some a := by
  simp [attribute?, attributes, h]

theorem attribute?_cons_of_neg {n : Node} (h : n.isNamed name = false) (ns : Body) :
    attribute? (n :: ns) name = attribute? ns name := by
  rcases n with _ | a | _
  · rfl
  · have ha : a.name ≠ name := of_decide_eq_false h
    simp [attribute?, attributes, ha]
  · rfl

theorem attribute?_append (front back : Body) (name : Text) :
    attribute? (front ++ back) name = (attribute? front name).or (attribute? back name) := by
  rw [attribute?, attributes, List.filterMap_append, List.find?_append]
  rfl

theorem modifyFirst_cons_of_neg {n : Node} (h : n.isNamed name = false) (change : Attribute → Attribute) (ns : Body) :
    modifyFirst name change (n :: ns) = n :: modifyFirst name change ns := by
  rcases n with _ | a | _
  · rfl
  · rw [modifyFirst, if_neg (of_decide_eq_false h)]
  · rfl

section

variable {front : Body} (hf : ∀ n ∈ front, n.isNamed name = false)

include hf

theorem attribute?_append_of_unnamed (ns : Body) : attribute? (front ++ ns) name = attribute? ns name := by
  induction front with
  | nil => rfl
  | cons n front ih =>
      obtain ⟨hn, hns⟩ := List.forall_mem_cons.1 hf
      exact (attribute?_cons_of_neg hn _).trans (ih hns)

theorem modifyFirst_append_of_unnamed (change : Attribute → Attribute) (ns : Body) :
    modifyFirst name change (front ++ ns) = front ++ modifyFirst name change ns := by
  induction front with
  | nil => rfl
  | cons n front ih =>
      obtain ⟨hn, hns⟩ := List.forall_mem_cons.1 hf
      exact (modifyFirst_cons_of_neg hn _ _).trans (congrArg (n :: ·) (ih hns))

theorem dropFirst_append_of_unnamed (ns : Body) : dropFirst name (front ++ ns) = front ++ dropFirst name ns := by
  apply List.eraseP_append_right
  intro n hn hnamed
  rw [hf n hn] at hnamed
  cases hnamed

end

theorem not_isNamed_of_gaps {g : Body} (hg : ∀ n ∈ g, ∃ t, n = .gap t) (name : Text) :
    ∀ n ∈ g, n.isNamed name = false := by
  intro n hn
  obtain ⟨t, rfl⟩ := hg n hn
  rfl

theorem eq_attribute_of_isNamed {n : Node} (h : n.isNamed name = true) : ∃ a, n = .attribute a ∧ a.name = name := by
  rcases n with _ | a | _
  · cases h
  · exact ⟨a, rfl, of_decide_eq_true h⟩
  · cases h

/-- The first attribute of a name stands between two bodies, and every change of it leaves them. -/
theorem attribute?_eq_some {a : Attribute} (h : attribute? body name = some a) :
    ∃ front back, body = front ++ .attribute a :: back ∧ a.name = name ∧ attribute? front name = none ∧
      (∀ change, modifyFirst name change body = front ++ .attribute (change a) :: back) ∧
      dropFirst name body = front ++ back := by
  induction body with
  | nil => cases h
  | cons n ns ih =>
      cases hn : n.isNamed name with
      | false =>
          rw [attribute?_cons_of_neg hn] at h
          obtain ⟨front, back, hb, ha, hf, hc, hd⟩ := ih h
          refine ⟨n :: front, back, by rw [hb]; rfl, ha, ?_, fun change => ?_, ?_⟩
          · rw [attribute?_cons_of_neg hn, hf]
          · rw [modifyFirst_cons_of_neg hn, hc]
            rfl
          · rw [dropFirst, List.eraseP_cons_of_neg (by simp [hn]), ← dropFirst, hd]
            rfl
      | true =>
          obtain ⟨b, rfl, hb⟩ := eq_attribute_of_isNamed hn
          obtain rfl : b = a := Option.some.inj ((attribute?_cons_of_pos hb ns).symm.trans h)
          exact ⟨[], ns, rfl, hb, rfl, fun _ => by rw [modifyFirst, if_pos hb]; rfl, List.eraseP_cons_of_pos hn⟩

/-- Changing the attribute of one name leaves the first attribute of another. -/
theorem attribute?_modifyFirst {old : Text} {change : Attribute → Attribute} (hn : name ≠ old)
    (hc : ∀ a, (change a).name = a.name) (body : Body) :
    attribute? (modifyFirst name change body) old = attribute? body old := by
  fun_induction modifyFirst name change body with
  | case1 => rfl
  | case2 a ns ha =>
      have h1 : (Node.attribute (change a)).isNamed old = false := by
        simp [Node.isNamed, hc, ha, hn]
      have h2 : (Node.attribute a).isNamed old = false := by
        simp [Node.isNamed, ha, hn]
      rw [attribute?_cons_of_neg h1, attribute?_cons_of_neg h2]
  | case3 a ns ha ih =>
      by_cases ho : a.name = old
      · rw [attribute?_cons_of_pos ho, attribute?_cons_of_pos ho]
      · have h2 : (Node.attribute a).isNamed old = false := by simp [Node.isNamed, ho]
        rw [attribute?_cons_of_neg h2, attribute?_cons_of_neg h2, ih]
  | case4 n ns hno ih =>
      have h2 : n.isNamed old = false := by
        rcases n with _ | a | _
        · rfl
        · exact absurd rfl (hno a)
        · rfl
      rw [attribute?_cons_of_neg h2, attribute?_cons_of_neg h2, ih]

/-! ### Removal -/

/-- The first node that equals the first attribute of a name is that attribute's own. -/
theorem erase_attribute {a : Attribute} (h : attribute? body name = some a) :
    body.erase (.attribute a) = dropFirst name body := by
  obtain ⟨front, back, rfl, ha, hfront, -, hdrop⟩ := attribute?_eq_some h
  -- An equal node in front would have the name as well.
  have hnone : .attribute a ∉ front := by
    intro hmem
    exact List.find?_eq_none.1 hfront a (mem_attributes.2 hmem) (decide_eq_true ha)
  rw [hdrop, List.erase_append_right _ hnone, List.erase_cons_head]

theorem removeAttribute?_eq (name : Text) (body : Body) :
    removeAttribute? name body = (attribute? body name).map fun _ => dropFirst name body := by
  rw [removeAttribute?]
  cases h : attribute? body name with
  | none => rfl
  | some a => exact congrArg some (erase_attribute h)

/-- Where a rename merges two attributes, the one that goes is the first of the old name. -/
theorem renameAttribute?_eq (old new : Text) (expr : Option Text) (body : Body) :
    renameAttribute? old new expr body = (attribute? body old).map fun a =>
      let value := expr.getD a.expr
      if old = new then modifyFirst old ({ · with expr := value }) body
      else if has body new then dropFirst old (modifyFirst new ({ · with expr := value }) body)
      else
        modifyFirst old
          (fun a => { a with
            name := new
            sep := realignSeparator a.sep old.length new.length
            expr := value })
          body := by
  rw [renameAttribute?]
  cases h : attribute? body old with
  | none => rfl
  | some a =>
      by_cases hne : old = new
      · simp only [Option.map_some, if_pos hne]
      · have ha : attribute? (modifyFirst new ({ · with expr := expr.getD a.expr }) body) old = some a := by
          refine (attribute?_modifyFirst (Ne.symm hne) ?_ body).trans h
          intro b
          rfl
        simp only [Option.map_some, if_neg hne, erase_attribute ha]

end Body

/-! ### Edited bodies -/

/-- Between the bodies, attributes whose names are all listed may have changed their name, separator and expression,
or have vanished. -/
inductive Edited (names : List Text) : Body → Body → Prop
  | nil : Edited names [] []
  | same (n : Node) {body body' : Body} (h : Edited names body body') : Edited names (n :: body) (n :: body')
  | changed {a b : Attribute} {body body' : Body} (ha : a.name ∈ names) (hb : b.name ∈ names)
      (hlead : b.lead = a.lead) (htail : b.tail = a.tail) (hline : b.line = a.line) (h : Edited names body body') :
      Edited names (.attribute a :: body) (.attribute b :: body')
  | dropped {a : Attribute} {body body' : Body} (ha : a.name ∈ names) (h : Edited names body body') :
      Edited names (.attribute a :: body) body'

namespace Edited

variable {names names' : List Text} {body body' body'' : Body}

theorem refl (names : List Text) (body : Body) : Edited names body body := by
  induction body with
  | nil => exact .nil
  | cons n ns ih => exact .same n ih

theorem mono (hs : ∀ t ∈ names, t ∈ names') (h : Edited names body body') : Edited names' body body' := by
  induction h with
  | nil => exact .nil
  | same n _ ih => exact .same n ih
  | changed ha hb hlead htail hline _ ih => exact .changed (hs _ ha) (hs _ hb) hlead htail hline ih
  | dropped ha _ ih => exact .dropped (hs _ ha) ih

theorem trans (h : Edited names body body') (h' : Edited names body' body'') : Edited names body body'' := by
  induction h generalizing body'' with
  | nil => exact h'
  | same n _ ih =>
      cases h' with
      | same _ h' => exact .same n (ih h')
      | changed ha hb hlead htail hline h' => exact .changed ha hb hlead htail hline (ih h')
      | dropped ha h' => exact .dropped ha (ih h')
  | changed ha hb hlead htail hline _ ih =>
      cases h' with
      | same _ h' => exact .changed ha hb hlead htail hline (ih h')
      | changed _ hc hlead' htail' hline' h' =>
          exact .changed ha hc (hlead'.trans hlead) (htail'.trans htail) (hline'.trans hline) (ih h')
      | dropped _ h' => exact .dropped ha (ih h')
  | dropped ha _ ih => exact .dropped ha (ih h')

end Edited

namespace Body

variable {name : Text} {names : List Text}

theorem edited_modifyFirst {change : Attribute → Attribute} (hn : name ∈ names)
    (h : ∀ a, a.name = name → (change a).name ∈ names ∧ (change a).lead = a.lead ∧ (change a).tail = a.tail ∧
      (change a).line = a.line) (body : Body) :
    Edited names body (modifyFirst name change body) := by
  fun_induction modifyFirst name change body with
  | case1 => exact .nil
  | case2 a nodes ha =>
      obtain ⟨hb, hlead, htail, hline⟩ := h a ha
      exact .changed (ha ▸ hn) hb hlead htail hline (.refl names nodes)
  | case3 a nodes _ ih => exact .same _ ih
  | case4 n nodes _ ih => exact .same n ih

/-- The first attribute of a name may be given another expression. -/
theorem edited_assign (name value : Text) (body : Body) :
    Edited [name] body (modifyFirst name ({ · with expr := value }) body) := by
  refine edited_modifyFirst (List.mem_singleton.2 rfl) (fun a ha => ?_) body
  exact ⟨List.mem_singleton.2 ha, rfl, rfl, rfl⟩

theorem edited_dropFirst (hn : name ∈ names) (body : Body) : Edited names body (dropFirst name body) := by
  unfold dropFirst
  induction body with
  | nil => exact .nil
  | cons n ns ih =>
      by_cases hb : n.isNamed name = true
      · rw [List.eraseP_cons_of_pos hb]
        rcases n with _ | a | _
        · cases hb
        · have ha : a.name = name := of_decide_eq_true hb
          exact .dropped (ha.symm ▸ hn) (.refl names ns)
        · cases hb
      · rw [List.eraseP_cons_of_neg hb]
        exact .same n ih

theorem edited_renameAttribute? {old new : Text} {expr : Option Text} {body body' : Body} (ho : old ∈ names)
    (hn : new ∈ names) (h : renameAttribute? old new expr body = some body') : Edited names body body' := by
  rw [renameAttribute?_eq] at h
  obtain ⟨a, -, rfl⟩ := Option.map_eq_some_iff.1 h
  simp only
  split
  · refine edited_modifyFirst ho (fun b hb => ?_) body
    exact ⟨hb.symm ▸ ho, rfl, rfl, rfl⟩
  · split
    · refine (edited_modifyFirst hn (fun b hb => ?_) body).trans (edited_dropFirst ho _)
      exact ⟨hb.symm ▸ hn, rfl, rfl, rfl⟩
    · refine edited_modifyFirst ho (fun b _ => ?_) body
      exact ⟨hn, rfl, rfl, rfl⟩

end Body
end JujuMigration
