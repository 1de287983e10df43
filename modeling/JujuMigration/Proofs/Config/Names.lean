import JujuMigration.Proofs.Config.Rename
/-! Names of attributes. In a body where every name stands once, a name that has been renamed or dropped is gone, and
every name still stands once. -/

namespace JujuMigration
namespace Body

variable {body body' : Body} {name old new : Text}

/-- The names of the attributes, in their order. -/
def names (body : Body) : List Text := (attributes body).map (·.name)

theorem names_append (a b : Body) : names (a ++ b) = names a ++ names b := by
  simp [names, attributes]

theorem names_cons_attribute (a : Attribute) (ns : Body) : names (.attribute a :: ns) = a.name :: names ns := rfl

theorem mem_names : name ∈ names body ↔ has body name = true := by
  simp [names, has, attribute?]

theorem names_modifyFirst {change : Attribute → Attribute} (hc : ∀ a, (change a).name = a.name) (body : Body) :
    names (modifyFirst name change body) = names body := by
  fun_induction modifyFirst name change body with
  | case1 => rfl
  | case2 a ns _ => rw [names_cons_attribute, names_cons_attribute, hc]
  | case3 a ns _ ih => rw [names_cons_attribute, names_cons_attribute, ih]
  | case4 n ns hno ih =>
      rcases n with _ | a | _
      · exact ih
      · exact absurd rfl (hno a)
      · exact ih

theorem names_dropFirst (name : Text) (body : Body) : names (dropFirst name body) = (names body).erase name := by
  unfold dropFirst
  induction body with
  | nil => rfl
  | cons n ns ih =>
      rcases n with _ | a | _
      · exact ih
      · by_cases ha : a.name = name
        · rw [List.eraseP_cons_of_pos (by simp [Node.isNamed, ha]), names_cons_attribute, ha, List.erase_cons_head]
        · rw [List.eraseP_cons_of_neg (by simp [Node.isNamed, ha]), names_cons_attribute, names_cons_attribute, ih,
            List.erase_cons_tail (by simpa using ha)]
      · exact ih

theorem nodup_dropFirst (h : (names body).Nodup) (name : Text) :
    (names (dropFirst name body)).Nodup ∧ name ∉ names (dropFirst name body) := by
  rw [names_dropFirst]
  exact ⟨h.erase name, fun hmem => (h.mem_erase_iff.1 hmem).1 rfl⟩

theorem nodup_renameAttribute? {expr : Option Text} (h : (names body).Nodup) (hne : old ≠ new)
    (hr : renameAttribute? old new expr body = some body') : (names body').Nodup ∧ old ∉ names body' := by
  obtain ⟨a, ha, -⟩ := Option.map_eq_some_iff.1 hr
  rcases renameAttribute?_cases hne ha hr with ⟨-, rfl⟩ | ⟨hhas, rfl⟩
  · refine nodup_dropFirst ?_ old
    rw [names_modifyFirst]
    · exact h
    · exact fun _ => rfl
  · obtain ⟨front, back, rfl, rfl, -, hm, -⟩ := attribute?_eq_some ha
    have hfresh : new ∉ names (front ++ .attribute a :: back) := by
      rw [mem_names, hhas]
      exact Bool.false_ne_true
    rw [hm]
    simp only [names_append, names_cons_attribute, List.nodup_append, List.nodup_cons, List.mem_append, List.mem_cons,
      Attribute.renamed] at h hfresh ⊢
    grind

/-- Attributes of other names than those listed are found as before. -/
theorem attribute?_edited {names : List Text} (h : Edited names body body') (hn : name ∉ names) :
    attribute? body' name = attribute? body name := by
  induction h with
  | nil => rfl
  | @same n ns ns' _ ih =>
      by_cases hnamed : n.isNamed name = true
      · obtain ⟨a, rfl, ha⟩ := eq_attribute_of_isNamed hnamed
        rw [attribute?_cons_of_pos ha, attribute?_cons_of_pos ha]
      · rw [attribute?_cons_of_neg (by simpa using hnamed), attribute?_cons_of_neg (by simpa using hnamed), ih]
  | @changed a b ns ns' ha hb _ _ _ _ ih =>
      have other (a : Attribute) (ha : a.name ∈ names) : (Node.attribute a).isNamed name = false := by
        refine decide_eq_false ?_
        rintro rfl
        exact hn ha
      rw [attribute?_cons_of_neg (other b hb), attribute?_cons_of_neg (other a ha), ih]
  | @dropped a ns ns' ha _ ih =>
      have hother : (Node.attribute a).isNamed name = false := by
        refine decide_eq_false ?_
        rintro rfl
        exact hn ha
      rw [attribute?_cons_of_neg hother, ih]

theorem blocks_edited {touched : List Text} (h : Edited touched body body') : blocks body' = blocks body := by
  induction h with
  | nil => rfl
  | same n _ ih =>
      rcases n with _ | _ | ⟨head, inner, closing⟩
      · exact ih
      · exact ih
      · exact congrArg (⟨head, inner, closing⟩ :: ·) ih
  | changed _ _ _ _ _ _ ih => exact ih
  | dropped _ _ ih => exact ih

theorem blocks_append (front back : Body) : blocks (front ++ back) = blocks front ++ blocks back :=
  List.filterMap_append

theorem attributes_modifyBlock (index : Nat) (change : Body → Body) (body : Body) :
    attributes (modifyBlock index change body) = attributes body := by
  induction body generalizing index with
  | nil => rw [modifyBlock]
  | cons n ns ih =>
      rcases n with _ | a | ⟨head, inner, closing⟩
      · rw [modifyBlock]
        · exact ih index
        · exact fun _ _ _ => Node.noConfusion
      · rw [modifyBlock]
        · exact congrArg (a :: ·) (ih index)
        · exact fun _ _ _ => Node.noConfusion
      · cases index with
        | zero => rw [modifyBlock]; rfl
        | succ index =>
            rw [modifyBlock]
            exact ih index

/-- An attribute is found with the expression that it has been given. -/
theorem attribute?_modifyFirst_expr {a : Attribute} (ha : attribute? body name = some a) (value : Text) :
    attribute? (modifyFirst name ({ · with expr := value }) body) name = some { a with expr := value } := by
  obtain ⟨front, back, rfl, hname, hfront, hm, -⟩ := attribute?_eq_some ha
  rw [hm, attribute?_append, hfront, Option.none_or]
  exact attribute?_cons_of_pos (a := { a with expr := value }) hname back

end Body
end JujuMigration
