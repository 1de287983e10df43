import Mathlib.Logic.Function.Basic
import JujuMigration.Proofs.Config.Names
/-! The bindings of a body, that is, the expression that each name stands for. In a body where every name stands once,
dropping an attribute unbinds its name, and a rename moves an expression from one name to another, whether the attribute
is changed in its place or merged into one that had the new name before. -/

namespace JujuMigration

/-- The expressions that names are bound to. -/
abbrev Bindings := Text → Option Text

namespace Bindings

variable {m : Bindings} {name source target value : Text}

/-- Binds the name to nothing. -/
def drop (name : Text) (m : Bindings) : Bindings := Function.update m name none

/-- Binds `source` to nothing and `target` to `value`, whatever it was bound to. -/
def move (source target value : Text) (m : Bindings) : Bindings := Function.update (m.drop source) target (some value)

theorem drop_of_eq_none (h : m name = none) : m.drop name = m := by
  rw [drop, ← h, Function.update_eq_self]

theorem drop_self (m : Bindings) (name : Text) : m.drop name name = none := Function.update_self ..

theorem drop_of_ne {other : Text} (h : other ≠ name) : m.drop name other = m other := Function.update_of_ne h ..

theorem move_target (m : Bindings) (source target value : Text) : m.move source target value target = some value :=
  Function.update_self ..

theorem move_source (hne : source ≠ target) : m.move source target value source = none := by
  rw [move, Function.update_of_ne hne, drop_self]

theorem move_of_ne (hs : name ≠ source) (ht : name ≠ target) : m.move source target value name = m name := by
  rw [move, Function.update_of_ne ht, drop_of_ne hs]

end Bindings

namespace Body

variable {body body' : Body} {name old new value : Text}

def bindings (body : Body) : Bindings := fun name => (attribute? body name).map (·.expr)

theorem isSome_bindings (body : Body) (name : Text) : (bindings body name).isSome = has body name := by
  rw [bindings, Option.isSome_map, has]

theorem bindings_of_attribute? {a : Attribute} (ha : attribute? body name = some a) :
    bindings body name = some a.expr := by
  rw [bindings, ha, Option.map_some]

theorem bindings_eq_some : bindings body name = some value ↔ ∃ a, attribute? body name = some a ∧ a.expr = value :=
  Option.map_eq_some_iff

theorem bindings_eq_none : bindings body name = none ↔ name ∉ names body := by
  rw [← Option.not_isSome_iff_eq_none, isSome_bindings, mem_names]

/-- Names other than those of the attributes that have been edited stay bound as they were. -/
theorem bindings_edited {edited : List Text} (h : Edited edited body body') (hn : name ∉ edited) :
    bindings body' name = bindings body name := by
  rw [bindings, bindings, attribute?_edited h hn]

theorem bindings_dropFirst (h : (names body).Nodup) (name : Text) :
    bindings (dropFirst name body) = (bindings body).drop name := by
  funext other
  by_cases hother : other = name
  · subst hother
    rw [Bindings.drop_self]
    exact bindings_eq_none.2 (nodup_dropFirst h other).2
  · rw [Bindings.drop_of_ne hother]
    exact bindings_edited (edited_dropFirst (List.mem_singleton_self name) body) (by simpa using hother)

/-- An attribute that is renamed in its place is found under its new name. -/
theorem attribute?_renamed {a : Attribute} (ha : attribute? body old = some a) (hfree : has body new = false)
    (value : Text) :
    attribute? (modifyFirst old (·.renamed old new value) body) new = some (a.renamed old new value) := by
  obtain ⟨front, back, rfl, -, -, hm, -⟩ := attribute?_eq_some ha
  have hfront : attribute? front new = none := by
    rw [has, attribute?_append, Option.isSome_or, Bool.or_eq_false_iff] at hfree
    exact Option.isSome_eq_false_iff.1 hfree.1 |> Option.isNone_iff_eq_none.1
  rw [hm, attribute?_append, hfront, Option.none_or]
  exact attribute?_cons_of_pos rfl back

theorem bindings_renameAttribute? {expr : Option Text} {a : Attribute} (h : (names body).Nodup) (hne : old ≠ new)
    (ha : attribute? body old = some a) (hr : renameAttribute? old new expr body = some body') :
    bindings body' = (bindings body).move old new (expr.getD a.expr) := by
  have hedited : Edited [old, new] body body' := edited_renameAttribute? (by simp) (by simp) hr
  have hgone := (nodup_renameAttribute? h hne hr).2
  funext name
  by_cases hold : name = old
  · rw [hold, Bindings.move_source hne]
    exact bindings_eq_none.2 hgone
  · by_cases hnew : name = new
    · rw [hnew, Bindings.move_target]
      rcases renameAttribute?_cases hne ha hr with ⟨hhas, rfl⟩ | ⟨hfree, rfl⟩
      · obtain ⟨b, hb⟩ := Option.isSome_iff_exists.1 hhas
        rw [bindings_edited (edited_dropFirst (List.mem_singleton_self old) _) (by simpa using Ne.symm hne)]
        exact bindings_of_attribute? (attribute?_modifyFirst_expr hb _)
      · exact bindings_of_attribute? (attribute?_renamed ha hfree _)
    · rw [Bindings.move_of_ne hold hnew]
      exact bindings_edited hedited (by simp [hold, hnew])

end Body
end JujuMigration
