import Mathlib.Data.List.Forall2
import JujuMigration.Proofs.Config.Edited
import JujuMigration.Proofs.Upgrade.Rule
import JujuMigration.Upgrade.Document
/-! The frame of an upgrade. The nodes of a file keep their order and their kinds; inside a block that a rule handles,
only attributes with the names that the rules for it list change or vanish, and none of them changes what stands
around it. -/

namespace JujuMigration

/-- The names that retiring a field touches. A field that is only reviewed is not touched. -/
def DeprecatedField.names (f : DeprecatedField) : List Text :=
  match f.fate with
  | .review _ => []
  | .remove => [f.name]
  | .rename replacement => [f.name, replacement]

namespace Body

variable {type label : Text} {body body' : Body} {change : Change}

theorem edited_renameField? {r : FieldRename} (h : renameField? type label r body = some (body', change)) :
    Edited [r.source, r.target] body body' := by
  obtain ⟨a, expr, -, -, hr⟩ := renameField?_eq_some h
  exact edited_renameAttribute? List.mem_cons_self (List.mem_cons_of_mem _ List.mem_cons_self) hr

theorem edited_retireField (type label : Text) (body : Body) (f : DeprecatedField) :
    Edited f.names body (retireField type label body f).1 := by
  have h := retired_retireField type label body f
  generalize (retireField type label body f).1 = body' at h ⊢
  generalize (retireField type label body f).2 = notes at h
  cases h with
  | absent => exact .refl _ _
  | review => exact .refl _ _
  | removed _ hf => exact edited_dropFirst (by rw [DeprecatedField.names, hf]; exact List.mem_cons_self) body
  | renamed _ hf hr =>
      rw [DeprecatedField.names, hf]
      exact edited_renameAttribute? List.mem_cons_self (List.mem_cons_of_mem _ List.mem_cons_self) hr

theorem edited_retireFields (type label : Text) (fields : List DeprecatedField) (body : Body) :
    Edited (fields.flatMap DeprecatedField.names) body (retireFields type label fields body).1 := by
  induction fields generalizing body with
  | nil => exact .refl _ _
  | cons f fs ih =>
      rw [List.flatMap_cons]
      refine ((edited_retireField type label body f).mono fun t ht => ?_).trans ((ih _).mono fun t ht => ?_)
      · exact List.mem_append_left _ ht
      · exact List.mem_append_right _ ht

theorem edited_orUnchanged {names : List Text} {result : Option (Body × Change)}
    (h : ∀ body' change, result = some (body', change) → Edited names body body') :
    Edited names body (orUnchanged body result).1 := by
  cases result with
  | none => exact .refl _ _
  | some p => exact h p.1 p.2 rfl

end Body

/-- The names that the rules for the retired fields of a resource may touch. -/
def retiredNames (type : Text) : List Text :=
  if type = "juju_application".toList then ["principal".toList, "series".toList, "base".toList]
  else if type = "juju_machine".toList then ["series".toList, "base".toList]
  else []

def renamedNames (rename : Option FieldRename) : List Text := rename.elim [] fun r => [r.source, r.target]

/-- The names of the attributes that the rules for a block with this head may touch. -/
def touchedNames (head : BlockHead) : List Text :=
  match String.ofList head.kind, head.labels with
  | "resource", type :: _ :: _ => renamedNames (resourceRename? type) ++ retiredNames type
  | "data", type :: _ :: _ => renamedNames (dataSourceRename? type)
  | "output", _ => ["value".toList]
  | _, _ => []

theorem names_deprecatedFields (type : Text) :
    ∀ t ∈ (deprecatedFields type).flatMap DeprecatedField.names, t ∈ retiredNames type := by
  unfold deprecatedFields
  cases ht : ResourceType.ofName? type with
  | none => simp
  | some t =>
      have hname : t.name = type := by simpa using List.find?_some ht
      rw [← hname]
      cases t <;> decide

namespace Body

theorem edited_resourceRename (type label : Text) (body : Body) : Edited (renamedNames (resourceRename? type)) body
    (orUnchanged body ((resourceRename? type).bind (renameField? type label · body))).1 := by
  refine edited_orUnchanged fun body' change h => ?_
  obtain ⟨r, hr, h⟩ := Option.bind_eq_some_iff.1 h
  rw [hr]
  exact edited_renameField? h

theorem edited_upgradeResource (type label : Text) (body : Body) :
    Edited (renamedNames (resourceRename? type) ++ retiredNames type) body (upgradeResource type label body).1 :=
  ((edited_resourceRename type label body).mono fun _ ht => List.mem_append_left _ ht).trans
    ((edited_retireFields type label _ _).mono fun t ht =>
      List.mem_append_right _ (names_deprecatedFields type t ht))

theorem edited_upgradeDataSource (type label : Text) (body : Body) :
    Edited (renamedNames (dataSourceRename? type)) body (upgradeDataSource type label body).1 := by
  unfold upgradeDataSource
  split
  · exact .refl _ _
  · next r hr =>
      rw [hr]
      split
      · next h => exact edited_renameField? h
      · split <;> exact .refl _ _

theorem edited_rewriteOutput? {label : Text} {body body' : Body} {change : Change}
    (h : rewriteOutput? label body = some (body', change)) : Edited ["value".toList] body body' := by
  obtain ⟨a, expr, -, -, -, rfl⟩ := rewriteOutput?_eq_some h
  exact edited_assign _ _ body

end Body

/-- How a node stands in an upgraded file to the node in its place before. -/
inductive Framed : Node → Node → Prop
  | same (n : Node) : Framed n n
  | fields {head : BlockHead} {body body' : Body} {closing : Text}
      (hkind : String.ofList head.kind ∈ ["resource", "data", "output"]) (h : Edited (touchedNames head) body body') :
      Framed (.block head body closing) (.block head body' closing)
  /-- The first block `required_providers`, and in it the first attribute `juju`. -/
  | provider {head providers : BlockHead} {closing inside : Text} {before behind front back : Body} {a : Attribute}
      {expr : Text} (hkind : head.kind = "terraform".toList) (hproviders : providers.kind = "required_providers".toList)
      (hfirst : Body.block? before "required_providers".toList = none) (ha : a.name = "juju".toList)
      (hfront : Body.attribute? front "juju".toList = none) :
      Framed (.block head (before ++ .block providers (front ++ .attribute a :: back) inside :: behind) closing)
        (.block head
          (before ++ .block providers (front ++ .attribute { a with expr := expr } :: back) inside :: behind) closing)

theorem framed_upgrade (head : BlockHead) (body : Body) (closing : Text) :
    Framed (.block head body closing) (.block head (Body.upgrade head body).1 closing) := by
  unfold Body.upgrade
  split
  · next type label rest hkind hlabels =>
      refine .fields (by simp [hkind]) ?_
      rw [touchedNames, hkind, hlabels]
      exact Body.edited_upgradeResource type label body
  · next type label rest hkind hlabels =>
      refine .fields (by simp [hkind]) ?_
      rw [touchedNames, hkind, hlabels]
      exact Body.edited_upgradeDataSource type label body
  · next label rest hkind hlabels =>
      refine .fields (by simp [hkind]) ?_
      rw [touchedNames, hkind, hlabels]
      exact Body.edited_orUnchanged fun body' change h => Body.edited_rewriteOutput? h
  · exact .same _
  · next hkind =>
      cases hr : Body.rewriteProvider? body with
      | none => exact .same _
      | some p =>
          obtain ⟨providers, a, hp, ha, -, hb⟩ := Body.rewriteProvider?_eq_some hr
          obtain ⟨before, behind, hbody, hk, hf, hc⟩ := Body.block?_eq_some hp
          obtain ⟨front, back, hinner, hname, hfront, hm, -⟩ := Body.attribute?_eq_some ha
          rw [hc, hm] at hb
          rw [Body.orUnchanged, hb, hbody, Block.toNode, hinner]
          refine .provider ?_ hk hf hname hfront
          rw [← hkind, String.toList_ofList]
  · exact .same _

/-- Upgrading a file keeps its frame. -/
theorem upgradeNodes_frame (d : Document) (body : Body) : List.Forall₂ Framed body (d.upgradeNodes body).1 := by
  induction body with
  | nil => exact .nil
  | cons n ns ih =>
      refine .cons ?_ ih
      rcases n with _ | _ | ⟨head, body, closing⟩
      · exact .same _
      · exact .same _
      · exact framed_upgrade head body closing

end JujuMigration
