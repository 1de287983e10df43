import JujuMigration.Proofs.Config.Variation
import JujuMigration.Proofs.Rules.VersionConstraint
import JujuMigration.Proofs.Source.Comment
/-! What the rules see of a comment. The rules for references and for the provider's version look at the text of an
expression, comments and all; if they read two expressions alike that differ in a comment, then what they put in their
places differs in the same comment. -/

namespace JujuMigration

open Source

variable {c c' : Text}

/-! ### References -/

namespace Reference

/-- What a rule makes of an expression. -/
inductive Reading
  /-- A reference to a model's name, which is rewritten. -/
  | rewritten (referent : Referent)
  /-- A variable, which is kept under a new name. -/
  | kept
  | untouched
  deriving DecidableEq

def reading (e : Text) : Reading :=
  match kind e with
  | .modelName => if (upgraded? e).isSome then .rewritten (referent e) else .untouched
  | .variable => .kept
  | .other => .untouched

theorem of_reading_rewritten {e : Text} {r : Referent} (h : reading e = .rewritten r) :
    kind e = .modelName ∧ referent e = r ∧ ∃ u, upgraded? e = some u := by
  unfold reading at h
  split at h
  · next hkind =>
      split at h
      · next hsome => exact ⟨hkind, Reading.rewritten.inj h, Option.isSome_iff_exists.1 hsome⟩
      · cases h
  · cases h
  · cases h

theorem of_reading_kept {e : Text} (h : reading e = .kept) : kind e = .variable := by
  unfold reading at h
  split at h
  · split at h <;> cases h
  · next hkind => exact hkind
  · cases h

theorem of_reading_untouched {e : Text} (h : reading e = .untouched) :
    kind e ≠ .variable ∧ (kind e = .modelName → upgraded? e = none) := by
  unfold reading at h
  split at h
  · next hkind =>
      split at h
      · cases h
      · next hnone => exact ⟨by simp [hkind], fun _ => by simpa using hnone⟩
  · cases h
  · next hkind => exact ⟨by simp [hkind], fun hname => by simp [hkind] at hname⟩

theorem dropWhile_comment {p : Char → Bool} {d : Char} (hd : p d = false) (u x : Text) :
    (u ++ d :: x).dropWhile p = u.dropWhile p ++ d :: x := by
  induction u with
  | nil => rw [List.nil_append, List.dropWhile_cons_of_neg (by simp [hd])]; rfl
  | cons e u ih =>
      by_cases he : p e = true
      · rw [List.cons_append, List.dropWhile_cons_of_pos he, List.dropWhile_cons_of_pos he, ih]
      · rw [List.cons_append, List.dropWhile_cons_of_neg he, List.dropWhile_cons_of_neg he]
        rfl

/-- Trimming an expression leaves a comment in it and the bracket behind the comment. -/
theorem trim_comment {u v : Text} {d : Char} (hs : SameStyle c c') (hd : d ∈ v) (ho : ¬IsOrdinary d) :
    Text.trim CharClass.isBlank (u ++ (c ++ v)) =
      u.dropWhile CharClass.isBlank ++ (c ++ Text.trimEnd CharClass.isBlank v) := by
  obtain ⟨b, x, hc, hb⟩ := hs.exists_cons
  have hblank : CharClass.isBlank b = false := by rcases hb with rfl | rfl <;> decide
  have hv : Text.trimEnd CharClass.isBlank v ≠ [] := by
    intro hnil
    exact ho (isOrdinary_of_isBlank (Text.trimEnd_eq_nil.1 hnil d hd))
  have hcv : Text.trimEnd CharClass.isBlank (c ++ v) ≠ [] := by
    rw [Text.trimEnd_append_of_ne_nil hv]
    simp [hv]
  calc
    Text.trim CharClass.isBlank (u ++ (c ++ v))
      = Text.trimEnd CharClass.isBlank (u.dropWhile CharClass.isBlank ++ (c ++ v)) := by
        rw [Text.trim, hc, List.cons_append, dropWhile_comment hblank]
    _ = u.dropWhile CharClass.isBlank ++ (c ++ Text.trimEnd CharClass.isBlank v) := by
        rw [Text.trimEnd_append_of_ne_nil hcv, Text.trimEnd_append_of_ne_nil hv]

theorem isOrdinary_of_mem_nameEnding : ∀ x ∈ nameEnding, IsOrdinary x := by
  rw [nameEnding_eq]
  simp [IsOrdinary]

end Reference

/-- References that are read alike are rewritten alike, but for the comment. -/
theorem ExpressionVaries.upgraded? {k : Nat} {e e' r r' : Text} (hs : SameStyle c c') (h : ExpressionVaries c c' k e e')
    (hr : Reference.upgraded? e = some r) (hr' : Reference.upgraded? e' = some r') : ExpressionVaries c c' k r r' := by
  cases h with
  | same =>
      obtain rfl := Option.some.inj (hr.symm.trans hr')
      exact .same r
  | @inside u v d hd ho =>
      obtain ⟨t, ht, -, rfl⟩ := Reference.upgraded?_eq_some hr
      obtain ⟨t', ht', -, rfl⟩ := Reference.upgraded?_eq_some hr'
      rw [Reference.trim_comment hs hd ho] at ht
      rw [Reference.trim_comment hs.symm hd ho] at ht'
      generalize u.dropWhile CharClass.isBlank = p at ht ht'
      obtain ⟨b, hb, hblank⟩ := Text.trimEnd_append CharClass.isBlank v
      have hd' : d ∈ Text.trimEnd CharClass.isBlank v := by
        rw [hb] at hd
        exact (List.mem_append.1 hd).resolve_right fun hdb => ho (isOrdinary_of_isBlank (hblank d hdb))
      generalize Text.trimEnd CharClass.isBlank v = x at ht ht' hd'
      -- The bracket behind the comment stands in front of the final `.name`.
      have hcut {c t : Text} (ht : p ++ (c ++ x) = t ++ Reference.nameEnding) :
          ∃ w, x = w ++ Reference.nameEnding ∧ t = p ++ (c ++ w) := by
        rw [← List.append_assoc] at ht
        rcases List.append_eq_append_iff.1 ht with ⟨w, hw, hx⟩ | ⟨w, hw, hn⟩
        · exact ⟨w, hx, by rw [hw, List.append_assoc]⟩
        · exact absurd (Reference.isOrdinary_of_mem_nameEnding d (hn ▸ List.mem_append_right w hd')) ho
      obtain ⟨w, hw, rfl⟩ := hcut ht
      obtain ⟨w', hw', rfl⟩ := hcut ht'
      obtain rfl : w = w' := List.append_cancel_right (hw.symm.trans hw')
      have hdw : d ∈ w := by
        rw [hw] at hd'
        exact (List.mem_append.1 hd').resolve_right fun hdn => ho (Reference.isOrdinary_of_mem_nameEnding d hdn)
      have hinside : ExpressionVaries c c' 1 (p ++ (c ++ (w ++ Reference.uuidEnding)))
          (p ++ (c' ++ (w ++ Reference.uuidEnding))) := .inside p (List.mem_append_left _ hdw) ho
      simpa using hinside

/-! ### Version constraints -/

namespace VersionConstraint

/-- No constraint reaches into `c`: those of the whole are those in front of it and those behind. -/
def Spares (u c v : Text) : Prop := pieces (u ++ (c ++ v)) = pieces u ++ (c.map .char ++ pieces v)

theorem replaceZero_of_spares {u v : Text} (h : Spares u c v) :
    replaceZero (u ++ (c ++ v)) = replaceZero u ++ (c ++ replaceZero v) := by
  have hchars : (c.map Piece.char).flatMap Piece.upgraded = c := by
    rw [List.flatMap_map]
    exact List.flatMap_singleton' c
  rw [replaceZero, h, List.flatMap_append, List.flatMap_append, hchars]
  rfl

theorem occursIn_of_spares {u v : Text} (h : Spares u c v) : occursIn (u ++ (c ++ v)) = (occursIn u || occursIn v) := by
  rw [Bool.eq_iff_iff, Bool.or_eq_true, occursIn_iff, occursIn_iff, occursIn_iff, h]
  simp only [List.mem_append, List.mem_map, exists_or]
  simp

/-- What closes a bracket is kept, or there is a quote in its place. -/
theorem exists_mem_replaceZero {v : Text} {d : Char} (hd : d ∈ v) (ho : ¬IsOrdinary d) :
    ∃ e ∈ replaceZero v, ¬IsOrdinary e := by
  have hcut := cut_pieces v
  unfold replaceZero
  generalize pieces v = ps at hcut
  induction hcut with
  | nil => cases hd
  | @char e r ps _ _ ih =>
      rcases List.mem_cons.1 hd with rfl | hd
      · exact ⟨d, List.mem_cons_self, ho⟩
      · obtain ⟨e, he, hoe⟩ := ih hd
        exact ⟨e, List.mem_cons_of_mem _ he, hoe⟩
  | zero =>
      refine ⟨'"', List.mem_append_left _ ?_, by decide⟩
      show '"' ∈ upgrade
      decide

end VersionConstraint

/-- Constraints that spare the comment are replaced around it. -/
theorem ExpressionVaries.replaceZero {k : Nat} {e e' : Text} (h : ExpressionVaries c c' k e e')
    (hspares : ∀ u v, e = u ++ (c ++ v) → e' = u ++ (c' ++ v) →
      VersionConstraint.Spares u c v ∧ VersionConstraint.Spares u c' v) :
    VersionConstraint.occursIn e' = VersionConstraint.occursIn e ∧
      ExpressionVaries c c' k (VersionConstraint.replaceZero e) (VersionConstraint.replaceZero e') := by
  cases h with
  | same => exact ⟨rfl, .same _⟩
  | @inside u v d hd ho =>
      obtain ⟨hc, hc'⟩ := hspares u v rfl rfl
      obtain ⟨e, he, hoe⟩ := VersionConstraint.exists_mem_replaceZero hd ho
      constructor
      · rw [VersionConstraint.occursIn_of_spares hc, VersionConstraint.occursIn_of_spares hc']
      · rw [VersionConstraint.replaceZero_of_spares hc, VersionConstraint.replaceZero_of_spares hc']
        exact .inside _ he hoe

end JujuMigration
