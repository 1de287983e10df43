import Mathlib.Data.List.Basic
import Mathlib.Data.List.TakeWhile
import JujuMigration.Proofs.Text.Difference
import JujuMigration.Rules.Reference
/-! References. A rewritten reference is another text than the one it stands for, whatever blanks stood around that
one, and it is not taken for a reference to a model's name again. -/

namespace JujuMigration.Reference

open Text

/-- The characters that begin a name are letters and the underscore of ASCII. -/
theorem toNat_of_opensName {c : Char} (h : opensName c = true) : 65 ≤ c.toNat ∧ c.toNat ≤ 122 := by
  rcases Bool.or_eq_true_iff.1 h with h | h
  · rcases Bool.or_eq_true_iff.1 (show (c.isUpper || c.isLower) = true from h) with h | h
    · have hupper : 65 ≤ c.toNat ∧ c.toNat ≤ 90 := by
        obtain ⟨h1, h2⟩ : c.val ≥ 'A'.val ∧ c.val ≤ 'Z'.val := of_decide_eq_true h
        exact ⟨UInt32.le_iff_toNat_le.1 h1, UInt32.le_iff_toNat_le.1 h2⟩
      omega
    · have hlower : 97 ≤ c.toNat ∧ c.toNat ≤ 122 := by
        obtain ⟨h1, h2⟩ := Bool.and_eq_true_iff.1 h
        exact ⟨UInt32.le_iff_toNat_le.1 (of_decide_eq_true h1), UInt32.le_iff_toNat_le.1 (of_decide_eq_true h2)⟩
      omega
  · rw [beq_iff_eq.1 h]
    decide

theorem isBlank_of_opensName {c : Char} (h : opensName c = true) : CharClass.isBlank c = false := by
  have hc := toNat_of_opensName h
  simp only [CharClass.isBlank, CharClass.inRanges, List.any_cons, List.any_nil, Bool.or_false, Bool.or_eq_false_iff,
    Bool.and_eq_false_iff, decide_eq_false_iff_not]
  omega

theorem isDecimal_of_opensName {c : Char} (h : opensName c = true) : CharClass.isDecimal c = false := by
  obtain ⟨hlow, hhigh⟩ := toNat_of_opensName h
  rw [CharClass.isDecimal, if_pos (by omega)]
  refine Bool.eq_false_iff.2 fun hd => ?_
  have hle : c.toNat ≤ 57 := UInt32.le_iff_toNat_le.1 (of_decide_eq_true (Bool.and_eq_true_iff.1 hd).2)
  omega

/-- A traversal begins with a letter or an underscore. -/
theorem head?_of_isTraversal {s : Text} (h : isTraversal s = true) : ∃ c t, s = c :: t ∧ opensName c = true := by
  cases s with
  | nil => exact absurd h (by decide)
  | cons c t =>
      refine ⟨c, t, rfl, ?_⟩
      by_cases hc : opensName c = true
      · exact hc
      · simp [isTraversal, List.foldlM_cons, Stage.step, hc] at h

/-- What a reference is rewritten to: the traversal in it, with the other ending. -/
theorem upgraded?_eq_some {expr u : Text} (h : upgraded? expr = some u) :
    ∃ t, trim CharClass.isBlank expr = t ++ nameEnding ∧ isTraversal (t ++ nameEnding) = true ∧
      u = t ++ uuidEnding := by
  unfold upgraded? at h
  simp only at h
  split at h
  · next hc =>
      obtain ⟨hs, htr⟩ := Bool.and_eq_true_iff.1 hc
      obtain ⟨t, ht⟩ := List.isSuffixOf_iff_suffix.1 hs
      refine ⟨t, ht.symm, ht.symm ▸ htr, ?_⟩
      rw [← Option.some.inj h, ← ht, List.length_append, Nat.add_sub_cancel, List.take_left]
  · cases h

/-- A traversal that ends in a name is rewritten. -/
theorem upgraded?_of_trim {expr t : Text} (ht : trim CharClass.isBlank expr = t ++ nameEnding)
    (htraversal : isTraversal (t ++ nameEnding) = true) : upgraded? expr = some (t ++ uuidEnding) := by
  have hends : nameEnding.isSuffixOf (t ++ nameEnding) = true :=
    List.isSuffixOf_iff_suffix.2 (List.suffix_append t nameEnding)
  rw [upgraded?, ht]
  simp only [hends, htraversal, Bool.and_self, if_true]
  rw [List.length_append, Nat.add_sub_cancel, List.take_left]

theorem nameEnding_eq : nameEnding = ['.', 'n', 'a', 'm', 'e'] := by decide

theorem uuidEnding_eq : uuidEnding = ['.', 'u', 'u', 'i', 'd'] := by decide

theorem nonempty_of_isTraversal {t : Text} (h : isTraversal (t ++ nameEnding) = true) :
    ∃ c q, t = c :: q ∧ opensName c = true := by
  obtain ⟨c, q, hq, hc⟩ := head?_of_isTraversal h
  cases t with
  | nil =>
      rw [nameEnding_eq, List.nil_append] at hq
      rw [← (List.cons.inj hq).1] at hc
      exact absurd hc (by decide)
  | cons d t => exact ⟨d, t, rfl, (List.cons.inj hq).1 ▸ hc⟩

theorem step_newline (stage : Stage) : stage.step '\n' = none := by cases stage <;> decide

/-- A traversal stands on one line. -/
theorem newline_not_mem_of_isTraversal {s : Text} (h : isTraversal s = true) : '\n' ∉ s := by
  intro hn
  obtain ⟨p, q, rfl⟩ := List.append_of_mem hn
  have hnone : (p ++ '\n' :: q).foldlM Stage.step .start = none := by
    rw [List.foldlM_append]
    cases p.foldlM Stage.step Stage.start with
    | none => rfl
    | some stage => rw [Option.bind_eq_bind, Option.bind_some, List.foldlM_cons, step_newline]; rfl
  rw [isTraversal, hnone] at h
  cases h

/-- An expression that ends in a name is its leading blanks and its trimmed text. -/
theorem trim_of_nameEnding {expr : Text} (h : nameEnding.isSuffixOf expr = true) :
    ∃ b, expr = b ++ trim CharClass.isBlank expr ∧ ∀ c ∈ b, CharClass.isBlank c = true := by
  obtain ⟨q, rfl⟩ := List.isSuffixOf_iff_suffix.1 h
  refine ⟨(q ++ nameEnding).takeWhile CharClass.isBlank, ?_, fun c hc => List.mem_takeWhile_imp hc⟩
  have hlast : ((q ++ nameEnding).dropWhile CharClass.isBlank).getLast?.all (!CharClass.isBlank ·) = true := by
    obtain ⟨p, hp⟩ := List.dropWhile_suffix (l := q ++ nameEnding) CharClass.isBlank
    cases hd : (q ++ nameEnding).dropWhile CharClass.isBlank with
    | nil => rfl
    | cons c d =>
        rw [hd] at hp
        rw [← List.getLast?_append_of_ne_nil p (List.cons_ne_nil c d), hp, nameEnding_eq]
        simp [show CharClass.isBlank 'e' = false by decide]
  rw [trim, trimEnd_eq_self hlast, List.takeWhile_append_dropWhile]

/-- Trimming takes blanks off both ends. -/
theorem trim_blanks (expr : Text) :
    ∃ a b, expr = a ++ (trim CharClass.isBlank expr ++ b) ∧ (∀ c ∈ a, CharClass.isBlank c = true) ∧
      ∀ c ∈ b, CharClass.isBlank c = true := by
  obtain ⟨b, hb, hblank⟩ := trimEnd_append CharClass.isBlank (expr.dropWhile CharClass.isBlank)
  refine ⟨expr.takeWhile CharClass.isBlank, b, ?_, fun c hc => List.mem_takeWhile_imp hc, hblank⟩
  rw [trim, ← hb, List.takeWhile_append_dropWhile]

theorem kind_eq_modelName {expr : Text} : kind expr = .modelName ↔ isModelName expr = true := by
  unfold kind
  split
  · simp_all
  · split <;> simp_all

/-- A rewritten reference differs from the reference. -/
theorem splits_upgraded? {expr u : Text} (hk : kind expr = .modelName) (h : upgraded? expr = some u) :
    equalsSigns u ≤ equalsSigns expr ∧ ∃ c d, Splits expr u c d := by
  obtain ⟨t, ht, htr, rfl⟩ := upgraded?_eq_some h
  have hs := (Bool.and_eq_true_iff.1 (kind_eq_modelName.1 hk)).2
  obtain ⟨b, hb, hblank⟩ := trim_of_nameEnding hs
  rw [ht] at hb
  refine ⟨?_, ?_⟩
  · have : equalsSigns uuidEnding = 0 := by decide
    rw [hb]
    simp only [equalsSigns_append]
    omega
  · cases b with
    | nil =>
        refine ⟨'n', 'u', by decide, t ++ ['.'], ['a', 'm', 'e'], ['u', 'i', 'd'], ?_, ?_⟩
        · rw [hb, nameEnding_eq]
          simp
        · rw [uuidEnding_eq]
          simp
    | cons d b =>
        obtain ⟨c, q, rfl, hc⟩ := nonempty_of_isTraversal htr
        refine ⟨d, c, fun hdc => ?_, [], _, q ++ uuidEnding, hb, rfl⟩
        have := hblank d List.mem_cons_self
        rw [hdc, isBlank_of_opensName hc] at this
        cases this

/-- A rewritten reference is no reference to a model's name. -/
theorem kind_upgraded? {expr u : Text} (h : upgraded? expr = some u) : kind u ≠ .modelName := by
  obtain ⟨t, -, -, rfl⟩ := upgraded?_eq_some h
  rw [Ne, kind_eq_modelName, isModelName, Bool.and_eq_true_iff]
  rintro ⟨-, hs⟩
  obtain ⟨q, hq⟩ := List.isSuffixOf_iff_suffix.1 hs
  have := congrArg List.getLast? hq
  rw [nameEnding_eq, uuidEnding_eq] at this
  simp at this

/-- What ends like a rewritten reference is not rewritten. -/
theorem upgraded?_uuidEnding (t : Text) : upgraded? (t ++ uuidEnding) = none := by
  refine Option.eq_none_iff_forall_not_mem.2 fun u hu => ?_
  obtain ⟨q, hq, -, -⟩ := upgraded?_eq_some hu
  obtain ⟨a, b, hsplit, -, hb⟩ := trim_blanks (t ++ uuidEnding)
  have hlast := congrArg List.getLast? hsplit
  rw [hq, nameEnding_eq, uuidEnding_eq] at hlast
  rcases List.eq_nil_or_concat' b with rfl | ⟨b, c, rfl⟩
  · simp at hlast
  · have hblank := hb c (by simp)
    rw [← List.append_assoc, ← List.append_assoc, List.getLast?_concat] at hlast
    obtain rfl : 'd' = c := by simpa using hlast
    exact absurd hblank (by decide)

end JujuMigration.Reference
