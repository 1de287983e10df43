import Mathlib.Data.List.Basic
import JujuMigration.Source.Offset
/-! Scans by offset. Where a scanner takes exactly the words of a grammar, a scan from an offset ends where a word ends
that begins there; it is the only one, and a scan that finds none has a fault. -/

namespace JujuMigration.Source

/-- `w` is the text from the offset `p` to the offset `e`, and `r` is what is behind it. -/
structure Cut (s : Text) (p e : Nat) (w r : Text) : Prop where
  split : s.drop p = w ++ r
  stop : e = p + w.length

variable {scan : Text → Except Fault Text} {s w r : Text} {p e : Nat}

theorem scanAt_eq_ok (hsuffix : ∀ r, scan (s.drop p) = .ok r → r <:+ s.drop p) :
    scanAt scan s p = .ok e ↔ ∃ w r, Cut s p e w r ∧ scan (s.drop p) = .ok r := by
  constructor
  · intro h
    rw [scanAt] at h
    cases hscan : scan (s.drop p) with
    | error f =>
        rw [hscan] at h
        cases h
    | ok r =>
        rw [hscan] at h
        obtain ⟨w, hw⟩ := hsuffix r hscan
        refine ⟨w, r, ⟨hw.symm, ?_⟩, rfl⟩
        rw [← Except.ok.inj h, offsetAfter, ← hw, List.length_append, Nat.add_sub_cancel]
  · rintro ⟨w, r, ⟨hsplit, rfl⟩, hscan⟩
    have hend : offsetAfter s p r = p + w.length := by
      rw [offsetAfter, hsplit, List.length_append, Nat.add_sub_cancel]
    rw [scanAt, hscan, ← hend]
    rfl

/-- A scanner that takes a word if and only if the text begins with one, which may depend on what is behind it, tells
from every offset where the one word ends that begins there. -/
theorem scanAt_exact {IsWord : Text → Text → Prop}
    (h : ∀ r, scan (s.drop p) = .ok r ↔ ∃ w, s.drop p = w ++ r ∧ IsWord w r) :
    (∀ e, scanAt scan s p = .ok e ↔ ∃ w r, Cut s p e w r ∧ IsWord w r) ∧
      (∀ e e' w w' r r', Cut s p e w r → IsWord w r → Cut s p e' w' r' → IsWord w' r' → e = e') ∧
      ((¬∃ e w r, Cut s p e w r ∧ IsWord w r) → ∃ f, scanAt scan s p = .error f) := by
  have hends : ∀ e, scanAt scan s p = .ok e ↔ ∃ w r, Cut s p e w r ∧ IsWord w r := by
    intro e
    rw [scanAt_eq_ok fun r hr => ?_]
    · constructor
      · rintro ⟨w, r, hcut, hscan⟩
        obtain ⟨w', hsplit, hword⟩ := (h r).1 hscan
        obtain rfl : w = w' := List.append_cancel_right (hcut.split.symm.trans hsplit)
        exact ⟨w, r, hcut, hword⟩
      · rintro ⟨w, r, hcut, hword⟩
        exact ⟨w, r, hcut, (h r).2 ⟨w, hcut.split, hword⟩⟩
    · obtain ⟨w, hsplit, -⟩ := (h r).1 hr
      exact ⟨w, hsplit.symm⟩
  refine ⟨hends, fun e e' w w' r r' hcut hword hcut' hword' => ?_, fun hnone => ?_⟩
  · have he := (hends e).2 ⟨w, r, hcut, hword⟩
    have he' := (hends e').2 ⟨w', r', hcut', hword'⟩
    exact Except.ok.inj (he.symm.trans he')
  · cases hscan : scanAt scan s p with
    | error f => exact ⟨f, rfl⟩
    | ok e => exact absurd ⟨e, (hends e).1 hscan⟩ hnone

end JujuMigration.Source
