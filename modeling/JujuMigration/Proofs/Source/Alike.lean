import Mathlib.Data.List.TakeWhile
import JujuMigration.Source.Expression
/-! What a scanner depends on. A scan that ends in front of `r` has read the text before `r` and has looked at `r`
no further than to the end of the line, to a closing brace or to the opening of a comment. Texts that agree so far are
`Alike`, and every scanner ends at the same place in front of texts that are alike. -/

namespace JujuMigration.Source

/-- The texts agree up to a line feed, a closing brace, the opening of a comment or the end of both. -/
inductive Alike : Text → Text → Prop
  | finish : Alike [] []
  | line (s t : Text) : Alike ('\n' :: s) ('\n' :: t)
  | brace (s t : Text) : Alike ('}' :: s) ('}' :: t)
  | hash (s t : Text) : Alike ('#' :: s) ('#' :: t)
  | slashes (s t : Text) : Alike ('/' :: '/' :: s) ('/' :: '/' :: t)
  | star (s t : Text) : Alike ('/' :: '*' :: s) ('/' :: '*' :: t)
  | cons (c : Char) {s t : Text} : Alike s t → Alike (c :: s) (c :: t)

/-- Where texts that are alike may part. -/
def isLandmark (c : Char) : Bool := c == '\n' || c == '}' || c == '#' || c == '/'

theorem opensBlockComment_iff {s : Text} : opensBlockComment s = true ↔ ∃ r, s = '/' :: '*' :: r := by
  unfold opensBlockComment
  split <;> simp_all

theorem opensComment_of_opensBlockComment {s : Text} (h : opensBlockComment s = true) : opensComment s = true := by
  obtain ⟨r, rfl⟩ := opensBlockComment_iff.1 h
  rfl

namespace Alike

variable {s t : Text}

theorem append (p : Text) (h : Alike s t) : Alike (p ++ s) (p ++ t) := by
  induction p with
  | nil => exact h
  | cons c p ih => exact .cons c ih

theorem append_of_mem {p : Text} (h : '\n' ∈ p) (s t : Text) : Alike (p ++ s) (p ++ t) := by
  induction p with
  | nil => simp at h
  | cons c p ih =>
      rcases List.mem_cons.1 h with rfl | h
      · exact .line _ _
      · exact .cons c (ih h)

theorem head? (h : Alike s t) : s.head? = t.head? := by cases h <;> rfl

theorem eq_nil (h : Alike s t) : s = [] ↔ t = [] := by cases h <;> simp

theorem of_cons {c : Char} (h : Alike (c :: s) t) (hc : isLandmark c = false) : ∃ t', t = c :: t' ∧ Alike s t' := by
  cases h with
  | line => cases hc
  | brace => cases hc
  | hash => cases hc
  | slashes => cases hc
  | star => cases hc
  | cons _ h => exact ⟨_, rfl, h⟩

theorem symm (h : Alike s t) : Alike t s := by
  induction h with
  | finish => exact .finish
  | line => exact .line _ _
  | brace => exact .brace _ _
  | hash => exact .hash _ _
  | slashes => exact .slashes _ _
  | star => exact .star _ _
  | cons c _ ih => exact .cons c ih

theorem opensBlockComment (h : Alike s t) : opensBlockComment s = opensBlockComment t := by
  have imp {s t : Text} (h : Alike s t) (hs : Source.opensBlockComment s = true) :
      Source.opensBlockComment t = true := by
    obtain ⟨r, rfl⟩ := opensBlockComment_iff.1 hs
    cases h with
    | star => rfl
    | cons _ h =>
        obtain ⟨_, rfl, -⟩ := h.of_cons rfl
        rfl
  exact Bool.eq_iff_iff.2 ⟨imp h, imp h.symm⟩

theorem opensComment (h : Alike s t) : opensComment s = opensComment t := by
  have imp {s t : Text} (h : Alike s t) (hs : Source.opensComment s = true) : Source.opensComment t = true := by
    rcases opensComment_cases hs with ⟨r, rfl⟩ | ⟨r, rfl⟩ | ⟨r, rfl⟩
    · obtain ⟨u, rfl⟩ := List.head?_eq_some_iff.1 h.head?.symm
      rfl
    · cases h with
      | slashes => rfl
      | cons _ h =>
          obtain ⟨u, rfl⟩ := List.head?_eq_some_iff.1 h.head?.symm
          rfl
    · exact opensComment_of_opensBlockComment (h.opensBlockComment ▸ rfl)
  exact Bool.eq_iff_iff.2 ⟨imp h, imp h.symm⟩

end Alike

/-- What the scan from `s` to `r` takes it also takes in front of every text like `r`. -/
def Local (scan : Text → Except Fault Text) (s r : Text) : Prop :=
  ∃ p, s = p ++ r ∧ ∀ r', Alike r r' → scan (p ++ r') = .ok r'

/-- What the scan from `s` to `r` takes it also takes in front of every other text. -/
def Closed (scan : Text → Except Fault Text) (s r : Text) : Prop :=
  ∃ p, s = p ++ r ∧ ∀ r', scan (p ++ r') = .ok r'

/-! ### Comments -/

theorem opensComment_iff {s : Text} : opensComment s = true ↔ ['#'] <+: s ∨ ['/', '/'] <+: s ∨ ['/', '*'] <+: s := by
  constructor
  · intro h
    rcases opensComment_cases h with ⟨r, rfl⟩ | ⟨r, rfl⟩ | ⟨r, rfl⟩
    · exact .inl ⟨r, rfl⟩
    · exact .inr (.inl ⟨r, rfl⟩)
    · exact .inr (.inr ⟨r, rfl⟩)
  · rintro (⟨r, rfl⟩ | ⟨r, rfl⟩ | ⟨r, rfl⟩) <;> rfl

theorem skipLine_local (s : Text) :
    ∃ p, s = p ++ skipLine s ∧ '\n' ∉ p ∧ ∀ r', Alike (skipLine s) r' → skipLine (p ++ r') = r' := by
  fun_induction skipLine s with
  | case1 =>
      refine ⟨[], rfl, List.not_mem_nil, fun r' h => ?_⟩
      rw [h.eq_nil.1 rfl]
      rfl
  | case2 r =>
      refine ⟨[], rfl, List.not_mem_nil, fun r' h => ?_⟩
      cases h <;> rfl
  | case3 r =>
      refine ⟨[], rfl, List.not_mem_nil, fun r' h => ?_⟩
      obtain ⟨t, rfl, ht⟩ := h.of_cons rfl
      cases ht <;> rfl
  | case4 c r hn hr ih =>
      obtain ⟨p, hp, hnp, ih⟩ := ih
      refine ⟨c :: p, congrArg (c :: ·) hp, by simp [hnp, Ne.symm hn], fun r' h => ?_⟩
      -- No line feed has come to stand behind a carriage return.
      have hd : (p ++ r').head? = r.head? := by rw [(h.append p).symm.head?, ← hp]
      rw [List.cons_append, skipLine, ih r' h]
      · exact hn
      · rintro t rfl ht
        rw [ht] at hd
        cases r with
        | nil => simp at hd
        | cons d r => exact hr r rfl (by rw [← Option.some.inj hd])

theorem afterCommentEnd?_closed {s r : Text} (h : afterCommentEnd? s = some r) :
    ∃ p, s = p ++ r ∧ p.getLast? = some '/' ∧ ∀ r', afterCommentEnd? (p ++ r') = some r' := by
  fun_induction afterCommentEnd? s with
  | case1 => simp at h
  | case2 t =>
      obtain rfl := Option.some.inj h
      exact ⟨['*', '/'], rfl, rfl, fun _ => rfl⟩
  | case3 c t hc ih =>
      obtain ⟨p, rfl, hp, ih⟩ := ih h
      refine ⟨c :: p, rfl, by simp [List.getLast?_cons, hp], fun r' => ?_⟩
      rw [List.cons_append, afterCommentEnd?, ih r']
      rintro t rfl ht
      cases p with
      | nil => simp at hp
      | cons d p => exact hc (p ++ r) rfl (by rw [← (List.cons.inj ht).1]; rfl)

theorem skipBlockComment_closed {s r : Text} (h : skipBlockComment s = .ok r) :
    ∃ p, s = p ++ r ∧ p.getLast? = some '/' ∧ ∀ r', skipBlockComment (p ++ r') = .ok r' := by
  unfold skipBlockComment at h
  split at h
  · next t ht =>
      obtain rfl := Except.ok.inj h
      obtain ⟨p, hp, hlast, hr⟩ := afterCommentEnd?_closed ht
      match s with
      | [] | [_] => simp_all
      | a :: b :: q =>
          obtain rfl : q = p ++ t := hp
          exact ⟨a :: b :: p, rfl, by simp [List.getLast?_cons, hlast], fun r' => by simp [skipBlockComment, hr r']⟩
  · simp at h

theorem skipComment_local {s r : Text} (h : skipComment s = .ok r) :
    ∃ p, s = p ++ r ∧ p.getLast? ≠ some '\n' ∧ ∀ r', Alike r r' → skipComment (p ++ r') = .ok r' := by
  unfold skipComment at h
  split at h
  · next hb =>
      obtain ⟨p, rfl, hlast, hr⟩ := skipBlockComment_closed h
      refine ⟨p, rfl, by simp [hlast], fun r' hl => ?_⟩
      rw [skipComment, ← (hl.append p).opensBlockComment, if_pos hb, hr r']
  · next hb =>
      obtain rfl := Except.ok.inj h
      obtain ⟨p, hp, hn, hr⟩ := skipLine_local s
      refine ⟨p, hp, fun h => hn (List.mem_of_getLast? h), fun r' hl => ?_⟩
      rw [skipComment, ← (hl.append p).opensBlockComment, ← hp, if_neg hb, hr r' hl]

end JujuMigration.Source
