import JujuMigration.Text.Basic
/-! How to tell that a text has been changed, without looking at what stands around the change. Either it has lost an
equals sign, or it has gained none and runs on with another character at some place. Both outlast further changes. -/

namespace JujuMigration.Text

def equalsSigns (s : Text) : Nat := s.count '='

@[simp] theorem equalsSigns_append (s t : Text) : equalsSigns (s ++ t) = equalsSigns s + equalsSigns t :=
  List.count_append

theorem equalsSigns_eq_zero {s : Text} (h : ∀ c ∈ s, c ≠ '=') : equalsSigns s = 0 :=
  List.count_eq_zero.2 fun hm => h '=' hm rfl

/-- Behind some common beginning the one text runs on with `c` and the other with `d`. -/
def Splits (s t : Text) (c d : Char) : Prop := c ≠ d ∧ ∃ p x y, s = p ++ c :: x ∧ t = p ++ d :: y

namespace Splits

variable {s t u : Text} {c d d' e : Char}

theorem ne (h : Splits s t c d) : s ≠ t := by
  obtain ⟨hne, p, x, y, rfl, rfl⟩ := h
  exact fun he => hne (List.cons.inj (List.append_cancel_left he)).1

theorem append (h : Splits s t c d) (x y : Text) : Splits (s ++ x) (t ++ y) c d := by
  obtain ⟨hne, p, x', y', rfl, rfl⟩ := h
  exact ⟨hne, p, x' ++ x, y' ++ y, by simp, by simp⟩

theorem prepend (h : Splits s t c d) (p : Text) : Splits (p ++ s) (p ++ t) c d := by
  obtain ⟨hne, q, x, y, rfl, rfl⟩ := h
  exact ⟨hne, p ++ q, x, y, by simp, by simp⟩

/-- Two changes at different characters of the text between them do not undo each other. -/
theorem trans (h : Splits s t c d) (h' : Splits t u d' e) (hd : d ≠ d') : ∃ c' e', Splits s u c' e' := by
  obtain ⟨hne, p, x, y, rfl, rfl⟩ := h
  obtain ⟨hne', q, x', y', ht, rfl⟩ := h'
  rcases List.append_eq_append_iff.1 ht with ⟨m, rfl, hm⟩ | ⟨m, rfl, hm⟩
  · cases m with
    | nil => exact absurd (List.cons.inj hm).1 hd
    | cons f m =>
        obtain ⟨rfl, rfl⟩ := List.cons.inj hm
        exact ⟨c, d, hne, p, x, m ++ e :: y', rfl, by simp⟩
  · cases m with
    | nil => exact absurd (List.cons.inj hm).1.symm hd
    | cons f m =>
        obtain ⟨rfl, rfl⟩ := List.cons.inj hm
        exact ⟨d', e, hne', q, m ++ c :: x, y', by simp, rfl⟩

end Splits

/-- The change from `s` to `t` shows in all surroundings that gain no equals sign. The characters at which the texts
part, if they do so, are related by `chars`. -/
inductive Differs (chars : Char → Char → Prop) (s t : Text) : Prop
  | fewer (h : equalsSigns t < equalsSigns s)
  | splits {c d : Char} (hle : equalsSigns t ≤ equalsSigns s) (h : Splits s t c d) (hc : chars c d)

namespace Differs

variable {chars chars' : Char → Char → Prop} {s t u : Text}

theorem le (h : Differs chars s t) : equalsSigns t ≤ equalsSigns s := by
  cases h with
  | fewer h => exact Nat.le_of_lt h
  | splits hle _ _ => exact hle

theorem ne (h : Differs chars s t) : s ≠ t := by
  cases h with
  | fewer h => exact fun he => Nat.lt_irrefl _ (he ▸ h)
  | splits _ h _ => exact h.ne

theorem mono (hc : ∀ c d, chars c d → chars' c d) (h : Differs chars s t) : Differs chars' s t := by
  cases h with
  | fewer h => exact .fewer h
  | splits hle h hcd => exact .splits hle h (hc _ _ hcd)

theorem append (h : Differs chars s t) {x y : Text} (hxy : equalsSigns y ≤ equalsSigns x) :
    Differs chars (s ++ x) (t ++ y) := by
  have hle := h.le
  cases h with
  | fewer h =>
      refine .fewer ?_
      rw [equalsSigns_append, equalsSigns_append]
      omega
  | splits _ h hc =>
      refine .splits ?_ (h.append x y) hc
      rw [equalsSigns_append, equalsSigns_append]
      omega

theorem prepend (h : Differs chars s t) (p : Text) : Differs chars (p ++ s) (p ++ t) := by
  cases h with
  | fewer h =>
      refine .fewer ?_
      rw [equalsSigns_append, equalsSigns_append]
      omega
  | splits hle h hc =>
      refine .splits ?_ (h.prepend p) hc
      rw [equalsSigns_append, equalsSigns_append]
      omega

/-- A second change does not undo the first if it leaves the character that the first has set. -/
theorem trans (h : Differs chars s t) (h' : Differs chars' t u)
    (hc : ∀ c d d' e, chars c d → chars' d' e → d ≠ d') : Differs (fun _ _ => True) s u := by
  cases h with
  | fewer h => exact .fewer (Nat.lt_of_le_of_lt h'.le h)
  | splits hle h hcd =>
      cases h' with
      | fewer h' => exact .fewer (Nat.lt_of_lt_of_le h' hle)
      | splits hle' h' hcd' =>
          obtain ⟨c', e', hs⟩ := h.trans h' (hc _ _ _ _ hcd hcd')
          exact .splits (Nat.le_trans hle' hle) hs trivial

end Differs

end JujuMigration.Text
