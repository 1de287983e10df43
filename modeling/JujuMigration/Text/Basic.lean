/-! A text is the list of its code points, so that every offset and every column counts code points.
The operations here measure, search, replace and trim; each of them is structural in the text. -/

namespace JujuMigration

abbrev Text := List Char

namespace Text

/-- The part of `s` in front of its suffix `rest`. -/
def before (rest s : Text) : Text := s.take (s.length - rest.length)

def newlines (s : Text) : Nat := s.count '\n'

/-- Whether `p` occurs somewhere in the text. -/
def contains (p : Text) : Text → Bool
  | [] => p.isEmpty
  | c :: r => p.isPrefixOf (c :: r) || contains p r

/-- Replaces `old` after `skip` characters that belong to an occurrence already replaced. -/
def replaceAfter (old new : Text) : Nat → Text → Text
  | _, [] => []
  | skip + 1, _ :: r => replaceAfter old new skip r
  | 0, c :: r =>
    if old.isPrefixOf (c :: r) then new ++ replaceAfter old new (old.length - 1) r
    else c :: replaceAfter old new 0 r

/-- Replaces every occurrence of the nonempty text `old`, leftmost first and without overlap. -/
def replaceAll (old new s : Text) : Text := replaceAfter old new 0 s

def trimEnd (p : Char → Bool) (s : Text) : Text := (s.reverse.dropWhile p).reverse

def trim (p : Char → Bool) (s : Text) : Text := trimEnd p (s.dropWhile p)

/-- The lines of a text, the characters at which `ends` holds separating them. -/
def splitAt (ends : Char → Bool) : Text → List Text
  | [] => [[]]
  | c :: r =>
    if ends c then [] :: splitAt ends r
    else match splitAt ends r with
      | [] => [[c]]
      | line :: lines => (c :: line) :: lines

/-- Whether a text sorts before another or is the same, by code points from the first on. -/
def sortsUpTo : Text → Text → Bool
  | [], _ => true
  | _ :: _, [] => false
  | a :: s, b :: t => a.toNat < b.toNat || (a == b && sortsUpTo s t)

/-- Joins texts with a separator between neighbours. -/
def join (sep : Text) : List Text → Text
  | [] => []
  | [t] => t
  | t :: ts => t ++ sep ++ join sep ts

@[simp] theorem before_self (s : Text) : before s s = [] := by simp [before]

theorem before_append (a b : Text) : before b (a ++ b) = a := by simp [before]

/-- Cutting a text at one of its suffixes loses nothing. -/
theorem before_append_self {rest s : Text} (h : rest <:+ s) : before rest s ++ rest = s := by
  obtain ⟨a, rfl⟩ := h
  rw [before_append]

/-- What trimming takes off the end are characters to be trimmed. -/
theorem trimEnd_append (p : Char → Bool) (s : Text) : ∃ b, s = trimEnd p s ++ b ∧ ∀ c ∈ b, p c = true := by
  refine ⟨(s.reverse.takeWhile p).reverse, ?_, fun c hc => ?_⟩
  · rw [trimEnd, ← List.reverse_append, List.takeWhile_append_dropWhile, List.reverse_reverse]
  · have h := List.all_takeWhile (p := p) (l := s.reverse)
    exact List.all_eq_true.1 h c (List.mem_reverse.1 hc)

theorem trimEnd_eq_self {p : Char → Bool} {s : Text} (h : s.getLast?.all (!p ·) = true) : trimEnd p s = s := by
  rw [← List.reverse_reverse s] at h ⊢
  generalize s.reverse = t at h ⊢
  cases t with
  | nil => rfl
  | cons c t =>
    have hc : p c = false := by simpa using h
    simp [trimEnd, hc]

/-- What is left begins with a character that is not to be trimmed. -/
theorem getLast?_trimEnd (p : Char → Bool) (s : Text) : (trimEnd p s).getLast?.all (!p ·) = true := by
  have h := List.head?_dropWhile_not p s.reverse
  rw [trimEnd, List.getLast?_reverse]
  cases hd : (s.reverse.dropWhile p).head? with
  | none => rfl
  | some c =>
    rw [hd] at h
    simpa using h

theorem trimEnd_cons {p : Char → Bool} {c : Char} {t : Text} (h : trimEnd p t ≠ [] ∨ p c = false) :
    trimEnd p (c :: t) = c :: trimEnd p t := by
  rw [trimEnd, List.reverse_cons, List.dropWhile_append]
  split
  · next he =>
      rcases h with h | h
      · exact absurd (by simpa [trimEnd] using he) h
      · have ht : trimEnd p t = [] := by simpa [trimEnd] using he
        simp [h, ht]
  · simp [trimEnd]

theorem trimEnd_append_of_ne_nil {p : Char → Bool} {t : Text} (h : trimEnd p t ≠ []) (s : Text) :
    trimEnd p (s ++ t) = s ++ trimEnd p t := by
  induction s with
  | nil => rfl
  | cons c s ih =>
      rw [List.cons_append, trimEnd_cons (.inl ?_), ih, List.cons_append]
      rw [ih]
      simp [h]

theorem trimEnd_eq_nil {p : Char → Bool} {t : Text} : trimEnd p t = [] ↔ ∀ c ∈ t, p c = true := by
  constructor
  · intro h
    obtain ⟨b, hb, hp⟩ := trimEnd_append p t
    rw [h] at hb
    exact hb ▸ hp
  · intro h
    rw [trimEnd, ← List.append_nil t.reverse, List.dropWhile_append_of_pos (by simpa using h)]
    rfl

theorem trimEnd_append_of_forall {p : Char → Bool} {t : Text} (h : ∀ c ∈ t, p c = true) (s : Text) :
    trimEnd p (s ++ t) = trimEnd p s := by
  rw [trimEnd, List.reverse_append, List.dropWhile_append_of_pos (by simpa using h), ← trimEnd]

end Text

theorem newlines_append (a b : Text) : Text.newlines (a ++ b) = Text.newlines a + Text.newlines b :=
  List.count_append

end JujuMigration
