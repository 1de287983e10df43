import Mathlib.Data.List.Basic
import Mathlib.Data.List.TakeWhile
import JujuMigration.Text.Basic
/-! Line ends. A text whose lines end in line feeds alone can be written with a carriage return in front of each of
them. What measures, trims, searches and replaces takes a carriage return for what it takes a line feed for, so it
does the same to either text. -/

namespace JujuMigration.Text

/-- The text with a carriage return in front of every line feed. -/
def withReturns (s : Text) : Text := replaceAll ['\n'] ['\r', '\n'] s

/-- The text without the carriage returns that stand in front of line feeds. -/
def withoutReturns (s : Text) : Text := replaceAll ['\r', '\n'] ['\n'] s

/-- No line ends in the text. -/
def IsOneLine (s : Text) : Prop := ∀ c ∈ s, c ≠ '\r' ∧ c ≠ '\n'

instance (s : Text) : Decidable (IsOneLine s) := List.decidableBAll (fun c => c ≠ '\r' ∧ c ≠ '\n') s

@[simp] theorem withReturns_nil : withReturns [] = [] := rfl

@[simp] theorem withReturns_line (r : Text) : withReturns ('\n' :: r) = '\r' :: '\n' :: withReturns r := rfl

theorem withReturns_cons {c : Char} (h : c ≠ '\n') (r : Text) : withReturns (c :: r) = c :: withReturns r := by
  rw [withReturns, replaceAll, replaceAfter, if_neg (by simpa using Ne.symm h)]
  rfl

@[simp] theorem withReturns_append (s t : Text) : withReturns (s ++ t) = withReturns s ++ withReturns t := by
  induction s with
  | nil => rfl
  | cons c s ih =>
      by_cases h : c = '\n'
      · subst h
        rw [List.cons_append, withReturns_line, withReturns_line, ih, List.cons_append, List.cons_append]
      · rw [List.cons_append, withReturns_cons h, withReturns_cons h, ih, List.cons_append]

theorem withReturns_of_not_mem {s : Text} (h : '\n' ∉ s) : withReturns s = s := by
  induction s with
  | nil => rfl
  | cons c s ih =>
      obtain ⟨hc, hs⟩ := not_or.1 (List.mem_cons.not.1 h)
      rw [withReturns_cons (Ne.symm hc), ih hs]

/-- The first character, which is a carriage return where it was a line feed. -/
theorem head?_withReturns (s : Text) : (withReturns s).head? = s.head?.map fun c => if c = '\n' then '\r' else c := by
  cases s with
  | nil => rfl
  | cons c s =>
      by_cases h : c = '\n'
      · subst h
        rfl
      · rw [withReturns_cons h]
        simp [h]

theorem newline_mem_withReturns {s : Text} : '\n' ∈ withReturns s ↔ '\n' ∈ s := by
  constructor
  · intro h
    by_contra hs
    exact hs (withReturns_of_not_mem hs ▸ h)
  · intro h
    obtain ⟨a, b, rfl⟩ := List.append_of_mem h
    simp

theorem newlines_withReturns (s : Text) : newlines (withReturns s) = newlines s := by
  induction s with
  | nil => rfl
  | cons c s ih =>
      by_cases h : c = '\n'
      · subst h
        simpa [newlines] using ih
      · rw [withReturns_cons h]
        simpa [newlines, h] using ih

/-! ### Undoing -/

theorem withoutReturns_line (r : Text) : withoutReturns ('\r' :: '\n' :: r) = '\n' :: withoutReturns r := rfl

theorem withoutReturns_cons {c : Char} {r : Text} (h : c = '\r' → r.head? ≠ some '\n') :
    withoutReturns (c :: r) = c :: withoutReturns r := by
  rw [withoutReturns, replaceAll, replaceAfter, if_neg]
  · rfl
  · intro hp
    obtain ⟨t, ht⟩ := List.isPrefixOf_iff_prefix.1 hp
    obtain ⟨rfl, rfl⟩ := List.cons.inj ht
    exact h rfl rfl

theorem withoutReturns_cons_of_ne {c : Char} (h : c ≠ '\r') (r : Text) :
    withoutReturns (c :: r) = c :: withoutReturns r := withoutReturns_cons fun hc => absurd hc h

theorem withoutReturns_suffix (p r : Text) : withoutReturns r <:+ withoutReturns (p ++ r) := by
  induction p with
  | nil => exact List.suffix_refl _
  | cons c p ih =>
      refine ih.trans ?_
      by_cases hc : c = '\r' ∧ (p ++ r).head? = some '\n'
      · obtain ⟨rfl, hs⟩ := hc
        obtain ⟨t, ht⟩ := List.head?_eq_some_iff.1 hs
        have hline : withoutReturns ('\n' :: t) = '\n' :: withoutReturns t := withoutReturns_cons_of_ne (by decide) t
        rw [List.cons_append, ht, withoutReturns_line]
        exact ⟨[], hline⟩
      · rw [List.cons_append, withoutReturns_cons fun h hs => hc ⟨h, hs⟩]
        exact List.suffix_cons _ _

/-- Every carriage return of the text ends a line. -/
def EndsLines (s : Text) : Prop := '\r' ∉ withoutReturns s

instance (s : Text) : Decidable (EndsLines s) := inferInstanceAs (Decidable (_ ∉ _))

theorem EndsLines.of_append_right {p r : Text} (h : EndsLines (p ++ r)) : EndsLines r :=
  fun hr => h ((withoutReturns_suffix p r).subset hr)

theorem EndsLines.append {p r : Text} (hp : EndsLines p) (hr : EndsLines r) : EndsLines (p ++ r) := by
  induction p with
  | nil => exact hr
  | cons c p ih =>
      have hrest : EndsLines (p ++ r) := ih (hp.of_append_right (p := [c]))
      by_cases hc : c = '\r' ∧ (p ++ r).head? = some '\n'
      · obtain ⟨rfl, hs⟩ := hc
        obtain ⟨t, ht⟩ := List.head?_eq_some_iff.1 hs
        rw [EndsLines, ht, withoutReturns_cons_of_ne (by decide)] at hrest
        rw [EndsLines, List.cons_append, ht, withoutReturns_line]
        exact hrest
      · have hc' : c = '\r' → p.head? ≠ some '\n' := fun h hp' => hc ⟨h, by simp [hp']⟩
        rw [EndsLines, withoutReturns_cons hc'] at hp
        rw [EndsLines, List.cons_append, withoutReturns_cons fun h hs => hc ⟨h, hs⟩]
        exact List.not_mem_cons_of_ne_of_not_mem (List.ne_of_not_mem_cons hp) hrest

/-- A carriage return that ends no line stays, also at the end of the text. -/
theorem getLast?_withoutReturns (s : Text) : (withoutReturns s).getLast? = s.getLast? := by
  induction hn : s.length using Nat.strongRecOn generalizing s with
  | ind n ih =>
      subst hn
      cases s with
      | nil => rfl
      | cons c s =>
          by_cases hc : c = '\r' ∧ s.head? = some '\n'
          · obtain ⟨rfl, hs⟩ := hc
            obtain ⟨t, rfl⟩ := List.head?_eq_some_iff.1 hs
            rw [withoutReturns_line, List.getLast?_cons, ih t.length (by simp only [List.length_cons]; omega) t rfl]
            simp [List.getLast?_cons]
          · rw [withoutReturns_cons fun h hs => hc ⟨h, hs⟩, List.getLast?_cons, ih s.length (Nat.lt_succ_self _) s rfl,
              List.getLast?_cons]

/-- The carriage returns that have been put into a text can be told from those that were there. -/
theorem withoutReturns_withReturns (s : Text) : withoutReturns (withReturns s) = s := by
  induction s with
  | nil => rfl
  | cons c s ih =>
      by_cases h : c = '\n'
      · subst h
        rw [withReturns_line, withoutReturns_line, ih]
      · rw [withReturns_cons h, withoutReturns_cons, ih]
        intro _ hs
        rw [head?_withReturns, Option.map_eq_some_iff] at hs
        obtain ⟨d, -, hd⟩ := hs
        split at hd
        · exact absurd hd (by decide)
        · next hne => exact hne hd

theorem withReturns_injective : Function.Injective withReturns :=
  Function.LeftInverse.injective withoutReturns_withReturns

/-! ### Prefixes and suffixes -/

variable {p : Text}

/-- What begins with a text on one line began with it before. -/
theorem withReturns_eq_append (hp : IsOneLine p) {s t : Text} :
    withReturns s = p ++ t ↔ ∃ r, s = p ++ r ∧ t = withReturns r := by
  induction p generalizing s with
  | nil => exact ⟨fun h => ⟨s, rfl, h.symm⟩, fun ⟨_, hr, ht⟩ => hr ▸ ht.symm⟩
  | cons c p ih =>
      obtain ⟨⟨hreturn, hline⟩, hp⟩ := List.forall_mem_cons.1 hp
      cases s with
      | nil => simp
      | cons d s =>
          by_cases h : d = '\n'
          · subst h
            simp [Ne.symm hreturn, Ne.symm hline]
          · rw [withReturns_cons h, List.cons_append, List.cons.injEq, ih hp]
            simp [and_assoc]

theorem withReturns_eq_cons {c : Char} (hc : c ≠ '\r' ∧ c ≠ '\n') {s t : Text} :
    withReturns s = c :: t ↔ ∃ r, s = c :: r ∧ t = withReturns r :=
  withReturns_eq_append (p := [c]) (by simpa [IsOneLine] using hc)

theorem head?_withReturns_eq_some {c : Char} (hc : c ≠ '\r' ∧ c ≠ '\n') {s : Text} :
    (withReturns s).head? = some c ↔ s.head? = some c := by
  rw [List.head?_eq_some_iff, List.head?_eq_some_iff]
  constructor
  · rintro ⟨t, ht⟩
    obtain ⟨r, rfl, -⟩ := (withReturns_eq_cons hc).1 ht
    exact ⟨r, rfl⟩
  · rintro ⟨r, rfl⟩
    exact ⟨withReturns r, withReturns_cons hc.2 r⟩

theorem isPrefixOf_withReturns (hp : IsOneLine p) (s : Text) :
    p.isPrefixOf (withReturns s) = p.isPrefixOf s := by
  rw [Bool.eq_iff_iff, List.isPrefixOf_iff_prefix, List.isPrefixOf_iff_prefix]
  constructor
  · rintro ⟨t, ht⟩
    obtain ⟨r, rfl, -⟩ := (withReturns_eq_append hp).1 ht.symm
    exact ⟨r, rfl⟩
  · rintro ⟨r, rfl⟩
    exact ⟨withReturns r, ((withReturns_eq_append hp).2 ⟨r, rfl, rfl⟩).symm⟩

theorem withReturns_eq_iff (hp : '\n' ∉ p) {s : Text} : withReturns s = p ↔ s = p := by
  constructor
  · intro h
    apply withReturns_injective
    rw [h, withReturns_of_not_mem hp]
  · rintro rfl
    exact withReturns_of_not_mem hp

theorem isSuffixOf_withReturns (hp : IsOneLine p) (s : Text) :
    p.isSuffixOf (withReturns s) = p.isSuffixOf s := by
  have hline : '\n' ∉ p := fun h => (hp _ h).2 rfl
  rw [Bool.eq_iff_iff, List.isSuffixOf_iff_suffix, List.isSuffixOf_iff_suffix]
  induction s with
  | nil => rfl
  | cons c s ih =>
      rw [List.suffix_cons_iff, ← ih]
      by_cases h : c = '\n'
      · subst h
        have hne (t : Text) : p ≠ '\n' :: t := fun h => hline (h ▸ List.mem_cons_self)
        have hne' (t : Text) : p ≠ '\r' :: t := fun h => (hp '\r' (h ▸ List.mem_cons_self)).1 rfl
        rw [withReturns_line, List.suffix_cons_iff, List.suffix_cons_iff]
        simp only [hne, hne', false_or]
      · rw [withReturns_cons h, List.suffix_cons_iff, ← withReturns_cons h, eq_comm, withReturns_eq_iff hline, eq_comm]

theorem isPrefixOf_line_end (hp : IsOneLine p) (hne : p ≠ []) {c : Char} (hc : c = '\r' ∨ c = '\n')
    (r : Text) : p.isPrefixOf (c :: r) = false := by
  obtain ⟨d, q, rfl⟩ := List.exists_cons_of_ne_nil hne
  have hd := hp d List.mem_cons_self
  rcases hc with rfl | rfl
  · simp [List.isPrefixOf, hd.1]
  · simp [List.isPrefixOf, hd.2]

theorem contains_withReturns (hp : IsOneLine p) (hne : p ≠ []) (s : Text) :
    contains p (withReturns s) = contains p s := by
  induction s with
  | nil => rfl
  | cons c s ih =>
      by_cases h : c = '\n'
      · subst h
        rw [withReturns_line, contains, contains, contains, isPrefixOf_line_end hp hne (.inl rfl),
          isPrefixOf_line_end hp hne (.inr rfl), isPrefixOf_line_end hp hne (.inr rfl), ih]
        rfl
      · rw [withReturns_cons h, contains, contains, ← withReturns_cons h, isPrefixOf_withReturns hp, ih]

/-! ### Cutting -/

variable {q : Char → Bool}

theorem dropWhile_withReturns (hq : q '\r' = q '\n') (s : Text) :
    (withReturns s).dropWhile q = withReturns (s.dropWhile q) := by
  induction s with
  | nil => rfl
  | cons c s ih =>
      by_cases h : c = '\n'
      · subst h
        cases hline : q '\n' <;> simp [hline, hq, ih]
      · cases hc : q c <;> simp [withReturns_cons h, hc, ih]

theorem takeWhile_withReturns (hq : q '\r' = q '\n') (s : Text) :
    (withReturns s).takeWhile q = withReturns (s.takeWhile q) := by
  induction s with
  | nil => rfl
  | cons c s ih =>
      by_cases h : c = '\n'
      · subst h
        cases hline : q '\n' <;> simp [hline, hq, ih]
      · cases hc : q c <;> simp [withReturns_cons h, hc, ih]

theorem getLast?_withReturns (s : Text) : (withReturns s).getLast? = s.getLast? := by
  rcases List.eq_nil_or_concat' s with rfl | ⟨t, c, rfl⟩
  · rfl
  · by_cases h : c = '\n'
    · subst h
      simp
    · simp [withReturns_cons h]

theorem forall_mem_withReturns (hq : q '\r' = q '\n') {s : Text} (h : ∀ c ∈ s, q c = true) :
    ∀ c ∈ withReturns s, q c = true := by
  induction s with
  | nil => exact h
  | cons c s ih =>
      obtain ⟨hc, hs⟩ := List.forall_mem_cons.1 h
      by_cases hline : c = '\n'
      · subst hline
        rw [withReturns_line, List.forall_mem_cons, List.forall_mem_cons]
        exact ⟨hq.trans hc, hc, ih hs⟩
      · rw [withReturns_cons hline, List.forall_mem_cons]
        exact ⟨hc, ih hs⟩

theorem trimEnd_withReturns (hq : q '\r' = q '\n') (s : Text) :
    trimEnd q (withReturns s) = withReturns (trimEnd q s) := by
  obtain ⟨b, hb, hall⟩ := trimEnd_append q s
  have hlast := getLast?_trimEnd q s
  rw [← getLast?_withReturns] at hlast
  generalize trimEnd q s = t at hb hlast ⊢
  rw [hb, withReturns_append, trimEnd_append_of_forall (forall_mem_withReturns hq hall), trimEnd_eq_self hlast]

theorem trim_withReturns (hq : q '\r' = q '\n') (s : Text) : trim q (withReturns s) = withReturns (trim q s) := by
  rw [trim, dropWhile_withReturns hq, trimEnd_withReturns hq, trim]

theorem before_withReturns {r s : Text} (h : r <:+ s) :
    before (withReturns r) (withReturns s) = withReturns (before r s) := by
  obtain ⟨a, rfl⟩ := h
  rw [withReturns_append, before_append, before_append]

theorem drop_withReturns (a b : Text) : (withReturns (a ++ b)).drop (withReturns a).length = withReturns b := by
  rw [withReturns_append, List.drop_left]

/-! ### Replacing -/

theorem replaceAfter_eq (old new : Text) (k : Nat) (s : Text) :
    replaceAfter old new k s = replaceAll old new (s.drop k) := by
  induction s generalizing k with
  | nil => rw [replaceAfter, List.drop_nil]; rfl
  | cons c r ih =>
      cases k with
      | zero => rfl
      | succ k => rw [replaceAfter, ih, List.drop_succ_cons]

theorem replaceAll_append {old : Text} (hne : old ≠ []) (new r : Text) :
    replaceAll old new (old ++ r) = new ++ replaceAll old new r := by
  obtain ⟨c, q, rfl⟩ := List.exists_cons_of_ne_nil hne
  have hfound : (c :: q).isPrefixOf (c :: (q ++ r)) = true :=
    List.isPrefixOf_iff_prefix.2 (List.prefix_append (c :: q) r)
  rw [replaceAll, List.cons_append, replaceAfter, if_pos hfound, replaceAfter_eq, List.length_cons, Nat.add_sub_cancel,
    List.drop_left]

theorem replaceAll_cons {old : Text} {c : Char} {r : Text} (h : old.isPrefixOf (c :: r) = false) (new : Text) :
    replaceAll old new (c :: r) = c :: replaceAll old new r := by
  rw [replaceAll, replaceAfter, h]
  rfl

theorem replaceAll_withReturns {old new : Text} (hne : old ≠ []) (hold : IsOneLine old)
    (hnew : '\n' ∉ new) (s : Text) : replaceAll old new (withReturns s) = withReturns (replaceAll old new s) := by
  induction hn : s.length using Nat.strongRecOn generalizing s with
  | ind n ih =>
      subst hn
      cases s with
      | nil => rfl
      | cons c r =>
          by_cases hfound : old.isPrefixOf (c :: r) = true
          · obtain ⟨t, ht⟩ := List.isPrefixOf_iff_prefix.1 hfound
            have hless : t.length < (c :: r).length := by
              have := List.length_pos_iff.2 hne
              rw [← ht, List.length_append]
              omega
            have hline : '\n' ∉ old := fun h => (hold _ h).2 rfl
            rw [← ht, withReturns_append, withReturns_of_not_mem hline, replaceAll_append hne, replaceAll_append hne,
              ih _ hless _ rfl, withReturns_append, withReturns_of_not_mem hnew]
          · have hnone := Bool.eq_false_iff.2 hfound
            have hrest := ih _ (Nat.lt_succ_self r.length) r rfl
            by_cases h : c = '\n'
            · subst h
              have hline (t : Text) := isPrefixOf_line_end hold hne (.inr rfl) t
              rw [withReturns_line, replaceAll_cons (isPrefixOf_line_end hold hne (.inl rfl) _),
                replaceAll_cons (hline _), replaceAll_cons (hline _), hrest, withReturns_line]
            · rw [withReturns_cons h, replaceAll_cons, replaceAll_cons hnone, hrest, withReturns_cons h]
              rw [← withReturns_cons h, isPrefixOf_withReturns hold, hnone]

end JujuMigration.Text
