import Mathlib.Data.List.Infix
import JujuMigration.Proofs.Rules.Reference
import JujuMigration.Proofs.Strict.Labels
import JujuMigration.Proofs.Strict.Progress
/-! Words in front of more text. What follows an expression begins with a blank, a line end, the sign of a comment or a
closing brace, and none of these goes on with a word. So a word is read as it is at the end of the text, unless the
text ends within a comment or a heredoc. -/

namespace JujuMigration.Strict

open Source Text

/-- The characters that the text behind an expression can begin with. -/
def boundaries : List Char := [' ', '\t', '\n', '#', '/', '}']

/-- The text goes on with no word in front of it. -/
def StandsApart (t : Text) : Prop := ∃ c r, t = c :: r ∧ c ∈ boundaries

/-- The same word is read in front of `t`, which is left then with what was left before. -/
def Grows (t : Text) (o o' : Option (Lexeme × Text)) : Prop := o' = o.map fun x => (x.1, x.2 ++ t)

namespace Grows

variable {t : Text} {a a' b b' : Option (Lexeme × Text)}

theorem or (ha : Grows t a a') (hb : Grows t b b') : Grows t (a.or b) (a'.or b') := by
  rw [Grows, Option.map_or, ha, hb]

theorem ite {q : Prop} [Decidable q] (ha : Grows t a a') :
    Grows t (if q then a else none) (if q then a' else none) := by
  split
  · exact ha
  · rfl

theorem first (r : Text) (l : Option Lexeme) : Grows t (first r l) (first (r ++ t) l) := by
  cases l <;> rfl

theorem of_map {o o' : Option Text} (h : o' = o.map (· ++ t)) (l : Lexeme) :
    Grows t (o.map (l, ·)) (o'.map (l, ·)) := by
  rw [h, Grows, Option.map_map, Option.map_map]
  rfl

theorem of_pair {o o' : Option (Text × Text)} (h : o' = o.map fun x => (x.1, x.2 ++ t)) (f : Text → Lexeme) :
    Grows t (o.map fun x => (f x.1, x.2)) (o'.map fun x => (f x.1, x.2)) := by
  rw [h, Grows, Option.map_map, Option.map_map]
  rfl

end Grows

theorem after?_cons_self (c : Char) (p s : Text) : after? (c :: p) (c :: s) = after? p s := by simp [after?]

theorem skipSpaces_append_of_cons {s t : Text} {c : Char} {r : Text} (h : skipSpaces s = c :: r) :
    skipSpaces (s ++ t) = c :: (r ++ t) := by
  rw [skipSpaces, List.dropWhile_append, if_neg (by rw [← skipSpaces, h]; simp), ← skipSpaces, h, List.cons_append]

section

variable {t : Text} (ht : StandsApart t)
include ht

/-- A run of characters that stops at every boundary is not longer for what follows. -/
theorem span_apart {p : Char → Bool} (hp : boundaries.any p = false) (s : Text) :
    (s ++ t).takeWhile p = s.takeWhile p ∧ (s ++ t).dropWhile p = s.dropWhile p ++ t := by
  induction s with
  | nil =>
      obtain ⟨d, r, rfl, hd⟩ := ht
      simp [List.any_eq_false.1 hp d hd]
  | cons c s ih => by_cases hc : p c = true <;> simp [hc, ih]

theorem after?_apart {p : Text} (hp : p.any boundaries.contains = false) (s : Text) :
    after? p (s ++ t) = (after? p s).map (· ++ t) := by
  induction p generalizing s with
  | nil => rfl
  | cons a p ih =>
      obtain ⟨ha, htail⟩ := Bool.or_eq_false_iff.1 hp
      cases s with
      | nil =>
          obtain ⟨d, r, rfl, hd⟩ := ht
          refine after?_eq_none ?_
          rintro rfl
          simp [hd] at ha
      | cons c s =>
          by_cases hc : c = a
          · subst hc
            rw [List.cons_append, after?_cons_self, after?_cons_self, ih htail]
          · rw [List.cons_append, after?_eq_none hc, after?_eq_none hc]
            rfl

/-- The first character of a word may be a boundary itself. -/
theorem after?_grows {p : Text} (hp : p.tail.any boundaries.contains = false) (c : Char) (r : Text) :
    after? p (c :: r ++ t) = (after? p (c :: r)).map (· ++ t) := by
  cases p with
  | nil => rfl
  | cons a p =>
      by_cases hc : c = a
      · subst hc
        rw [List.cons_append, after?_cons_self, after?_cons_self]
        exact after?_apart ht hp r
      · rw [List.cons_append, after?_eq_none hc, after?_eq_none hc]
        rfl

theorem grows_after {p : Text} (hp : p.tail.any boundaries.contains = false) (c : Char) (r : Text) (l : Lexeme) :
    Grows t ((after? p (c :: r)).map (l, ·)) ((after? p (c :: r ++ t)).map (l, ·)) :=
  .of_map (after?_grows ht hp c r) l

theorem name?_grows (c : Char) (r : Text) : name? (c :: r ++ t) = (name? (c :: r)).map fun x => (x.1, x.2 ++ t) := by
  obtain ⟨htake, hdrop⟩ := span_apart ht (p := isIdentChar) rfl (c :: r)
  rw [name?, name?, readIdentifier, readIdentifier, htake, hdrop]
  have hopens : opensIdentifier (c :: r ++ t) = opensIdentifier (c :: r) := rfl
  rw [hopens]
  split <;> rfl

theorem operator?_grows (c : Char) (r : Text) :
    operator? (c :: r ++ t) = (operator? (c :: r)).map fun x => (x.1, x.2 ++ t) := by
  have hall : ∀ op ∈ operators, op.tail.any boundaries.contains = false := by
    simp only [operators, List.map_cons, List.map_nil, List.forall_mem_cons]
    decide
  rw [operator?, operator?]
  generalize operators = ops at hall
  induction ops with
  | nil => rfl
  | cons op ops ih =>
      obtain ⟨hop, hops⟩ := List.forall_mem_cons.1 hall
      rw [List.findSome?_cons, List.findSome?_cons, after?_grows ht hop]
      cases after? op (c :: r) with
      | none => exact ih hops
      | some x => rfl

theorem exponent?_grows (c : Char) (r : Text) :
    exponent? (c :: r ++ t) = (exponent? (c :: r)).map fun x => (x.1, x.2 ++ t) := by
  rw [List.cons_append, exponent?, exponent?]
  dsimp only
  cases r with
  | nil =>
      obtain ⟨b, q, rfl, hb⟩ := ht
      have hnone : boundaries.any (fun b => b == '+' || b == '-' || b.isDigit) = false := rfl
      have hb := List.any_eq_false.1 hnone b hb
      simp only [Bool.or_eq_true, beq_iff_eq, not_or] at hb
      simp [hb]
  | cons d r =>
      rw [List.cons_append, List.head?_cons, List.head?_cons, List.take_succ_cons, List.take_succ_cons, List.take_zero,
        List.take_zero]
      have hle : (if some d = some '+' ∨ some d = some '-' then [d] else []).length ≤ (d :: r).length := by
        split <;> simp
      generalize (if some d = some '+' ∨ some d = some '-' then [d] else []) = sign at hle ⊢
      obtain ⟨htake, hdrop⟩ := span_apart ht (p := Char.isDigit) rfl ((d :: r).drop sign.length)
      rw [← List.cons_append, List.drop_append_of_le_length hle, htake, hdrop]
      split
      · split <;> rfl
      · rfl

theorem equals?_grows {s : Text} {c : Char} {r : Text} (h : skipSpaces s = c :: r) :
    equals? (s ++ t) = (equals? s).map (· ++ t) := by
  have hhead (d : Char) (hd : boundaries.contains d = false) : (r ++ t).head? = some d ↔ r.head? = some d := by
    cases r with
    | nil =>
        obtain ⟨b, q, rfl, hb⟩ := ht
        exact iff_of_false (fun heq => by simp [Option.some.inj heq ▸ hb] at hd) nofun
    | cons => rfl
  by_cases hc : c = '='
  · subst hc
    simp only [equals?, skipSpaces_append_of_cons h, h, hhead '=' rfl, hhead '>' rfl]
    split <;> rfl
  · have hnone : equals? s = none := equals?_eq_none h hc
    rw [hnone, equals?_eq_none (skipSpaces_append_of_cons h) hc]
    rfl

end

/-! ### Heredocs -/

/-- What is behind the first line that holds nothing but the marker, which is the whole word that the text begins
with. -/
def afterMarkedLines? (s : Text) : Option Text :=
  let word := s.takeWhile isMarkerChar
  let body := s.drop word.length
  afterClosingLine? word (if body.head? = some '\n' then body.tail else body)

/-- If a heredoc begins here, its word ends it in the text. -/
def closesHeredoc (s : Text) : Bool := !s.head?.any Char.isAlpha || (afterMarkedLines? s).isSome

section

variable {t s y marker : Text} {a : Char}

theorem after?_append_of_le {p : Text} (h : p.length ≤ s.length) : after? p (s ++ t) = (after? p s).map (· ++ t) := by
  have hprefix : p.isPrefixOf (s ++ t) = p.isPrefixOf s := by
    rw [Bool.eq_iff_iff, List.isPrefixOf_iff_prefix, List.isPrefixOf_iff_prefix]
    exact ⟨fun hp => List.prefix_of_prefix_length_le hp (List.prefix_append s t) h,
      fun hp => hp.trans (List.prefix_append s t)⟩
  rw [after?, after?, hprefix, List.drop_append_of_le_length h]
  split <;> rfl

theorem closingLine?_of_ne {c : Char} (hc : c ≠ '\n') : closingLine? marker (c :: s) = none := by
  unfold closingLine?
  split
  · next heq => exact absurd (List.cons.inj heq).1 hc
  · rfl

/-- A line of which as much is there as the marker takes is not completed by what follows. -/
theorem closingLine?_append (h : marker ++ '\n' :: y <:+ s.dropWhile CharClass.isBlank) :
    closingLine? marker ('\n' :: s ++ t) = (closingLine? marker ('\n' :: s)).map (· ++ t) := by
  have hle := h.length_le
  have hne : (s.dropWhile CharClass.isBlank).isEmpty = false := by
    cases hs : s.dropWhile CharClass.isBlank with
    | nil => simp [hs] at hle
    | cons => rfl
  rw [List.cons_append, closingLine?, closingLine?, List.dropWhile_append, hne, if_neg (by simp)]
  refine after?_append_of_le ?_
  simp only [List.length_append, List.length_cons, List.length_nil] at hle ⊢
  omega

theorem suffix_dropWhile {p : Char → Bool} {a : Char} (ha : p a = false) (h : a :: y <:+ s) :
    a :: y <:+ s.dropWhile p := by
  induction s with
  | nil => exact h
  | cons c s ih =>
      by_cases hc : p c = true
      · rw [List.dropWhile_cons_of_pos hc]
        rcases List.suffix_cons_iff.1 h with heq | hs
        · rw [(List.cons.inj heq).1, hc] at ha
          cases ha
        · exact ih hs
      · rwa [List.dropWhile_cons_of_neg hc]

/-- A closing line stays the first one in front of more text. -/
theorem afterClosingLine?_append (ha : CharClass.isBlank a = false) (h : afterClosingLine? (a :: marker) s = some y) :
    afterClosingLine? (a :: marker) (s ++ t) = some (y ++ t) := by
  induction s with
  | nil => cases h
  | cons c s ih =>
      rw [List.cons_append, afterClosingLine?, ← List.cons_append]
      rw [afterClosingLine?] at h
      by_cases hc : c = '\n'
      · subst hc
        rcases Option.or_eq_some_iff.1 h with h | ⟨hnone, h⟩
        · have hs : a :: marker ++ '\n' :: y <:+ s.dropWhile CharClass.isBlank := by
            rw [closingLine?] at h
            rw [after?_eq_some h, List.append_assoc]
            exact List.suffix_refl _
          rw [closingLine?_append hs, h]
          rfl
        · rw [closingLine?_append (suffix_dropWhile ha (afterClosingLine?_suffix h)), hnone, ih h]
          rfl
      · rw [closingLine?_of_ne hc, Option.none_or] at h
        rw [List.cons_append, closingLine?_of_ne hc, ih h]
        rfl

/-- The closing line of the whole word is in the text. -/
theorem afterMarkedLines?_suffix (h : afterMarkedLines? s = some y) :
    s.takeWhile isMarkerChar ++ '\n' :: y <:+ s := by
  have hsuffix : ∀ body : Text, (if body.head? = some '\n' then body.tail else body) <:+ body := fun body => by
    split
    · exact List.tail_suffix body
    · exact List.suffix_refl body
  exact ((afterClosingLine?_suffix h).trans (hsuffix _)).trans (List.drop_suffix _ _)

theorem newline_mem_of_afterMarkedLines? (h : afterMarkedLines? s = some y) : '\n' ∈ s :=
  (afterMarkedLines?_suffix h).subset (by simp)

theorem takeWhile_isMarkerChar_append (h : '\n' ∈ s) (t : Text) :
    (s ++ t).takeWhile isMarkerChar = s.takeWhile isMarkerChar := by
  induction s with
  | nil => cases h
  | cons c s ih =>
      by_cases hc : isMarkerChar c = true
      · have hs : '\n' ∈ s := (List.mem_cons.1 h).resolve_left fun heq => by
          rw [← heq] at hc
          cases hc
        rw [List.cons_append, List.takeWhile_cons_of_pos hc, List.takeWhile_cons_of_pos hc, ih hs]
      · rw [List.cons_append, List.takeWhile_cons_of_neg hc, List.takeWhile_cons_of_neg hc]

/-- A word that a heredoc can begin with is no blank. -/
theorem exists_marker (h : s.head?.any Char.isAlpha = true) :
    ∃ a marker, s.takeWhile isMarkerChar = a :: marker ∧ CharClass.isBlank a = false := by
  cases s with
  | nil => cases h
  | cons a s =>
      have ha : a.isAlpha = true := h
      have hmarker : isMarkerChar a = true := by simp [isMarkerChar, Char.isAlphanum, ha]
      have hopens : Reference.opensName a = true := by simp [Reference.opensName, ha]
      exact ⟨a, _, List.takeWhile_cons_of_pos hmarker, Reference.isBlank_of_opensName hopens⟩

theorem afterMarkedLines?_append (halpha : s.head?.any Char.isAlpha = true) (h : afterMarkedLines? s = some y) :
    afterMarkedLines? (s ++ t) = some (y ++ t) := by
  obtain ⟨a, marker, hword, ha⟩ := exists_marker halpha
  have hmem := newline_mem_of_afterMarkedLines? h
  have hle : (s.takeWhile isMarkerChar).length ≤ s.length := (List.takeWhile_prefix _).length_le
  rw [afterMarkedLines?] at h ⊢
  rw [takeWhile_isMarkerChar_append hmem, List.drop_append_of_le_length hle]
  generalize s.drop (s.takeWhile isMarkerChar).length = body at h ⊢
  rw [hword] at h ⊢
  cases body with
  | nil => cases h
  | cons c body =>
      by_cases hc : c = '\n'
      · subst hc
        exact afterClosingLine?_append ha h
      · have hhead : (c :: body).head? ≠ some '\n' := fun he => hc (Option.some.inj he)
        have hhead' : (c :: body ++ t).head? ≠ some '\n' := hhead
        rw [if_neg hhead] at h
        rw [if_neg hhead']
        exact afterClosingLine?_append ha h

/-- The whole word is tried first. -/
theorem afterHeredoc?_of_marked (halpha : s.head?.any Char.isAlpha = true)
    (hword : 2 ≤ (s.takeWhile isMarkerChar).length) (h : afterMarkedLines? s = some y) : afterHeredoc? s = some y := by
  obtain ⟨k, hk⟩ : ∃ k, (s.takeWhile isMarkerChar).length - 1 = k + 1 := Nat.exists_eq_add_one_of_ne_zero (by omega)
  have htake : s.take (s.takeWhile isMarkerChar).length = s.takeWhile isMarkerChar :=
    (List.prefix_iff_eq_take.1 (List.takeWhile_prefix isMarkerChar)).symm
  rw [afterMarkedLines?] at h
  rw [afterHeredoc?]
  dsimp only
  rw [if_pos halpha, hk, List.range_succ_eq_map, List.map_cons, List.findSome?_cons, Nat.sub_zero, htake]
  split at h
  · next hhead => rw [if_pos hhead, h]; rfl
  · next hhead => rw [if_neg hhead, h]; rfl

theorem afterHeredoc?_of_short (h : (s.takeWhile isMarkerChar).length < 2) : afterHeredoc? s = none := by
  have hzero : (s.takeWhile isMarkerChar).length - 1 = 0 := by omega
  rw [afterHeredoc?]
  dsimp only
  rw [hzero]
  split <;> rfl

theorem afterHeredoc?_of_other (h : s.head?.any Char.isAlpha = false) : afterHeredoc? s = none := by
  rw [afterHeredoc?]
  dsimp only
  rw [if_neg (by simp [h])]

/-- A heredoc that its whole word closes is the same in front of more text. -/
theorem afterHeredoc?_grows (ht : StandsApart t) (h : closesHeredoc s = true) :
    afterHeredoc? (s ++ t) = (afterHeredoc? s).map (· ++ t) := by
  cases halpha : s.head?.any Char.isAlpha with
  | false =>
      have hother : (s ++ t).head?.any Char.isAlpha = false := by
        cases s with
        | nil =>
            obtain ⟨c, r, rfl, hc⟩ := ht
            have hnone : boundaries.any Char.isAlpha = false := rfl
            simpa using List.any_eq_false.1 hnone c hc
        | cons => exact halpha
      rw [afterHeredoc?_of_other hother, afterHeredoc?_of_other halpha]
      rfl
  | true =>
      obtain ⟨y, hy⟩ : ∃ y, afterMarkedLines? s = some y := by
        rw [closesHeredoc, halpha] at h
        exact Option.isSome_iff_exists.1 h
      have halpha' : (s ++ t).head?.any Char.isAlpha = true := by
        cases s with
        | nil => cases halpha
        | cons => exact halpha
      have hword := takeWhile_isMarkerChar_append (newline_mem_of_afterMarkedLines? hy) t
      by_cases hlength : 2 ≤ (s.takeWhile isMarkerChar).length
      · rw [afterHeredoc?_of_marked halpha hlength hy,
          afterHeredoc?_of_marked halpha' (hword ▸ hlength) (afterMarkedLines?_append halpha hy)]
        rfl
      · have hshort : (s.takeWhile isMarkerChar).length < 2 := by omega
        rw [afterHeredoc?_of_short hshort, afterHeredoc?_of_short (hword ▸ hshort)]
        rfl

/-- The text of a heredoc does not depend on what is behind it. -/
theorem before_append {x : Text} (h : x.length ≤ s.length) (t : Text) :
    Text.before (x ++ t) (s ++ t) = Text.before x s := by
  rw [Text.before, Text.before, List.length_append, List.length_append, List.take_append_of_le_length (by omega)]
  congr 1
  omega

theorem heredoc?_grows (ht : StandsApart t) {c : Char} {r : Text}
    (hplain : (after? ['<', '<'] (c :: r)).all closesHeredoc = true)
    (htrimmed : (after? ['<', '<', '-'] (c :: r)).all closesHeredoc = true) :
    Grows t (heredoc? (c :: r)) (heredoc? (c :: r ++ t)) := by
  have opened {p : Text} (hp : p.tail.any boundaries.contains = false)
      (hall : (after? p (c :: r)).all closesHeredoc = true) (f : Text → Lexeme) :
      Grows t (((after? p (c :: r)).bind afterHeredoc?).map fun x => (f (Text.before x (c :: r)), x))
        (((after? p (c :: r ++ t)).bind afterHeredoc?).map fun x => (f (Text.before x (c :: r ++ t)), x)) := by
    rw [after?_grows ht hp]
    cases h : after? p (c :: r) with
    | none => rfl
    | some y =>
        rw [h] at hall
        have hgrows := afterHeredoc?_grows ht hall
        rw [Option.map_some, Option.bind_some, Option.bind_some, hgrows]
        cases hx : afterHeredoc? y with
        | none => rfl
        | some x =>
            have hle : x.length ≤ (c :: r).length :=
              (afterHeredoc?_suffix hx).length_le.trans (after?_eq_some h ▸ by simp)
            simp only [Grows, Option.map_some, before_append hle]
  exact (opened rfl htrimmed .trimmedHeredoc).or (opened rfl hplain .heredoc)

end

/-! ### Texts that end with a word -/

/-- The text does not end in a blank, every heredoc in it ends in it, and no comment to the end of its last line could
be taken for a division and a comment. -/
structure IsSteady (s : Text) : Prop where
  last : s.getLast?.any isGapChar = false
  plain : ∀ r ∈ s.tails, (after? ['<', '<'] r).all closesHeredoc = true
  trimmed : ∀ r ∈ s.tails, (after? ['<', '<', '-'] r).all closesHeredoc = true
  comments : ∀ r ∈ s.tails, (after? ['/', '/', '*'] r).all (fun x => decide ('\n' ∈ x)) = true

instance (s : Text) : Decidable (IsSteady s) :=
  decidable_of_iff
    (s.getLast?.any isGapChar = false ∧ (∀ r ∈ s.tails, (after? ['<', '<'] r).all closesHeredoc = true) ∧
      (∀ r ∈ s.tails, (after? ['<', '<', '-'] r).all closesHeredoc = true) ∧
      ∀ r ∈ s.tails, (after? ['/', '/', '*'] r).all (fun x => decide ('\n' ∈ x)) = true)
    ⟨fun ⟨h₁, h₂, h₃, h₄⟩ => ⟨h₁, h₂, h₃, h₄⟩, fun ⟨h₁, h₂, h₃, h₄⟩ => ⟨h₁, h₂, h₃, h₄⟩⟩

section

variable {t s r x : Text} {c : Char} {mode : Mode}

theorem IsSteady.suffix (h : IsSteady s) (hr : r <:+ s) : IsSteady r := by
  have htails {x : Text} (hx : x ∈ r.tails) : x ∈ s.tails := (List.mem_tails ..).2 (((List.mem_tails ..).1 hx).trans hr)
  refine ⟨?_, fun x hx => h.plain x (htails hx), fun x hx => h.trimmed x (htails hx),
    fun x hx => h.comments x (htails hx)⟩
  obtain ⟨p, rfl⟩ := hr
  cases r with
  | nil => rfl
  | cons c r =>
      have hlast := h.last
      rwa [List.getLast?_append_of_ne_nil _ (List.cons_ne_nil c r)] at hlast

/-- Something other than blanks is left in front of the end. -/
theorem IsSteady.skipSpaces (h : IsSteady (c :: s)) (hc : isGapChar c = true) : ∃ d r, skipSpaces s = d :: r := by
  cases hs : Source.skipSpaces s with
  | cons d r => exact ⟨d, r, rfl⟩
  | nil =>
      have hall : ∀ d ∈ c :: s, isGapChar d = true := List.forall_mem_cons.2 ⟨hc, fun d hd =>
        isGapChar_of_isSpace (List.dropWhile_eq_nil_iff.1 hs d hd)⟩
      obtain ⟨d, hd⟩ : ∃ d, (c :: s).getLast? = some d := ⟨_, List.getLast?_eq_some_getLast (List.cons_ne_nil c s)⟩
      have hlast := h.last
      rw [hd] at hlast
      cases (hall d (List.mem_of_getLast? hd)).symm.trans hlast

theorem afterLine?_append (h : afterLine? s = some x) : afterLine? (s ++ t) = some (x ++ t) := by
  induction s with
  | nil => cases h
  | cons c s ih =>
      rw [afterLine?] at h
      rw [List.cons_append, afterLine?]
      split at h
      · next hc => rw [if_pos hc, Option.some.inj h]
      · next hc => rw [if_neg hc, ih h]

theorem afterCommentEnd?_append (h : afterCommentEnd? s = some x) : afterCommentEnd? (s ++ t) = some (x ++ t) := by
  obtain ⟨p, rfl, -, hp⟩ := afterCommentEnd?_closed h
  rw [List.append_assoc]
  exact hp (x ++ t)

theorem afterLine?_isSome : (afterLine? s).isSome = true ↔ '\n' ∈ s := by
  induction s with
  | nil => simp [afterLine?]
  | cons c s ih =>
      rw [afterLine?]
      split
      · next hc => simp [hc]
      · next hc => simp [ih, Ne.symm hc]

/-! A comment that the text ends in is no word, or a division without an operand. -/

theorem wordAt_hash (h : newline? ('#' :: r) = none) (mode : Mode) : wordAt mode '#' r = none := by
  cases mode with
  | operand f =>
      obtain ⟨_, colons, exponent, ellipsis⟩ := f
      cases colons <;> cases exponent <;> cases ellipsis <;> simp only [wordAt, h] <;> rfl
  | _ => simp only [wordAt, h] <;> rfl

theorem wordAt_slash (h : newline? ('/' :: r) = none) (mode : Mode) :
    wordAt mode '/' r = none ∨ wordAt mode '/' r = some (.operator ['/'], r) := by
  cases mode with
  | operand f =>
      obtain ⟨_, colons, exponent, ellipsis⟩ := f
      right
      cases colons <;> cases exponent <;> cases ellipsis <;> simp only [wordAt, h] <;> rfl
  | afterNewline =>
      right
      simp only [wordAt, h]
      rfl
  | _ =>
      left
      simp only [wordAt, h] <;> rfl

theorem wordAt_start_slash (h : newline? ('/' :: r) = none) : wordAt .start '/' r = none := by
  simp only [wordAt, h]
  rfl

theorem newline?_slash {d : Char} (hslash : d ≠ '/') (hstar : d ≠ '*') (r : Text) :
    newline? ('/' :: d :: r) = none := by
  unfold newline?
  split
  · next h => cases h
  · next h => cases h
  · next h => exact absurd (List.cons.inj (List.cons.inj h).2).1 hslash
  · next h => exact absurd (List.cons.inj (List.cons.inj h).2).1 hstar
  · rfl

/-- Behind the first sign of a comment that the text ends in begins no other comment. -/
theorem newline?_slashes (hs : IsSteady ('/' :: '/' :: r)) (h : newline? ('/' :: '/' :: r) = none) :
    newline? ('/' :: r) = none := by
  have hline : '\n' ∉ r := fun hmem => by
    rw [← afterLine?_isSome, show afterLine? r = none from h] at hmem
    cases hmem
  refine Option.eq_none_iff_forall_ne_some.2 fun x hx => hline ?_
  unfold newline? at hx
  split at hx
  · next heq => cases heq
  · next heq => cases heq
  · next heq =>
      obtain ⟨-, rfl⟩ := List.cons.inj heq
      exact List.mem_cons_of_mem _ (afterLine?_isSome.1 (by simp [hx]))
  · next q heq =>
      obtain ⟨-, rfl⟩ := List.cons.inj heq
      have hcomment : decide ('\n' ∈ q) = true := hs.comments _ ((List.mem_tails ..).2 (List.suffix_refl _))
      exact List.mem_cons_of_mem _ (of_decide_eq_true hcomment)
  · cases hx

/-- A line end or a comment in front of more text, but for a comment that the text ends in. -/
theorem newline?_grows (hs : IsSteady (c :: r)) :
    newline? (c :: r ++ t) = (newline? (c :: r)).map (· ++ t) ∨ ∀ mode, wordAt mode c r = none ∨
      wordAt mode c r = some (.operator ['/'], r) ∧ (Cursor.at .start (c :: r) r).word = none := by
  by_cases hline : c = '\n'
  · subst hline
    obtain ⟨d, q, hskip⟩ := hs.skipSpaces rfl
    left
    show some (Source.skipSpaces (r ++ t)) = some (Source.skipSpaces r ++ t)
    rw [skipSpaces_append_of_cons hskip, hskip, List.cons_append]
  by_cases hhash : c = '#'
  · subst hhash
    cases h : newline? ('#' :: r) with
    | none => exact .inr fun mode => .inl (wordAt_hash h mode)
    | some x => exact .inl (afterLine?_append h)
  by_cases hslash : c = '/'
  · subst hslash
    cases h : newline? ('/' :: r) with
    | some x =>
        left
        unfold newline? at h
        split at h
        · next heq => cases heq
        · next heq => cases heq
        · next heq =>
            obtain ⟨-, rfl⟩ := List.cons.inj heq
            exact afterLine?_append h
        · next heq =>
            obtain ⟨-, rfl⟩ := List.cons.inj heq
            exact afterCommentEnd?_append h
        · cases h
    | none =>
        have divides (hoperand : (Cursor.at .start ('/' :: r) r).word = none) (mode : Mode) :=
          (wordAt_slash h mode).imp_right fun hw => And.intro hw hoperand
        cases r with
        | nil => exact .inr (divides rfl)
        | cons d q =>
            by_cases hd : d = '/'
            · subst hd
              refine .inr (divides ?_)
              rw [Cursor.at_of_none (by simp) rfl rfl (wordAt_start_slash (newline?_slashes hs h))]
            · by_cases hstar : d = '*'
              · subst hstar
                exact .inr (divides rfl)
              · left
                rw [List.cons_append, List.cons_append, newline?_slash hd hstar]
                rfl
  · left
    have hnone (q : Text) : newline? (c :: q) = none :=
      Option.eq_none_iff_forall_ne_some.2 fun x hx => by
        rcases newline?_cases hx with h | h | h
        · exact hline h
        · exact hhash h
        · exact hslash h
    rw [List.cons_append, hnone, hnone]
    rfl

theorem grows_wordAt (ht : StandsApart t) (hs : IsSteady (c :: r))
    (hnewline : newline? (c :: r ++ t) = (newline? (c :: r)).map (· ++ t)) (mode : Mode) :
    Grows t (wordAt mode c r) (wordAt mode c (r ++ t)) := by
  have hself : c :: r ∈ (c :: r).tails := (List.mem_tails ..).2 (List.suffix_refl _)
  have heredoc := heredoc?_grows ht (hs.plain _ hself) (hs.trimmed _ hself)
  have newline := Grows.of_map hnewline .newline
  have name := Grows.of_pair (name?_grows ht c r) .name
  have after {p : Text} (hp : p.tail.any boundaries.contains = false) (l : Lexeme) := grows_after ht hp c r l
  have operator (f : Text → Lexeme) := Grows.of_pair (operator?_grows ht c r) f
  cases mode with
  | start =>
      refine heredoc.or (newline.or (name.or (Grows.or (.ite ?_) ((Grows.first _ _).or ((Grows.first _ _).or
        (Grows.first _ _))))))
      -- A minus takes a digit along only if it is there.
      cases r with
      | nil =>
          obtain ⟨d, x, rfl, hd⟩ := ht
          have hnone : boundaries.any Char.isDigit = false := rfl
          simp [Grows, List.any_eq_false.1 hnone d hd]
      | cons d x =>
          rw [List.cons_append]
          dsimp only
          split <;> rfl
  | afterNewline =>
      exact heredoc.or (newline.or (name.or ((after rfl _).or
        ((operator fun op => if op = ['-'] then .minus else .operator op).or ((after rfl _).or
          ((Grows.first _ _).or ((Grows.first _ _).or ((Grows.first _ _).or (Grows.first _ _)))))))))
  | inString => rfl
  | operand f =>
      exact newline.or ((Grows.of_pair (exponent?_grows ht c r) _).ite.or (name.or ((after rfl _).ite.or
        ((after rfl _).or ((operator _).or ((after rfl _).or
          ((after rfl _).ite.or ((after rfl _).or ((Grows.first _ _).or
            ((Grows.first _ _).or ((Grows.first _ _).or (Grows.first _ _))))))))))))
  | afterEllipsis => exact newline.or ((after rfl _).or (Grows.first _ _))

end

end JujuMigration.Strict
