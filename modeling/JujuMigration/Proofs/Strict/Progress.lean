import JujuMigration.Proofs.Strict.Trivia
/-! Reading by the strict grammar goes forward. A word takes something, so that a cursor which is advanced has less of
the text in front of it, and whatever is read leaves the cursor where it was or further on. -/

namespace JujuMigration.Strict

open Source Text

/-! ### Words -/

section

variable {a b : Option (Lexeme × Text)} {p s t x : Text} {c : Char} {r : Text} {mode : Mode} {word : Lexeme}

/-- What is behind the word, if there is one, is an end of the text. -/
def Leaves (o : Option (Lexeme × Text)) (t : Text) : Prop := ∀ word x, o = some (word, x) → x <:+ t

theorem leaves_none : Leaves none t := nofun

theorem Leaves.or (ha : Leaves a t) (hb : Leaves b t) : Leaves (a.or b) t := fun word x h => by
  rcases Option.or_eq_some_iff.1 h with h | ⟨-, h⟩
  · exact ha word x h
  · exact hb word x h

theorem Leaves.ite {q : Prop} [Decidable q] (ha : Leaves a t) : Leaves (if q then a else none) t := by
  split
  · exact ha
  · exact leaves_none

theorem leaves_first (l : Option Lexeme) : Leaves (first t l) t := fun word x h => by
  obtain ⟨y, -, h⟩ := Option.map_eq_some_iff.1 h
  exact (Prod.mk.inj h).2 ▸ List.suffix_refl t

/-- An end of the text is left, whatever the word is. -/
theorem leaves_map {α : Type} {o : Option α} {f : α → Lexeme × Text} (h : ∀ y, o = some y → (f y).2 <:+ t) :
    Leaves (o.map f) t := fun word x hx => by
  obtain ⟨y, hy, hf⟩ := Option.map_eq_some_iff.1 hx
  simpa [hf] using h y hy

/-- What is behind a beginning that is not empty is behind the first character. -/
theorem suffix_of_append (hp : p ≠ []) (h : c :: r = p ++ x) : x <:+ r := by
  obtain ⟨d, q, rfl⟩ := List.exists_cons_of_ne_nil hp
  obtain ⟨-, rfl⟩ := List.cons.inj h
  exact List.suffix_append _ _

theorem after?_eq_some (h : after? p s = some x) : s = p ++ x := by
  rw [after?] at h
  split at h
  · next hp =>
      obtain ⟨y, rfl⟩ := List.isPrefixOf_iff_prefix.1 hp
      rw [List.drop_left] at h
      rw [Option.some.inj h]
  · cases h

theorem after?_suffix (hp : p ≠ []) (h : after? p (c :: r) = some x) : x <:+ r :=
  suffix_of_append hp (after?_eq_some h)

/-- The marker and its line end are found in front of what is behind them. -/
theorem afterClosingLine?_suffix {marker : Text} (h : afterClosingLine? marker s = some x) :
    marker ++ '\n' :: x <:+ s := by
  induction s with
  | nil => cases h
  | cons c s ih =>
      rw [afterClosingLine?] at h
      rcases Option.or_eq_some_iff.1 h with h | ⟨-, h⟩
      · unfold closingLine? at h
        split at h
        · next r hr =>
            obtain ⟨-, rfl⟩ := List.cons.inj hr
            have hdrop : s.dropWhile CharClass.isBlank <:+ s := List.dropWhile_suffix _
            rw [after?_eq_some h, List.append_assoc] at hdrop
            exact hdrop.trans (List.suffix_cons _ _)
        · cases h
      · exact (ih h).trans (List.suffix_cons _ _)

theorem afterHeredoc?_suffix (h : afterHeredoc? s = some x) : x <:+ s := by
  have behind {marker t : Text} (h : afterClosingLine? marker t = some x) : x <:+ t :=
    ((List.suffix_cons _ _).trans (List.suffix_append _ _)).trans (afterClosingLine?_suffix h)
  unfold afterHeredoc? at h
  dsimp only at h
  split at h
  · obtain ⟨k, -, h⟩ := List.exists_of_findSome?_eq_some h
    have hdrop : s.drop k <:+ s := List.drop_suffix _ _
    rcases Option.or_eq_some_iff.1 h with h | ⟨-, h⟩
    · split at h
      · exact ((behind h).trans (List.tail_suffix _)).trans hdrop
      · cases h
    · exact (behind h).trans hdrop
  · cases h

theorem leaves_heredoc : Leaves (heredoc? (c :: r)) r := by
  have opened {p : Text} (hp : p ≠ []) (x : Text) (h : (after? p (c :: r)).bind afterHeredoc? = some x) : x <:+ r := by
    obtain ⟨y, hy, hx⟩ := Option.bind_eq_some_iff.1 h
    exact (afterHeredoc?_suffix hx).trans (after?_suffix hp hy)
  exact (leaves_map (opened (by decide))).or (leaves_map (opened (by decide)))

theorem afterLine?_suffix (h : afterLine? s = some x) : x <:+ s := by
  induction s with
  | nil => cases h
  | cons c s ih =>
      rw [afterLine?] at h
      split at h
      · rw [Option.some.inj h]
        exact List.suffix_cons _ _
      · exact (ih h).trans (List.suffix_cons _ _)

theorem newline?_suffix (h : newline? (c :: r) = some x) : x <:+ r := by
  unfold newline? at h
  split at h
  · next hs =>
      obtain ⟨-, rfl⟩ := List.cons.inj hs
      rw [← Option.some.inj h]
      exact skipSpaces_suffix _
  · next hs =>
      obtain ⟨-, rfl⟩ := List.cons.inj hs
      exact afterLine?_suffix h
  · next hs =>
      obtain ⟨-, rfl⟩ := List.cons.inj hs
      exact (afterLine?_suffix h).trans (List.suffix_cons _ _)
  · next hs =>
      obtain ⟨-, rfl⟩ := List.cons.inj hs
      exact (afterCommentEnd?_suffix h).trans (List.suffix_cons _ _)
  · cases h

theorem leaves_newline : Leaves ((newline? (c :: r)).map (Lexeme.newline, ·)) r :=
  leaves_map fun _ h => newline?_suffix h

theorem leaves_name : Leaves ((name? (c :: r)).map fun x => (Lexeme.name x.1, x.2)) r := by
  refine leaves_map fun x h => ?_
  rw [name?] at h
  cases hread : readIdentifier (c :: r) with
  | error f =>
      rw [hread] at h
      cases h
  | ok y =>
      rw [hread] at h
      obtain rfl := Option.some.inj h
      obtain ⟨happend, hne, -⟩ := readIdentifier_append hread
      exact suffix_of_append hne happend

theorem leaves_after (hp : p ≠ []) (l : Lexeme) : Leaves ((after? p (c :: r)).map (l, ·)) r :=
  leaves_map fun _ h => after?_suffix hp h

theorem operator?_suffix {op : Text} (h : operator? (c :: r) = some (op, x)) : x <:+ r := by
  obtain ⟨op', hmem, h⟩ := List.exists_of_findSome?_eq_some h
  obtain ⟨y, hy, h⟩ := Option.map_eq_some_iff.1 h
  obtain ⟨rfl, rfl⟩ := Prod.mk.inj h
  refine after?_suffix ?_ hy
  rintro rfl
  exact absurd hmem (by decide)

theorem leaves_operator (f : Text → Lexeme) : Leaves ((operator? (c :: r)).map fun x => (f x.1, x.2)) r :=
  leaves_map fun _ h => operator?_suffix h

theorem exponent?_suffix {e : Text} (h : exponent? (c :: r) = some (e, x)) : x <:+ r := by
  unfold exponent? at h
  dsimp only at h
  generalize (if r.head? = some '+' ∨ r.head? = some '-' then r.take 1 else []) = sign at h
  split at h
  · split at h
    · cases h
    · obtain rfl := (Prod.mk.inj (Option.some.inj h)).2
      exact (List.dropWhile_suffix _).trans (List.drop_suffix _ _)
  · cases h

theorem leaves_exponent : Leaves ((exponent? (c :: r)).map fun x => (Lexeme.exponent x.1, x.2)) r :=
  leaves_map fun _ h => exponent?_suffix h

theorem leaves_wordAt (mode : Mode) (c : Char) (r : Text) : Leaves (wordAt mode c r) r := by
  cases mode with
  | start =>
      refine leaves_heredoc.or (leaves_newline.or (leaves_name.or ((Leaves.ite fun word x h => ?_).or
        ((leaves_first _).or ((leaves_first _).or (leaves_first _))))))
      -- A minus takes the digit behind it along.
      split at h
      · split at h <;> obtain ⟨-, rfl⟩ := Prod.mk.inj (Option.some.inj h)
        · exact List.suffix_cons _ _
        · exact List.suffix_refl _
      · obtain ⟨-, rfl⟩ := Prod.mk.inj (Option.some.inj h)
        exact List.suffix_refl _
  | afterNewline =>
      exact leaves_heredoc.or (leaves_newline.or (leaves_name.or ((leaves_after (by decide) _).or
        ((leaves_operator fun op => if op = ['-'] then .minus else .operator op).or ((leaves_after (by decide) _).or
          ((leaves_first _).or ((leaves_first _).or ((leaves_first _).or (leaves_first _)))))))))
  | inString => exact leaves_none
  | operand f =>
      exact leaves_newline.or (leaves_exponent.ite.or (leaves_name.or ((leaves_after (by decide) _).ite.or
        ((leaves_after (by decide) _).or ((leaves_operator _).or ((leaves_after (by decide) _).or
          ((leaves_after (by decide) _).ite.or ((leaves_after (by decide) _).or ((leaves_first _).or
            ((leaves_first _).or ((leaves_first _).or (leaves_first _))))))))))))
  | afterEllipsis => exact leaves_newline.or ((leaves_after (by decide) _).or (leaves_first _))

theorem stringChars_append (s : Text) : (stringChars s).1 ++ (stringChars s).2 = s := by
  fun_induction stringChars s <;> simp_all

/-- In quotes too a word takes something. -/
theorem wordInString_append (h : wordInString s = some (word, x)) : ∃ p, p ≠ [] ∧ s = p ++ x := by
  unfold wordInString at h
  split at h
  · next y hy =>
      obtain ⟨-, rfl⟩ := Prod.mk.inj (Option.some.inj h)
      unfold escapedHole? at hy
      split at hy
      · cases hy
      · next r hr =>
          split at hy
          · cases hy
          · next d rest hd =>
              obtain ⟨q, hq⟩ := List.dropWhile_suffix (· ≠ '}') (l := r)
              rw [hd] at hq
              rw [← Option.some.inj hy, after?_eq_some hr, ← hq]
              exact ⟨['$', '$', '{'] ++ q ++ [d], by simp, by simp⟩
  · split at h
    · next d q rest hchars =>
        obtain ⟨-, rfl⟩ := Prod.mk.inj (Option.some.inj h)
        have happend := stringChars_append s
        rw [hchars] at happend
        exact ⟨d :: q, List.cons_ne_nil _ _, happend.symm⟩
    · rcases Option.or_eq_some_iff.1 h with h | ⟨-, h⟩
      all_goals
        obtain ⟨y, hy, h⟩ := Option.map_eq_some_iff.1 h
        obtain ⟨-, rfl⟩ := Prod.mk.inj h
        exact ⟨_, by decide, after?_eq_some hy⟩

theorem equals?_append (h : equals? s = some x) : ∃ p, p ≠ [] ∧ s = p ++ x := by
  unfold equals? at h
  split at h
  · next r hr =>
      split at h
      · cases h
      · obtain ⟨q, hq⟩ := skipSpaces_suffix s
        rw [hr] at hq
        rw [← Option.some.inj h, ← hq]
        exact ⟨q ++ ['='], by simp, by simp⟩
  · cases h

end

/-! ### Cursors -/

/-- The first of two steps that succeed one behind the other. -/
theorem exists_of_bind {α β : Type} {x : Except Text (α × Cursor)} {f : α × Cursor → Except Text β} {b : β}
    (h : x >>= f = .ok b) : ∃ a c, x = .ok (a, c) ∧ f (a, c) = .ok b := by
  cases x with
  | error e => cases h
  | ok x => exact ⟨x.1, x.2, rfl, h⟩

def Lexeme.isOperator : Lexeme → Bool
  | .operator _ => true
  | _ => false

namespace Cursor

variable {c c' c'' : Cursor} {mode : Mode} {word : Lexeme} {last s t : Text}

/-- If a word comes next, there is less of the text behind it than from it on. -/
def Consumes (c : Cursor) : Prop := ∀ word, c.word = some word → c.rest.length < c.start.length

/-- Nothing can be taken here: there is no word, or an operator without an operand. -/
def Fades (c : Cursor) : Prop := c.word = none ∨ ∃ op, c.word = some (.operator op) ∧ (c.advance .start).word = none

/-- The cursor has gone on, or stayed where it was; where nothing can be taken it stays. -/
structure To (c c' : Cursor) : Prop where
  le : c'.start.length ≤ c.start.length
  consumes : c'.Consumes
  stays : c.Fades → c' = c

/-- The cursor has taken a word at least. -/
structure Into (c c' : Cursor) : Prop where
  leaves : ¬c.Fades
  lt : c'.start.length < c.start.length
  consumes : c'.Consumes

theorem To.refl (h : c.Consumes) : c.To c := ⟨Nat.le_refl _, h, fun _ => rfl⟩

theorem To.trans (h : c.To c') (h' : c'.To c'') : c.To c'' where
  le := h'.le.trans h.le
  consumes := h'.consumes
  stays hf := by
    obtain rfl := h.stays hf
    exact h'.stays hf

theorem Into.to (h : c.Into c') : c.To c' := ⟨Nat.le_of_lt h.lt, h.consumes, fun hf => absurd hf h.leaves⟩

theorem Into.trans (h : c.Into c') (h' : c'.To c'') : c.Into c'' :=
  ⟨h.leaves, Nat.lt_of_le_of_lt h'.le h.lt, h'.consumes⟩

theorem To.into (h : c.To c') (h' : c'.Into c'') : c.Into c'' where
  leaves hf := by
    obtain rfl := h.stays hf
    exact h'.leaves hf
  lt := Nat.lt_of_lt_of_le h'.lt h.le
  consumes := h'.consumes

theorem at_eq (h : mode ≠ .inString) (last s : Text) : Cursor.at mode last s =
    match if mode.allowsEquals then equals? s else none with
    | some rest => ⟨some .equals, s, rest, last⟩
    | none =>
      match skipSpaces s with
      | [] => ⟨none, [], [], last⟩
      | c :: r =>
        match wordAt mode c r with
        | some (word, rest) => ⟨some word, c :: r, rest, last⟩
        | none => ⟨none, c :: r, c :: r, last⟩ := by
  cases mode with
  | inString => exact absurd rfl h
  | start | afterNewline | operand | afterEllipsis => rfl

theorem at_of_equals (h : mode ≠ .inString) (hequals : (if mode.allowsEquals then equals? s else none) = some t) :
    Cursor.at mode last s = ⟨some .equals, s, t, last⟩ := by
  rw [at_eq h, hequals]

theorem at_of_word (h : mode ≠ .inString) (hequals : (if mode.allowsEquals then equals? s else none) = none) {d : Char}
    {r : Text} (hs : skipSpaces s = d :: r) (hw : wordAt mode d r = some (word, t)) :
    Cursor.at mode last s = ⟨some word, d :: r, t, last⟩ := by
  rw [at_eq h, hequals, hs]
  dsimp only
  rw [hw]

theorem at_of_none (h : mode ≠ .inString) (hequals : (if mode.allowsEquals then equals? s else none) = none) {d : Char}
    {r : Text} (hs : skipSpaces s = d :: r) (hw : wordAt mode d r = none) :
    Cursor.at mode last s = ⟨none, d :: r, d :: r, last⟩ := by
  rw [at_eq h, hequals, hs]
  dsimp only
  rw [hw]

theorem at_nil (h : mode ≠ .inString) : Cursor.at mode last [] = ⟨none, [], [], last⟩ := by
  rw [at_eq h]
  split
  · next he => split at he <;> cases he
  · rfl

theorem at_start_suffix (mode : Mode) (last s : Text) : (Cursor.at mode last s).start <:+ s := by
  by_cases hmode : mode = .inString
  · subst hmode
    unfold Cursor.at
    dsimp only
    split <;> exact List.suffix_refl _
  · have hsuffix := skipSpaces_suffix s
    rw [at_eq hmode]
    split
    · exact List.suffix_refl _
    · split
      · exact List.nil_suffix
      · next d r hs =>
          rw [hs] at hsuffix
          split <;> exact hsuffix

theorem at_start_le (mode : Mode) (last s : Text) : (Cursor.at mode last s).start.length ≤ s.length :=
  (at_start_suffix mode last s).length_le

/-- The text from a word on is the word and what is behind it. -/
theorem at_takes (h : (Cursor.at mode last s).word = some word) :
    ∃ p, p ≠ [] ∧ (Cursor.at mode last s).start = p ++ (Cursor.at mode last s).rest := by
  by_cases hmode : mode = .inString
  · subst hmode
    unfold Cursor.at at h ⊢
    dsimp only at h ⊢
    split at h
    · next hw => exact wordInString_append hw
    · cases h
  · rw [at_eq hmode] at h ⊢
    split at h
    · next rest hequals =>
        split at hequals
        · exact equals?_append hequals
        · cases hequals
    · split at h
      · cases h
      · next d r hs =>
          split at h
          · next hw =>
              obtain ⟨q, hq⟩ := leaves_wordAt mode d r _ _ hw
              exact ⟨d :: q, List.cons_ne_nil _ _, congrArg (d :: ·) hq.symm⟩
          · cases h

theorem at_consumes (mode : Mode) (last s : Text) : (Cursor.at mode last s).Consumes := by
  intro word hword
  obtain ⟨p, hp, hstart⟩ := at_takes hword
  rw [hstart, List.length_append]
  have := List.length_pos_iff.2 hp
  omega

theorem advance_lt (h : c.Consumes) (hw : c.word = some word) (mode : Mode) :
    (c.advance mode).start.length < c.start.length :=
  Nat.lt_of_le_of_lt (at_start_le ..) (h word hw)

theorem advance_consumes (c : Cursor) (mode : Mode) : (c.advance mode).Consumes := at_consumes _ _ _

/-- A word is taken; for an operator see `into_operator`. -/
theorem into_advance (h : c.Consumes) (hw : c.word = some word) (mode : Mode)
    (hop : word.isOperator = false) : c.Into (c.advance mode) where
  leaves hf := by
    rcases hf with hn | ⟨op, ho, -⟩
    · cases hw.symm.trans hn
    · obtain rfl := Option.some.inj (hw.symm.trans ho)
      cases hop
  lt := advance_lt h hw mode
  consumes := advance_consumes c mode

theorem isAt_iff : c.isAt word = true ↔ c.word = some word := decide_eq_true_iff

theorem expect_eq_ok : c.expect word mode = .ok c' ↔ c.word = some word ∧ c.advance mode = c' := by
  rw [expect]
  split
  · next h => rw [Except.ok.injEq, and_iff_right h]
  · next h => exact iff_of_false nofun fun hw => h hw.1

theorem exists_of_expect {β : Type} {f : Cursor → Except Text β} {b : β} (h : c.expect word mode >>= f = .ok b) :
    c.word = some word ∧ f (c.advance mode) = .ok b := by
  cases hexpect : c.expect word mode with
  | error e =>
      rw [hexpect] at h
      cases h
  | ok c₁ =>
      obtain ⟨hw, rfl⟩ := expect_eq_ok.1 hexpect
      rw [hexpect] at h
      exact ⟨hw, h⟩

theorem identifier_eq_ok : c.identifier mode = .ok (t, c') ↔ c.word = some (.name t) ∧ c.advance mode = c' := by
  unfold identifier
  split
  · next u hu => simp [hu]
  · next hne => exact iff_of_false nofun fun h => hne t h.1

theorem to_skipNewlines (h : c.Consumes) : c.To c.skipNewlines := by
  have hupto (n : Nat) : c.To (skipNewlinesUpTo n c) := by
    induction n generalizing c with
    | zero => exact .refl h
    | succ n ih =>
        rw [skipNewlinesUpTo]
        split
        · next hat => exact (into_advance h (isAt_iff.1 hat) _ rfl).to.trans (ih (advance_consumes _ _))
        · exact .refl h
  rw [skipNewlines]
  split
  · exact hupto _
  · exact .refl h

/-- No line end is left. -/
theorem word_skipNewlines_ne (h : c.Consumes) : c.skipNewlines.word ≠ some .newline := by
  induction hlength : c.start.length using Nat.strongRecOn generalizing c with
  | ind length ih =>
      by_cases hw : c.word = some .newline
      · rw [skipNewlines_of_newline (fun h' => h _ h') hw]
        exact ih _ (hlength ▸ advance_lt h hw _) (advance_consumes _ _) rfl
      · rwa [skipNewlines_of_word hw]

/-- Behind a word and the line ends that follow it. -/
theorem into_next (h : c.Consumes) (hw : c.word = some word) (mode : Mode)
    (hop : word.isOperator = false) : c.Into (c.advance mode).skipNewlines :=
  (into_advance h hw mode hop).trans (to_skipNewlines (advance_consumes _ _))

/-- Behind line ends and the word that follows them. -/
theorem into_past (h : c.Consumes) (hw : c.skipNewlines.word = some word) (mode : Mode)
    (hop : word.isOperator = false) : c.Into (c.skipNewlines.advance mode) :=
  (to_skipNewlines h).into (into_advance (to_skipNewlines h).consumes hw mode hop)

/-- An operator is taken with its operand. -/
theorem into_operator (h : c.Consumes) {op : Text} (hw : c.word = some (.operator op))
    (hoperand : (c.advance .start).skipNewlines.Into c') : c.Into c' where
  leaves hf := by
    rcases hf with hn | ⟨op', -, hn⟩
    · cases hw.symm.trans hn
    · rw [skipNewlines_of_word (by simp [hn])] at hoperand
      exact hoperand.leaves (.inl hn)
  lt := Nat.lt_trans hoperand.lt (Nat.lt_of_le_of_lt (to_skipNewlines (advance_consumes _ _)).le (advance_lt h hw _))
  consumes := hoperand.consumes

theorem to_digitsUpTo (h : c.Consumes) (n : Nat) (done : Text) : c.To (digitsUpTo n done c).2 := by
  induction n generalizing c done with
  | zero => exact .refl h
  | succ n ih =>
      rw [digitsUpTo]
      split
      · next hw => exact (into_advance h hw _ rfl).to.trans (ih (advance_consumes _ _) _)
      · exact .refl h

/-- Digits that are taken begin with one. -/
theorem digitsUpTo_eq {d : Char} (hw : c.word = some (.digit d)) (n : Nat) (done : Text) :
    digitsUpTo (n + 1) done c = digitsUpTo n (done ++ [d]) (c.advance .afterDigit) := by
  rw [digitsUpTo, hw]

theorem digitsUpTo_stop (hw : ∀ d, c.word ≠ some (.digit d)) (n : Nat) (done : Text) :
    digitsUpTo n done c = (done, c) := by
  cases n with
  | zero => rfl
  | succ n =>
      rw [digitsUpTo]
      split
      · next d hd => exact absurd hd (hw d)
      · rfl

theorem digits_eq_ok {ds : Text} :
    c.digits = .ok (ds, c') ↔ ds ≠ [] ∧ digitsUpTo c.start.length [] c = (ds, c') := by
  unfold digits
  split
  · next hdigits =>
      refine iff_of_false nofun fun ⟨hne, hds⟩ => hne ?_
      exact (Prod.mk.inj (hds.symm.trans hdigits)).1
  · next hne hdigits =>
      rw [hdigits]
      refine ⟨fun h => ?_, fun ⟨_, hds⟩ => congrArg _ hds⟩
      obtain ⟨rfl, rfl⟩ := Prod.mk.inj (Except.ok.inj h)
      exact ⟨hne, rfl⟩

theorem into_digits (h : c.Consumes) {ds : Text} (hd : c.digits = .ok (ds, c')) : c.Into c' := by
  obtain ⟨hne, hds⟩ := digits_eq_ok.1 hd
  obtain ⟨d, hw⟩ : ∃ d, c.word = some (.digit d) := by
    by_contra hno
    rw [digitsUpTo_stop fun d hd => hno ⟨d, hd⟩] at hds
    exact hne (Prod.mk.inj hds).1.symm
  obtain ⟨n, hn⟩ := Nat.exists_eq_add_one_of_ne_zero (Nat.ne_zero_of_lt (h _ hw))
  have hinto := (into_advance h hw .afterDigit rfl).trans (to_digitsUpTo (advance_consumes _ _) n [d])
  rw [hn, digitsUpTo_eq hw, List.nil_append] at hds
  rwa [hds] at hinto

/-- How a number goes on behind its whole part: with a fraction, with an exponent, with both or with neither. -/
inductive EndsNumber (whole : Text) (c : Cursor) : Expr → Cursor → Prop
  | plain (hdot : c.word ≠ some .dot) (hexponent : ∀ t, c.word ≠ some (.exponent t)) :
      EndsNumber whole c (.integer whole) c
  | power {t : Text} (hexponent : c.word = some (.exponent t)) :
      EndsNumber whole c (.decimal (whole ++ [] ++ t)) (c.advance .afterQuote)
  | fraction {ds : Text} {c₁ : Cursor} (hdot : c.word = some .dot) (hdigits : (c.advance .start).digits = .ok (ds, c₁))
      (hexponent : ∀ t, c₁.word ≠ some (.exponent t)) : EndsNumber whole c (.decimal (whole ++ '.' :: ds)) c₁
  | both {ds t : Text} {c₁ : Cursor} (hdot : c.word = some .dot) (hdigits : (c.advance .start).digits = .ok (ds, c₁))
      (hexponent : c₁.word = some (.exponent t)) :
      EndsNumber whole c (.decimal (whole ++ '.' :: ds ++ t)) (c₁.advance .afterQuote)

/-- The digits in front of a fraction and an exponent, with the sign if there is one. -/
def BeginsNumber (c : Cursor) (whole : Text) (c₁ : Cursor) : Prop :=
  (∃ d, c.word = some (.negative d) ∧ digitsUpTo c.start.length ['-', d] (c.advance .afterDigit) = (whole, c₁)) ∨
    (∀ d, c.word ≠ some (.negative d)) ∧ c.digits = .ok (whole, c₁)

theorem number_iff_ends {whole : Text} {c₁ : Cursor} {e : Expr} (hwhole : c.BeginsNumber whole c₁) :
    c.number = .ok (e, c') ↔ EndsNumber whole c₁ e c' := by
  unfold number
  dsimp only
  rcases hwhole with ⟨d, hd, hdigits⟩ | ⟨hne, hdigits⟩
  case' inl =>
    rw [hd]
    dsimp only
    rw [hdigits]
  case' inr =>
    split
    case h_1 d hd => exact absurd hd (hne d)
    rw [hdigits]
  all_goals
    simp only [bind, Except.bind, pure, Except.pure]
    refine ⟨fun h => ?ends, fun h => ?reads⟩
    case ends =>
      split at h
      · next hdot =>
          split at h
          · cases h
          · next x hx =>
              split at h <;> obtain ⟨rfl, rfl⟩ := Prod.mk.inj (Except.ok.inj h)
              · next hexponent => exact .both (isAt_iff.1 hdot) hx hexponent
              · next hexponent => exact .fraction (isAt_iff.1 hdot) hx hexponent
      · next hdot =>
          split at h <;> obtain ⟨rfl, rfl⟩ := Prod.mk.inj (Except.ok.inj h)
          · next hexponent => exact .power hexponent
          · next hexponent => exact .plain (fun h => hdot (isAt_iff.2 h)) hexponent
    case reads =>
      cases h with
      | plain hdot hexponent =>
          rw [if_neg fun h => hdot (isAt_iff.1 h)]
          split
          · next h => exact absurd h (hexponent _)
          · rfl
      | power hexponent => rw [if_neg (by simp [isAt, hexponent]), hexponent]
      | fraction hdot hdigits hexponent =>
          rw [if_pos (isAt_iff.2 hdot), hdigits]
          dsimp only
          split
          · next h => exact absurd h (hexponent _)
          · rfl
      | both hdot hdigits hexponent =>
          rw [if_pos (isAt_iff.2 hdot), hdigits]
          dsimp only
          rw [hexponent]

/-- A number is its whole part and what that goes on with. -/
theorem number_eq_ok {e : Expr} :
    c.number = .ok (e, c') ↔ ∃ whole c₁, c.BeginsNumber whole c₁ ∧ EndsNumber whole c₁ e c' := by
  refine ⟨fun h => ?_, fun ⟨_, _, hwhole, hends⟩ => (number_iff_ends hwhole).2 hends⟩
  suffices hwhole : ∃ whole c₁, c.BeginsNumber whole c₁ by
    obtain ⟨whole, c₁, hwhole⟩ := hwhole
    exact ⟨whole, c₁, hwhole, (number_iff_ends hwhole).1 h⟩
  by_cases hminus : ∃ d, c.word = some (.negative d)
  · obtain ⟨d, hd⟩ := hminus
    exact ⟨_, _, .inl ⟨d, hd, rfl⟩⟩
  · have hne (d : Char) : c.word ≠ some (.negative d) := fun hd => hminus ⟨d, hd⟩
    unfold number at h
    dsimp only at h
    split at h
    · next d hd => exact absurd hd (hne d)
    · obtain ⟨whole, c₁, hdigits, -⟩ := exists_of_bind h
      exact ⟨whole, c₁, .inr ⟨hne, hdigits⟩⟩

theorem to_endsNumber {whole : Text} {e : Expr} (h : c.Consumes) (hn : EndsNumber whole c e c') : c.To c' := by
  cases hn with
  | plain => exact .refl h
  | power hexponent => exact (into_advance h hexponent _ rfl).to
  | fraction hdot hdigits =>
      exact ((into_advance h hdot _ rfl).trans (into_digits (advance_consumes _ _) hdigits).to).to
  | both hdot hdigits hexponent =>
      have hinto := into_digits (advance_consumes _ _) hdigits
      exact ((into_advance h hdot _ rfl).trans (hinto.trans (into_advance hinto.consumes hexponent _ rfl).to).to).to

theorem into_beginsNumber {whole : Text} (h : c.Consumes) (hb : c.BeginsNumber whole c') : c.Into c' := by
  rcases hb with ⟨d, hw, hdigits⟩ | ⟨-, hdigits⟩
  · have hinto := (into_advance h hw .afterDigit rfl).trans
      (to_digitsUpTo (advance_consumes c _) c.start.length ['-', d])
    rwa [hdigits] at hinto
  · exact into_digits h hdigits

theorem into_number (h : c.Consumes) {e : Expr} (hn : c.number = .ok (e, c')) : c.Into c' := by
  obtain ⟨whole, c₁, hwhole, hends⟩ := number_eq_ok.1 hn
  have hinto := into_beginsNumber h hwhole
  exact hinto.trans (to_endsNumber hinto.consumes hends)

end Cursor

/-! ### Expressions -/

section

open Cursor

variable {n : Nat} {c c' : Cursor} {e e' : Expr} {es es' : List Expr} {t : Text}

theorem to_dottedUpTo (hc : c.Consumes) (h : dottedUpTo n e c = .ok (e', c')) : c.To c' := by
  induction n generalizing e c with
  | zero => cases h
  | succ n ih =>
      rw [dottedUpTo] at h
      split at h
      · next hat =>
          obtain ⟨name, c₁, hname, h⟩ := exists_of_bind h
          obtain ⟨hw, rfl⟩ := identifier_eq_ok.1 hname
          have h₁ := into_advance hc (isAt_iff.1 hat) .start rfl
          have h₂ := into_advance h₁.consumes hw .afterName rfl
          exact (h₁.to.trans h₂.to).trans (ih h₂.consumes h)
      · obtain ⟨-, rfl⟩ := Prod.mk.inj (Except.ok.inj h)
        exact .refl hc

/-! Two of the functions are too wide for rewriting to find their equations. -/

theorem parseTerm_succ (n : Nat) (c : Cursor) : parseTerm (n + 1) c =
    match c.word with
    | some (.name t) => parseNamed n t (c.advance .afterName)
    | some (.digit _) | some (.negative _) => do
      let (e, c) ← c.number
      parseSuffixes n e c
    | some .quote => do
      let (parts, c) ← parseTemplate n [] (c.advance .inString)
      parseSuffixes n (.template parts) c
    | some (.heredoc t) => parseSuffixes n (.heredoc false t) (c.advance .afterOperand)
    | some (.trimmedHeredoc t) => parseSuffixes n (.heredoc true t) (c.advance .afterOperand)
    | some .leftParen => do
      let (e, c) ← parseExpr n (c.advance .start).skipNewlines
      let c ← c.skipNewlines.expect .rightParen .afterOperand
      parseSuffixes n (.group e) c
    | some .leftBracket => do
      let (e, c) ← parseBrackets n (c.advance .start)
      parseSuffixes n e c
    | some .leftBrace => do
      let (e, c) ← parseBraces n (c.advance .start)
      parseSuffixes n e c
    | _ => c.fail := rfl

theorem parseKey_succ (n : Nat) (c : Cursor) : parseKey (n + 1) c =
    match c.word with
    | some (.name t) => dottedUpTo (n + 1) (.name t) (c.advance .afterName)
    | some (.digit _) | some (.negative _) => c.number
    | some .quote => do
      let (parts, c) ← parseTemplate n [] (c.advance .inString)
      .ok (.template parts, c)
    | some .leftParen => do
      let (e, c) ← parseExpr n (c.advance .start)
      let c ← c.expect .rightParen .afterQuote
      .ok (.group e, c)
    | _ => c.fail := rfl

/-- With this bound, whatever is read leaves the cursor where it was or further on, and behind a word at least unless
it only goes on with what has been read. -/
structure GoesOn (n : Nat) : Prop where
  expr : ∀ {c e c'}, c.Consumes → parseExpr n c = .ok (e, c') → c.Into c'
  operators : ∀ {c e e' c'}, c.Consumes → parseOperators n e c = .ok (e', c') → c.To c'
  operand : ∀ {c e c'}, c.Consumes → parseOperand n c = .ok (e, c') → c.Into c'
  term : ∀ {c e c'}, c.Consumes → parseTerm n c = .ok (e, c') → c.Into c'
  named : ∀ {c t e c'}, c.Consumes → parseNamed n t c = .ok (e, c') → c.To c'
  arguments : ∀ {c done es c'}, c.Consumes → parseArguments n done c = .ok (es, c') → c.Into c'
  suffixes : ∀ {c e e' c'}, c.Consumes → parseSuffixes n e c = .ok (e', c') → c.To c'
  template : ∀ {c done parts c'}, c.Consumes → parseTemplate n done c = .ok (parts, c') → c.Into c'
  brackets : ∀ {c e c'}, c.Consumes → parseBrackets n c = .ok (e, c') → c.Into c'
  items : ∀ {c done es c'}, c.Consumes → parseItems n done c = .ok (es, c') → c.Into c'
  moreItems : ∀ {c done es c'}, c.Consumes → parseMoreItems n done c = .ok (es, c') → c.Into c'
  forIntro : ∀ {c x c'}, c.Consumes → parseForIntro n c = .ok (x, c') → c.Into c'
  guard : ∀ {c g c'}, c.Consumes → parseGuard n c = .ok (g, c') → c.To c'
  forTuple : ∀ {c e c'}, c.Consumes → parseForTuple n c = .ok (e, c') → c.Into c'
  forObject : ∀ {c e c'}, c.Consumes → parseForObject n c = .ok (e, c') → c.Into c'
  braces : ∀ {c e c'}, c.Consumes → parseBraces n c = .ok (e, c') → c.Into c'
  entries : ∀ {c done es c'}, c.Consumes → parseEntries n done c = .ok (es, c') → c.Into c'
  entryValue : ∀ {c key entry c'}, c.Consumes → parseEntryValue n key c = .ok (entry, c') → c.Into c'
  key : ∀ {c e c'}, c.Consumes → parseKey n c = .ok (e, c') → c.Into c'

namespace GoesOn

theorem zero : GoesOn 0 := by
  constructor <;> intros <;> rename_i h <;> cases h

variable (ih : GoesOn n) (hc : c.Consumes)
include ih hc

theorem succ_expr (h : parseExpr (n + 1) c = .ok (e, c')) : c.Into c' := by
  rw [parseExpr] at h
  obtain ⟨e₁, c₁, hoperand, h⟩ := exists_of_bind h
  have h₁ := ih.operand hc hoperand
  exact h₁.trans (ih.operators h₁.consumes h)

theorem succ_operators (h : parseOperators (n + 1) e c = .ok (e', c')) : c.To c' := by
  rw [parseOperators] at h
  split at h
  · next op hw =>
      obtain ⟨right, c₁, hright, h⟩ := exists_of_bind h
      have h₁ := to_skipNewlines (advance_consumes c .start)
      have h₂ := into_operator hc hw (ih.expr h₁.consumes hright)
      have h₃ := to_skipNewlines h₂.consumes
      exact (h₂.trans (h₃.trans (ih.operators h₃.consumes h))).to
  · next hw =>
      obtain ⟨yes, c₁, hyes, h⟩ := exists_of_bind h
      have h₁ := into_next hc hw .start rfl
      have h₂ := ih.expr h₁.consumes hyes
      obtain ⟨hcolon, h⟩ := exists_of_expect h
      have h₃ := into_past h₂.consumes hcolon .start rfl
      have h₄ := to_skipNewlines h₃.consumes
      obtain ⟨no, c₂, hno, h⟩ := exists_of_bind h
      obtain ⟨-, rfl⟩ := Prod.mk.inj (Except.ok.inj h)
      exact ((h₁.trans h₂.to).trans (h₃.to.trans (h₄.trans (ih.expr h₄.consumes hno).to))).to
  · obtain ⟨-, rfl⟩ := Prod.mk.inj (Except.ok.inj h)
    exact .refl hc

theorem succ_operand (h : parseOperand (n + 1) c = .ok (e, c')) : c.Into c' := by
  have signed {word : Lexeme} {e₁ : Expr} {c₁ : Cursor} (hw : c.word = some word) (hop : word.isOperator = false)
      (h : parseTerm n (c.advance .start) = .ok (e₁, c₁)) : c.Into c₁ :=
    (into_advance hc hw _ hop).trans (ih.term (advance_consumes _ _) h).to
  rw [parseOperand] at h
  split at h
  · next hw =>
      obtain ⟨e₁, c₁, hterm, h⟩ := exists_of_bind h
      obtain ⟨-, rfl⟩ := Prod.mk.inj (Except.ok.inj h)
      exact signed hw rfl hterm
  · next hw =>
      obtain ⟨e₁, c₁, hterm, h⟩ := exists_of_bind h
      obtain ⟨-, rfl⟩ := Prod.mk.inj (Except.ok.inj h)
      exact signed hw rfl hterm
  · exact ih.term hc h

theorem succ_term (h : parseTerm (n + 1) c = .ok (e, c')) : c.Into c' := by
  have suffixes {e₁ : Expr} {c₁ : Cursor} (h₁ : c.Into c₁) (h : parseSuffixes n e₁ c₁ = .ok (e, c')) : c.Into c' :=
    h₁.trans (ih.suffixes h₁.consumes h)
  rw [parseTerm_succ] at h
  cases hw : c.word with
  | none =>
      rw [hw] at h
      cases h
  | some word =>
      rw [hw] at h
      cases word with
      | name t => exact (into_advance hc hw _ rfl).trans (ih.named (advance_consumes _ _) h)
      | digit d =>
          obtain ⟨e₁, c₁, hnumber, h⟩ := exists_of_bind h
          exact suffixes (into_number hc hnumber) h
      | negative d =>
          obtain ⟨e₁, c₁, hnumber, h⟩ := exists_of_bind h
          exact suffixes (into_number hc hnumber) h
      | quote =>
          obtain ⟨parts, c₁, hparts, h⟩ := exists_of_bind h
          exact suffixes ((into_advance hc hw _ rfl).trans (ih.template (advance_consumes _ _) hparts).to) h
      | heredoc t => exact suffixes (into_advance hc hw _ rfl) h
      | trimmedHeredoc t => exact suffixes (into_advance hc hw _ rfl) h
      | leftParen =>
          obtain ⟨e₁, c₁, hexpr, h⟩ := exists_of_bind h
          have h₁ := into_next hc hw .start rfl
          have h₂ := ih.expr h₁.consumes hexpr
          obtain ⟨hparen, h⟩ := exists_of_expect h
          exact suffixes (h₁.trans (h₂.trans (into_past h₂.consumes hparen _ rfl).to).to) h
      | leftBracket =>
          obtain ⟨e₁, c₁, hbrackets, h⟩ := exists_of_bind h
          exact suffixes ((into_advance hc hw _ rfl).trans (ih.brackets (advance_consumes _ _) hbrackets).to) h
      | leftBrace =>
          obtain ⟨e₁, c₁, hbraces, h⟩ := exists_of_bind h
          exact suffixes ((into_advance hc hw _ rfl).trans (ih.braces (advance_consumes _ _) hbraces).to) h
      | _ => cases h

theorem succ_named (h : parseNamed (n + 1) t c = .ok (e, c')) : c.To c' := by
  rw [parseNamed] at h
  split at h
  · next hw =>
      obtain ⟨args, c₁, hargs, h⟩ := exists_of_bind h
      have h₁ := into_next hc hw .start rfl
      have h₂ := h₁.trans (ih.arguments h₁.consumes hargs).to
      exact h₂.to.trans (ih.suffixes h₂.consumes h)
  · next hw =>
      obtain ⟨t₂, c₁, hname, h⟩ := exists_of_bind h
      obtain ⟨hw₂, rfl⟩ := identifier_eq_ok.1 hname
      have h₁ := (into_advance hc hw .start rfl).trans (into_advance (advance_consumes _ _) hw₂ .afterName rfl).to
      obtain ⟨hcolons, h⟩ := exists_of_expect h
      have h₂ := h₁.trans (into_advance h₁.consumes hcolons .start rfl).to
      obtain ⟨t₃, c₂, hname, h⟩ := exists_of_bind h
      obtain ⟨hw₃, rfl⟩ := identifier_eq_ok.1 hname
      have h₃ := h₂.trans (into_advance h₂.consumes hw₃ .afterName rfl).to
      obtain ⟨hparen, h⟩ := exists_of_expect h
      have h₄ := h₃.trans (into_next h₃.consumes hparen .start rfl).to
      obtain ⟨args, c₃, hargs, h⟩ := exists_of_bind h
      have h₅ := h₄.trans (ih.arguments h₄.consumes hargs).to
      exact h₅.to.trans (ih.suffixes h₅.consumes h)
  · exact ih.suffixes hc h

theorem succ_arguments {done : List Expr} (h : parseArguments (n + 1) done c = .ok (es, c')) : c.Into c' := by
  rw [parseArguments] at h
  split at h
  · next hat =>
      obtain ⟨-, rfl⟩ := Prod.mk.inj (Except.ok.inj h)
      exact into_advance hc (isAt_iff.1 hat) _ rfl
  · obtain ⟨e, c₁, hexpr, h⟩ := exists_of_bind h
    have h₁ := ih.expr hc hexpr
    dsimp only at h
    split at h
    · next hat =>
        obtain ⟨hparen, h⟩ := exists_of_expect h
        obtain ⟨-, rfl⟩ := Prod.mk.inj (Except.ok.inj h)
        have h₂ := into_advance h₁.consumes (isAt_iff.1 hat) .afterEllipsis rfl
        exact h₁.trans (h₂.trans (into_past h₂.consumes hparen _ rfl).to).to
    · split at h
      · next hat =>
          obtain ⟨-, rfl⟩ := Prod.mk.inj (Except.ok.inj h)
          exact h₁.trans (into_past h₁.consumes (isAt_iff.1 hat) _ rfl).to
      · obtain ⟨hcomma, h⟩ := exists_of_expect h
        have h₂ := h₁.trans (into_past h₁.consumes hcomma .start rfl).to
        have h₃ := h₂.trans (to_skipNewlines h₂.consumes)
        split at h
        · cases h
        · exact h₃.trans (ih.arguments h₃.consumes h).to

theorem succ_suffixes (h : parseSuffixes (n + 1) e c = .ok (e', c')) : c.To c' := by
  have suffixes {e₁ : Expr} {c₁ : Cursor} (h₁ : c.Into c₁) (h : parseSuffixes n e₁ c₁ = .ok (e', c')) : c.To c' :=
    h₁.to.trans (ih.suffixes h₁.consumes h)
  rw [parseSuffixes] at h
  split at h
  · next hw =>
      have h₁ := into_advance hc hw .start rfl
      dsimp only at h
      split at h
      · obtain ⟨ds, c₁, hdigits, h⟩ := exists_of_bind h
        exact suffixes (h₁.trans (into_digits h₁.consumes hdigits).to) h
      · obtain ⟨name, c₁, hname, h⟩ := exists_of_bind h
        obtain ⟨hw₁, rfl⟩ := identifier_eq_ok.1 hname
        exact suffixes (h₁.trans (into_advance h₁.consumes hw₁ .afterName rfl).to) h
  · next hw =>
      obtain ⟨i, c₁, hexpr, h⟩ := exists_of_bind h
      have h₁ := into_next hc hw .start rfl
      have h₂ := h₁.trans (ih.expr h₁.consumes hexpr).to
      obtain ⟨hbracket, h⟩ := exists_of_expect h
      exact suffixes (h₂.trans (into_past h₂.consumes hbracket .afterOperand rfl).to) h
  · next hw => exact suffixes (into_advance hc hw _ rfl) h
  · next hw =>
      obtain ⟨e₁, c₁, hdotted, h⟩ := exists_of_bind h
      exact suffixes ((into_advance hc hw .afterOperand rfl).trans (to_dottedUpTo (advance_consumes _ _) hdotted)) h
  · obtain ⟨-, rfl⟩ := Prod.mk.inj (Except.ok.inj h)
    exact .refl hc

theorem succ_template {done parts : List (Part Expr)} (h : parseTemplate (n + 1) done c = .ok (parts, c')) :
    c.Into c' := by
  rw [parseTemplate] at h
  split at h
  · next hw => exact (into_advance hc hw _ rfl).trans (ih.template (advance_consumes _ _) h).to
  · next hw => exact (into_advance hc hw _ rfl).trans (ih.template (advance_consumes _ _) h).to
  · next hw =>
      obtain ⟨e, c₁, hexpr, h⟩ := exists_of_bind h
      have h₁ := (into_advance hc hw .start rfl).trans (ih.expr (advance_consumes _ _) hexpr).to
      obtain ⟨hbrace, h⟩ := exists_of_expect h
      have h₂ := h₁.trans (into_advance h₁.consumes hbrace .inString rfl).to
      exact h₂.trans (ih.template h₂.consumes h).to
  · next hw =>
      obtain ⟨-, rfl⟩ := Prod.mk.inj (Except.ok.inj h)
      exact into_advance hc hw _ rfl
  · cases h

theorem succ_brackets (h : parseBrackets (n + 1) c = .ok (e, c')) : c.Into c' := by
  rw [parseBrackets] at h
  split at h
  · have h₁ := to_skipNewlines hc
    dsimp only at h
    split at h
    · next hat =>
        have h₂ := h₁.into (into_advance h₁.consumes (isAt_iff.1 hat) .start rfl)
        exact h₂.trans (ih.forTuple h₂.consumes h).to
    · obtain ⟨es, c₁, hitems, h⟩ := exists_of_bind h
      obtain ⟨-, rfl⟩ := Prod.mk.inj (Except.ok.inj h)
      exact h₁.into (ih.items h₁.consumes hitems)
  · split at h
    · next hat =>
        have h₁ := into_advance hc (isAt_iff.1 hat) .afterFor rfl
        dsimp only at h
        split at h
        · exact h₁.trans (ih.forTuple h₁.consumes h).to
        · exact h₁.trans (ih.forTuple h₁.consumes h).to
        · obtain ⟨e₁, c₁, hnamed, h⟩ := exists_of_bind h
          have h₂ := h₁.trans (ih.named h₁.consumes hnamed)
          obtain ⟨e₂, c₂, hoperators, h⟩ := exists_of_bind h
          have h₃ := h₂.trans (ih.operators h₂.consumes hoperators)
          obtain ⟨es, c₃, hmore, h⟩ := exists_of_bind h
          obtain ⟨-, rfl⟩ := Prod.mk.inj (Except.ok.inj h)
          exact h₃.trans (ih.moreItems h₃.consumes hmore).to
    · obtain ⟨es, c₁, hitems, h⟩ := exists_of_bind h
      obtain ⟨-, rfl⟩ := Prod.mk.inj (Except.ok.inj h)
      exact ih.items hc hitems

theorem succ_items {done : List Expr} (h : parseItems (n + 1) done c = .ok (es, c')) : c.Into c' := by
  rw [parseItems] at h
  split at h
  · next hat =>
      obtain ⟨-, rfl⟩ := Prod.mk.inj (Except.ok.inj h)
      exact into_advance hc (isAt_iff.1 hat) _ rfl
  · obtain ⟨e, c₁, hexpr, h⟩ := exists_of_bind h
    have h₁ := ih.expr hc hexpr
    exact h₁.trans (ih.moreItems h₁.consumes h).to

theorem succ_moreItems {done : List Expr} (h : parseMoreItems (n + 1) done c = .ok (es, c')) : c.Into c' := by
  rw [parseMoreItems] at h
  split at h
  · next hat =>
      obtain ⟨-, rfl⟩ := Prod.mk.inj (Except.ok.inj h)
      exact into_past hc (isAt_iff.1 hat) _ rfl
  · obtain ⟨hcomma, h⟩ := exists_of_expect h
    have h₁ := into_past hc hcomma .start rfl
    have h₂ := h₁.trans (to_skipNewlines h₁.consumes)
    exact h₂.trans (ih.items h₂.consumes h).to

theorem succ_forIntro {x : Text × Option Text × Expr} (h : parseForIntro (n + 1) c = .ok (x, c')) : c.Into c' := by
  rw [parseForIntro] at h
  obtain ⟨key, c₁, hname, h⟩ := exists_of_bind h
  obtain ⟨hw, rfl⟩ := identifier_eq_ok.1 hname
  have h₁ := into_past hc hw .afterName rfl
  have rest {value : Option Text} {c₂ : Cursor} (h₂ : c.Into c₂) (h : (do
      let c ← c₂.skipNewlines.expectKeyword "in"
      let (source, c) ← parseExpr n c.skipNewlines
      let c ← c.skipNewlines.expect .colon .start
      .ok ((key, value, source), c.skipNewlines)) = Except.ok (x, c')) : c.Into c' := by
    obtain ⟨hin, h⟩ := exists_of_expect h
    have h₃ := h₂.trans (into_past h₂.consumes hin .start rfl).to
    have h₄ := to_skipNewlines h₃.consumes
    obtain ⟨source, c₃, hexpr, h⟩ := exists_of_bind h
    have h₅ := ih.expr h₄.consumes hexpr
    obtain ⟨hcolon, h⟩ := exists_of_expect h
    obtain ⟨-, rfl⟩ := Prod.mk.inj (Except.ok.inj h)
    have h₆ := into_past h₅.consumes hcolon .start rfl
    exact (h₃.trans (h₄.into h₅).to).trans (h₆.trans (to_skipNewlines h₆.consumes)).to
  dsimp only at h
  split at h
  · next hat =>
      obtain ⟨name, c₂, hname, h⟩ := exists_of_bind h
      obtain ⟨hw₂, rfl⟩ := identifier_eq_ok.1 hname
      have h₂ := h₁.trans (into_advance h₁.consumes (isAt_iff.1 hat) .start rfl).to
      exact rest (h₂.trans (into_advance h₂.consumes hw₂ .afterName rfl).to) h
  · exact rest h₁ h

theorem succ_guard {g : Option Expr} (h : parseGuard (n + 1) c = .ok (g, c')) : c.To c' := by
  rw [parseGuard] at h
  split at h
  · next hat =>
      obtain ⟨e, c₁, hexpr, h⟩ := exists_of_bind h
      obtain ⟨-, rfl⟩ := Prod.mk.inj (Except.ok.inj h)
      have h₁ := into_next hc (isAt_iff.1 hat) .start rfl
      have h₂ := h₁.trans (ih.expr h₁.consumes hexpr).to
      exact h₂.to.trans (to_skipNewlines h₂.consumes)
  · obtain ⟨-, rfl⟩ := Prod.mk.inj (Except.ok.inj h)
    exact .refl hc

theorem succ_forTuple (h : parseForTuple (n + 1) c = .ok (e, c')) : c.Into c' := by
  rw [parseForTuple] at h
  obtain ⟨⟨key, value, source⟩, c₁, hintro, h⟩ := exists_of_bind h
  have h₁ := ih.forIntro hc hintro
  obtain ⟨item, c₂, hitem, h⟩ := exists_of_bind h
  have h₂ := h₁.trans (ih.expr h₁.consumes hitem).to
  have h₃ := h₂.trans (to_skipNewlines h₂.consumes)
  obtain ⟨g, c₃, hguard, h⟩ := exists_of_bind h
  have h₄ := h₃.trans (ih.guard h₃.consumes hguard)
  obtain ⟨hbracket, h⟩ := exists_of_expect h
  obtain ⟨-, rfl⟩ := Prod.mk.inj (Except.ok.inj h)
  exact h₄.trans (into_advance h₄.consumes hbracket _ rfl).to

theorem succ_forObject (h : parseForObject (n + 1) c = .ok (e, c')) : c.Into c' := by
  rw [parseForObject] at h
  obtain ⟨⟨key, value, source⟩, c₁, hintro, h⟩ := exists_of_bind h
  have h₁ := ih.forIntro hc hintro
  obtain ⟨itemKey, c₂, hkey, h⟩ := exists_of_bind h
  have h₂ := h₁.trans (ih.expr h₁.consumes hkey).to
  obtain ⟨harrow, h⟩ := exists_of_expect h
  have h₃ := h₂.trans (into_next h₂.consumes harrow .start rfl).to
  obtain ⟨item, c₃, hitem, h⟩ := exists_of_bind h
  have h₄ := h₃.trans (ih.expr h₃.consumes hitem).to
  have h₅ := h₄.trans (to_skipNewlines h₄.consumes)
  have h₆ : c.Into (if c₃.skipNewlines.isAt .ellipsis then (c₃.skipNewlines.advance .afterEllipsis).skipNewlines
      else c₃.skipNewlines) := by
    split
    · next hat => exact h₅.trans (into_next h₅.consumes (isAt_iff.1 hat) _ rfl).to
    · exact h₅
  obtain ⟨g, c₄, hguard, h⟩ := exists_of_bind h
  have h₇ := h₆.trans (ih.guard h₆.consumes hguard)
  obtain ⟨hbrace, h⟩ := exists_of_expect h
  obtain ⟨-, rfl⟩ := Prod.mk.inj (Except.ok.inj h)
  exact h₇.trans (into_advance h₇.consumes hbrace _ rfl).to

theorem succ_braces (h : parseBraces (n + 1) c = .ok (e, c')) : c.Into c' := by
  have h₁ := to_skipNewlines hc
  rw [parseBraces] at h
  dsimp only at h
  split at h
  · next hat =>
      have h₂ := h₁.into (into_advance h₁.consumes (isAt_iff.1 hat) .afterFor rfl)
      split at h
      · exact h₂.trans (ih.forObject h₂.consumes h).to
      · exact h₂.trans (ih.forObject h₂.consumes h).to
      · obtain ⟨key, c₁, hkey, h⟩ := exists_of_bind h
        have h₃ := h₂.trans (to_dottedUpTo h₂.consumes hkey)
        obtain ⟨entry, c₂, hvalue, h⟩ := exists_of_bind h
        have h₄ := h₃.trans (ih.entryValue h₃.consumes hvalue).to
        obtain ⟨es, c₃, hentries, h⟩ := exists_of_bind h
        obtain ⟨-, rfl⟩ := Prod.mk.inj (Except.ok.inj h)
        exact h₄.trans (ih.entries h₄.consumes hentries).to
  · obtain ⟨es, c₁, hentries, h⟩ := exists_of_bind h
    obtain ⟨-, rfl⟩ := Prod.mk.inj (Except.ok.inj h)
    exact h₁.into (ih.entries h₁.consumes hentries)

theorem succ_entries {done entries : List (Expr × Expr)} (h : parseEntries (n + 1) done c = .ok (entries, c')) :
    c.Into c' := by
  rw [parseEntries] at h
  split at h
  · next hat =>
      obtain ⟨-, rfl⟩ := Prod.mk.inj (Except.ok.inj h)
      exact into_advance hc (isAt_iff.1 hat) _ rfl
  · obtain ⟨key, c₁, hkey, h⟩ := exists_of_bind h
    have h₁ := ih.key hc hkey
    obtain ⟨entry, c₂, hvalue, h⟩ := exists_of_bind h
    have h₂ := h₁.trans (ih.entryValue h₁.consumes hvalue).to
    exact h₂.trans (ih.entries h₂.consumes h).to

theorem succ_entryValue {key : Expr} {entry : Expr × Expr} (h : parseEntryValue (n + 1) key c = .ok (entry, c')) :
    c.Into c' := by
  rw [parseEntryValue] at h
  split at h
  · next hat =>
      have hsign : c.Into (c.advance .start) := by
        rcases Bool.or_eq_true_iff.1 hat with hat | hat <;> exact into_advance hc (isAt_iff.1 hat) _ rfl
      obtain ⟨value, c₁, hexpr, h⟩ := exists_of_bind h
      obtain ⟨-, rfl⟩ := Prod.mk.inj (Except.ok.inj h)
      have h₁ := ih.expr (advance_consumes c .start) hexpr
      have h₂ : c₁.To (if c₁.isAt .comma then c₁.advance .start else c₁) := by
        split
        · next hat => exact (into_advance h₁.consumes (isAt_iff.1 hat) _ rfl).to
        · exact .refl h₁.consumes
      exact hsign.trans (h₁.trans (h₂.trans (to_skipNewlines h₂.consumes))).to
  · cases h

theorem succ_key (h : parseKey (n + 1) c = .ok (e, c')) : c.Into c' := by
  rw [parseKey_succ] at h
  cases hw : c.word with
  | none =>
      rw [hw] at h
      cases h
  | some word =>
      rw [hw] at h
      cases word with
      | name t => exact (into_advance hc hw _ rfl).trans (to_dottedUpTo (advance_consumes _ _) h)
      | digit d => exact into_number hc h
      | negative d => exact into_number hc h
      | quote =>
          obtain ⟨parts, c₁, hparts, h⟩ := exists_of_bind h
          obtain ⟨-, rfl⟩ := Prod.mk.inj (Except.ok.inj h)
          exact (into_advance hc hw _ rfl).trans (ih.template (advance_consumes _ _) hparts).to
      | leftParen =>
          obtain ⟨e₁, c₁, hexpr, h⟩ := exists_of_bind h
          have h₁ := (into_advance hc hw .start rfl).trans (ih.expr (advance_consumes _ _) hexpr).to
          obtain ⟨hparen, h⟩ := exists_of_expect h
          obtain ⟨-, rfl⟩ := Prod.mk.inj (Except.ok.inj h)
          exact h₁.trans (into_advance h₁.consumes hparen _ rfl).to
      | _ => cases h

end GoesOn

/-- Whatever is read, the cursor goes on or stays. -/
theorem goesOn (n : Nat) : GoesOn n := by
  induction n with
  | zero => exact .zero
  | succ n ih =>
      exact {
        expr := fun hc h => ih.succ_expr hc h
        operators := fun hc h => ih.succ_operators hc h
        operand := fun hc h => ih.succ_operand hc h
        term := fun hc h => ih.succ_term hc h
        named := fun hc h => ih.succ_named hc h
        arguments := fun hc h => ih.succ_arguments hc h
        suffixes := fun hc h => ih.succ_suffixes hc h
        template := fun hc h => ih.succ_template hc h
        brackets := fun hc h => ih.succ_brackets hc h
        items := fun hc h => ih.succ_items hc h
        moreItems := fun hc h => ih.succ_moreItems hc h
        forIntro := fun hc h => ih.succ_forIntro hc h
        guard := fun hc h => ih.succ_guard hc h
        forTuple := fun hc h => ih.succ_forTuple hc h
        forObject := fun hc h => ih.succ_forObject hc h
        braces := fun hc h => ih.succ_braces hc h
        entries := fun hc h => ih.succ_entries hc h
        entryValue := fun hc h => ih.succ_entryValue hc h
        key := fun hc h => ih.succ_key hc h }

end

end JujuMigration.Strict
