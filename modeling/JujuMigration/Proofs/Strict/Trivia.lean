import Mathlib.Data.List.DropRight
import JujuMigration.Proofs.Config.Item
import JujuMigration.Proofs.Source.LineEnds
import JujuMigration.Strict.Parser
/-! What stands between items, as the strict grammar reads it. A cursor goes over blanks, line ends and comments as
the gaps and the ends of lines of the tree do, so that behind them it stands at the item, or the brace, that the
tree has there. Only a carriage return that ends no line stops it, which the tree takes for a blank in a gap. -/

namespace JujuMigration.Strict

open Source Text

/-! ### The text as the strict grammar reads it -/

/-- Every line ends in a line feed alone, the last one too. -/
def source (s : Text) : Text := withoutReturns s ++ ['\n']

theorem source_return (r : Text) : source ('\r' :: '\n' :: r) = '\n' :: source r := rfl

theorem source_cons {c : Char} {r : Text} (h : c = '\r' → r.head? ≠ some '\n') : source (c :: r) = c :: source r := by
  rw [source, withoutReturns_cons h]
  rfl

theorem source_cons_of_ne {c : Char} (h : c ≠ '\r') (r : Text) : source (c :: r) = c :: source r :=
  source_cons fun hc => absurd hc h

/-- A text falls into lines as its parts do, unless it is cut within a line end. -/
theorem source_append_of_last (p : Text) {r : Text} (hr : p.getLast? = some '\r' → r.head? ≠ some '\n') :
    source (p ++ r) = withoutReturns p ++ source r := by
  induction hn : p.length using Nat.strongRecOn generalizing p with
  | ind n ih =>
      subst hn
      cases p with
      | nil => rfl
      | cons c p =>
          by_cases hc : c = '\r' ∧ p.head? = some '\n'
          · obtain ⟨rfl, hp⟩ := hc
            obtain ⟨q, rfl⟩ := List.head?_eq_some_iff.1 hp
            have hq := ih q.length (by simp only [List.length_cons]; omega) q
              (fun hl => hr (by simp [List.getLast?_cons, hl])) rfl
            rw [List.cons_append, List.cons_append, source_return, hq, withoutReturns_line, List.cons_append]
          · have hp := ih p.length (Nat.lt_succ_self _) p (fun hl => hr (by simp [List.getLast?_cons, hl])) rfl
            rw [List.cons_append, source_cons, hp, withoutReturns_cons, List.cons_append]
            · exact fun h hp => hc ⟨h, hp⟩
            · intro h
              cases p with
              | nil => exact hr (by simp [h])
              | cons d p => exact fun hp => hc ⟨h, hp⟩

theorem source_append (p : Text) {r : Text} (hr : r.head? ≠ some '\n') :
    source (p ++ r) = withoutReturns p ++ source r := source_append_of_last p fun _ => hr

theorem source_suffix (p r : Text) : source r <:+ source (p ++ r) := by
  obtain ⟨q, hq⟩ := withoutReturns_suffix p r
  exact ⟨q, by rw [source, source, ← hq, List.append_assoc]⟩

theorem source_append_of_forall {p : Text} (hp : ∀ c ∈ p, c ≠ '\r') (r : Text) : source (p ++ r) = p ++ source r := by
  induction p with
  | nil => rfl
  | cons c p ih =>
      obtain ⟨hc, hp⟩ := List.forall_mem_cons.1 hp
      rw [List.cons_append, source_cons_of_ne hc, ih hp, List.cons_append]

/-- The first character, but for a carriage return that ends a line. -/
theorem head?_source {s : Text} {c : Char} (h : (source s).head? = some c) (hc : c ≠ '\n') : s.head? = some c := by
  cases s with
  | nil => exact absurd (Option.some.inj h).symm hc
  | cons d s =>
      by_cases hd : d = '\r' ∧ s.head? = some '\n'
      · obtain ⟨rfl, hs⟩ := hd
        obtain ⟨r, rfl⟩ := List.head?_eq_some_iff.1 hs
        exact absurd (Option.some.inj h).symm hc
      · rwa [source_cons fun h hs => hd ⟨h, hs⟩] at h

theorem skipSpaces_self {s : Text} (h : s.head?.any isSpace = false) : skipSpaces s = s := by
  cases s with
  | nil => rfl
  | cons c s => exact List.dropWhile_cons_of_neg (by simpa using h)

theorem skipSpaces_source (s : Text) : skipSpaces (source s) = source (skipSpaces s) := by
  induction s with
  | nil => rfl
  | cons c s ih =>
      by_cases hc : isSpace c = true
      · have hne : c ≠ '\r' := by
          rintro rfl
          cases hc
        rw [source_cons_of_ne hne, skipSpaces, skipSpaces, List.dropWhile_cons_of_pos hc, List.dropWhile_cons_of_pos hc]
        exact ih
      · have hself : skipSpaces (c :: s) = c :: s := List.dropWhile_cons_of_neg hc
        rw [hself]
        refine skipSpaces_self ?_
        cases hd : (source (c :: s)).head? with
        | none => rfl
        | some d =>
            by_cases hn : d = '\n'
            · subst hn
              rfl
            · obtain rfl := Option.some.inj (head?_source hd hn)
              simpa using hc

theorem isGapChar_cases {c : Char} (h : isGapChar c = true) : isSpace c = true ∨ c = '\r' ∨ c = '\n' := by
  simpa [isGapChar, or_assoc] using h

/-! ### Cursors -/

/-- Both are at the same word, whatever the word before was. -/
structure Cursor.Same (c c' : Cursor) : Prop where
  word : c.word = c'.word
  start : c.start = c'.start
  rest : c.rest = c'.rest

namespace Cursor

variable {c c' c'' : Cursor} {mode : Mode} {last last' s : Text}

theorem Same.refl (c : Cursor) : c.Same c := ⟨rfl, rfl, rfl⟩

theorem Same.symm (h : c.Same c') : c'.Same c := ⟨h.word.symm, h.start.symm, h.rest.symm⟩

theorem Same.trans (h : c.Same c') (h' : c'.Same c'') : c.Same c'' :=
  ⟨h.word.trans h'.word, h.start.trans h'.start, h.rest.trans h'.rest⟩

theorem Same.advance (h : c.Same c') (mode : Mode) : c.advance mode = c'.advance mode := by
  rw [Cursor.advance, Cursor.advance, h.start, h.rest]

theorem Same.skipNewlinesUpTo (h : c.Same c') (n : Nat) : (skipNewlinesUpTo n c).Same (skipNewlinesUpTo n c') := by
  cases n with
  | zero => exact h
  | succ n =>
      rw [Cursor.skipNewlinesUpTo, Cursor.skipNewlinesUpTo, h.advance, isAt, isAt, h.word]
      split
      · exact .refl _
      · exact h

theorem Same.skipNewlines (h : c.Same c') : c.skipNewlines.Same c'.skipNewlines := by
  rw [Cursor.skipNewlines, Cursor.skipNewlines, h.start, isAt, isAt, h.word]
  split
  · exact h.skipNewlinesUpTo _
  · exact h

end Cursor

/-- No operand has ended: an item or an expression may begin. -/
inductive Mode.IsFresh : Mode → Prop
  | start : IsFresh .start
  | afterNewline : IsFresh .afterNewline

section

variable {mode : Mode} {last s : Text}

theorem Cursor.at_fresh (h : mode.IsFresh) : Cursor.at mode last s =
    match skipSpaces s with
    | [] => ⟨none, [], [], last⟩
    | c :: r =>
      match wordAt mode c r with
      | some (word, rest) => ⟨some word, c :: r, rest, last⟩
      | none => ⟨none, c :: r, c :: r, last⟩ := by
  cases h <;> rfl

theorem Cursor.at_skipSpaces (h : mode.IsFresh) : Cursor.at mode last (skipSpaces s) = Cursor.at mode last s := by
  have hs : skipSpaces (skipSpaces s) = skipSpaces s := List.dropWhile_idempotent isSpace s
  rw [at_fresh h, at_fresh h, hs]

end

/-! ### The next word -/

section

variable {mode : Mode} {last s : Text} {c : Char} {r x : Text}

theorem after?_eq_none {p : Text} {a : Char} (h : c ≠ a) : after? (a :: p) (c :: r) = none := by
  rw [after?, if_neg]
  intro hp
  obtain ⟨t, ht⟩ := List.isPrefixOf_iff_prefix.1 hp
  exact h (List.cons.inj ht).1.symm

theorem heredoc?_eq_none (h : c ≠ '<') : heredoc? (c :: r) = none := by
  rw [heredoc?, after?_eq_none h, after?_eq_none h]
  rfl

theorem newline?_cases (h : newline? (c :: r) = some x) : c = '\n' ∨ c = '#' ∨ c = '/' := by
  unfold newline? at h
  split at h <;> simp_all

/-- Where an item may begin, a heredoc, a line end and a name are tried first, and no other word is a line end. -/
theorem wordAt_fresh (hmode : mode.IsFresh) (c : Char) (r : Text) : ∃ others, (∀ x, others ≠ some (.newline, x)) ∧
    wordAt mode c r = (heredoc? (c :: r)).or (((newline? (c :: r)).map (Lexeme.newline, ·)).or
      (((name? (c :: r)).map fun x => (Lexeme.name x.1, x.2)).or others)) := by
  have hbracket : bracket? c ≠ some .newline := by unfold bracket?; split <;> simp
  have hpunctuation : punctuation? c ≠ some .newline := by unfold punctuation?; split <;> simp
  cases hmode
  · refine ⟨_, fun x => ?_, rfl⟩
    simp only [ne_eq, Option.or_eq_some_iff, first, Option.map_eq_some_iff, Prod.mk.injEq]
    grind
  · refine ⟨_, fun x => ?_, rfl⟩
    simp only [ne_eq, Option.or_eq_some_iff, first, Option.map_eq_some_iff, Prod.mk.injEq]
    grind

theorem wordAt_newline (hmode : mode.IsFresh) (h : newline? (c :: r) = some x) :
    wordAt mode c r = some (.newline, x) := by
  have hc : c ≠ '<' := by
    rintro rfl
    simpa using newline?_cases h
  obtain ⟨others, -, hw⟩ := wordAt_fresh hmode c r
  rw [hw, heredoc?_eq_none hc, h]
  rfl

theorem opensIdentifier_of_readIdentifier {name : Text} (h : readIdentifier s = .ok (name, x)) :
    opensIdentifier s = true := by
  unfold readIdentifier at h
  split at h
  · assumption
  · cases h

theorem newline?_of_opensIdentifier (h : opensIdentifier (c :: r) = true) : newline? (c :: r) = none := by
  refine Option.eq_none_iff_forall_ne_some.2 fun x hx => ?_
  rcases newline?_cases hx with rfl | rfl | rfl <;> cases h

theorem exists_readIdentifier (h : opensIdentifier s = true) : ∃ name x, readIdentifier s = .ok (name, x) :=
  ⟨_, _, if_pos h⟩

/-- A name is read as it is from the text of the file. -/
theorem readIdentifier_source {name : Text} (h : readIdentifier s = .ok (name, x)) :
    readIdentifier (source s) = .ok (name, source x) := by
  have hname := isIdentifier_of_readIdentifier h
  have hs := (readIdentifier_append h).1
  have hrest := List.head?_dropWhile_not isIdentChar s
  rw [readIdentifier, if_pos (opensIdentifier_of_readIdentifier h)] at h
  rw [(Prod.mk.inj (Except.ok.inj h)).2] at hrest
  subst hs
  rw [source_append_of_forall]
  · refine readIdentifier_of_isIdentifier hname ?_
    cases hd : (source x).head? with
    | none => rfl
    | some d =>
        by_cases hn : d = '\n'
        · subst hn
          rfl
        · rw [head?_source hd hn] at hrest
          simpa using hrest
  · rintro c hc rfl
    exact absurd (hname.2 _ hc) (by decide)

theorem wordAt_name (hmode : mode.IsFresh) {name : Text} (h : readIdentifier (c :: r) = .ok (name, x)) :
    wordAt mode c r = some (.name name, x) := by
  have ho := opensIdentifier_of_readIdentifier h
  have hc : c ≠ '<' := by
    rintro rfl
    cases ho
  obtain ⟨others, -, hw⟩ := wordAt_fresh hmode c r
  rw [hw, heredoc?_eq_none hc, newline?_of_opensIdentifier ho, name?, h]
  rfl

theorem wordAt_brace (hmode : mode.IsFresh) : wordAt mode '}' r = some (.rightBrace, r) := by
  cases hmode <;> rfl

theorem wordAt_return (hmode : mode.IsFresh) : wordAt mode '\r' r = none := by
  cases hmode <;> rfl

theorem afterLine?_length_lt (h : afterLine? s = some x) : x.length < s.length := by
  fun_induction afterLine? s <;> grind

theorem newline?_length_lt (h : newline? s = some x) : x.length < s.length := by
  unfold newline? at h
  split at h
  · obtain rfl := Option.some.inj h
    exact Nat.lt_succ_of_le (skipSpaces_suffix _).length_le
  · exact Nat.lt_succ_of_lt (afterLine?_length_lt h)
  · exact Nat.lt_succ_of_lt (Nat.lt_succ_of_lt (afterLine?_length_lt h))
  · exact Nat.lt_succ_of_le (Nat.le_succ_of_le (afterCommentEnd?_suffix h).length_le)
  · cases h

/-- A line end takes at least a character. -/
theorem length_lt_of_wordAt (hmode : mode.IsFresh) (h : wordAt mode c r = some (.newline, x)) :
    x.length < (c :: r).length := by
  obtain ⟨others, ho, hw⟩ := wordAt_fresh hmode c r
  rw [hw] at h
  simp only [heredoc?, Option.or_eq_some_iff, Option.map_eq_some_iff, Prod.mk.injEq, ho, reduceCtorEq, false_and,
    and_false, exists_false, or_false, false_or, true_and, exists_eq_right] at h
  exact newline?_length_lt h.2

end

/-! ### Going over line ends -/

namespace Cursor

variable {c : Cursor} {mode : Mode} {last s x : Text}

/-- If it is at a line end, the text behind that is shorter. -/
def Shrinks (c : Cursor) : Prop := c.word = some .newline → c.rest.length < c.start.length

theorem at_cases (hmode : mode.IsFresh) (last s : Text) :
    (skipSpaces s = [] ∧ Cursor.at mode last s = ⟨none, [], [], last⟩) ∨
    ∃ c r, skipSpaces s = c :: r ∧
      ((∃ word rest, wordAt mode c r = some (word, rest) ∧ Cursor.at mode last s = ⟨some word, c :: r, rest, last⟩) ∨
        wordAt mode c r = none ∧ Cursor.at mode last s = ⟨none, c :: r, c :: r, last⟩) := by
  rw [at_fresh hmode]
  cases skipSpaces s with
  | nil => exact .inl ⟨rfl, rfl⟩
  | cons c r =>
      refine .inr ⟨c, r, rfl, ?_⟩
      cases h : wordAt mode c r with
      | none => exact .inr ⟨rfl, by simp only [h]⟩
      | some x => exact .inl ⟨x.1, x.2, rfl, by simp only [h]⟩

theorem at_same (hmode : mode.IsFresh) (last last' s : Text) :
    (Cursor.at mode last s).Same (Cursor.at mode last' s) := by
  rw [at_fresh hmode, at_fresh hmode]
  cases skipSpaces s with
  | nil => exact ⟨rfl, rfl, rfl⟩
  | cons c r => cases h : wordAt mode c r <;> simp only [h] <;> exact ⟨rfl, rfl, rfl⟩

theorem at_shrinks (hmode : mode.IsFresh) (last s : Text) : (Cursor.at mode last s).Shrinks := by
  rcases at_cases hmode last s with ⟨-, h⟩ | ⟨c, r, -, ⟨word, rest, hw, h⟩ | ⟨-, h⟩⟩ <;> rw [h] <;> intro hword
  · cases hword
  · obtain rfl := Option.some.inj hword
    exact length_lt_of_wordAt hmode hw
  · cases hword

theorem at_start_length (hmode : mode.IsFresh) (last s : Text) : (Cursor.at mode last s).start.length ≤ s.length := by
  have hle := (skipSpaces_suffix s).length_le
  rcases at_cases hmode last s with ⟨-, h⟩ | ⟨c, r, hs, ⟨word, rest, -, h⟩ | ⟨-, h⟩⟩ <;> rw [h]
  · exact Nat.zero_le _
  · rwa [hs] at hle
  · rwa [hs] at hle

theorem at_newline (hmode : mode.IsFresh) (h : newline? (skipSpaces s) = some x) :
    Cursor.at mode last s = ⟨some .newline, skipSpaces s, x, last⟩ := by
  rw [at_fresh hmode]
  cases hs : skipSpaces s with
  | nil =>
      rw [hs] at h
      cases h
  | cons c r =>
      rw [hs] at h
      simp only [wordAt_newline hmode h]

theorem at_brace (hmode : mode.IsFresh) : Cursor.at mode last ('}' :: s) = ⟨some .rightBrace, '}' :: s, s, last⟩ := by
  rw [at_fresh hmode, skipSpaces_self rfl]
  simp only [wordAt_brace hmode]

theorem at_name (hmode : mode.IsFresh) {name : Text} (h : readIdentifier s = .ok (name, x)) :
    Cursor.at mode last s = ⟨some (.name name), s, x, last⟩ := by
  have ho := opensIdentifier_of_readIdentifier h
  obtain ⟨c, r, rfl, -, hg, -⟩ := isIdentStart_cases ho
  have hskip : skipSpaces (c :: r) = c :: r :=
    List.dropWhile_cons_of_neg fun hs => by simp [isGapChar_of_isSpace hs] at hg
  rw [at_fresh hmode, hskip]
  simp only [wordAt_name hmode h]

theorem at_source_skipSpaces (hmode : mode.IsFresh) :
    Cursor.at mode last (source (skipSpaces s)) = Cursor.at mode last (source s) := by
  rw [← skipSpaces_source, at_skipSpaces hmode]

theorem skipNewlinesUpTo_of_word (h : c.word ≠ some .newline) (n : Nat) : skipNewlinesUpTo n c = c := by
  cases n with
  | zero => rfl
  | succ n => rw [skipNewlinesUpTo, isAt, decide_eq_false h]; rfl

theorem skipNewlines_of_word (h : c.word ≠ some .newline) : c.skipNewlines = c := by
  rw [skipNewlines, isAt, decide_eq_false h]
  rfl

/-- Every bound that the text does not exceed is as good. -/
theorem skipNewlinesUpTo_eq {n m : Nat} (hc : c.Shrinks) (hn : c.start.length ≤ n) (hm : c.start.length ≤ m) :
    skipNewlinesUpTo n c = skipNewlinesUpTo m c := by
  induction n generalizing c m with
  | zero =>
      have hword : c.word ≠ some .newline := fun h => by
        have := hc h
        omega
      rw [skipNewlinesUpTo_of_word hword, skipNewlinesUpTo_of_word hword]
  | succ n ih =>
      by_cases h : c.word = some .newline
      · have hless := hc h
        cases m with
        | zero => omega
        | succ m =>
            have hle := at_start_length .afterNewline c.start c.rest
            rw [skipNewlinesUpTo, skipNewlinesUpTo, isAt, decide_eq_true h, if_pos rfl, if_pos rfl]
            have hnext : (c.advance .afterNewline).start.length < c.start.length := Nat.lt_of_le_of_lt hle hless
            exact ih (at_shrinks .afterNewline c.start c.rest) (by omega) (by omega)
      · rw [skipNewlinesUpTo_of_word h, skipNewlinesUpTo_of_word h]

theorem skipNewlines_of_newline (hc : c.Shrinks) (h : c.word = some .newline) :
    c.skipNewlines = (c.advance .afterNewline).skipNewlines := by
  have hless := hc h
  have hle := at_start_length .afterNewline c.start c.rest
  have hshrinks := at_shrinks .afterNewline c.start c.rest
  obtain ⟨n, hn⟩ : ∃ n, c.start.length = n + 1 := Nat.exists_eq_succ_of_ne_zero (by omega)
  rw [skipNewlines, isAt, decide_eq_true h, if_pos rfl, hn, skipNewlinesUpTo, isAt, decide_eq_true h, if_pos rfl]
  by_cases hword : (c.advance .afterNewline).word = some .newline
  · rw [skipNewlines, isAt, decide_eq_true hword, if_pos rfl]
    exact skipNewlinesUpTo_eq hshrinks (Nat.le_trans hle (by omega)) (Nat.le_refl _)
  · rw [skipNewlinesUpTo_of_word hword, skipNewlines_of_word hword]

/-- No word begins here, though the text goes on. -/
def IsStuck (c : Cursor) : Prop := c.word = none ∧ c.start ≠ []

theorem Same.isStuck {c' : Cursor} (h : c.Same c') (hs : c'.IsStuck) : c.IsStuck :=
  ⟨h.word.trans hs.1, h.start ▸ hs.2⟩

end Cursor

/-- The first word of a text behind the line ends it begins with. -/
def settled (s : Text) : Cursor := (Cursor.at .afterNewline [] s).skipNewlines

section

variable {mode : Mode} {last s r x : Text}

theorem settled_skipSpaces (s : Text) : settled (skipSpaces s) = settled s := by
  rw [settled, settled, Cursor.at_skipSpaces .afterNewline]

theorem skipNewlines_at_newline (hmode : mode.IsFresh) (h : newline? (skipSpaces s) = some x) :
    (Cursor.at mode last s).skipNewlines.Same (settled x) := by
  have hnewline : Cursor.at mode last s = ⟨some .newline, skipSpaces s, x, last⟩ := Cursor.at_newline hmode h
  have hshrinks := Cursor.at_shrinks hmode last s
  rw [Cursor.skipNewlines_of_newline hshrinks (by rw [hnewline]), hnewline]
  exact (Cursor.at_same .afterNewline ..).skipNewlines

theorem settled_newline (h : newline? (skipSpaces s) = some x) : (settled s).Same (settled x) :=
  skipNewlines_at_newline .afterNewline h

theorem settled_line (s : Text) : (settled ('\n' :: s)).Same (settled s) := by
  rw [← settled_skipSpaces s]
  exact settled_newline rfl

/-! ### Comments -/

theorem afterLine?_source (s : Text) : ∃ x, afterLine? (source s) = some x ∧ source (skipLine s) = '\n' :: x := by
  fun_induction skipLine s with
  | case1 => exact ⟨[], rfl, rfl⟩
  | case2 r => exact ⟨source r, rfl, rfl⟩
  | case3 r => exact ⟨source r, rfl, rfl⟩
  | case4 c r hline hreturn ih =>
      obtain ⟨x, hx, hs⟩ := ih
      refine ⟨x, ?_, hs⟩
      have hc : c = '\r' → r.head? ≠ some '\n' := fun hc hr => by
        obtain ⟨t, rfl⟩ := List.head?_eq_some_iff.1 hr
        exact hreturn t hc rfl
      rw [source_cons hc, afterLine?, if_neg hline, hx]

theorem afterCommentEnd?_source (h : afterCommentEnd? s = some r) : afterCommentEnd? (source s) = some (source r) := by
  fun_induction afterCommentEnd? s with
  | case1 => cases h
  | case2 t =>
      obtain rfl := Option.some.inj h
      rfl
  | case3 c t hend ih =>
      by_cases hc : c = '\r' ∧ t.head? = some '\n'
      · obtain ⟨rfl, ht⟩ := hc
        obtain ⟨u, rfl⟩ := List.head?_eq_some_iff.1 ht
        exact ih h
      · rw [source_cons fun h ht => hc ⟨h, ht⟩, afterCommentEnd?_cons, ih h]
        rintro rfl ht
        obtain ⟨u, rfl⟩ := List.head?_eq_some_iff.1 (head?_source ht (by decide))
        exact hend u rfl rfl

/-- A comment is a line end, and leaves what the comment of the tree does, but for the end of its line. -/
theorem newline?_comment (ho : opensComment s = true) (h : skipComment s = .ok r) :
    ∃ x, newline? (source s) = some x ∧ (settled x).Same (settled (source r)) := by
  have line {t : Text} (ht : skipLine t = r) :
      ∃ x, afterLine? (source t) = some x ∧ (settled x).Same (settled (source r)) := by
    obtain ⟨x, hx, hs⟩ := afterLine?_source t
    refine ⟨x, hx, ?_⟩
    rw [← ht, hs]
    exact (settled_line x).symm
  rcases opensComment_cases ho with ⟨t, rfl⟩ | ⟨t, rfl⟩ | ⟨t, rfl⟩
  · exact line (Except.ok.inj h)
  · exact line (Except.ok.inj h)
  · refine ⟨source r, afterCommentEnd?_source ?_, .refl _⟩
    unfold skipComment at h
    rw [if_pos (show opensBlockComment ('/' :: '*' :: t) = true from rfl), skipBlockComment] at h
    split at h
    · next hu =>
        obtain rfl := Except.ok.inj h
        exact hu
    · cases h

theorem skipNewlines_at_comment (hmode : mode.IsFresh) (ho : opensComment (skipSpaces s) = true)
    (h : skipComment (skipSpaces s) = .ok r) :
    (Cursor.at mode last (source s)).skipNewlines.Same (settled (source r)) := by
  obtain ⟨x, hx, hsame⟩ := newline?_comment ho h
  exact (skipNewlines_at_newline hmode (by rw [skipSpaces_source, hx])).trans hsame

/-! ### Gaps and the ends of lines -/

theorem skipNewlines_at_line (hmode : mode.IsFresh) :
    (Cursor.at mode last ('\n' :: s)).skipNewlines.Same (settled s) := by
  rw [← settled_skipSpaces s]
  exact skipNewlines_at_newline hmode rfl

theorem skipNewlines_at_end (hmode : mode.IsFresh) :
    (Cursor.at mode last (source [])).skipNewlines.Same (settled (source [])) :=
  (skipNewlines_at_line hmode).trans (settled_line []).symm

theorem skipNewlines_at_brace (hmode : mode.IsFresh) :
    (Cursor.at mode last (source ('}' :: s))).skipNewlines.Same (settled (source ('}' :: s))) := by
  rw [source_cons_of_ne (by decide), settled, Cursor.at_brace hmode, Cursor.at_brace .afterNewline]
  exact Cursor.Same.skipNewlines ⟨rfl, rfl, rfl⟩

theorem skipNewlines_at_name (hmode : mode.IsFresh) (h : opensIdentifier s = true) :
    (Cursor.at mode last (source s)).skipNewlines.Same (settled (source s)) := by
  obtain ⟨name, x, hread⟩ := exists_readIdentifier h
  have hs := readIdentifier_source hread
  rw [settled, Cursor.at_name hmode hs, Cursor.at_name .afterNewline hs]
  exact Cursor.Same.skipNewlines ⟨rfl, rfl, rfl⟩

/-- A carriage return that ends no line is no word. -/
theorem skipNewlines_at_return (hmode : mode.IsFresh) (h : s.head? ≠ some '\n') :
    (Cursor.at mode last (source ('\r' :: s))).skipNewlines.IsStuck := by
  rw [source_cons fun _ => h]
  have hat : Cursor.at mode last ('\r' :: source s) = ⟨none, '\r' :: source s, '\r' :: source s, last⟩ := by
    rw [Cursor.at_fresh hmode, skipSpaces_self rfl]
    simp only [wordAt_return hmode]
  rw [hat, Cursor.skipNewlines_of_word (by simp)]
  exact ⟨rfl, List.cons_ne_nil _ _⟩

/-- In front of `r` the text has a carriage return that ends no line. -/
def Halts (s r : Text) : Prop := ∃ t, '\r' :: t <:+ s ∧ t.head? ≠ some '\n' ∧ r <:+ t

theorem Halts.of_suffix {t : Text} (h : Halts t r) (ht : t <:+ s) : Halts s r := by
  obtain ⟨u, hu, hline, hr⟩ := h
  exact ⟨u, hu.trans ht, hline, hr⟩

theorem not_halts {gap : Text} (h : EndsLines gap) (r : Text) : ¬Halts (gap ++ r) r := by
  rintro ⟨t, ht, hline, p, rfl⟩
  obtain ⟨q, hq⟩ := ht
  obtain rfl : q ++ '\r' :: p = gap := List.append_cancel_right (by simpa using hq)
  have hp : p.head? ≠ some '\n' := fun hp => hline (by simp [hp])
  have hreturn := h.of_append_right
  rw [EndsLines, withoutReturns_cons fun _ => hp] at hreturn
  exact hreturn List.mem_cons_self

/-- Where an item may begin a cursor goes over a gap to what is behind it, unless a carriage return stops it. -/
theorem skipNewlines_at_gap (hmode : mode.IsFresh) (h : skipGap s = .ok r)
    (hr : endsBody r = true ∨ opensIdentifier r = true) :
    (Cursor.at mode last (source s)).skipNewlines.Same (settled (source r)) ∨
      (Cursor.at mode last (source s)).skipNewlines.IsStuck ∧ Halts s r := by
  have behind {c : Cursor} {s t : Text} (hc : c.Same (settled (source t))) (hs : t <:+ s)
      (ht : (settled (source t)).Same (settled (source r)) ∨ (settled (source t)).IsStuck ∧ Halts t r) :
      c.Same (settled (source r)) ∨ c.IsStuck ∧ Halts s r :=
    ht.imp hc.trans fun hstuck => ⟨hc.isStuck hstuck.1, hstuck.2.of_suffix hs⟩
  fun_induction skipGap s generalizing mode last with
  | case1 =>
      obtain rfl := Except.ok.inj h
      exact .inl (skipNewlines_at_end hmode)
  | case2 c t hc ih =>
      have hsuffix : t <:+ c :: t := List.suffix_cons c t
      rcases isGapChar_cases hc with hspace | rfl | rfl
      · have hskip : skipSpaces (c :: t) = skipSpaces t := List.dropWhile_cons_of_pos hspace
        rw [← Cursor.at_source_skipSpaces hmode, hskip, Cursor.at_source_skipSpaces hmode]
        exact (ih hmode h).imp_right fun hstuck => ⟨hstuck.1, hstuck.2.of_suffix hsuffix⟩
      · by_cases ht : t.head? = some '\n'
        · obtain ⟨u, rfl⟩ := List.head?_eq_some_iff.1 ht
          exact (ih hmode h).imp_right fun hstuck => ⟨hstuck.1, hstuck.2.of_suffix hsuffix⟩
        · exact .inr ⟨skipNewlines_at_return hmode ht, t, List.suffix_refl _, ht, skipGap_suffix h⟩
      · exact behind (skipNewlines_at_line hmode) hsuffix (ih .afterNewline h)
  | case3 c t hg hc rest hk _ ih =>
      have hskip : skipSpaces (c :: t) = c :: t := List.dropWhile_cons_of_neg fun hs => hg (isGapChar_of_isSpace hs)
      have hcomment : (Cursor.at mode last (source (c :: t))).skipNewlines.Same (settled (source rest)) :=
        skipNewlines_at_comment hmode (by rwa [hskip]) (by rwa [hskip])
      exact behind hcomment (skipComment_suffix hk) (ih .afterNewline h)
  | case4 => cases h
  | case5 c t hg hc =>
      obtain rfl := Except.ok.inj h
      refine .inl ?_
      rcases hr with hr | hr
      · rcases endsBody_iff.1 hr with hr | ⟨u, hr⟩
        · cases hr
        · obtain ⟨rfl, rfl⟩ := List.cons.inj hr
          exact skipNewlines_at_brace hmode
      · exact skipNewlines_at_name hmode hr

/-- The end of a line is a line end, unless a brace is behind it. -/
theorem skipNewlines_at_tail (hmode : mode.IsFresh) (h : skipLineTail s = .ok r) :
    (Cursor.at mode last (source s)).skipNewlines.Same (settled (source r)) := by
  rw [← Cursor.at_source_skipSpaces hmode]
  fun_induction skipLineTail s generalizing mode last with
  | case1 s hs =>
      obtain rfl := Except.ok.inj h
      rw [hs]
      exact skipNewlines_at_end hmode
  | case2 s t hs =>
      obtain rfl := Except.ok.inj h
      rw [hs]
      exact skipNewlines_at_line hmode
  | case3 s c t hs hn hc =>
      obtain rfl := Except.ok.inj h
      obtain ⟨rfl, ht⟩ := hc
      obtain ⟨u, rfl⟩ := List.head?_eq_some_iff.1 ht
      rw [hs]
      exact skipNewlines_at_line hmode
  | case4 s t hs =>
      obtain rfl := Except.ok.inj h
      rw [hs]
      exact skipNewlines_at_brace hmode
  | case5 s c t hs hn hr hbr hc rest hk _ _ ih =>
      rw [Cursor.at_source_skipSpaces hmode]
      refine (skipNewlines_at_comment hmode (hs ▸ hc) (hs ▸ hk)).trans ?_
      have hrest : (Cursor.at .afterNewline [] (source (skipSpaces rest))).skipNewlines.Same (settled (source r)) :=
        ih .afterNewline h
      rwa [Cursor.at_source_skipSpaces .afterNewline] at hrest
  | case6 => cases h
  | case7 => cases h

end

end JujuMigration.Strict
