import JujuMigration.Proofs.Strict.Agreement
import JujuMigration.Proofs.Strict.Whole
/-! Where an operand has ended. At the end of a line of the tree, and behind a heredoc at the next item, the strict
grammar comes upon no word that goes on with the operand, and it goes over the line ends there to what the tree has
next. -/

namespace JujuMigration.Strict

open Source Text

/-- The cursor stands where an operand has ended, in front of what `rest` goes on with. -/
structure Cursor.Closes (c : Cursor) (rest : Text) : Prop where
  quiet : ∀ {word}, c.word = some word → word.isQuiet = true
  settles : c.skipNewlines.Same (settled (source rest))

section

variable {mode : Mode} {last s rest behind r x : Text} {c c' : Cursor} {d : Char}

/-! ### Line ends, braces and names -/

theorem wordAt_of_newline (hmode : mode ≠ .inString) (h : newline? (d :: r) = some x) :
    wordAt mode d r = some (.newline, x) := by
  have hd : d ≠ '<' := by
    rintro rfl
    simpa using newline?_cases h
  cases mode with
  | inString => exact absurd rfl hmode
  | start => exact wordAt_newline .start h
  | afterNewline => exact wordAt_newline .afterNewline h
  | operand | afterEllipsis => simp [wordAt, h]

theorem wordAt_closingBrace (hmode : mode ≠ .inString) (r : Text) : wordAt mode '}' r = some (.rightBrace, r) := by
  cases mode with
  | inString => exact absurd rfl hmode
  | operand f =>
      obtain ⟨_, colons, exponent, ellipsis⟩ := f
      cases colons <;> cases exponent <;> cases ellipsis <;> rfl
  | start | afterNewline | afterEllipsis => rfl

/-- The cursor where the next character is no equals sign. -/
theorem at_next (hmode : mode ≠ .inString) {word : Lexeme} (hs : skipSpaces s = d :: r) (hd : d ≠ '=')
    (hw : wordAt mode d r = some (word, x)) : Cursor.at mode last s = ⟨some word, d :: r, x, last⟩ :=
  Cursor.at_of_word hmode (by rw [equals?_eq_none hs hd, ite_self]) hs hw

theorem closes_newline (hmode : mode ≠ .inString) (h : newline? (skipSpaces (source rest)) = some x) :
    (Cursor.at mode last (source rest)).Closes rest := by
  obtain ⟨d, r, hs⟩ : ∃ d r, skipSpaces (source rest) = d :: r := by
    cases hs : skipSpaces (source rest) with
    | nil => simp [hs, newline?] at h
    | cons d r => exact ⟨d, r, rfl⟩
  have hd : d ≠ '=' := by
    rintro rfl
    rw [hs] at h
    simpa using newline?_cases h
  have hat : Cursor.at mode last (source rest) = ⟨some .newline, d :: r, x, last⟩ :=
    at_next hmode hs hd (wordAt_of_newline hmode (hs ▸ h))
  refine ⟨fun hw => ?_, ?_⟩
  · rw [hat] at hw
    rw [← Option.some.inj hw]
    rfl
  · have hshrinks : (Cursor.at mode last (source rest)).Shrinks := fun hw => Cursor.at_consumes mode last _ _ hw
    rw [Cursor.skipNewlines_of_newline hshrinks (by rw [hat]), hat]
    exact (Cursor.at_same .afterNewline _ _ x).skipNewlines.trans (settled_newline h).symm

theorem closes_brace (hmode : mode ≠ .inString) (h : skipSpaces (source rest) = '}' :: r) :
    (Cursor.at mode last (source rest)).Closes rest := by
  have hat : Cursor.at mode last (source rest) = ⟨some .rightBrace, '}' :: r, r, last⟩ :=
    at_next hmode h (by decide) (wordAt_closingBrace hmode r)
  refine ⟨fun hw => ?_, ?_⟩
  · rw [hat] at hw
    rw [← Option.some.inj hw]
    rfl
  · rw [hat, Cursor.skipNewlines_of_word (by simp), ← settled_skipSpaces, h, settled, Cursor.at_brace .afterNewline,
      Cursor.skipNewlines_of_word (by simp)]
    exact ⟨rfl, rfl, rfl⟩

/-! ### The end of a line -/

/-- A line of the tree ends with a line end, a comment or a brace. -/
theorem tail_cases (h : skipLineTail rest = .ok behind) :
    (∃ x, newline? (skipSpaces (source rest)) = some x) ∨ ∃ r, skipSpaces (source rest) = '}' :: r := by
  have hskip := skipSpaces_source rest
  rw [skipLineTail.eq_def] at h
  rw [hskip]
  split at h
  · next hs => exact .inl ⟨[], by rw [hs]; rfl⟩
  · next d r hs =>
      rw [hs]
      split at h
      · next hd => exact .inl ⟨skipSpaces (source r), by rw [hd]; rfl⟩
      · split at h
        · next hd =>
            obtain ⟨t, ht⟩ := List.head?_eq_some_iff.1 hd.2
            exact .inl ⟨skipSpaces (source t), by rw [hd.1, ht]; rfl⟩
        · split at h
          · next hd => exact .inr ⟨source r, by rw [hd, source_cons_of_ne (by decide)]⟩
          · split at h
            · next hc =>
                split at h
                · next hk =>
                    obtain ⟨x, hx, -⟩ := newline?_comment hc hk
                    exact .inl ⟨x, hx⟩
                · cases h
            · cases h

/-- Where a line of the tree ends, an operand has ended. -/
theorem closes_tail (hmode : mode ≠ .inString) (h : skipLineTail rest = .ok behind) :
    (Cursor.at mode last (source rest)).Closes rest := by
  rcases tail_cases h with ⟨x, hx⟩ | ⟨r, hr⟩
  · exact closes_newline hmode hx
  · exact closes_brace hmode hr

theorem standsApart_tail (h : skipLineTail rest = .ok behind) : StandsApart (source rest) := by
  obtain ⟨d, q, hs⟩ : ∃ d q, source rest = d :: q := List.exists_cons_of_ne_nil (by simp [source])
  refine ⟨d, q, hs, ?_⟩
  by_cases hd : isSpace d = true
  · rcases (by simpa [isSpace] using hd : d = ' ' ∨ d = '\t') with rfl | rfl <;> decide
  · have hself : skipSpaces (source rest) = d :: q := by
      rw [hs]
      exact skipSpaces_self (by simpa using hd)
    have hcases := tail_cases h
    rw [hself] at hcases
    rcases hcases with ⟨x, hx⟩ | ⟨r, hr⟩
    · rcases newline?_cases hx with rfl | rfl | rfl <;> decide
    · rw [(List.cons.inj hr).1]
      decide

/-! ### Behind the end of a line -/

/-- What is behind the blanks of a gap that leads to an item or an end: a line end or a comment, a carriage return that
ends no line, the item or the brace. -/
theorem gap_cases (h : skipGap s = .ok r) (hr : endsBody r = true ∨ opensIdentifier r = true) :
    (∃ x, newline? (skipSpaces (source s)) = some x) ∨ (∃ x, skipSpaces (source s) = '\r' :: x) ∨
      (∃ x, skipSpaces (source s) = '}' :: x) ∨ ∃ name x, readIdentifier (skipSpaces (source s)) = .ok (name, x) := by
  induction s with
  | nil => exact .inl ⟨[], rfl⟩
  | cons c t ih =>
      by_cases hspace : isSpace c = true
      · have hne : c ≠ '\r' := by
          rintro rfl
          cases hspace
        rw [skipGap_cons (isGapChar_of_isSpace hspace)] at h
        rw [source_cons_of_ne hne, skipSpaces, List.dropWhile_cons_of_pos hspace]
        exact ih h
      · have hself : skipSpaces (source (c :: t)) = source (c :: t) := by
          rw [skipSpaces_source, skipSpaces_self (by simpa using hspace)]
        rw [hself]
        by_cases hgap : isGapChar c = true
        · rcases isGapChar_cases hgap with hc | rfl | rfl
          · exact absurd hc hspace
          · by_cases ht : t.head? = some '\n'
            · obtain ⟨u, rfl⟩ := List.head?_eq_some_iff.1 ht
              exact .inl ⟨skipSpaces (source u), rfl⟩
            · exact .inr (.inl ⟨source t, source_cons fun _ => ht⟩)
          · exact .inl ⟨skipSpaces (source t), rfl⟩
        · rw [skipGap_eq, if_neg hgap] at h
          by_cases hcomment : opensComment (c :: t) = true
          · rw [if_pos hcomment] at h
            cases hk : skipComment (c :: t) with
            | error f =>
                rw [hk] at h
                cases h
            | ok u =>
                obtain ⟨x, hx, -⟩ := newline?_comment hcomment hk
                exact .inl ⟨x, hx⟩
          · rw [if_neg hcomment] at h
            obtain rfl := Except.ok.inj h
            rcases hr with hr | hr
            · rcases endsBody_iff.1 hr with hr | ⟨u, hr⟩
              · cases hr
              · obtain ⟨rfl, rfl⟩ := List.cons.inj hr
                exact .inr (.inr (.inl ⟨source t, source_cons_of_ne (by decide) t⟩))
            · obtain ⟨name, x, hread⟩ := exists_readIdentifier hr
              exact .inr (.inr (.inr ⟨name, source x, readIdentifier_source hread⟩))

/-- Behind a heredoc, which takes its line end along, an operand has ended too. -/
theorem closes_gap (h : skipGap s = .ok r) (hr : endsBody r = true ∨ opensIdentifier r = true) :
    (Cursor.at .afterOperand last (source s)).Closes s := by
  have hmode : Mode.afterOperand ≠ .inString := by simp [Mode.afterOperand]
  rcases gap_cases h hr with ⟨x, hx⟩ | ⟨x, hx⟩ | ⟨x, hx⟩ | ⟨name, x, hx⟩
  · exact closes_newline hmode hx
  · have hat : Cursor.at .afterOperand last (source s) = ⟨none, '\r' :: x, '\r' :: x, last⟩ :=
      Cursor.at_of_none hmode rfl hx rfl
    have hsettled : settled (source s) = ⟨none, '\r' :: x, '\r' :: x, []⟩ := by
      rw [settled, Cursor.at_of_none (by simp) rfl hx rfl, Cursor.skipNewlines_of_word (by simp)]
    rw [hat]
    refine ⟨fun hword => absurd hword (by simp), ?_⟩
    rw [Cursor.skipNewlines_of_word (by simp), hsettled]
    exact ⟨rfl, rfl, rfl⟩
  · exact closes_brace hmode hx
  · obtain ⟨d, q, hs, -, -, -⟩ := isIdentStart_cases (opensIdentifier_of_readIdentifier hx)
    have hequals : d ≠ '=' := by
      rintro rfl
      rw [hs] at hx
      cases opensIdentifier_of_readIdentifier hx
    have hw : wordAt .afterOperand d q = some (.name name, x) := by
      rw [hs] at hx
      simp [wordAt, Mode.afterOperand, newline?_of_opensIdentifier (opensIdentifier_of_readIdentifier hx), name?, hx,
        Except.toOption]
    have hsettled : settled (source s) = ⟨some (.name name), d :: q, x, []⟩ := by
      rw [← settled_skipSpaces, settled, Cursor.at_name .afterNewline hx, Cursor.skipNewlines_of_word (by simp), hs]
    have hat : Cursor.at .afterOperand last (source s) = ⟨some (.name name), d :: q, x, last⟩ :=
      at_next hmode hs hequals hw
    rw [hat]
    refine ⟨fun hword => ?_, ?_⟩
    · rw [← Option.some.inj hword]
      rfl
    · rw [Cursor.skipNewlines_of_word (by simp), hsettled]
      exact ⟨rfl, rfl, rfl⟩

theorem quiet_settled (h : skipGap s = .ok r) (hr : endsBody r = true ∨ opensIdentifier r = true) {word : Lexeme}
    (hw : (settled (source s)).word = some word) : word.isQuiet = true := by
  have hbehind : (settled (source s)).Same (settled (source r)) ∨ (settled (source s)).IsStuck ∧ Halts s r :=
    skipNewlines_at_gap .afterNewline h hr
  rcases hbehind with hsame | ⟨hstuck, -⟩
  · have hword := hsame.word.symm.trans hw
    rcases hr with hr | hr
    · rcases endsBody_iff.1 hr with rfl | ⟨u, rfl⟩
      · cases settled_end.1.symm.trans hword
      · rw [settled_brace] at hword
        rw [← Option.some.inj hword]
        rfl
    · obtain ⟨name, x, hread⟩ := exists_readIdentifier hr
      rw [settled_name hread] at hword
      rw [← Option.some.inj hword]
      rfl
  · cases hstuck.1.symm.trans hw

/-- An expression can stop at the end of its line. -/
theorem stops_tail (htail : skipLineTail rest = .ok behind) (hgap : skipGap behind = .ok r)
    (hr : endsBody r = true ∨ opensIdentifier r = true) : Stops (source rest) where
  apart := standsApart_tail htail
  quiet _ _ hmode hw := (closes_tail hmode htail).quiet hw
  settles _ hmode := (closes_tail hmode htail).settles
  behind hw := by
    have hbehind : (settled (source rest)).Same (settled (source behind)) := skipNewlines_at_tail .afterNewline htail
    exact quiet_settled hgap hr (hbehind.word.symm.trans hw)

end

end JujuMigration.Strict
