import JujuMigration.Proofs.Source.TemplateGrammar
import JujuMigration.Proofs.Text.LineEnds
/-! Escapes in labels. The two replacements of a label, one behind the other, do what a single pass does that takes
every escape where it begins. Of a run of backslashes in front of a quote the first replacement drops the last one; if
that was the second half of a pair, the first half is left by itself, and stays as what the pair stands for. So a text
whose quotes and backslashes are escaped is read back from between quotes, if it ends no line and opens no hole. -/

namespace JujuMigration.Source

open Text

/-- Decodes from left to right: of an escaped quote and of a doubled backslash the first backslash goes, and any other
character stays. -/
def decodeEscapes : Text → Text
  | '\\' :: '"' :: r => '"' :: decodeEscapes r
  | '\\' :: '\\' :: r => '\\' :: decodeEscapes r
  | c :: r => c :: decodeEscapes r
  | [] => []

/-- Writes a backslash in front of every quote and every backslash. -/
def encodeEscapes (s : Text) : Text := s.flatMap fun c => if c = '"' ∨ c = '\\' then ['\\', c] else [c]

/-- The label as it is written between quotes. -/
def writeLabel (s : Text) : Text := '"' :: (encodeEscapes s ++ ['"'])

variable {c d : Char} {r s t label : Text}

/-! ### One pass -/

theorem decodeEscapes_of_ne (h : c ≠ '\\') (r : Text) : decodeEscapes (c :: r) = c :: decodeEscapes r := by
  rw [decodeEscapes]
  · exact fun _ hc _ => h hc
  · exact fun _ hc _ => h hc

/-- A character that does not begin what is replaced, with the one behind it, stays. -/
theorem replaceAll_pair_cons {new : Text} {a b : Char} (h : c = a → r.head? ≠ some b) :
    replaceAll [a, b] new (c :: r) = c :: replaceAll [a, b] new r := by
  refine replaceAll_cons (Bool.eq_false_iff.2 fun hfound => ?_) new
  obtain ⟨q, hq⟩ := List.isPrefixOf_iff_prefix.1 hfound
  obtain ⟨rfl, rfl⟩ := List.cons.inj hq
  exact h rfl rfl

/-- A text that begins with no backslash begins as before when its escaped quotes have been replaced. -/
theorem head?_replaceAll_quotes (h : r.head? ≠ some '\\') : (replaceAll ['\\', '"'] ['"'] r).head? = r.head? := by
  cases r with
  | nil => rfl
  | cons c r =>
      have hc : c ≠ '\\' := fun hc => h (congrArg some hc)
      rw [replaceAll_pair_cons fun hslash => absurd hslash hc]
      rfl

/-- An escaped quote is replaced where it stands. -/
theorem replaceAll_quotes (r : Text) :
    replaceAll ['\\', '"'] ['"'] ('\\' :: '"' :: r) = '"' :: replaceAll ['\\', '"'] ['"'] r :=
  replaceAll_append (List.cons_ne_nil '\\' ['"']) ['"'] r

theorem unescapeLabel_quote (r : Text) : unescapeLabel ('\\' :: '"' :: r) = '"' :: unescapeLabel r := by
  rw [unescapeLabel, replaceAll_quotes, replaceAll_pair_cons (by simp), unescapeLabel]

theorem unescapeLabel_slash (r : Text) : unescapeLabel ('\\' :: '\\' :: r) = '\\' :: unescapeLabel r := by
  have hstays (r : Text) : replaceAll ['\\', '"'] ['"'] ('\\' :: '\\' :: r) =
      '\\' :: replaceAll ['\\', '"'] ['"'] ('\\' :: r) := replaceAll_pair_cons (by simp)
  by_cases hr : r.head? = some '"'
  · -- The first replacement takes the second backslash for the quote's, which leaves the first one by itself.
    obtain ⟨q, rfl⟩ := List.head?_eq_some_iff.1 hr
    have hquote : replaceAll ['\\', '"'] ['"'] ('"' :: q) = '"' :: replaceAll ['\\', '"'] ['"'] q :=
      replaceAll_pair_cons (by simp)
    calc unescapeLabel ('\\' :: '\\' :: '"' :: q)
      _ = replaceAll ['\\', '\\'] ['\\'] ('\\' :: '"' :: replaceAll ['\\', '"'] ['"'] q) := by
          rw [unescapeLabel, hstays, replaceAll_quotes]
      _ = '\\' :: replaceAll ['\\', '\\'] ['\\'] ('"' :: replaceAll ['\\', '"'] ['"'] q) :=
          replaceAll_pair_cons (by simp)
      _ = '\\' :: unescapeLabel ('"' :: q) := by rw [unescapeLabel, hquote]
  · calc unescapeLabel ('\\' :: '\\' :: r)
      _ = replaceAll ['\\', '\\'] ['\\'] ('\\' :: '\\' :: replaceAll ['\\', '"'] ['"'] r) := by
          rw [unescapeLabel, hstays, replaceAll_pair_cons fun _ => hr]
      _ = '\\' :: unescapeLabel r := replaceAll_append (List.cons_ne_nil '\\' ['\\']) ['\\'] _

theorem unescapeLabel_cons (hquote : c = '\\' → r.head? ≠ some '"') (hslash : c = '\\' → r.head? ≠ some '\\') :
    unescapeLabel (c :: r) = c :: unescapeLabel r := by
  have hbehind (hc : c = '\\') : (replaceAll ['\\', '"'] ['"'] r).head? ≠ some '\\' := by
    rw [head?_replaceAll_quotes (hslash hc)]
    exact hslash hc
  rw [unescapeLabel, replaceAll_pair_cons hquote, replaceAll_pair_cons hbehind, unescapeLabel]

/-- The two replacements meet the equations of the single pass. -/
theorem unescapeLabel_eq_decodeEscapes (raw : Text) : unescapeLabel raw = decodeEscapes raw := by
  fun_induction decodeEscapes raw with
  | case1 r ih => rw [unescapeLabel_quote, ih]
  | case2 r ih => rw [unescapeLabel_slash, ih]
  | case3 c r hquote hslash ih =>
      rw [unescapeLabel_cons, ih]
      · rintro rfl hhead
        obtain ⟨q, rfl⟩ := List.head?_eq_some_iff.1 hhead
        exact hquote q rfl rfl
      · rintro rfl hhead
        obtain ⟨q, rfl⟩ := List.head?_eq_some_iff.1 hhead
        exact hslash q rfl rfl
  | case4 => rfl

/-! ### Writing and reading back -/

theorem encodeEscapes_cons (c : Char) (s : Text) :
    encodeEscapes (c :: s) = (if c = '"' ∨ c = '\\' then ['\\', c] else [c]) ++ encodeEscapes s := List.flatMap_cons

theorem decodeEscapes_encodeEscapes (s : Text) : decodeEscapes (encodeEscapes s) = s := by
  induction s with
  | nil => rfl
  | cons c s ih =>
      rw [encodeEscapes_cons]
      split
      · next hc =>
          rcases hc with rfl | rfl
          · exact congrArg ('"' :: ·) ih
          · exact congrArg ('\\' :: ·) ih
      · next hc =>
          obtain ⟨-, hslash⟩ := not_or.1 hc
          rw [List.singleton_append, decodeEscapes_of_ne hslash, ih]

/-- What is escaped begins with a backslash, so any other beginning is that of the text. -/
theorem eq_cons_of_encodeEscapes (hd : d ≠ '\\') (h : encodeEscapes s = d :: r) :
    ∃ s', s = d :: s' ∧ r = encodeEscapes s' := by
  cases s with
  | nil => cases h
  | cons c s =>
      rw [encodeEscapes_cons] at h
      split at h
      · exact absurd (List.cons.inj h).1.symm hd
      · obtain ⟨rfl, hr⟩ := List.cons.inj h
        exact ⟨s, rfl, hr.symm⟩

/-- The text has a sign in front of a brace, which opens a hole or keeps one from being opened. -/
def OpensHole (s : Text) : Prop := ∃ c, IsSign c ∧ [c, '{'] <:+: s

theorem OpensHole.cons (h : OpensHole s) (c : Char) : OpensHole (c :: s) := by
  obtain ⟨d, hd, hinfix⟩ := h
  exact ⟨d, hd, List.infix_cons hinfix⟩

/-- Escaping brings no sign and no brace together. -/
theorem opensHole_of_signsBrace (hc : c ≠ '\\') (h : SignsBrace (c :: encodeEscapes s)) : OpensHole (c :: s) := by
  obtain ⟨d, r, hd, h | h⟩ := h
  · obtain ⟨rfl, hbrace⟩ := List.cons.inj h
    obtain ⟨s', rfl, -⟩ := eq_cons_of_encodeEscapes (by decide) hbrace
    exact ⟨c, hd, List.IsPrefix.isInfix ⟨s', rfl⟩⟩
  · obtain ⟨rfl, hdoubled⟩ := List.cons.inj h
    obtain ⟨s', rfl, hbrace⟩ := eq_cons_of_encodeEscapes hc hdoubled
    obtain ⟨s'', rfl, -⟩ := eq_cons_of_encodeEscapes (by decide) hbrace.symm
    exact OpensHole.cons ⟨c, hd, List.IsPrefix.isInfix ⟨s'', rfl⟩⟩ c

/-- A text on one line that opens no hole makes parts of a template when it is escaped. -/
theorem parts_encodeEscapes (hline : '\n' ∉ s) (hhole : ¬OpensHole s) : Parts .quotes (encodeEscapes s) := by
  induction s with
  | nil => exact .nil
  | cons c s ih =>
      obtain ⟨hc, hline⟩ := List.ne_and_not_mem_of_not_mem_cons hline
      have hparts : Parts .quotes (encodeEscapes s) := ih hline fun h => hhole (h.cons c)
      rw [encodeEscapes_cons]
      split
      · exact .escape c hparts
      · next hplain =>
          obtain ⟨hquote, hslash⟩ := not_or.1 hplain
          exact .plain hslash hquote (Ne.symm hc) (fun h => hhole (opensHole_of_signsBrace hslash h)) hparts

/-! ### Labels -/

/-- A quoted label is what its escapes decode to, and what is between its quotes are the parts of a template. -/
theorem readLabel_quote : readLabel ('"' :: t) = .ok (label, r) ↔
    ∃ raw, t = raw ++ '"' :: r ∧ Parts .quotes raw ∧ label = decodeEscapes raw := by
  have hraw (raw r : Text) : unescapeLabel (before r (raw ++ '"' :: r)).dropLast = decodeEscapes raw := by
    rw [dropLast_before, unescapeLabel_eq_decodeEscapes]
  constructor
  · intro h
    cases hscan : scanString ('"' :: t) with
    | error f =>
        rw [readLabel, hscan] at h
        cases h
    | ok rest =>
        rw [readLabel, hscan] at h
        obtain ⟨hlabel, rfl⟩ := Prod.mk.inj (Except.ok.inj h)
        obtain ⟨w, hsplit, raw, rfl, hparts⟩ := (scanString_eq_ok rfl).1 hscan
        obtain rfl : t = raw ++ '"' :: rest := by simpa using hsplit
        exact ⟨raw, rfl, hparts, by rw [← hlabel, hraw]⟩
  · rintro ⟨raw, rfl, hparts, rfl⟩
    have hscan : scanString ('"' :: (raw ++ '"' :: r)) = .ok r :=
      (scanString_eq_ok rfl).2 ⟨'"' :: (raw ++ ['"']), by simp, raw, rfl, hparts⟩
    rw [readLabel, hscan, ← hraw raw r]
    rfl

theorem readLabel_writeLabel (hline : '\n' ∉ s) (hhole : ¬OpensHole s) (back : Text) :
    readLabel (writeLabel s ++ back) = .ok (s, back) := by
  have hwritten : writeLabel s ++ back = '"' :: (encodeEscapes s ++ '"' :: back) := by simp [writeLabel]
  rw [hwritten, readLabel_quote]
  exact ⟨encodeEscapes s, rfl, parts_encodeEscapes hline hhole, (decodeEscapes_encodeEscapes s).symm⟩

/-- The replacements in a label decode its escapes in one pass. So the label of a quoted text is what the parts between
the quotes decode to, and a text that ends no line and has no sign in front of a brace is read from where it is written
as a label, up to behind the closing quote. -/
theorem labels_decode :
    (∀ raw, unescapeLabel raw = decodeEscapes raw) ∧
      (∀ t label r, readLabel ('"' :: t) = .ok (label, r) ↔
        ∃ raw, t = raw ++ '"' :: r ∧ Parts .quotes raw ∧ label = decodeEscapes raw) ∧
      (∀ s front back, '\n' ∉ s → ¬['$', '{'] <:+: s → ¬['%', '{'] <:+: s →
        readAt readLabel (front ++ (writeLabel s ++ back)) front.length =
          .ok (s, front.length + (writeLabel s).length)) := by
  refine ⟨unescapeLabel_eq_decodeEscapes, fun t label r => readLabel_quote,
    fun s front back hline hdollar hpercent => ?_⟩
  have hhole : ¬OpensHole s := by
    rintro ⟨c, rfl | rfl, hinfix⟩
    · exact hdollar hinfix
    · exact hpercent hinfix
  have hlength : (writeLabel s ++ back).length - back.length = (writeLabel s).length := by
    rw [List.length_append, Nat.add_sub_cancel]
  rw [readAt, List.drop_left, readLabel_writeLabel hline hhole, Except.map, offsetAfter, List.drop_left, hlength]

/-- Backslashes in front of a quote and at the end, braces, and signs that stand in front of none. -/
def slashedLabel : Text := "\\\\\"a\x7b\x7d$\"%$$\\".toList

theorem labels_decode_slashed :
    '\n' ∉ slashedLabel ∧ ¬['$', '{'] <:+: slashedLabel ∧ ¬['%', '{'] <:+: slashedLabel ∧
      readAt readLabel ("x ".toList ++ (writeLabel slashedLabel ++ " \x7b".toList)) 2 = .ok (slashedLabel, 21) := by
  have hline : '\n' ∉ slashedLabel := by decide +kernel
  have hdollar : ¬['$', '{'] <:+: slashedLabel := by decide +kernel
  have hpercent : ¬['%', '{'] <:+: slashedLabel := by decide +kernel
  have hlength : 2 + (writeLabel slashedLabel).length = 21 := by decide +kernel
  obtain ⟨-, -, hread⟩ := labels_decode
  refine ⟨hline, hdollar, hpercent, ?_⟩
  rw [← hlength]
  exact hread slashedLabel "x ".toList " \x7b".toList hline hdollar hpercent

end JujuMigration.Source
