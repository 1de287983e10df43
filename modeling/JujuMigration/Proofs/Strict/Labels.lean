import JujuMigration.Proofs.Source.Escape
import JujuMigration.Proofs.Source.Multiline
import JujuMigration.Proofs.Strict.Trivia
import JujuMigration.Strict.BlockIndex
/-! Labels of blocks in both readings. The tree drops the backslash in front of a quote and of a backslash, while the
index drops the quotes of a label and then its escapes. A label that is written with neither, and opens no hole, is
the same text for both. -/

namespace JujuMigration

open Source Text

/-- The text is written the same with and without quotes: it has no quote, no escape and no hole. -/
def IsVerbatim (t : Text) : Prop := ∀ c ∈ t, c ≠ '"' ∧ c ≠ '\\' ∧ c ≠ '{'

instance (t : Text) : Decidable (IsVerbatim t) := List.decidableBAll (fun c => c ≠ '"' ∧ c ≠ '\\' ∧ c ≠ '{') t

theorem IsIdentifier.isVerbatim {t : Text} (h : IsIdentifier t) : IsVerbatim t := fun c hc => by
  have hchar := h.2 c hc
  refine ⟨?_, ?_, ?_⟩ <;> rintro rfl <;> exact absurd hchar (by decide)

namespace Text

variable {old new s : Text}

theorem isPrefixOf_eq_false {c : Char} {p : Text} (h : c ∉ s) : (c :: p).isPrefixOf s = false := by
  cases s with
  | nil => rfl
  | cons d s =>
      have hne : c ≠ d := fun he => h (he ▸ List.mem_cons_self)
      simp [List.isPrefixOf, hne]

/-- Nothing is replaced where the first character does not occur. -/
theorem replaceAll_of_not_mem {c : Char} {p : Text} (h : c ∉ s) : replaceAll (c :: p) new s = s := by
  induction s with
  | nil => rfl
  | cons d s ih => rw [replaceAll_cons (isPrefixOf_eq_false h), ih fun hs => h (List.mem_cons_of_mem d hs)]

/-- A character of the kind that every replacement holds is there after replacing if it was before. -/
theorem exists_mem_replaceAll {q : Char → Prop} (hold : old ≠ []) (hnew : ∃ c ∈ new, q c) (h : ∃ c ∈ s, q c) :
    ∃ c ∈ replaceAll old new s, q c := by
  induction s with
  | nil => simp at h
  | cons d s ih =>
      by_cases hfound : old.isPrefixOf (d :: s) = true
      · obtain ⟨t, ht⟩ := List.isPrefixOf_iff_prefix.1 hfound
        obtain ⟨c, hc, hq⟩ := hnew
        rw [← ht, replaceAll_append hold]
        exact ⟨c, List.mem_append_left _ hc, hq⟩
      · rw [replaceAll_cons (Bool.eq_false_iff.2 hfound)]
        rcases (by simpa using h : q d ∨ ∃ c ∈ s, q c) with hd | hs
        · exact ⟨d, List.mem_cons_self, hd⟩
        · obtain ⟨c, hc, hq⟩ := ih hs
          exact ⟨c, List.mem_cons_of_mem d hc, hq⟩

theorem withoutReturns_of_not_mem (h : '\n' ∉ s) : withoutReturns s = s := by
  induction s with
  | nil => rfl
  | cons c s ih =>
      rw [withoutReturns_cons, ih fun hs => h (List.mem_cons_of_mem c hs)]
      exact fun _ hs => h (List.mem_cons_of_mem c (List.mem_of_head? hs))

end Text

/-! ### Labels of the tree -/

section

variable {s raw label rest : Text}

/-- Whatever is escaped in a label leaves a quote or a backslash. -/
theorem unescapeLabel_of_isVerbatim (h : IsVerbatim (unescapeLabel raw)) : unescapeLabel raw = raw := by
  have hnone : ¬∃ c ∈ raw, c = '"' ∨ c = '\\' := by
    intro hraw
    have hquotes : ∃ c ∈ replaceAll ['\\', '"'] ['"'] raw, c = '"' ∨ c = '\\' :=
      exists_mem_replaceAll (by simp) (by simp) hraw
    obtain ⟨c, hc, hq⟩ : ∃ c ∈ unescapeLabel raw, c = '"' ∨ c = '\\' :=
      exists_mem_replaceAll (by simp) (by simp) hquotes
    rcases hq with rfl | rfl
    · exact (h _ hc).1 rfl
    · exact (h _ hc).2.1 rfl
  have hraw : '\\' ∉ raw := fun hc => hnone ⟨_, hc, .inr rfl⟩
  rw [unescapeLabel, replaceAll_of_not_mem hraw, replaceAll_of_not_mem hraw]

/-- A verbatim text that makes parts of a template has no line end. -/
theorem newline_not_mem_of_parts {k : Enclosure} (h : Parts k raw) (hk : k = .quotes) (hverbatim : IsVerbatim raw) :
    '\n' ∉ raw := by
  induction h with
  | nil => exact List.not_mem_nil
  | escape c _ => exact absurd rfl (hverbatim '\\' List.mem_cons_self).2.1
  | doubled hc _ => exact absurd rfl (hverbatim '{' (by simp)).2.2
  | hole hc _ _ => exact absurd rfl (hverbatim '{' (by simp)).2.2
  | plain _ _ hline _ _ ih =>
      obtain ⟨-, hverbatim⟩ := List.forall_mem_cons.1 hverbatim
      exact List.not_mem_cons_of_ne_of_not_mem (Ne.symm hline) (ih hk hverbatim)
  | template | group | other => cases hk

/-- A verbatim label stands as it is between its quotes, on one line. -/
theorem readLabel_quoted (h : readLabel ('"' :: s) = .ok (label, rest)) (hverbatim : IsVerbatim label) :
    s = label ++ '"' :: rest ∧ '\n' ∉ label := by
  obtain ⟨raw, rfl, hparts, rfl⟩ := readLabel_quote.1 h
  have hraw : decodeEscapes raw = raw := by
    rw [← unescapeLabel_eq_decodeEscapes] at hverbatim ⊢
    exact unescapeLabel_of_isVerbatim hverbatim
  rw [hraw] at hverbatim ⊢
  exact ⟨rfl, newline_not_mem_of_parts hparts rfl hverbatim⟩

end

namespace Strict

/-! ### Labels of the strict grammar -/

/-- The strict grammar's label, a name or a quoted text without holes, says this text. -/
inductive Says : Expr → Text → Prop
  | name {t : Text} (h : IsVerbatim t) : Says (.name t) t
  | empty : Says (.template []) []
  | quoted {t : Text} (h : IsVerbatim t) : Says (.template [.chars t]) t

theorem bare_of_isVerbatim {t : Text} (h : IsVerbatim t) : bare t = t := by
  rw [bare, unquoted?, if_neg]
  · rfl
  · exact fun hq => (h _ (List.mem_of_head? hq.1)).1 rfl

theorem unescape_of_isVerbatim {t : Text} (h : IsVerbatim t) : unescape t = t := by
  have hslash : '\\' ∉ t := fun hc => (h _ hc).2.1 rfl
  simp only [unescape, List.foldl_cons, List.foldl_nil, replaceAll_of_not_mem hslash]

theorem unquoted?_quoted (t : Text) : unquoted? ('"' :: (t ++ ['"'])) = some t := by
  rw [unquoted?, if_pos]
  · simp
  · simp [List.getLast?_cons]

theorem bare_quoted {t : Text} (h : IsVerbatim t) : bare ('"' :: (t ++ ['"'])) = t := by
  rw [bare, unquoted?_quoted, Option.map_some, Option.getD_some, unescape_of_isVerbatim h]

/-- A label has a value, and is shown as the text that it says. -/
theorem Says.value {e : Expr} {t : Text} (h : Says e t) :
    ∃ v, e.value = .ok v ∧ bare ((dottedName? e).getD v.display) = t := by
  cases h with
  | name h => exact ⟨_, by rw [Expr.value], bare_of_isVerbatim h⟩
  | empty => exact ⟨.text ['"', '"'], by simp [Expr.value, partTexts, bind, Except.bind], rfl⟩
  | quoted h =>
      refine ⟨.text ('"' :: (t ++ ['"'])), by simp [Expr.value, partTexts, bind, Except.bind], ?_⟩
      exact bare_quoted h

theorem labelTexts_eq {labels : List Expr} {texts : List Text} (h : List.Forall₂ Says labels texts) :
    labelTexts labels = .ok texts := by
  suffices ∃ vs, values labels = .ok vs ∧
      vs.zipWith (fun v e => bare ((dottedName? e).getD v.display)) labels = texts by
    obtain ⟨vs, hvs, htexts⟩ := this
    rw [labelTexts, hvs, ← htexts]
    rfl
  induction h with
  | nil => exact ⟨[], by rw [values], rfl⟩
  | cons h _ ih =>
      obtain ⟨v, hv, ht⟩ := h.value
      obtain ⟨vs, hvs, hts⟩ := ih
      refine ⟨v :: vs, ?_, ?_⟩
      · rw [values, hv, hvs]
        rfl
      · rw [List.zipWith_cons_cons, ht, hts]

/-! ### Reading the labels -/

section

variable {t r last : Text}

/-- Nothing opens a hole in a verbatim text in front of its closing quote. -/
theorem after?_verbatim {p : Text} (h : IsVerbatim t) (hbrace : '{' ∈ p) (hquote : '"' ∉ p) (r : Text) :
    after? p (t ++ '"' :: r) = none := by
  rw [after?, if_neg]
  intro hp
  have hr : t ++ ['"'] <+: t ++ '"' :: r := ⟨r, by simp⟩
  rcases List.prefix_or_prefix_of_prefix (List.isPrefixOf_iff_prefix.1 hp) hr with hp | hp
  · rcases (by simpa using hp.subset hbrace : '{' ∈ t) with ht
    exact (h _ ht).2.2 rfl
  · exact hquote (hp.subset (by simp))

theorem stringChars_cons {c : Char} {s : Text} (hc : c ≠ '"' ∧ c ≠ '\\')
    (hs : after? ['{'] s = none ∧ after? ['$', '{'] s = none) :
    stringChars (c :: s) = (c :: (stringChars s).1, (stringChars s).2) := by
  rw [stringChars.eq_def]
  split
  · next h => exact absurd (List.cons.inj h).1 hc.2
  · next h =>
      obtain ⟨rfl, rfl⟩ := List.cons.inj h
      rw [if_neg (not_or.2 hc), hs.1, hs.2, if_neg (by simp)]
  · next h => cases h

theorem stringChars_verbatim (h : IsVerbatim t) (r : Text) : stringChars (t ++ '"' :: r) = (t, '"' :: r) := by
  induction t with
  | nil => rfl
  | cons c t ih =>
      obtain ⟨⟨hquote, hslash, -⟩, ht⟩ := List.forall_mem_cons.1 h
      have hhole := after?_verbatim (p := ['{']) ht (by decide) (by decide) r
      have hsign := after?_verbatim (p := ['$', '{']) ht (by decide) (by decide) r
      rw [List.cons_append, stringChars_cons ⟨hquote, hslash⟩ ⟨hhole, hsign⟩, ih ht]

theorem wordInString_quote (r : Text) : wordInString ('"' :: r) = some (.quote, r) := rfl

theorem wordInString_verbatim (h : IsVerbatim t) (hne : t ≠ []) (r : Text) :
    wordInString (t ++ '"' :: r) = some (.chars t, '"' :: r) := by
  obtain ⟨c, u, rfl⟩ := List.exists_cons_of_ne_nil hne
  have hescaped : escapedHole? ((c :: u) ++ '"' :: r) = none := by
    rw [escapedHole?, after?_verbatim h (by decide) (by decide)]
  rw [wordInString, hescaped, stringChars_verbatim h]

theorem Cursor.at_inString {s rest : Text} {word : Lexeme} (h : wordInString s = some (word, rest)) :
    Cursor.at .inString last s = ⟨some word, s, rest, last⟩ := by
  simp only [Cursor.at, h]

theorem parseTemplate_quote (n : Nat) (done : List (Part Expr)) (last r : Text) :
    parseTemplate (n + 1) done (Cursor.at .inString last ('"' :: r)) =
      .ok (done, Cursor.at .afterQuote ('"' :: r) r) := by
  rw [parseTemplate, Cursor.at_inString (wordInString_quote r)]
  rfl

/-- The parts of a verbatim text in quotes. -/
def verbatimParts (t : Text) : List (Part Expr) := if t.isEmpty then [] else [.chars t]

theorem says_verbatimParts (h : IsVerbatim t) : Says (.template (verbatimParts t)) t := by
  unfold verbatimParts
  split
  · next ht =>
      obtain rfl := List.isEmpty_iff.1 ht
      exact .empty
  · exact .quoted h

/-- A verbatim text in quotes is read up to its closing quote. -/
theorem parseTemplate_verbatim (h : IsVerbatim t) (n : Nat) (last r : Text) :
    parseTemplate (n + 2) [] (Cursor.at .inString last (t ++ '"' :: r)) =
      .ok (verbatimParts t, Cursor.at .afterQuote ('"' :: r) r) := by
  by_cases hne : t = []
  · subst hne
    exact parseTemplate_quote (n + 1) [] last r
  · rw [parseTemplate, Cursor.at_inString (wordInString_verbatim h hne r), verbatimParts,
      List.isEmpty_eq_false_iff.2 hne]
    exact parseTemplate_quote n _ _ r

/-- Nothing else is read there, however low the bound is. -/
theorem parseTemplate_unique (h : IsVerbatim t) {n : Nat} {x : List (Part Expr) × Cursor}
    (hp : parseTemplate n [] (Cursor.at .inString last (t ++ '"' :: r)) = .ok x) :
    x = (verbatimParts t, Cursor.at .afterQuote ('"' :: r) r) := by
  rcases n with _ | _ | n
  · cases hp
  · by_cases hne : t = []
    · subst hne
      exact Except.ok.inj (hp.symm.trans (parseTemplate_quote 0 [] last r))
    · rw [parseTemplate, Cursor.at_inString (wordInString_verbatim h hne r)] at hp
      cases hp
  · exact Except.ok.inj (hp.symm.trans (parseTemplate_verbatim h n last r))

end

/-- What a label, or the kind in front of the labels, ends with. -/
inductive Mode.EndsLabel : Mode → Prop
  | name : EndsLabel .afterName
  | quote : EndsLabel .afterQuote

section

variable {mode : Mode} {last s rest : Text} {c : Char} {r : Text}

theorem wordAt_leftBrace (hmode : mode.EndsLabel) : wordAt mode '{' r = some (.leftBrace, r) := by
  cases hmode <;> rfl

theorem wordAt_quote (hmode : mode.EndsLabel) : wordAt mode '"' r = some (.quote, r) := by
  cases hmode <;> rfl

theorem wordAt_nextName (hmode : mode.EndsLabel) {name : Text} (h : readIdentifier (c :: r) = .ok (name, rest)) :
    wordAt mode c r = some (.name name, rest) := by
  have hname : name? (c :: r) = some (name, rest) := by rw [name?, h]; rfl
  have hnewline := newline?_of_opensIdentifier (opensIdentifier_of_readIdentifier h)
  cases hmode <;>
    simp only [Mode.afterName, Mode.afterQuote, wordAt, hnewline, hname] <;> rfl

theorem equals?_eq_none (hs : skipSpaces s = c :: r) (hc : c ≠ '=') : equals? s = none := by
  rw [equals?, hs]
  split
  · next h => exact absurd (List.cons.inj h).1 hc
  · rfl

theorem Cursor.at_label {word : Lexeme} (hmode : mode.EndsLabel) (hs : skipSpaces s = c :: r) (hc : c ≠ '=')
    (hw : wordAt mode c r = some (word, rest)) : Cursor.at mode last s = ⟨some word, c :: r, rest, last⟩ := by
  have hequals := equals?_eq_none hs hc
  cases hmode <;>
    simp only [Cursor.at, Mode.afterName, Mode.afterQuote, Mode.allowsEquals, if_true, hequals, hs] <;>
    simp only [Mode.afterName, Mode.afterQuote] at hw <;> rw [hw]

theorem Cursor.at_nextName {name : Text} (hmode : mode.EndsLabel)
    (h : readIdentifier (skipSpaces s) = .ok (name, rest)) :
    Cursor.at mode last s = ⟨some (.name name), skipSpaces s, rest, last⟩ := by
  have ho := opensIdentifier_of_readIdentifier h
  obtain ⟨c, r, hs, -⟩ := isIdentStart_cases ho
  rw [hs] at h ho ⊢
  have hc : c ≠ '=' := by
    rintro rfl
    cases ho
  exact at_label hmode hs hc (wordAt_nextName hmode h)

/-- Where the tree has a label the strict grammar comes upon its quote or its name. -/
theorem at_nextLabel {t label behind : Text} (ht : t.head? = some '"' ∨ opensIdentifier t = true)
    (hl : readLabel t = .ok (label, behind)) (hverbatim : IsVerbatim label) (hmode : mode.EndsLabel)
    (hs : skipSpaces s = t) (last : Text) :
    Cursor.at mode last (source s) = ⟨some .quote, source t, label ++ '"' :: source behind, last⟩ ∨
      IsIdentifier label ∧ Cursor.at mode last (source s) = ⟨some (.name label), source t, source behind, last⟩ := by
  have hskip : skipSpaces (source s) = source t := by rw [skipSpaces_source, hs]
  rcases ht with ht | ht
  · obtain ⟨u, rfl⟩ := List.head?_eq_some_iff.1 ht
    obtain ⟨rfl, hline⟩ := readLabel_quoted hl hverbatim
    have hu : source (label ++ '"' :: behind) = label ++ '"' :: source behind := by
      rw [source_append _ (by simp), withoutReturns_of_not_mem hline, source_cons_of_ne (by decide)]
    rw [source_cons_of_ne (by decide), hu] at hskip ⊢
    exact .inl (Cursor.at_label hmode hskip (by decide) (wordAt_quote hmode))
  · obtain ⟨name, x, hx⟩ := exists_readIdentifier ht
    have hquote : t.head? ≠ some '"' := fun hq => by
      obtain ⟨u, rfl⟩ := List.head?_eq_some_iff.1 hq
      cases ht
    rw [readLabel_of_ne hquote, hx] at hl
    obtain ⟨rfl, rfl⟩ := Prod.mk.inj (Except.ok.inj hl)
    have hsource : readIdentifier (skipSpaces (source s)) = .ok (name, source x) := hskip ▸ readIdentifier_source hx
    rw [Cursor.at_nextName hmode hsource, hskip]
    exact .inr ⟨isIdentifier_of_readIdentifier hx, rfl⟩

/-- One label, in front of what the strict grammar has read. -/
theorem parseLabels_label {whole t label behind : Text} (ht : t.head? = some '"' ∨ opensIdentifier t = true)
    (hl : readLabel t = .ok (label, behind)) (hverbatim : IsVerbatim label) (hmode : mode.EndsLabel)
    (hs : skipSpaces s = t)
    {n : Nat} {before all : List Expr} {c : Cursor}
    (hp : parseLabels whole (n + 1) before (Cursor.at mode last (source s)) = .ok (all, c)) :
    ∃ e mode last, Says e label ∧ mode.EndsLabel ∧
      parseLabels whole n (before ++ [e]) (Cursor.at mode last (source behind)) = .ok (all, c) := by
  rcases at_nextLabel ht hl hverbatim hmode hs last with hat | ⟨hname, hat⟩
  · rw [hat, parseLabels] at hp
    simp only [Cursor.advance, bind, Except.bind] at hp
    split at hp
    · cases hp
    · next x hx =>
        obtain rfl := parseTemplate_unique hverbatim hx
        exact ⟨_, _, _, says_verbatimParts hverbatim, .quote, hp⟩
  · rw [hat, parseLabels] at hp
    exact ⟨_, _, _, .name hname.isVerbatim, .name, hp⟩

/-- The strict grammar reads the labels that the tree has read, up to the brace of the block. -/
theorem parseLabels_of_readLabels (whole : Text) {kind t : Text} {done labels : List Text}
    (h : readLabels kind done t = .ok (labels, rest)) : ∃ more, labels = done ++ more ∧
      ((∀ l ∈ more, IsVerbatim l) → ∀ {mode : Mode} {last : Text}, mode.EndsLabel → skipSpaces s = t →
        ∀ {n : Nat} {before all : List Expr} {c : Cursor},
          parseLabels whole n before (Cursor.at mode last (source s)) = .ok (all, c) →
            ∃ new, all = before ++ new ∧ List.Forall₂ Says new more ∧ c.word = some .leftBrace ∧
              c.rest = source rest) := by
  fun_induction readLabels kind done t generalizing s with
  | case1 done r =>
      obtain ⟨rfl, rfl⟩ := Prod.mk.inj (Except.ok.inj h)
      refine ⟨[], by simp, fun _ mode last hmode hs n before all c hp => ?_⟩
      have hskip : skipSpaces (source s) = '{' :: source r := by
        rw [skipSpaces_source, hs, source_cons_of_ne (by decide)]
      rw [Cursor.at_label hmode hskip (by decide) (wordAt_leftBrace hmode)] at hp
      cases n with
      | zero => cases hp
      | succ n =>
          rw [parseLabels] at hp
          obtain ⟨rfl, rfl⟩ := Prod.mk.inj (Except.ok.inj hp)
          exact ⟨[], by simp, .nil, rfl, rfl⟩
  | case2 done t hb ht label behind hl _ _ ih =>
      obtain ⟨more, rfl, hread⟩ := ih (s := behind) h
      refine ⟨label :: more, by simp, fun hverbatim mode last hmode hs n before all c hp => ?_⟩
      obtain ⟨hlabel, hmore⟩ := List.forall_mem_cons.1 hverbatim
      cases n with
      | zero => cases hp
      | succ n =>
          obtain ⟨e, mode, last, he, hmode, hp⟩ := parseLabels_label ht hl hlabel hmode hs hp
          obtain ⟨new, rfl, hnew, hc⟩ := hread hmore hmode rfl hp
          exact ⟨e :: new, by simp, .cons he hnew, hc⟩
  | case3 => cases h
  | case4 => cases h

end

end Strict
end JujuMigration
