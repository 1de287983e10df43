import JujuMigration.Proofs.Source.LineEnds
/-! Constructs that span lines. A hole of a template, a heredoc and brackets take line ends in, and an expression
outside of brackets stops at one; whether each line feed has a carriage return in front of it makes no difference to
where. -/

namespace JujuMigration.Source

open Text

/-! ### Templates and labels -/

/-- The frame of a template in the text with carriage returns. -/
def Frame.withReturns : Frame → Frame
  | .quoted s => .quoted (Text.withReturns s)
  | .hole s nested => .hole (Text.withReturns s) nested

theorem scanFrame_line (s : Text) (outer : List Frame) (r : Text) :
    scanFrame (.quoted s) outer ('\n' :: r) = .error (Frame.quoted s).fault := by
  rw [scanFrame.eq_def]; rfl

theorem scanFrame_sign_withReturns (s : Text) (outer : List Frame) {c : Char} {r : Text} (hc : c = '$' ∨ c = '%')
    (hb : ∀ q, r ≠ '{' :: q) (hd : ∀ q, r ≠ c :: '{' :: q) :
    scanFrame (.quoted s) outer (withReturns (c :: r)) = scanFrame (.quoted s) outer (withReturns r) := by
  have hends : c ≠ '\r' ∧ c ≠ '\n' := by rcases hc with rfl | rfl <;> decide
  rw [withReturns_cons hends.2]
  refine scanFrame_sign _ _ _ hc (fun q hq => ?_) fun q hq => ?_
  · obtain ⟨t, ht, -⟩ := (withReturns_eq_cons (by decide)).1 hq
    exact hb t ht
  · have hpair : IsOneLine [c, '{'] := by simp [IsOneLine, hends]
    obtain ⟨t, ht, -⟩ := (withReturns_eq_append hpair).1 hq
    exact hd t ht

theorem scanFrame_carries (frame : Frame) (outer : List Frame) {s : Text} (h : HasBareLines s) :
    Carries withReturns (scanFrame frame outer s)
      (scanFrame frame.withReturns (outer.map Frame.withReturns) (withReturns s)) := by
  fun_induction scanFrame frame outer s with
  | case1 frame => cases frame <;> exact .error _ _
  | case2 => exact .error _ _
  | case3 s outer c t ih =>
      have hc : c ≠ '\n' := by
        rintro rfl
        exact h.escapes ⟨[], t, rfl⟩
      rw [withReturns_cons (by decide), withReturns_cons hc, Frame.withReturns, scanFrame_escape]
      exact ih h.tail.tail
  | case4 s t =>
      rw [withReturns_cons (by decide), Frame.withReturns, List.map_nil, scanFrame_last_quote]
      exact .ok t
  | case5 s t frame outer _ ih =>
      rw [withReturns_cons (by decide), Frame.withReturns, List.map_cons, scanFrame_quote]
      exact ih h.tail
  | case6 s outer t =>
      rw [withReturns_line, Frame.withReturns, scanFrame_plain _ _ _ (by decide) (by decide) (by decide) (by decide),
        scanFrame_line]
      exact .error _ _
  | case7 s outer c hc₁ hc₂ hc₃ hc t ih =>
      rw [withReturns_cons hc₃, withReturns_cons (by decide), Frame.withReturns, scanFrame_opening _ _ _ hc]
      exact ih h.tail.tail
  | case8 s outer c t _ _ _ hc₃ hc ih =>
      rw [withReturns_cons hc₃, withReturns_cons hc₃, withReturns_cons (by decide), Frame.withReturns,
        scanFrame_doubled _ _ _ hc]
      exact ih h.tail.tail.tail
  | case9 s outer c _ _ _ hc d t hb hd ih =>
      rw [Frame.withReturns, scanFrame_sign_withReturns _ _ hc]
      · exact ih h.tail
      · exact fun q hq => hb (List.cons.inj hq).1
      · exact fun q hq => hd (List.cons.inj hq).1
  | case10 s outer c _ _ _ hc t hb hd ih =>
      rw [Frame.withReturns, scanFrame_sign_withReturns _ _ hc]
      · exact ih h.tail
      · exact hb
      · exact hd c
  | case11 s outer c t hc₁ hc₂ hc₃ hc ih =>
      rw [withReturns_cons hc₃, Frame.withReturns, scanFrame_plain _ _ _ hc₁ hc₂ hc₃ hc]
      exact ih h.tail
  | case12 s n outer t ih =>
      rw [withReturns_cons (by decide), Frame.withReturns, scanFrame_hole_quote]
      exact ih h.tail
  | case13 s n outer t _ ih =>
      rw [withReturns_cons (by decide), Frame.withReturns, scanFrame_hole_open]
      exact ih h.tail
  | case14 s t n outer _ _ ih =>
      rw [withReturns_cons (by decide), Frame.withReturns, scanFrame_hole_close]
      exact ih h.tail
  | case15 s t =>
      rw [withReturns_cons (by decide), Frame.withReturns, List.map_nil, scanFrame_last_hole_end]
      exact .ok t
  | case16 s t frame outer _ _ ih =>
      rw [withReturns_cons (by decide), Frame.withReturns, List.map_cons, scanFrame_hole_end]
      exact ih h.tail
  | case17 s n outer c t hq ho hc ih =>
      rw [Frame.withReturns]
      by_cases hline : c = '\n'
      · subst hline
        rw [withReturns_line, scanFrame_hole_plain _ _ _ _ (by decide) (by decide) (by decide),
          scanFrame_hole_plain _ _ _ _ hq ho hc]
        exact ih h.tail
      · rw [withReturns_cons hline, scanFrame_hole_plain _ _ _ _ hq ho hc]
        exact ih h.tail

theorem scanString_carries {r : Text} (h : HasBareLines r) :
    Carries withReturns (scanString ('"' :: r)) (scanString (withReturns ('"' :: r))) := scanFrame_carries _ [] h

theorem opensIdentifier_withReturns (s : Text) : opensIdentifier (withReturns s) = opensIdentifier s := by
  rw [opensIdentifier, opensIdentifier, head?_withReturns, Option.any_map]
  congr 1
  funext c
  show isIdentStart (if c = '\n' then '\r' else c) = isIdentStart c
  split
  · next hc =>
      subst hc
      decide
  · rfl

theorem readIdentifier_carries (s : Text) :
    Carries (Prod.map withReturns withReturns) (readIdentifier s) (readIdentifier (withReturns s)) := by
  unfold readIdentifier
  rw [opensIdentifier_withReturns, takeWhile_withReturns rfl, dropWhile_withReturns rfl]
  split
  · exact .ok (s.takeWhile isIdentChar, s.dropWhile isIdentChar)
  · exact .error _ _

theorem unescapeLabel_withReturns (s : Text) : unescapeLabel (withReturns s) = withReturns (unescapeLabel s) := by
  unfold unescapeLabel
  rw [replaceAll_withReturns (by decide) (by decide) (by decide),
    replaceAll_withReturns (by decide) (by decide) (by decide)]

theorem readLabel_of_ne {s : Text} (h : s.head? ≠ some '"') : readLabel s = readIdentifier s := by
  unfold readLabel
  split
  · exact absurd rfl h
  · rfl

theorem readLabel_carries {s : Text} (h : HasBareLines s) :
    Carries (Prod.map withReturns withReturns) (readLabel s) (readLabel (withReturns s)) := by
  by_cases hq : s.head? = some '"'
  · obtain ⟨r, rfl⟩ := List.head?_eq_some_iff.1 hq
    refine (scanString_carries h.tail).bind fun rest hrest => ?_
    -- The text of the label ends in the closing quote, which is no line end.
    have hraw : (before (withReturns rest) (withReturns r)).dropLast = withReturns (before rest r).dropLast := by
      obtain ⟨p, hp⟩ := scanString_ends hrest
      cases p with
      | nil =>
          obtain rfl := (List.cons.inj hp).2
          rw [before_self, before_self]
          rfl
      | cons d p =>
          have hr : r = p ++ '"' :: rest := (List.cons.inj hp).2.symm
          rw [hr, withReturns_append, withReturns_cons (by decide), dropLast_before, dropLast_before]
    show Carries _ (Except.ok (unescapeLabel (before rest r).dropLast, rest))
      (Except.ok (unescapeLabel (before (withReturns rest) (withReturns r)).dropLast, withReturns rest))
    rw [hraw, unescapeLabel_withReturns]
    exact .ok (unescapeLabel (before rest r).dropLast, rest)
  · rw [readLabel_of_ne hq, readLabel_of_ne (by rwa [ne_eq, head?_withReturns_eq_some (by decide)])]
    exact readIdentifier_carries s

/-! ### Heredocs -/

theorem heredocMarker?_eq_none {s : Text} (h : ¬['<', '<'] <+: s) : heredocMarker? s = none := by
  unfold heredocMarker?
  split
  · next r => exact absurd ⟨r, rfl⟩ h
  · rfl

theorem heredocMarker?_withReturns {s : Text} (h : '\r' ∉ s) :
    heredocMarker? (withReturns s) = (heredocMarker? s).map (Prod.map withReturns withReturns) := by
  by_cases hs : ['<', '<'] <+: s
  · obtain ⟨r, rfl⟩ := hs
    have hdash : (if (withReturns r).head? = some '-' then (withReturns r).tail else withReturns r) =
        withReturns (if r.head? = some '-' then r.tail else r) := by
      by_cases hr : r.head? = some '-'
      · obtain ⟨t, rfl⟩ := List.head?_eq_some_iff.1 hr
        rfl
      · rw [if_neg hr, if_neg (by rwa [head?_withReturns_eq_some (by decide)])]
    have hreturns : '\r' ∉ if r.head? = some '-' then r.tail else r := by
      split
      · exact fun hm => h (List.mem_cons_of_mem _ (List.mem_cons_of_mem _ (List.mem_of_mem_tail hm)))
      · exact fun hm => h (List.mem_cons_of_mem _ (List.mem_cons_of_mem _ hm))
    have hopens : withReturns (['<', '<'] ++ r) = '<' :: '<' :: withReturns r := rfl
    rw [hopens, List.cons_append, List.cons_append, List.nil_append]
    unfold heredocMarker?
    simp only [hdash]
    generalize (if r.head? = some '-' then r.tail else r) = t at hreturns
    rcases (readIdentifier_carries t).cases with ⟨⟨marker, rest⟩, ht, ht'⟩ | ⟨x, y, ht, ht'⟩
    · rw [ht, ht']
      dsimp only [Prod.map]
      have hrest : '\r' ∉ skipSpaces rest := fun hm =>
        hreturns ((readIdentifier_suffix ht).1.subset ((skipSpaces_suffix rest).subset hm))
      rw [skipSpaces_withReturns]
      generalize skipSpaces rest = u at hrest
      cases u with
      | nil => rfl
      | cons c b =>
          by_cases hline : c = '\n'
          · subst hline
            rfl
          · obtain ⟨hreturn, -⟩ := not_or.1 (List.mem_cons.not.1 hrest)
            rw [withReturns_cons hline]
            split
            · next heq => exact absurd (List.cons.inj heq).1 hline
            · next heq => exact absurd (List.cons.inj heq).1.symm hreturn
            · split
              · next heq => exact absurd (List.cons.inj heq).1 hline
              · next heq => exact absurd (List.cons.inj heq).1.symm hreturn
              · rfl
    · rw [ht, ht']
      rfl
  · have hs' : ¬['<', '<'] <+: withReturns s := by
      rwa [← List.isPrefixOf_iff_prefix, isPrefixOf_withReturns (by decide), List.isPrefixOf_iff_prefix]
    rw [heredocMarker?_eq_none hs, heredocMarker?_eq_none hs']
    rfl

theorem opensHeredoc_withReturns {s : Text} (h : '\r' ∉ s) : opensHeredoc (withReturns s) = opensHeredoc s := by
  rw [opensHeredoc, opensHeredoc, heredocMarker?_withReturns h, Option.isSome_map]

/-- A line of the text with carriage returns ends in one, unless it is the last. -/
theorem takeWhile_line_withReturns (s : Text) :
    ∃ e, (∀ c ∈ e, CharClass.isBlank c = true) ∧
      (withReturns s).takeWhile (· ≠ '\n') = s.takeWhile (· ≠ '\n') ++ e := by
  induction s with
  | nil => exact ⟨[], by simp, rfl⟩
  | cons c s ih =>
      by_cases h : c = '\n'
      · subst h
        exact ⟨['\r'], by simp; decide, rfl⟩
      · obtain ⟨e, he, hs⟩ := ih
        refine ⟨e, he, ?_⟩
        rw [withReturns_cons h, List.takeWhile_cons_of_pos (by simpa using h),
          List.takeWhile_cons_of_pos (by simpa using h), hs, List.cons_append]

theorem trim_append_of_forall {p : Char → Bool} {t : Text} (h : ∀ c ∈ t, p c = true) (s : Text) :
    trim p (s ++ t) = trim p s := by
  have hnil : t.dropWhile p = [] := by
    rw [← List.append_nil t, List.dropWhile_append_of_pos h, List.dropWhile_nil]
  rw [trim, trim, List.dropWhile_append]
  split
  · next hs =>
      rw [hnil, List.isEmpty_iff.1 hs]
  · rw [trimEnd_append_of_forall h]

theorem afterMarker?_withReturns {marker : Text} (hm : marker ≠ []) (atStart : Bool) (s : Text) :
    afterMarker? marker atStart (withReturns s) = (afterMarker? marker atStart s).map withReturns := by
  -- An empty line does not hold the marker.
  have hblank {b : Text} (hb : ∀ c ∈ b, CharClass.isBlank c = true) (atStart : Bool) :
      ¬(atStart = true ∧ trim CharClass.isBlank b = marker) := by
    rintro ⟨-, h⟩
    rw [← List.nil_append b, trim_append_of_forall hb] at h
    exact hm h.symm
  induction s generalizing atStart with
  | nil => rfl
  | cons c r ih =>
      by_cases hline : c = '\n'
      · subst hline
        have hnone (atStart : Bool) (t : Text) :
            afterMarker? marker atStart ('\n' :: t) = afterMarker? marker true t := by
          rw [afterMarker?]
          exact if_neg (hblank (b := []) (by simp) atStart)
        have hreturn (t : Text) :
            afterMarker? marker atStart ('\r' :: '\n' :: t) = afterMarker? marker false ('\n' :: t) := by
          rw [afterMarker?]
          exact if_neg (hblank (b := ['\r']) (by simp; decide) atStart)
        rw [withReturns_line, hreturn, hnone, hnone, ih]
      · obtain ⟨e, he, hlines⟩ := takeWhile_line_withReturns (c :: r)
        have hsplit : (c :: r).takeWhile (· ≠ '\n') ++ (c :: r).dropWhile (· ≠ '\n') = c :: r :=
          List.takeWhile_append_dropWhile
        rw [withReturns_cons hline] at hlines ⊢
        rw [afterMarker?, afterMarker?, hlines, trim_append_of_forall he, trimEnd_append_of_forall he]
        split
        · obtain ⟨b, hb, -⟩ := trimEnd_append CharClass.isBlank ((c :: r).takeWhile (· ≠ '\n'))
          have hmarker : '\n' ∉ trimEnd CharClass.isBlank ((c :: r).takeWhile (· ≠ '\n')) := by
            intro hmem
            have hmem' : '\n' ∈ (c :: r).takeWhile (· ≠ '\n') := by
              rw [hb]
              exact List.mem_append_left _ hmem
            simpa using List.mem_takeWhile_imp hmem'
          generalize (c :: r).dropWhile (· ≠ '\n') = rest at hsplit
          generalize trimEnd CharClass.isBlank ((c :: r).takeWhile (· ≠ '\n')) = u at hb hmarker
          rw [← withReturns_cons hline, ← hsplit, hb, List.append_assoc, List.drop_left, Option.map_some]
          have hdrop := drop_withReturns u (b ++ rest)
          rw [withReturns_of_not_mem hmarker] at hdrop
          rw [hdrop]
        · exact ih _

theorem scanHeredoc_carries {s : Text} (h : HasBareLines s) :
    Carries withReturns (scanHeredoc s) (scanHeredoc (withReturns s)) := by
  unfold scanHeredoc
  rw [heredocMarker?_withReturns h.returns]
  cases hs : heredocMarker? s with
  | none => exact .error _ _
  | some x =>
      obtain ⟨marker, body⟩ := x
      obtain ⟨-, t, rest, -, -, hmarker, -⟩ := heredocMarker?_eq_some.1 hs
      have hline : '\n' ∉ marker := fun hm => absurd (readIdentifier_chars hmarker _ hm) (by decide)
      have hne : marker ≠ [] := (readIdentifier_append hmarker).2.1
      simp only [Option.map_some, Prod.map, withReturns_of_not_mem hline, afterMarker?_withReturns hne]
      cases afterMarker? marker true body with
      | none => exact .error _ _
      | some r => exact .ok r

/-! ### Expressions -/

/-- Where an expression's scan fails: the brackets awaited and the text. -/
inductive Fails : List Char → Text → Prop
  | ended {closing : Char} {outer : List Char} : Fails (closing :: outer) []
  | quoted {awaited : List Char} {r : Text} {f : Fault} (h : scanString ('"' :: r) = .error f) :
      Fails awaited ('"' :: r)
  | heredoc {awaited : List Char} {s : Text} {f : Fault} (ho : opensHeredoc s = true) (h : scanHeredoc s = .error f) :
      Fails awaited s
  | mismatched {closing c : Char} {outer : List Char} {r : Text} (hc : isCloser c = true) (h : closing ≠ c) :
      Fails (closing :: outer) (c :: r)
  | unbalanced {c : Char} {r : Text} (hc : isCloser c = true) (h : c ≠ '}') : Fails [] (c :: r)
  | comment {closing : Char} {outer : List Char} {s : Text} {f : Fault} (hc : opensComment s = true)
      (h : skipComment s = .error f) : Fails (closing :: outer) s

/-- An expression's scan stops, takes a step or fails. -/
theorem scan_progress (awaited : List Char) (s : Text) :
    awaited = [] ∧ stopsExpression s = true ∨ (∃ awaited' s', Step awaited s awaited' s') ∨ Fails awaited s := by
  cases s with
  | nil =>
      cases awaited with
      | nil => exact .inl ⟨rfl, rfl⟩
      | cons closing outer => exact .inr (.inr .ended)
  | cons c r =>
      by_cases hq : c = '"'
      · subst hq
        cases hs : scanString ('"' :: r) with
        | error f => exact .inr (.inr (.quoted hs))
        | ok rest => exact .inr (.inl ⟨_, _, .quoted hs⟩)
      by_cases ho : opensHeredoc (c :: r) = true
      · cases hs : scanHeredoc (c :: r) with
        | error f => exact .inr (.inr (.heredoc ho hs))
        | ok rest => exact .inr (.inl ⟨_, _, .heredoc hs⟩)
      cases hopener : closer? c with
      | some closing => exact .inr (.inl ⟨_, _, .opening hopener⟩)
      | none =>
          by_cases hcloser : isCloser c = true
          · cases awaited with
            | nil =>
                by_cases hb : c = '}'
                · exact .inl ⟨rfl, by subst hb; rfl⟩
                · exact .inr (.inr (.unbalanced hcloser hb))
            | cons closing outer =>
                by_cases hc : closing = c
                · subst hc
                  exact .inr (.inl ⟨_, _, .closing hcloser⟩)
                · exact .inr (.inr (.mismatched hcloser hc))
          by_cases hcomment : opensComment (c :: r) = true
          · cases awaited with
            | nil => exact .inl ⟨rfl, by simp [stopsExpression, hcomment]⟩
            | cons closing outer =>
                cases hs : skipComment (c :: r) with
                | error f => exact .inr (.inr (.comment hcomment hs))
                | ok rest => exact .inr (.inl ⟨_, _, .comment hcomment hs⟩)
          by_cases hend : awaited = [] ∧ (c = '\r' ∨ c = '\n')
          · obtain ⟨rfl, hc⟩ := hend
            refine .inl ⟨rfl, ?_⟩
            rcases hc with rfl | rfl <;> rfl
          · have hplain : IsPlain c r :=
              ⟨hq, by simpa using ho, hopener, by simpa using hcloser, by simpa using hcomment⟩
            refine .inr (.inl ⟨_, _, .plain hplain ?_⟩)
            rintro rfl
            exact not_or.1 fun hc => hend ⟨rfl, hc⟩

theorem isCloser_ne {c : Char} (h : isCloser c = true) : c ≠ '"' ∧ c ≠ '<' ∧ closer? c = none := by
  rcases isCloser_cases h with rfl | rfl | rfl <;> decide

theorem isCloser_ne_line {c : Char} (h : isCloser c = true) : c ≠ '\n' := by
  rintro rfl
  exact absurd h (by decide)

theorem scanBracketed_fails {awaited : List Char} {s : Text} (h : Fails awaited s) (start : Text) :
    ∃ f, scanBracketed start awaited s = .error f := by
  rw [scanBracketed.eq_def start awaited s]
  cases h with
  | ended => exact ⟨_, rfl⟩
  | @quoted _ _ f h =>
      refine ⟨f, ?_⟩
      dsimp only
      rw [if_pos rfl]
      split
      · next h' => cases h.symm.trans h'
      · next h' => rw [Except.error.inj (h.symm.trans h')]
  | @heredoc _ _ f ho h =>
      obtain ⟨t, rfl⟩ := List.head?_eq_some_iff.1 (head?_of_opensHeredoc ho)
      refine ⟨f, ?_⟩
      dsimp only
      rw [if_neg (by decide), if_pos ho]
      split
      · next h' => cases h.symm.trans h'
      · next h' => rw [Except.error.inj (h.symm.trans h')]
  | @mismatched _ c outer r hc h =>
      obtain ⟨hq, ho, hopener⟩ := isCloser_ne hc
      dsimp only
      rw [if_neg hq, if_neg (by rw [opensHeredoc_eq_false ho]; decide)]
      simp only [hopener, hc, if_true, if_neg h]
      exact ⟨_, rfl⟩
  | @unbalanced c r hc h =>
      obtain ⟨hq, ho, hopener⟩ := isCloser_ne hc
      dsimp only
      rw [if_neg hq, if_neg (by rw [opensHeredoc_eq_false ho]; decide)]
      simp only [hopener, hc, if_true, if_neg h]
      exact ⟨_, rfl⟩
  | @comment closing outer s f hc h =>
      obtain ⟨c, t, rfl, hp⟩ : ∃ c t, s = c :: t ∧ (c = '#' ∨ c = '/') := by
        rcases opensComment_cases hc with ⟨t, rfl⟩ | ⟨t, rfl⟩ | ⟨t, rfl⟩
        · exact ⟨_, _, rfl, .inl rfl⟩
        · exact ⟨_, _, rfl, .inr rfl⟩
        · exact ⟨_, _, rfl, .inr rfl⟩
      have hno : closer? c = none ∧ isCloser c = false ∧ c ≠ '"' ∧ c ≠ '<' := by
        rcases hp with rfl | rfl <;> decide
      refine ⟨f, ?_⟩
      dsimp only
      rw [if_neg hno.2.2.1, if_neg (by rw [opensHeredoc_eq_false hno.2.2.2]; decide)]
      simp only [hno.1, hno.2.1, hc, List.isEmpty_cons, Bool.false_eq_true, if_false, dif_pos]
      split
      · next h' => cases h.symm.trans h'
      · next h' => rw [Except.error.inj (h.symm.trans h')]

theorem stopsExpression_withReturns (s : Text) : stopsExpression (withReturns s) = stopsExpression s := by
  have hhead : (withReturns s).head?.all (fun c => c == '\r' || c == '\n' || c == '}') =
      s.head?.all (fun c => c == '\r' || c == '\n' || c == '}') := by
    cases s with
    | nil => rfl
    | cons c r =>
        by_cases hline : c = '\n'
        · subst hline
          rfl
        · rw [withReturns_cons hline]
          rfl
  rw [stopsExpression, stopsExpression, hhead, opensComment_withReturns]

theorem Fails.withReturns {awaited : List Char} {s : Text} (hb : HasBareLines s) (h : Fails awaited s) :
    Fails awaited (withReturns s) := by
  cases h with
  | ended => exact .ended
  | quoted h =>
      obtain ⟨y, hy⟩ := (scanString_carries hb.tail).of_error h
      exact .quoted hy
  | heredoc ho h =>
      obtain ⟨y, hy⟩ := (scanHeredoc_carries hb).of_error h
      exact .heredoc ((opensHeredoc_withReturns hb.returns).trans ho) hy
  | mismatched hc h =>
      rw [withReturns_cons (isCloser_ne_line hc)]
      exact .mismatched hc h
  | unbalanced hc h =>
      rw [withReturns_cons (isCloser_ne_line hc)]
      exact .unbalanced hc h
  | comment hc h =>
      obtain ⟨y, hy⟩ := (skipComment_carries hb).of_error h
      exact .comment ((opensComment_withReturns s).trans hc) hy

/-- Where the scan takes a step in the one text it takes a step in the other, or two over a line end. -/
theorem scanBracketed_step_withReturns {awaited awaited' : List Char} {s s' : Text} (hb : HasBareLines s)
    (h : Step awaited s awaited' s') (start : Text) :
    scanBracketed start awaited (withReturns s) = scanBracketed start awaited' (withReturns s') := by
  cases h with
  | quoted h => exact scanBracketed_step (.quoted ((scanString_carries hb.tail).of_ok h))
  | heredoc h => exact scanBracketed_step (.heredoc ((scanHeredoc_carries hb).of_ok h))
  | opening h =>
      have hline : ∀ {c d : Char}, closer? c = some d → c ≠ '\n' := by
        intro c d hc
        rcases closer?_eq_some hc with rfl | rfl | rfl <;> decide
      rw [withReturns_cons (hline h)]
      exact scanBracketed_step (.opening h)
  | closing h =>
      rw [withReturns_cons (isCloser_ne_line h)]
      exact scanBracketed_step (.closing h)
  | comment hc h =>
      exact scanBracketed_step (.comment ((opensComment_withReturns s).trans hc) ((skipComment_carries hb).of_ok h))
  | @plain _ c _ h hn =>
      by_cases hline : c = '\n'
      · subst hline
        have hopen : awaited ≠ [] := fun ha => (hn ha).2 rfl
        have hplain {d : Char} (hd : d = '\r' ∨ d = '\n') (t : Text) : IsPlain d t := by
          rcases hd with rfl | rfl
          · exact ⟨by decide, opensHeredoc_eq_false (by decide), rfl, rfl, rfl⟩
          · exact ⟨by decide, opensHeredoc_eq_false (by decide), rfl, rfl, rfl⟩
        rw [withReturns_line, scanBracketed_step (.plain (hplain (.inl rfl) _) fun ha => absurd ha hopen),
          scanBracketed_step (.plain (hplain (.inr rfl) _) fun ha => absurd ha hopen)]
      · have hheredoc := opensHeredoc_withReturns hb.returns
        have hcomment := opensComment_withReturns (c :: s')
        rw [withReturns_cons hline] at hheredoc hcomment ⊢
        have hplain : IsPlain c (withReturns s') :=
          ⟨h.quote, hheredoc.trans h.heredoc, h.opener, h.closer, hcomment.trans h.comment⟩
        exact scanBracketed_step (.plain hplain hn)

theorem Step.suffix {awaited awaited' : List Char} {s s' : Text} (h : Step awaited s awaited' s') : s' <:+ s := by
  obtain ⟨p, rfl, -⟩ := h.isLocal
  exact List.suffix_append p s'

theorem scanBracketed_carries (start start' : Text) (awaited : List Char) {s : Text} (h : HasBareLines s) :
    Carries withReturns (scanBracketed start awaited s) (scanBracketed start' awaited (withReturns s)) := by
  induction hn : s.length using Nat.strongRecOn generalizing s awaited with
  | ind n ih =>
      subst hn
      rcases scan_progress awaited s with ⟨rfl, hstop⟩ | ⟨awaited', s', hstep⟩ | hfails
      · rw [scanBracketed_stop hstop, scanBracketed_stop ((stopsExpression_withReturns s).trans hstop)]
        exact .ok s
      · rw [scanBracketed_step hstep, scanBracketed_step_withReturns h hstep]
        exact ih s'.length hstep.length_lt awaited' (h.of_suffix hstep.suffix) rfl
      · obtain ⟨x, hx⟩ := scanBracketed_fails hfails start
        obtain ⟨y, hy⟩ := scanBracketed_fails (hfails.withReturns h) start'
        rw [hx, hy]
        exact .error x y

theorem scanExpression_carries {s : Text} (h : HasBareLines s) :
    Carries withReturns (scanExpression s) (scanExpression (withReturns s)) := scanBracketed_carries _ _ [] h

end JujuMigration.Source
