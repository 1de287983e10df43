import Mathlib.Data.List.Basic
import JujuMigration.Proofs.Source.Template
/-! Heredocs and expressions are local: where they end is decided by their own text and by the rest of the line that
they end on. A heredoc's closing marker must be followed by blanks only, so it does not end in front of every text. -/

namespace JujuMigration.Source

/-- Texts that are alike agree on whatever holds no place where they may part. -/
theorem Alike.of_append {p s t : Text} (hp : ∀ c ∈ p, isLandmark c = false) (h : Alike (p ++ s) t) :
    ∃ t', t = p ++ t' ∧ Alike s t' := by
  induction p generalizing t with
  | nil => exact ⟨t, rfl, h⟩
  | cons c p ih =>
      obtain ⟨u, rfl, hu⟩ := h.of_cons (hp c List.mem_cons_self)
      obtain ⟨t, rfl, ht⟩ := ih (fun d hd => hp d (List.mem_cons_of_mem c hd)) hu
      exact ⟨t, rfl, ht⟩

theorem isLandmark_cases {c : Char} (h : isLandmark c = true) : c = '\n' ∨ c = '}' ∨ c = '#' ∨ c = '/' := by
  simpa [isLandmark, or_assoc] using h

/-- Characters of a kind that has none of them are no places where texts may part. -/
theorem isLandmark_eq_false {p : Char → Bool} {c : Char} (h : p c = true) (hp : (['\n', '}', '#', '/'].any p) = false) :
    isLandmark c = false := by
  simp only [List.any_cons, List.any_nil, Bool.or_false, Bool.or_eq_false_iff] at hp
  refine Bool.eq_false_iff.2 fun hc => ?_
  rcases isLandmark_cases hc with rfl | rfl | rfl | rfl <;> simp [h] at hp

theorem isIdentChar_ne {c : Char} (h : isIdentChar c = true) : isLandmark c = false ∧ c ≠ '.' := by
  refine ⟨isLandmark_eq_false h (by decide), ?_⟩
  rintro rfl
  exact absurd h (by decide)

theorem isSpace_ne {c : Char} (h : isSpace c = true) : isLandmark c = false ∧ c ≠ '.' := by
  refine ⟨isLandmark_eq_false h (by decide), ?_⟩
  rintro rfl
  exact absurd h (by decide)

/-! ### Heredocs -/

/-- What follows a heredoc's marker on its line: blanks, and perhaps a carriage return. -/
def endsMarkerLine (s : Text) (body : Text) : Prop := skipSpaces s = '\n' :: body ∨ skipSpaces s = '\r' :: '\n' :: body

theorem heredocMarker?_eq_some {s marker body : Text} :
    heredocMarker? s = some (marker, body) ↔ ∃ dash t rest, s = '<' :: '<' :: (dash ++ t) ∧
      (dash = ['-'] ∨ dash = [] ∧ t.head? ≠ some '-') ∧ readIdentifier t = .ok (marker, rest) ∧
      endsMarkerLine rest body := by
  constructor
  · intro h
    unfold heredocMarker? at h
    split at h
    · next r =>
        have hr : ∃ dash, r = dash ++ (if r.head? = some '-' then r.tail else r) ∧
            (dash = ['-'] ∨ dash = [] ∧ (if r.head? = some '-' then r.tail else r).head? ≠ some '-') := by
          split
          · next hd =>
              obtain ⟨q, rfl⟩ := List.head?_eq_some_iff.1 hd
              exact ⟨['-'], rfl, .inl rfl⟩
          · next hd => exact ⟨[], rfl, .inr ⟨rfl, hd⟩⟩
        obtain ⟨dash, hr, hdash⟩ := hr
        generalize (if r.head? = some '-' then r.tail else r) = t at h hr hdash
        simp only at h
        split at h
        · simp at h
        · next m rest hm =>
            split at h <;> try cases h
            all_goals
              next hb => exact ⟨dash, t, rest, by rw [hr], hdash, hm, by simp [endsMarkerLine, hb]⟩
    · simp at h
  · rintro ⟨dash, t, rest, rfl, hdash, hm, hb⟩
    have ht : (if (dash ++ t).head? = some '-' then (dash ++ t).tail else dash ++ t) = t := by
      rcases hdash with rfl | ⟨rfl, hd⟩
      · rfl
      · exact if_neg hd
    unfold heredocMarker?
    simp only [ht, hm]
    rcases hb with hb | hb <;> simp [hb]

theorem heredocMarker?_closed {s marker body : Text} (h : heredocMarker? s = some (marker, body)) :
    ∃ p, s = p ++ '\n' :: body ∧ (∀ c ∈ p, isLandmark c = false ∧ c ≠ '.') ∧
      ∀ r', heredocMarker? (p ++ '\n' :: r') = some (marker, r') := by
  obtain ⟨dash, t, rest, rfl, hdash, hm, hb⟩ := heredocMarker?_eq_some.1 h
  obtain ⟨rfl, hne, hm'⟩ := readIdentifier_append hm
  obtain ⟨d, m, rfl⟩ := List.exists_cons_of_ne_nil hne
  obtain ⟨e, he, hrest⟩ : ∃ e, (e = [] ∨ e = ['\r']) ∧ skipSpaces rest = e ++ '\n' :: body := by
    rcases hb with hb | hb
    · exact ⟨[], .inl rfl, hb⟩
    · exact ⟨['\r'], .inr rfl, hb⟩
  have hsplit : rest = rest.takeWhile isSpace ++ (e ++ '\n' :: body) := by
    rw [← hrest]
    exact List.takeWhile_append_dropWhile.symm
  refine ⟨'<' :: '<' :: (dash ++ (d :: m ++ (rest.takeWhile isSpace ++ e))), by simpa using hsplit, ?_, fun r' => ?_⟩
  · have hname : ∀ c ∈ d :: m, isLandmark c = false ∧ c ≠ '.' :=
      fun c hc => isIdentChar_ne (readIdentifier_chars hm c hc)
    have hsp : ∀ c ∈ rest.takeWhile isSpace, isLandmark c = false ∧ c ≠ '.' :=
      fun c hc => isSpace_ne (List.mem_takeWhile_imp hc)
    have hdash : ∀ c ∈ dash, isLandmark c = false ∧ c ≠ '.' := by rcases hdash with rfl | ⟨rfl, -⟩ <;> simp [isLandmark]
    have he : ∀ c ∈ e, isLandmark c = false ∧ c ≠ '.' := by rcases he with rfl | rfl <;> simp [isLandmark]
    simp only [List.forall_mem_cons, List.forall_mem_append] at hname ⊢
    exact ⟨by decide, by decide, hdash, hname, hsp, he⟩
  · rw [heredocMarker?_eq_some]
    refine ⟨dash, d :: m ++ (rest.takeWhile isSpace ++ (e ++ '\n' :: r')), _, by simp, hdash, hm' _ ?_, ?_⟩
    · conv => rhs; rw [hsplit]
      cases rest.takeWhile isSpace <;> cases e <;> rfl
    · have hsk : skipSpaces (rest.takeWhile isSpace ++ (e ++ '\n' :: r')) = e ++ '\n' :: r' :=
        skipSpaces_append (by rw [hrest]; cases e <;> rfl)
      rw [endsMarkerLine, hsk]
      rcases he with rfl | rfl
      · exact .inl rfl
      · exact .inr rfl

theorem Alike.opensHeredoc {s t : Text} (h : Alike s t) : opensHeredoc s = opensHeredoc t := by
  have imp {s t : Text} (h : Alike s t) (hs : Source.opensHeredoc s = true) : Source.opensHeredoc t = true := by
    obtain ⟨⟨m, body⟩, hm⟩ := Option.isSome_iff_exists.1 hs
    obtain ⟨p, rfl, hp, hr⟩ := heredocMarker?_closed hm
    obtain ⟨t, rfl, ht⟩ := h.of_append fun c hc => (hp c hc).1
    cases ht <;> simp [Source.opensHeredoc, hr]
  exact Bool.eq_iff_iff.2 ⟨imp h, imp h.symm⟩

/-- A line's characters do not depend on what is behind its line feed. -/
theorem takeWhile_line {p : Text} (hp : '\n' ∈ p) (s t : Text) :
    (p ++ s).takeWhile (· ≠ '\n') = (p ++ t).takeWhile (· ≠ '\n') := by
  induction p with
  | nil => simp at hp
  | cons c p ih =>
      by_cases hc : c = '\n'
      · simp [hc]
      · have hp : '\n' ∈ p := by simpa [Ne.symm hc] using hp
        simp only [List.cons_append, List.takeWhile_cons, ih hp]

theorem takeWhile_dropWhile (p : Char → Bool) (s : Text) : (s.dropWhile p).takeWhile p = [] := by
  induction s with
  | nil => rfl
  | cons c s ih => by_cases hc : p c = true <;> simp [hc, ih]

theorem takeWhile_line_append {line rest : Text} (hline : '\n' ∉ line) (hrest : rest.takeWhile (· ≠ '\n') = []) :
    (line ++ rest).takeWhile (· ≠ '\n') = line := by
  have hall : ∀ c ∈ line, decide (c ≠ '\n') = true := fun c hc => decide_eq_true fun hn => hline (hn ▸ hc)
  rw [List.takeWhile_append_of_pos hall, hrest, List.append_nil]

theorem drop_trimEnd {p : Char → Bool} {line b : Text} (hb : line = Text.trimEnd p line ++ b) (rest : Text) :
    (line ++ rest).drop (Text.trimEnd p line).length = b ++ rest := by
  generalize Text.trimEnd p line = t at hb ⊢
  subst hb
  simp

/-- A line that ends in blanks ends so in every text that is alike. -/
theorem Alike.blank_end {b s t : Text} (hb : ∀ c ∈ b, CharClass.isBlank c = true ∧ c ≠ '\n')
    (hs : s.takeWhile (· ≠ '\n') = []) (h : Alike (b ++ s) t) :
    ∃ u, t = b ++ u ∧ u.takeWhile (· ≠ '\n') = [] := by
  have hc : ∀ c ∈ b, isLandmark c = false := by
    intro c hc
    obtain ⟨hblank, hline⟩ := hb c hc
    refine Bool.eq_false_iff.2 fun hmark => ?_
    rcases isLandmark_cases hmark with rfl | rfl | rfl | rfl
    · exact hline rfl
    all_goals exact absurd hblank (by decide)
  obtain ⟨u, rfl, hu⟩ := h.of_append hc
  refine ⟨u, rfl, ?_⟩
  have hd := hu.head?
  cases s with
  | nil => simp [hu.eq_nil.1 rfl]
  | cons c s =>
      have hc : c = '\n' := by
        by_contra hc
        simp [hc] at hs
      cases u with
      | nil => rfl
      | cons d u => simp [← Option.some.inj hd, hc]

theorem afterMarker?_closing {marker line rest : Text} (hl : ∀ c ∈ line, c ≠ '\n')
    (hr : rest.takeWhile (· ≠ '\n') = []) (hm : Text.trim CharClass.isBlank line = marker)
    (hne : line ++ rest ≠ []) :
    afterMarker? marker true (line ++ rest) =
      some ((line ++ rest).drop (Text.trimEnd CharClass.isBlank line).length) := by
  have hline : (line ++ rest).takeWhile (· ≠ '\n') = line := takeWhile_line_append (fun h => hl _ h rfl) hr
  obtain ⟨c, t, hct⟩ := List.exists_cons_of_ne_nil hne
  rw [hct] at hline ⊢
  rw [afterMarker?]
  simp only [hline, hm, and_self, if_true]

theorem afterMarker?_local {marker s r : Text} {atStart : Bool} (h : afterMarker? marker atStart s = some r) :
    ∃ p, s = p ++ r ∧ (atStart = false → '\n' ∈ p) ∧
      ∀ r', Alike r r' → afterMarker? marker atStart (p ++ r') = some r' := by
  fun_induction afterMarker? marker atStart s with
  | case1 => simp at h
  | case2 atStart c t line hline =>
      obtain ⟨rfl, hm⟩ := hline
      have hl : ∀ d ∈ line, d ≠ '\n' := fun d hd => by simpa using List.mem_takeWhile_imp hd
      have hs : c :: t = line ++ (c :: t).dropWhile (· ≠ '\n') := List.takeWhile_append_dropWhile.symm
      have hrest := takeWhile_dropWhile (· ≠ '\n') (c :: t)
      generalize (c :: t).dropWhile (· ≠ '\n') = rest at hs hrest
      generalize line = line at hl hs hm h
      obtain ⟨b, hb, hblank⟩ := Text.trimEnd_append CharClass.isBlank line
      obtain rfl : b ++ rest = r := by rw [← Option.some.inj h, hs, drop_trimEnd hb]
      refine ⟨Text.trimEnd CharClass.isBlank line, by rw [hs, ← List.append_assoc, ← hb], by simp, fun r' hr => ?_⟩
      obtain ⟨u, rfl, hu⟩ := hr.blank_end
        (fun d hd => ⟨hblank d hd, hl d (by rw [hb]; exact List.mem_append_right _ hd)⟩) hrest
      have hne : line ++ u ≠ [] := by
        intro hn
        obtain ⟨rfl, rfl⟩ := List.append_eq_nil_iff.1 hn
        obtain ⟨-, rfl⟩ := List.append_eq_nil_iff.1 hb.symm
        rw [hr.eq_nil.2 rfl] at hs
        simp at hs
      rw [← List.append_assoc, ← hb, afterMarker?_closing hl hu hm hne, drop_trimEnd hb]
  | case3 atStart c t line hline ih =>
      obtain ⟨p, rfl, hp, ih⟩ := ih h
      have hn : '\n' ∈ c :: p := by
        by_cases hc : c = '\n'
        · simp [hc]
        · exact List.mem_cons_of_mem c (hp (by simpa using hc))
      refine ⟨c :: p, rfl, fun _ => hn, fun r' hr => ?_⟩
      have hl : (c :: (p ++ r')).takeWhile (· ≠ '\n') = line := takeWhile_line hn r' r
      rw [List.cons_append, afterMarker?]
      simp only [hl, if_neg hline]
      exact ih r' hr

theorem scanHeredoc_local {s r : Text} (h : scanHeredoc s = .ok r) : Local scanHeredoc s r := by
  unfold scanHeredoc at h
  split at h
  · simp at h
  · next marker body hm =>
      split at h
      · simp at h
      · next t ht =>
          obtain rfl := Except.ok.inj h
          obtain ⟨q, rfl, -, hq⟩ := heredocMarker?_closed hm
          obtain ⟨p, rfl, -, hp⟩ := afterMarker?_local ht
          refine ⟨q ++ '\n' :: p, by simp, fun r' hr => ?_⟩
          rw [List.append_assoc, List.cons_append, scanHeredoc, hq]
          simp only [hp r' hr]

/-- A heredoc ends with its marker, and that is no blank. -/
theorem afterMarker?_ends {marker s r : Text} {atStart : Bool} (hm : marker ≠ [])
    (h : afterMarker? marker atStart s = some r) : ∃ p c, s = p ++ c :: r ∧ CharClass.isBlank c = false := by
  fun_induction afterMarker? marker atStart s with
  | case1 => simp at h
  | case2 atStart c t line hline =>
      obtain ⟨-, rfl⟩ := hline
      have hne : Text.trimEnd CharClass.isBlank line ≠ [] := by
        intro hnil
        have hblank := Text.trimEnd_eq_nil.1 hnil
        apply hm
        rw [Text.trim, Text.trimEnd_eq_nil]
        exact fun d hd => hblank d ((List.dropWhile_suffix _).subset hd)
      have hlast := Text.getLast?_trimEnd CharClass.isBlank line
      obtain ⟨b, hb, -⟩ := Text.trimEnd_append CharClass.isBlank line
      have hs : c :: t = line ++ (c :: t).dropWhile (· ≠ '\n') := List.takeWhile_append_dropWhile.symm
      generalize (c :: t).dropWhile (· ≠ '\n') = rest at hs
      generalize line = line at hb hne hlast hs h
      obtain rfl : b ++ rest = r := by rw [← Option.some.inj h, hs, drop_trimEnd hb]
      generalize Text.trimEnd CharClass.isBlank line = u at hb hne hlast
      obtain ⟨p, d, rfl⟩ := (List.eq_nil_or_concat' u).resolve_left hne
      refine ⟨p, d, ?_, ?_⟩
      · rw [hs, hb]
        simp
      · simpa using hlast
  | case3 atStart c t line hline ih =>
      obtain ⟨p, d, rfl, hd⟩ := ih h
      exact ⟨c :: p, d, rfl, hd⟩

theorem scanHeredoc_ends {s r : Text} (h : scanHeredoc s = .ok r) :
    ∃ p c, s = p ++ c :: r ∧ CharClass.isBlank c = false := by
  unfold scanHeredoc at h
  split at h
  · simp at h
  · next marker body hm =>
      split at h
      · simp at h
      · next t ht =>
          obtain rfl := Except.ok.inj h
          obtain ⟨dash, v, rest, -, -, hname, -⟩ := heredocMarker?_eq_some.1 hm
          obtain ⟨p, c, rfl, hc⟩ := afterMarker?_ends (readIdentifier_append hname).2.1 ht
          obtain ⟨q, rfl⟩ := (heredocMarker?_suffix hm).1
          exact ⟨q ++ p, c, (List.append_assoc ..).symm, hc⟩

/-! ### Expressions -/

/-- The character, with the text behind it, begins nothing that is taken as a whole. -/
structure IsPlain (c : Char) (r : Text) : Prop where
  quote : c ≠ '"'
  heredoc : opensHeredoc (c :: r) = false
  opener : closer? c = none
  closer : isCloser c = false
  comment : opensComment (c :: r) = false

/-- One step of an expression's scan: the brackets awaited and the text, before and after it. -/
inductive Step : List Char → Text → List Char → Text → Prop
  | quoted {awaited : List Char} {r rest : Text} (h : scanString ('"' :: r) = .ok rest) :
      Step awaited ('"' :: r) awaited rest
  | heredoc {awaited : List Char} {s rest : Text} (h : scanHeredoc s = .ok rest) : Step awaited s awaited rest
  | opening {awaited : List Char} {c closing : Char} {r : Text} (h : closer? c = some closing) :
      Step awaited (c :: r) (closing :: awaited) r
  | closing {awaited : List Char} {c : Char} {r : Text} (h : isCloser c = true) :
      Step (c :: awaited) (c :: r) awaited r
  | comment {closing : Char} {outer : List Char} {s rest : Text} (hc : opensComment s = true)
      (h : skipComment s = .ok rest) : Step (closing :: outer) s (closing :: outer) rest
  | plain {awaited : List Char} {c : Char} {r : Text} (h : IsPlain c r)
      (hn : awaited = [] → c ≠ '\r' ∧ c ≠ '\n') : Step awaited (c :: r) awaited r

/-- Whether an expression ends in front of the text when no bracket is open. -/
def stopsExpression (s : Text) : Bool :=
  s.head?.all (fun c => c == '\r' || c == '\n' || c == '}') || opensComment s

/-- The runs of an expression's scan. -/
inductive Scans : List Char → Text → Text → Prop
  | stop {s : Text} (h : stopsExpression s = true) : Scans [] s s
  | step {awaited awaited' : List Char} {s s' r : Text} (h : Step awaited s awaited' s') (hr : Scans awaited' s' r) :
      Scans awaited s r

theorem head?_of_opensHeredoc {s : Text} (h : opensHeredoc s = true) : s.head? = some '<' := by
  obtain ⟨⟨m, body⟩, hm⟩ := Option.isSome_iff_exists.1 h
  obtain ⟨dash, t, rest, rfl, -⟩ := heredocMarker?_eq_some.1 hm
  rfl

theorem head?_of_opensComment {s : Text} (h : opensComment s = true) : s.head? = some '#' ∨ s.head? = some '/' := by
  rcases opensComment_cases h with ⟨r, rfl⟩ | ⟨r, rfl⟩ | ⟨r, rfl⟩ <;> simp

theorem opensHeredoc_of_scanHeredoc {s r : Text} (h : scanHeredoc s = .ok r) : opensHeredoc s = true := by
  unfold scanHeredoc at h
  split at h
  · simp at h
  · next hm => simp [opensHeredoc, hm]

theorem opensHeredoc_eq_false {c : Char} {r : Text} (h : c ≠ '<') : opensHeredoc (c :: r) = false :=
  Bool.eq_false_iff.2 fun ho => h (Option.some.inj (head?_of_opensHeredoc ho))

theorem closer?_eq_some {c d : Char} (h : closer? c = some d) : c = '(' ∨ c = '[' ∨ c = '{' := by
  unfold closer? at h
  split at h <;> simp_all

theorem isCloser_cases {c : Char} (h : isCloser c = true) : c = ')' ∨ c = ']' ∨ c = '}' := by
  simpa [isCloser, or_assoc] using h

theorem scans_of_scanBracketed {start s r : Text} {awaited : List Char}
    (h : scanBracketed start awaited s = .ok r) : Scans awaited s r := by
  fun_induction scanBracketed start awaited s with
  | case1 awaited ha =>
      obtain rfl := Except.ok.inj h
      obtain rfl := List.isEmpty_iff.1 ha
      exact .stop rfl
  | case3 awaited t rest hs _ ih => exact .step (.quoted hs) (ih h)
  | case5 awaited c t _ _ rest hs _ ih => exact .step (.heredoc hs) (ih h)
  | case7 awaited c t _ _ closing hc ih => exact .step (.opening hc) (ih h)
  | case8 t closing outer _ _ hc _ ih => exact .step (.closing hc) (ih h)
  | case10 =>
      obtain rfl := Except.ok.inj h
      exact .stop rfl
  | case12 awaited c t _ _ _ hc ha =>
      obtain rfl := Except.ok.inj h
      obtain rfl := List.isEmpty_iff.1 ha
      exact .stop (by simp [stopsExpression, hc])
  | case13 awaited c t _ _ _ hc ha rest hs _ _ ih =>
      cases awaited with
      | nil => exact absurd rfl ha
      | cons => exact .step (.comment hc hs) (ih h)
  | case15 awaited c t _ _ _ _ hn =>
      obtain rfl := Except.ok.inj h
      obtain rfl := List.isEmpty_iff.1 hn.2
      exact .stop (by rcases hn.1 with rfl | rfl <;> rfl)
  | case16 awaited c t hq ho hcl hc hn hop ih =>
      refine .step (.plain ⟨hq, by simpa using ho, ?_, by simpa using hcl, by simpa using hc⟩ ?_) (ih h)
      · exact Option.eq_none_iff_forall_not_mem.2 fun d hd => hop d hd
      · rintro rfl
        simpa using hn
  | case2 | case4 | case6 | case9 | case11 | case14 => simp at h

theorem scanBracketed_step {start s s' : Text} {awaited awaited' : List Char} (h : Step awaited s awaited' s') :
    scanBracketed start awaited s = scanBracketed start awaited' s' := by
  rw [scanBracketed.eq_def start awaited s]
  cases h with
  | quoted h =>
      dsimp only
      rw [if_pos rfl]
      split
      · next h' => rw [Except.ok.inj (h.symm.trans h')]
      · next h' => simp [h] at h'
  | heredoc h =>
      have ho := opensHeredoc_of_scanHeredoc h
      obtain ⟨t, rfl⟩ := List.head?_eq_some_iff.1 (head?_of_opensHeredoc ho)
      dsimp only
      rw [if_neg (by decide), if_pos ho]
      split
      · next h' => rw [Except.ok.inj (h.symm.trans h')]
      · next h' => simp [h] at h'
  | opening h =>
      dsimp only
      rcases closer?_eq_some h with rfl | rfl | rfl
      all_goals
        rw [if_neg (by decide), if_neg (by rw [opensHeredoc_eq_false (by decide)]; decide)]
        simp only [h]
  | @closing _ c _ h =>
      have hno : closer? c = none ∧ c ≠ '"' ∧ c ≠ '<' := by
        rcases isCloser_cases h with rfl | rfl | rfl <;> decide
      dsimp only
      rw [if_neg hno.2.1, if_neg (by rw [opensHeredoc_eq_false hno.2.2]; decide)]
      simp only [hno.1, h, if_true]
  | comment hc h =>
      obtain ⟨c, t, rfl, hp⟩ : ∃ c t, s = c :: t ∧ (c = '#' ∨ c = '/') := by
        rcases opensComment_cases hc with ⟨t, rfl⟩ | ⟨t, rfl⟩ | ⟨t, rfl⟩
        · exact ⟨_, _, rfl, .inl rfl⟩
        · exact ⟨_, _, rfl, .inr rfl⟩
        · exact ⟨_, _, rfl, .inr rfl⟩
      have hno : closer? c = none ∧ isCloser c = false ∧ c ≠ '"' ∧ c ≠ '<' := by
        rcases hp with rfl | rfl <;> decide
      dsimp only
      rw [if_neg hno.2.2.1, if_neg (by rw [opensHeredoc_eq_false hno.2.2.2]; decide)]
      simp only [hno.1, hno.2.1, hc, List.isEmpty_cons, Bool.false_eq_true, if_false, dif_pos]
      split
      · next h' => rw [Except.ok.inj (h.symm.trans h')]
      · next h' => simp [h] at h'
  | plain h hn =>
      dsimp only
      simp only [if_neg h.quote, h.heredoc, h.opener, h.closer, h.comment, Bool.false_eq_true, if_false]
      refine if_neg fun hend => ?_
      have := hn (List.isEmpty_iff.1 hend.2)
      exact hend.1.elim this.1 this.2

theorem scanBracketed_stop {start s : Text} (h : stopsExpression s = true) : scanBracketed start [] s = .ok s := by
  rw [scanBracketed.eq_def]
  cases s with
  | nil => rfl
  | cons c r =>
      have hc : c = '\r' ∨ c = '\n' ∨ c = '}' ∨ opensComment (c :: r) = true := by
        simpa [stopsExpression, or_assoc] using h
      have hno : closer? c = none ∧ c ≠ '"' ∧ c ≠ '<' := by
        rcases hc with rfl | rfl | rfl | hc
        · decide
        · decide
        · decide
        · rcases head?_of_opensComment hc with h | h <;> obtain rfl := Option.some.inj h <;> decide
      dsimp only
      rw [if_neg hno.2.1, if_neg (by rw [opensHeredoc_eq_false hno.2.2]; decide)]
      simp only [hno.1, List.isEmpty_nil, if_true]
      rcases hc with rfl | rfl | rfl | hc
      · rfl
      · rfl
      · rfl
      · have hcl : isCloser c = false := by
          rcases head?_of_opensComment hc with h | h <;> obtain rfl := Option.some.inj h <;> decide
        simp only [hcl, hc, Bool.false_eq_true, if_false, dif_pos]

theorem scanBracketed_eq_ok {start s r : Text} {awaited : List Char} :
    scanBracketed start awaited s = .ok r ↔ Scans awaited s r := by
  refine ⟨scans_of_scanBracketed, fun h => ?_⟩
  induction h with
  | stop h => exact scanBracketed_stop h
  | step h _ ih => rw [scanBracketed_step h, ih]

theorem IsPlain.alike {c : Char} {r r' : Text} (h : IsPlain c r) (hl : Alike (c :: r) (c :: r')) : IsPlain c r' where
  quote := h.quote
  heredoc := hl.opensHeredoc ▸ h.heredoc
  opener := h.opener
  closer := h.closer
  comment := hl.opensComment ▸ h.comment

/-- A step takes some text, and takes it in front of every text like what it leaves. -/
theorem Step.isLocal {s s' : Text} {awaited awaited' : List Char} (h : Step awaited s awaited' s') :
    ∃ p, s = p ++ s' ∧ ∀ t', Alike s' t' → Step awaited (p ++ t') awaited' t' := by
  cases h with
  | @quoted _ r _ h =>
      obtain ⟨p, hp, hr⟩ := scanString_closed h
      refine ⟨p, hp, fun t' ht => ?_⟩
      cases p with
      | nil =>
          have := scanString_length_lt h
          rw [hp] at this
          simp at this
      | cons c p =>
          obtain ⟨rfl, -⟩ := List.cons.inj hp
          exact .quoted (hr t')
  | heredoc h =>
      obtain ⟨p, hp, hr⟩ := scanHeredoc_local h
      exact ⟨p, hp, fun t' ht => .heredoc (hr t' ht)⟩
  | @opening _ c _ _ h => exact ⟨[c], rfl, fun t' _ => .opening h⟩
  | @closing _ c _ h => exact ⟨[c], rfl, fun t' _ => .closing h⟩
  | comment hc h =>
      obtain ⟨p, rfl, -, hr⟩ := skipComment_local h
      exact ⟨p, rfl, fun t' ht => .comment ((ht.append p).opensComment ▸ hc) (hr t' ht)⟩
  | @plain _ c r h hn => exact ⟨[c], rfl, fun t' ht => .plain (h.alike (.cons c ht)) hn⟩

theorem Alike.stopsExpression {s t : Text} (h : Alike s t) : stopsExpression s = stopsExpression t := by
  rw [Source.stopsExpression, Source.stopsExpression, h.head?, h.opensComment]

theorem Scans.isLocal {awaited : List Char} {s r : Text} (h : Scans awaited s r) :
    ∃ p, s = p ++ r ∧ ∀ r', Alike r r' → Scans awaited (p ++ r') r' := by
  induction h with
  | stop h => exact ⟨[], rfl, fun r' hr => .stop (hr.stopsExpression ▸ h)⟩
  | step h _ ih =>
      obtain ⟨q, rfl, ih⟩ := ih
      obtain ⟨p, rfl, hp⟩ := h.isLocal
      refine ⟨p ++ q, (List.append_assoc ..).symm, fun r' hr => ?_⟩
      rw [List.append_assoc]
      exact .step (hp _ (hr.append q)) (ih r' hr)

theorem Scans.suffix {awaited : List Char} {s r : Text} (h : Scans awaited s r) : r <:+ s := by
  obtain ⟨p, rfl, -⟩ := h.isLocal
  exact List.suffix_append p r

theorem Step.length_lt {s s' : Text} {awaited awaited' : List Char} (h : Step awaited s awaited' s') :
    s'.length < s.length := by
  cases h with
  | quoted h => exact scanString_length_lt h
  | heredoc h => exact (scanHeredoc_suffix h).2
  | opening => exact Nat.lt_succ_self _
  | closing => exact Nat.lt_succ_self _
  | comment hc h => exact skipComment_length_lt hc h
  | plain => exact Nat.lt_succ_self _

/-- Where a scan ends no bracket is open. -/
theorem Scans.eq_nil {awaited : List Char} {r : Text} (h : Scans awaited r r) : awaited = [] := by
  cases h with
  | stop => rfl
  | step hs h => exact absurd (Nat.lt_of_le_of_lt h.suffix.length_le hs.length_lt) (Nat.lt_irrefl _)

/-- A step that leaves no bracket open takes no line feed last. -/
theorem Step.ends {s s' : Text} {awaited : List Char} (h : Step awaited s [] s') :
    ∃ p c, s = p ++ c :: s' ∧ c ≠ '\n' := by
  cases h with
  | quoted h =>
      obtain ⟨p, hp⟩ := scanString_ends h
      exact ⟨p, '"', hp.symm, by decide⟩
  | heredoc h =>
      obtain ⟨p, c, hp, hc⟩ := scanHeredoc_ends h
      refine ⟨p, c, hp, ?_⟩
      rintro rfl
      exact absurd hc (by decide)
  | @closing _ c _ hc =>
      refine ⟨[], c, rfl, ?_⟩
      rintro rfl
      exact absurd hc (by decide)
  | @plain _ c _ _ hn => exact ⟨[], c, rfl, (hn rfl).2⟩

/-- An expression does not end in a line feed. -/
theorem Scans.ends {awaited : List Char} {p s r : Text} (h : Scans awaited s r) (hs : s = p ++ r) :
    p.getLast? ≠ some '\n' := by
  induction h generalizing p with
  | stop =>
      obtain rfl := List.append_left_eq_self.1 hs.symm
      exact fun h => nomatch h
  | step hstep h ih =>
      obtain ⟨q, hq⟩ := h.suffix
      obtain ⟨w, hw, -⟩ := hstep.isLocal
      have hp : p = w ++ q := by
        rw [hw, ← hq, ← List.append_assoc] at hs
        exact (List.append_cancel_right hs).symm
      rcases List.eq_nil_or_concat' q with rfl | ⟨v, d, rfl⟩
      · rw [← hq] at h hstep hw
        obtain rfl := Scans.eq_nil h
        obtain ⟨u, c, hu, hc⟩ := hstep.ends
        obtain rfl : w = u ++ [c] := by
          rw [hw, List.nil_append, List.append_cons] at hu
          exact List.append_cancel_right hu
        rw [hp]
        simpa using hc
      · have hlast := ih hq.symm
        rw [hp, List.getLast?_append_of_ne_nil _ (by simp)]
        exact hlast

theorem Scans.stops {awaited : List Char} {s r : Text} (h : Scans awaited s r) : stopsExpression r = true := by
  induction h with
  | stop h => exact h
  | step _ _ ih => exact ih

theorem scanExpression_eq_ok {s r : Text} : scanExpression s = .ok r ↔ Scans [] s r := scanBracketed_eq_ok

theorem scanExpression_local {s r : Text} (h : scanExpression s = .ok r) : Local scanExpression s r := by
  obtain ⟨p, hp, hr⟩ := (scanExpression_eq_ok.1 h).isLocal
  exact ⟨p, hp, fun r' hl => scanExpression_eq_ok.2 (hr r' hl)⟩

end JujuMigration.Source
