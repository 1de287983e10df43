import JujuMigration.Proofs.Config.Item
import JujuMigration.Proofs.Rules.Reference
/-! A reference that is rewritten in its place. A scan takes the ending `.name` of a traversal character by character,
however strange the indexes in front of it are, and it takes another ending in the same way; so the attribute fits
where it did before. -/

namespace JujuMigration

open Source

namespace Source

variable {awaited awaited' : List Char} {c : Char} {p r s x m : Text}

/-! ### Characters that begin nothing -/

/-- No quote, heredoc, bracket or comment begins with the character. -/
def IsOrdinary (c : Char) : Prop := c ∉ ['"', '<', '(', '[', '{', ')', ']', '}', '#', '/']

instance (c : Char) : Decidable (IsOrdinary c) := inferInstanceAs (Decidable (c ∉ _))

theorem IsOrdinary.isPlain (h : IsOrdinary c) (r : Text) : IsPlain c r := by
  simp only [IsOrdinary, List.mem_cons, List.not_mem_nil, or_false, not_or] at h
  obtain ⟨hq, hh, h1, h2, h3, h4, h5, h6, h7, h8⟩ := h
  refine ⟨hq, opensHeredoc_eq_false hh, ?_, ?_, ?_⟩
  · refine Option.eq_none_iff_forall_not_mem.2 fun d hd => ?_
    rcases closer?_eq_some hd with rfl | rfl | rfl <;> contradiction
  · refine Bool.eq_false_iff.2 fun hc => ?_
    rcases isCloser_cases hc with rfl | rfl | rfl <;> contradiction
  · refine Bool.eq_false_iff.2 fun hc => ?_
    rcases head?_of_opensComment hc with hd | hd <;> obtain rfl := Option.some.inj hd <;> contradiction

/-- A step over a character that begins nothing takes that character. -/
theorem IsPlain.eq_of_step (h : IsPlain c x) {awaited' : List Char} {s : Text} (hs : Step awaited (c :: x) awaited' s) :
    awaited' = awaited ∧ s = x ∧ (awaited = [] → c ≠ '\r' ∧ c ≠ '\n') := by
  cases hs with
  | quoted => exact absurd rfl h.quote
  | heredoc hd => exact absurd (opensHeredoc_of_scanHeredoc hd) (by simp [h.heredoc])
  | opening ho => exact absurd ho (by simp [h.opener])
  | closing hc => exact absurd hc (by simp [h.closer])
  | comment hc => exact absurd hc (by simp [h.comment])
  | plain _ hn => exact ⟨rfl, rfl, hn⟩

theorem Scans.of_plain (hc : IsPlain c x) (hr : r <:+ x) (h : Scans awaited (c :: x) r) :
    Scans awaited x r ∧ (awaited = [] → c ≠ '\r' ∧ c ≠ '\n') := by
  cases h with
  | stop => exact absurd hr.length_le (by simp)
  | step hs h =>
      obtain ⟨rfl, rfl, hn⟩ := hc.eq_of_step hs
      exact ⟨h, hn⟩

/-- Characters that begin nothing and end no line are passed over. -/
theorem scans_append_iff (hp : ∀ c ∈ p, IsOrdinary c ∧ c ≠ '\r' ∧ c ≠ '\n') (hr : r <:+ x) :
    Scans awaited (p ++ x) r ↔ Scans awaited x r := by
  induction p with
  | nil => rfl
  | cons c p ih =>
      obtain ⟨⟨hc, hn⟩, hp⟩ := List.forall_mem_cons.1 hp
      rw [List.cons_append, ← ih hp]
      refine ⟨fun h => (h.of_plain (hc.isPlain _) (hr.trans (List.suffix_append p x))).1, fun h => ?_⟩
      exact .step (.plain (hc.isPlain _) fun _ => hn) h

/-- Outside all brackets a scan passes over blanks, as long as they end no line. -/
theorem Scans.of_blanks (hp : ∀ c ∈ p, IsOrdinary c) (hr : r <:+ x) (h : Scans [] (p ++ x) r) : Scans [] x r := by
  induction p with
  | nil => exact h
  | cons c p ih =>
      obtain ⟨hc, hp⟩ := List.forall_mem_cons.1 hp
      exact ih hp (h.of_plain (hc.isPlain _) (hr.trans (List.suffix_append p x))).1

/-! ### Endings -/

theorem opensHeredoc_dot (hp : '\n' ∉ p) (x : Text) : opensHeredoc (p ++ '.' :: x) = false := by
  refine Bool.eq_false_iff.2 fun h => ?_
  obtain ⟨⟨marker, body⟩, hm⟩ := Option.isSome_iff_exists.1 h
  obtain ⟨w, hw, hc, -⟩ := heredocMarker?_closed hm
  rcases List.append_eq_append_iff.1 hw with ⟨m, rfl, hx⟩ | ⟨m, rfl, hx⟩
  · cases m with
    | nil => cases hx
    | cons d m =>
        obtain ⟨rfl, -⟩ := List.cons.inj hx
        exact (hc '.' (by simp)).2 rfl
  · cases m with
    | nil => cases hx
    | cons d m =>
        obtain ⟨rfl, -⟩ := List.cons.inj hx
        exact hp (by simp)

theorem opensBlockComment_dot (p x y : Text) :
    opensBlockComment (c :: (p ++ '.' :: x)) = opensBlockComment (c :: (p ++ '.' :: y)) := by
  have imp {x y : Text} (h : opensBlockComment (c :: (p ++ '.' :: x)) = true) :
      opensBlockComment (c :: (p ++ '.' :: y)) = true := by
    obtain ⟨t, ht⟩ := opensBlockComment_iff.1 h
    obtain ⟨rfl, hp⟩ := List.cons.inj ht
    cases p with
    | nil => cases hp
    | cons d p =>
        obtain ⟨rfl, -⟩ := List.cons.inj hp
        rfl
  exact Bool.eq_iff_iff.2 ⟨imp, imp⟩

theorem opensComment_dot (p x y : Text) :
    opensComment (c :: (p ++ '.' :: x)) = opensComment (c :: (p ++ '.' :: y)) := by
  have imp {x y : Text} (h : opensComment (c :: (p ++ '.' :: x)) = true) :
      opensComment (c :: (p ++ '.' :: y)) = true := by
    rcases opensComment_cases h with ⟨t, ht⟩ | ⟨t, ht⟩ | ⟨t, ht⟩ <;> obtain ⟨rfl, hp⟩ := List.cons.inj ht
    · rfl
    all_goals
      cases p with
      | nil => cases hp
      | cons d p =>
          obtain ⟨rfl, -⟩ := List.cons.inj hp
          rfl
  exact Bool.eq_iff_iff.2 ⟨imp, imp⟩

/-- What a step takes stands in front of an ending that it does not reach into. -/
theorem cut_of_getLast {w s p e r : Text} {d : Char} (h : w ++ s = p ++ (e ++ r)) (hr : r <:+ s)
    (hd : w.getLast? = some d) (he : d ∉ e) : ∃ p', p = w ++ p' ∧ s = p' ++ (e ++ r) := by
  rcases List.append_eq_append_iff.1 h with ⟨m, rfl, hm⟩ | ⟨m, rfl, hm⟩
  · exact ⟨m, rfl, hm⟩
  · obtain ⟨v, rfl⟩ := hr
    rw [← List.append_assoc] at hm
    obtain rfl := List.append_cancel_right hm
    rcases List.eq_nil_or_concat m with rfl | ⟨m, b, rfl⟩
    · exact ⟨[], by simp, by simp⟩
    · rw [List.concat_eq_append, ← List.append_assoc, List.getLast?_concat] at hd
      obtain rfl := Option.some.inj hd
      exact absurd (by simp) he

/-- Characters that begin nothing are passed over one by one; if they end a scan, no bracket is open and no line ends
among them. -/
theorem Scans.of_ordinary (hm : ∀ d ∈ m, IsOrdinary d) (h : Scans awaited (m ++ r) r) :
    awaited = [] ∧ ∀ d ∈ m, d ≠ '\r' ∧ d ≠ '\n' := by
  induction m with
  | nil => exact ⟨h.eq_nil, fun _ hd => nomatch hd⟩
  | cons c m ih =>
      obtain ⟨hc, hm⟩ := List.forall_mem_cons.1 hm
      obtain ⟨hrest, hn⟩ := h.of_plain (hc.isPlain _) (List.suffix_append m r)
      obtain ⟨rfl, hends⟩ := ih hm hrest
      exact ⟨rfl, List.forall_mem_cons.2 ⟨hn rfl, hends⟩⟩

/-- A line comment inside brackets does not reach the last characters of a scan. -/
theorem Scans.line_end {closing : Char} {outer : List Char} (hp : '\n' ∉ p) (hm : ∀ d ∈ m, IsOrdinary d) :
    ¬Scans (closing :: outer) (skipLine (p ++ '.' :: (m ++ r))) r := by
  intro h
  obtain ⟨w, hw, -, -⟩ := skipLine_local (p ++ '.' :: (m ++ r))
  obtain ⟨u, hu⟩ := h.suffix
  have hline : w ++ u = p ++ '.' :: m := by
    apply (List.append_left_inj r).1
    rw [List.append_assoc, hu, ← hw, List.append_assoc, List.cons_append]
  rw [← hu] at h
  rcases List.append_eq_append_iff.1 hline with ⟨v, rfl, rfl⟩ | ⟨v, rfl, hv⟩
  · have hv : '\n' ∉ v := fun hn => hp (List.mem_append_right w hn)
    rcases skipLine_cases (w ++ v ++ '.' :: (m ++ r)) with hs | ⟨t, hs⟩ | ⟨t, hs⟩ <;> rw [← hu] at hs
    · simp at hs
    · cases v with
      | nil => exact absurd (List.cons.inj hs).1 (by decide)
      | cons d v => exact hv ((List.cons.inj hs).1 ▸ List.mem_cons_self)
    · rcases v with _ | ⟨d, _ | ⟨e, v⟩⟩
      · exact absurd (List.cons.inj hs).1 (by decide)
      · exact absurd (List.cons.inj (List.cons.inj hs).2).1 (by decide)
      · exact hv ((List.cons.inj (List.cons.inj hs).2).1 ▸ by simp)
  · have hordinary : ∀ d ∈ '.' :: m, IsOrdinary d := List.forall_mem_cons.2 ⟨by decide, hm⟩
    have hbehind : ∀ d ∈ u, IsOrdinary d := fun d hd => hordinary d (hv ▸ List.mem_append_right v hd)
    exact absurd (h.of_ordinary hbehind).1 (List.cons_ne_nil closing outer)

/-- A step in front of an ending that begins with a dot takes nothing of the ending, and it does the same in front of
every other such ending. -/
theorem Step.of_ending (hp : '\n' ∉ c :: p) (hm : ∀ d ∈ m, IsOrdinary d)
    (h : Step awaited (c :: (p ++ '.' :: (m ++ r))) awaited' s) (hr : Scans awaited' s r) :
    ∃ p', s = p' ++ '.' :: (m ++ r) ∧ '\n' ∉ p' ∧
      ∀ x, Step awaited (c :: (p ++ '.' :: x)) awaited' (p' ++ '.' :: x) := by
  have hm' : ∀ d ∈ '.' :: m, IsOrdinary d := List.forall_mem_cons.2 ⟨by decide, hm⟩
  have cut {w : Text} {d : Char} (hw : w ++ s = c :: (p ++ '.' :: (m ++ r))) (hd : w.getLast? = some d)
      (ho : ¬IsOrdinary d) : ∃ p', c :: p = w ++ p' ∧ s = p' ++ '.' :: (m ++ r) ∧ '\n' ∉ p' := by
    obtain ⟨p', hp', hs⟩ := cut_of_getLast (p := c :: p) (e := '.' :: m) hw hr.suffix hd fun hd => ho (hm' d hd)
    exact ⟨p', hp', hs, fun hn => hp (hp' ▸ List.mem_append_right w hn)⟩
  cases h with
  | quoted h =>
      obtain ⟨w, hw, hx⟩ := scanString_closed h
      obtain ⟨v, hv⟩ := scanString_ends h
      have hquote : w ++ s = (v ++ ['"']) ++ s := by
        rw [← hw, ← hv, List.append_assoc]
        rfl
      obtain rfl := List.append_cancel_right hquote
      obtain ⟨p', hp', hs, hn⟩ := cut hw.symm List.getLast?_concat (by decide)
      refine ⟨p', hs, hn, fun x => .quoted ?_⟩
      have hscan := hx (p' ++ '.' :: x)
      rwa [← List.append_assoc, ← hp'] at hscan
  | heredoc h =>
      have ho := opensHeredoc_of_scanHeredoc h
      rw [← List.cons_append, opensHeredoc_dot hp] at ho
      cases ho
  | opening h => exact ⟨p, rfl, fun hn => hp (List.mem_cons_of_mem c hn), fun x => .opening h⟩
  | closing h => exact ⟨p, rfl, fun hn => hp (List.mem_cons_of_mem c hn), fun x => .closing h⟩
  | comment hc h =>
      unfold skipComment at h
      split at h
      · next hb =>
          obtain ⟨w, hw, hlast, hx⟩ := skipBlockComment_closed h
          obtain ⟨p', hp', hs, hn⟩ := cut hw.symm hlast (by decide)
          refine ⟨p', hs, hn, fun x => .comment ((opensComment_dot p _ x).symm.trans hc) ?_⟩
          have hscan := hx (p' ++ '.' :: x)
          rw [← List.append_assoc, ← hp'] at hscan
          rw [skipComment, if_pos ((opensBlockComment_dot p _ x).symm.trans hb)]
          exact hscan
      · obtain rfl := Except.ok.inj h
        exact absurd hr (Scans.line_end (p := c :: p) hp hm)
  | plain h hn =>
      refine ⟨p, rfl, fun hn => hp (List.mem_cons_of_mem c hn), fun x => .plain ?_ hn⟩
      exact { h with
        heredoc := opensHeredoc_dot (p := c :: p) hp x
        comment := (opensComment_dot p x _).trans h.comment }

/-- The ending of a scan may be exchanged for another. -/
theorem Scans.of_ending {n : Text} (hm : ∀ d ∈ m, IsOrdinary d)
    (hn : ∀ d ∈ n, IsOrdinary d ∧ d ≠ '\r' ∧ d ≠ '\n') (hp : '\n' ∉ p)
    (h : Scans awaited (p ++ '.' :: (m ++ r)) r) : Scans awaited (p ++ '.' :: (n ++ r)) r := by
  generalize hs : p ++ '.' :: (m ++ r) = s at h
  induction h generalizing p with
  | stop => exact absurd (congrArg List.length hs) (by simp; omega)
  | @step _ _ s s' r hstep h ih =>
      cases p with
      | nil =>
          have hdot : ∀ d ∈ '.' :: m, IsOrdinary d := List.forall_mem_cons.2 ⟨by decide, hm⟩
          have hwhole := Scans.step hstep h
          rw [← hs] at hwhole
          have hline := (hwhole.of_ordinary hdot).2
          have hbehind := (scans_append_iff (fun d hd => ⟨hdot d hd, hline d hd⟩) (List.suffix_refl r)).1 hwhole
          have hending : ∀ d ∈ '.' :: n, IsOrdinary d ∧ d ≠ '\r' ∧ d ≠ '\n' := List.forall_mem_cons.2 ⟨by decide, hn⟩
          exact (scans_append_iff hending (List.suffix_refl r)).2 hbehind
      | cons c p =>
          rw [← hs] at hstep
          obtain ⟨p', hs', hp', hx⟩ := hstep.of_ending hp hm h
          exact .step (hx (n ++ r)) (ih hp' hs'.symm)

end Source

/-! ### References -/

theorem isOrdinary_of_isBlank {c : Char} (h : CharClass.isBlank c = true) : IsOrdinary c := by
  simp only [IsOrdinary, List.mem_cons, List.not_mem_nil, or_false, not_or]
  refine ⟨?_, ?_, ?_, ?_, ?_, ?_, ?_, ?_, ?_, ?_⟩ <;> rintro rfl <;> exact absurd h (by decide)

theorem isOrdinary_of_isSpace {c : Char} (h : isSpace c = true) : IsOrdinary c ∧ c ≠ '\r' ∧ c ≠ '\n' := by
  rcases (by simpa [isSpace] using h : c = ' ' ∨ c = '\t') with rfl | rfl <;> decide

/-- The ending of a traversal, with blanks behind it, may be exchanged in front of the end of a scan. -/
theorem scans_uuidEnding {blanks t behind b stop : Text} (hblank : ∀ c ∈ blanks, CharClass.isBlank c = true)
    (hbehind : ∀ c ∈ behind, CharClass.isBlank c = true)
    (ht : Reference.isTraversal (t ++ Reference.nameEnding) = true) (hb : ∀ c ∈ b, isSpace c = true)
    (h : Scans [] (blanks ++ (t ++ (Reference.nameEnding ++ (behind ++ (b ++ stop))))) stop) :
    Scans [] (t ++ (Reference.uuidEnding ++ (b ++ stop))) stop := by
  have hline : '\n' ∉ t := fun hn =>
    Reference.newline_not_mem_of_isTraversal ht (List.mem_append_left Reference.nameEnding hn)
  have hname : ∀ c ∈ ['n', 'a', 'm', 'e'] ++ (behind ++ b), IsOrdinary c := by
    refine List.forall_mem_append.2 ⟨by simp [IsOrdinary], List.forall_mem_append.2 ⟨fun c hc => ?_, fun c hc => ?_⟩⟩
    · exact isOrdinary_of_isBlank (hbehind c hc)
    · exact (isOrdinary_of_isSpace (hb c hc)).1
  have huuid : ∀ c ∈ ['u', 'u', 'i', 'd'] ++ b, IsOrdinary c ∧ c ≠ '\r' ∧ c ≠ '\n' :=
    List.forall_mem_append.2 ⟨by simp [IsOrdinary], fun c hc => isOrdinary_of_isSpace (hb c hc)⟩
  have hplain := h.of_blanks (fun c hc => isOrdinary_of_isBlank (hblank c hc)) (by
    simp only [← List.append_assoc]
    exact List.suffix_append _ stop)
  rw [Reference.nameEnding_eq] at hplain
  rw [Reference.uuidEnding_eq]
  have hscan := Scans.of_ending (r := stop) hname huuid hline (by simpa using hplain)
  simpa using hscan

theorem ne_of_opensName {c d : Char} (h : Reference.opensName c = true) (hd : Reference.opensName d = false) : c ≠ d :=
  fun hcd => by
    rw [hcd, hd] at h
    cases h

theorem isSpace_of_opensName {c : Char} (h : Reference.opensName c = true) : isSpace c = false := by
  simp [isSpace, ne_of_opensName h (show Reference.opensName ' ' = false by decide),
    ne_of_opensName h (show Reference.opensName '\t' = false by decide)]

theorem stopsExpression_of_opensName {c : Char} (h : Reference.opensName c = true) (s : Text) :
    stopsExpression (c :: s) = false := by
  have hcomment : opensComment (c :: s) = false := Bool.eq_false_iff.2 fun ho => by
    rcases head?_of_opensComment ho with ho | ho <;> exact ne_of_opensName h (by decide) (Option.some.inj ho)
  simp [stopsExpression, hcomment, ne_of_opensName h (show Reference.opensName '\r' = false by decide),
    ne_of_opensName h (show Reference.opensName '\n' = false by decide),
    ne_of_opensName h (show Reference.opensName '}' = false by decide)]

/-- An attribute whose expression is rewritten fits with the new one. -/
theorem Attribute.Fits.upgraded {a : Attribute} {r u : Text} (h : a.Fits r)
    (hu : Reference.upgraded? a.expr = some u) : ({ a with expr := u }).Fits r := by
  obtain ⟨t, ht, htr, rfl⟩ := Reference.upgraded?_eq_some hu
  obtain ⟨blanks, behind, hexpr, hblank, hbehind⟩ := Reference.trim_blanks a.expr
  rw [ht] at hexpr
  obtain ⟨b, stop, hb, hsp, hscan⟩ := h.stop
  rw [hb, hexpr] at hscan
  have hscan' := scans_uuidEnding hblank hbehind htr hsp (by simpa using scanExpression_eq_ok.1 hscan)
  have hlast : (t ++ Reference.uuidEnding).getLast? = some 'd' := by
    rw [Reference.uuidEnding_eq, List.getLast?_append_of_ne_nil _ (List.cons_ne_nil _ _)]
    rfl
  obtain ⟨c, q, rfl, hc⟩ := Reference.nonempty_of_isTraversal htr
  exact {
    name := h.name
    sep := h.sep
    value := fun _ he => ne_of_opensName hc (by decide) (Option.some.inj he)
    nonempty := List.cons_ne_nil _ _
    start := isSpace_of_opensName hc
    trimmed := Text.trimEnd_eq_self (by rw [hlast]; rfl)
    expr := stopsExpression_of_opensName hc _
    stop := ⟨b, stop, hb, hsp, scanExpression_eq_ok.2 (by rw [hb]; simpa using hscan')⟩
    tail := h.tail }

end JujuMigration
