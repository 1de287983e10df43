import Mathlib.Data.List.Basic
import JujuMigration.Proofs.Source.Expression
/-! Gaps and the ends of lines. A gap, less the blanks at its end, is skipped in front of every text. The end of a line
is skipped in front of every text if it has a line feed; if not, it stops at the end or at a closing brace. -/

namespace JujuMigration.Source

theorem skipLine_cases (s : Text) :
    skipLine s = [] ∨ (∃ r, skipLine s = '\n' :: r) ∨ ∃ r, skipLine s = '\r' :: '\n' :: r := by
  fun_induction skipLine s with
  | case1 => exact .inl rfl
  | case2 r => exact .inr (.inl ⟨r, rfl⟩)
  | case3 r => exact .inr (.inr ⟨r, rfl⟩)
  | case4 c r _ _ ih => exact ih

/-! ### Gaps -/

/-- Skipping does not stop inside the text, whatever is behind it. -/
def IsGap (t : Text) : Prop := ∀ r, skipGap (t ++ r) = skipGap r

theorem isGap_nil : IsGap [] := fun _ => rfl

theorem IsGap.append {t u : Text} (ht : IsGap t) (hu : IsGap u) : IsGap (t ++ u) := fun r => by
  rw [List.append_assoc, ht, hu]

theorem skipGap_cons {c : Char} (h : isGapChar c = true) (r : Text) : skipGap (c :: r) = skipGap r := by
  rw [skipGap, if_pos h]

theorem isGap_of_forall {t : Text} (h : ∀ c ∈ t, isGapChar c = true) : IsGap t := by
  induction t with
  | nil => exact isGap_nil
  | cons c t ih =>
      obtain ⟨hc, ht⟩ := List.forall_mem_cons.1 h
      exact fun r => (skipGap_cons hc _).trans (ih ht r)

theorem isGapChar_of_isSpace {c : Char} (h : isSpace c = true) : isGapChar c = true := by simp [isGapChar, h]

theorem isGapChar_eq_false {s : Text} (h : opensComment s = true) : s.head?.any isGapChar = false := by
  rcases opensComment_cases h with ⟨t, rfl⟩ | ⟨t, rfl⟩ | ⟨t, rfl⟩ <;> rfl

theorem skipGap_comment {s r : Text} (hc : opensComment s = true) (h : skipComment s = .ok r) :
    skipGap s = skipGap r := by
  cases s with
  | nil => simp [opensComment, opensBlockComment] at hc
  | cons c t =>
      have hg : isGapChar c = false := by simpa using isGapChar_eq_false hc
      rw [skipGap]
      simp only [hg, hc, Bool.false_eq_true, if_false, dif_pos]
      split
      · next h' => rw [Except.ok.inj (h.symm.trans h')]
      · next h' => simp [h] at h'

theorem skipGap_self {c : Char} {r : Text} (hg : isGapChar c = false) (hc : opensComment (c :: r) = false) :
    skipGap (c :: r) = .ok (c :: r) := by
  rw [skipGap]
  simp only [hg, hc, Bool.false_eq_true, if_false, dite_false]

/-- A gap ends where an item or a closing brace stands. -/
theorem head?_of_skipGap {s r : Text} (h : skipGap s = .ok r) :
    r.head?.any isGapChar = false ∧ opensComment r = false := by
  fun_induction skipGap s with
  | case1 =>
      obtain rfl := Except.ok.inj h
      exact ⟨rfl, rfl⟩
  | case2 _ _ _ ih => exact ih h
  | case3 _ _ _ _ _ _ _ ih => exact ih h
  | case4 => simp at h
  | case5 c t hg hc =>
      obtain rfl := Except.ok.inj h
      exact ⟨by simpa using hg, by simpa using hc⟩

/-- The line end behind a comment belongs to the gap. -/
theorem alike_of_line_end {g r : Text} (hs : skipLine (g ++ r) = g ++ r) (hr : r ≠ [])
    (hg : r.head?.any isGapChar = false) :
    Text.trimEnd isSpace g ≠ [] ∧ ∀ r', Alike (g ++ r) (Text.trimEnd isSpace g ++ r') := by
  have hsp : isSpace '\n' = false ∧ isSpace '\r' = false := by decide
  rcases skipLine_cases (g ++ r) with h | ⟨u, h⟩ | ⟨u, h⟩ <;> rw [hs] at h
  · simp [hr] at h
  · cases g with
    | nil =>
        rw [List.nil_append] at h
        simp [h, isGapChar] at hg
    | cons c g =>
        obtain ⟨rfl, rfl⟩ := List.cons.inj h
        rw [Text.trimEnd_cons (.inr hsp.1)]
        exact ⟨by simp, fun r' => .line _ _⟩
  · cases g with
    | nil =>
        rw [List.nil_append] at h
        simp [h, isGapChar] at hg
    | cons c g =>
        obtain ⟨rfl, h'⟩ := List.cons.inj h
        cases g with
        | nil =>
            obtain rfl : r = '\n' :: u := h'
            simp [isGapChar] at hg
        | cons c g =>
            obtain ⟨rfl, rfl⟩ := List.cons.inj h'
            rw [Text.trimEnd_cons (.inr hsp.2), Text.trimEnd_cons (.inr hsp.1)]
            exact ⟨by simp, fun r' => .cons _ (.line _ _)⟩

theorem skipLine_skipLine (s : Text) : skipLine (skipLine s) = skipLine s := by
  rcases skipLine_cases s with h | ⟨u, h⟩ | ⟨u, h⟩ <;> rw [h] <;> rfl

/-- A comment in a gap goes on to be skipped when the blanks behind the gap are cut off. -/
theorem isGap_comment {s g r : Text} (hc : opensComment s = true) (h : skipComment s = .ok (g ++ r)) (hr : r ≠ [])
    (hn : r.head?.any isGapChar = false) (hg : IsGap (Text.trimEnd isSpace g)) :
    ∃ p, s = p ++ (g ++ r) ∧ IsGap (Text.trimEnd isSpace (p ++ g)) := by
  unfold skipComment at h
  split at h
  · next hb =>
      obtain ⟨p, rfl, hlast, hp⟩ := skipBlockComment_closed h
      refine ⟨p, rfl, ?_⟩
      have hstep (r' : Text) : skipGap (p ++ r') = skipGap r' := by
        have hb' : opensBlockComment (p ++ r') = true := by
          have hp' := hp []
          match p with
          | [] | [_] => simp [skipBlockComment, afterCommentEnd?] at hp'
          | a :: b :: q =>
              obtain ⟨u, hu⟩ := opensBlockComment_iff.1 hb
              obtain ⟨rfl, hu'⟩ := List.cons.inj hu
              obtain ⟨rfl, -⟩ := List.cons.inj hu'
              rfl
        refine skipGap_comment ?_ (by rw [skipComment, if_pos hb', hp r'])
        obtain ⟨u, hu⟩ := opensBlockComment_iff.1 hb'
        rw [hu]
        rfl
      by_cases he : Text.trimEnd isSpace g = []
      · rw [Text.trimEnd_append_of_forall (Text.trimEnd_eq_nil.1 he), Text.trimEnd_eq_self (by rw [hlast]; rfl)]
        exact hstep
      · rw [Text.trimEnd_append_of_ne_nil he]
        exact IsGap.append hstep hg
  · next hb =>
      obtain ⟨p, hp, -, hl⟩ := skipLine_local s
      rw [Except.ok.inj h] at hp hl
      obtain ⟨hne, ha⟩ := alike_of_line_end (Except.ok.inj h ▸ skipLine_skipLine s) hr hn
      refine ⟨p, hp, fun r' => ?_⟩
      subst hp
      have hal := (ha r').append p
      rw [Text.trimEnd_append_of_ne_nil hne, List.append_assoc, ← hg r']
      refine skipGap_comment (hal.opensComment ▸ hc) ?_
      rw [skipComment, ← hal.opensBlockComment, if_neg hb, hl _ (ha r')]

theorem skipGap_local {s r : Text} (h : skipGap s = .ok r) (hr : r ≠ []) :
    ∃ g, s = g ++ r ∧ IsGap (Text.trimEnd isSpace g) := by
  fun_induction skipGap s with
  | case1 =>
      obtain rfl := Except.ok.inj h
      exact absurd rfl hr
  | case2 c t hc ih =>
      obtain ⟨g, rfl, hg⟩ := ih h
      refine ⟨c :: g, rfl, ?_⟩
      by_cases hk : Text.trimEnd isSpace g ≠ [] ∨ isSpace c = false
      · rw [Text.trimEnd_cons hk]
        exact fun r => (skipGap_cons hc _).trans (hg r)
      · have he : Text.trimEnd isSpace (c :: g) = [] := by
          rw [Text.trimEnd_eq_nil]
          simpa [Text.trimEnd_eq_nil, and_comm] using hk
        rw [he]
        exact isGap_nil
  | case3 c t _ hc rest hk _ ih =>
      obtain ⟨g, rfl, hg⟩ := ih h
      obtain ⟨p, hp, hpg⟩ := isGap_comment hc hk hr (head?_of_skipGap h).1 hg
      exact ⟨p ++ g, by rw [hp, List.append_assoc], hpg⟩
  | case4 => simp at h
  | case5 =>
      obtain rfl := Except.ok.inj h
      exact ⟨[], rfl, isGap_nil⟩

/-- What is skipped up to the end of everything is skipped in front of every text if it ends a line. -/
theorem isGap_of_line_end {s : Text} (h : skipGap s = .ok []) (hend : s.getLast? = some '\n') : IsGap s := by
  fun_induction skipGap s with
  | case1 => cases hend
  | case2 c t hc ih =>
      intro r
      rw [List.cons_append, skipGap_cons hc]
      rcases List.eq_nil_or_concat' t with rfl | ⟨u, d, rfl⟩
      · rfl
      · rw [List.getLast?_cons] at hend
        exact ih h (by simpa using hend) r
  | case3 c t _ hc rest hk _ ih =>
      obtain ⟨p, hp, hlast, hpl⟩ := skipComment_local hk
      have hrest : rest.getLast? = some '\n' := by
        rcases List.eq_nil_or_concat' rest with rfl | ⟨u, d, rfl⟩
        · rw [hp, List.append_nil] at hend
          exact absurd hend hlast
        · rwa [hp, List.getLast?_append_of_ne_nil _ (by simp)] at hend
      intro r
      have hl : Alike rest (rest ++ r) := by
        have hmem := Alike.append_of_mem (List.mem_of_getLast? hrest) [] r
        rwa [List.append_nil] at hmem
      rw [hp, List.append_assoc, skipGap_comment ((hl.append p).opensComment ▸ hp ▸ hc) (hpl _ hl)]
      exact ih h hrest r
  | case4 => simp at h
  | case5 => cases h

/-! ### The end of a line -/

theorem skipLineTail_nil {s : Text} (h : skipSpaces s = []) : skipLineTail s = .ok [] := by
  rw [skipLineTail.eq_def]
  split
  · rfl
  · next h' => simp [h] at h'

theorem skipLineTail_line {s r : Text} (h : skipSpaces s = '\n' :: r) : skipLineTail s = .ok r := by
  rw [skipLineTail.eq_def]
  split
  · next h' => simp [h] at h'
  · next h' =>
      obtain ⟨rfl, rfl⟩ := List.cons.inj (h.symm.trans h')
      rfl

theorem skipLineTail_return {s r : Text} (h : skipSpaces s = '\r' :: '\n' :: r) : skipLineTail s = .ok r := by
  rw [skipLineTail.eq_def]
  split
  · next h' => simp [h] at h'
  · next h' =>
      obtain ⟨rfl, rfl⟩ := List.cons.inj (h.symm.trans h')
      rfl

theorem skipLineTail_brace {s r : Text} (h : skipSpaces s = '}' :: r) : skipLineTail s = .ok ('}' :: r) := by
  rw [skipLineTail.eq_def]
  split
  · next h' => simp [h] at h'
  · next h' =>
      obtain ⟨rfl, rfl⟩ := List.cons.inj (h.symm.trans h')
      rfl

theorem skipLineTail_comment {s u r : Text} (h : skipSpaces s = u) (hc : opensComment u = true)
    (hr : skipComment u = .ok r) : skipLineTail s = skipLineTail r := by
  rw [skipLineTail.eq_def]
  split
  · next h' =>
      rw [← h, h'] at hc
      simp [opensComment, opensBlockComment] at hc
  · next c t h' =>
      obtain rfl : u = c :: t := h.symm.trans h'
      have hn : c ≠ '\n' ∧ c ≠ '\r' ∧ c ≠ '}' := by
        rcases head?_of_opensComment hc with hd | hd <;> obtain rfl := Option.some.inj hd <;> decide
      rw [if_neg hn.1, if_neg (fun h => hn.2.1 h.1), if_neg hn.2.2, dif_pos hc]
      split
      · next h' => rw [Except.ok.inj (hr.symm.trans h')]
      · next h' => simp [hr] at h'

/-- Whether a body ends in front of the text, at the end of everything or at a closing brace. -/
def endsBody (s : Text) : Bool := s.head?.all (· == '}')

theorem endsBody_iff {s : Text} : endsBody s = true ↔ s = [] ∨ ∃ r, s = '}' :: r := by
  cases s <;> simp [endsBody]

/-- What may stand behind `p` in place of `r`: every text if `p` ends a line, else one that ends a body as `r`
does. -/
def Follows (p r r' : Text) : Prop := p.getLast? = some '\n' ∨ endsBody r = true ∧ r'.head? = r.head?

theorem Follows.alike {p r r' : Text} (h : Follows p r r') : Alike (p ++ r) (p ++ r') := by
  rcases h with h | ⟨h, hr⟩
  · exact .append_of_mem (List.mem_of_getLast? h) _ _
  · refine .append p ?_
    rcases endsBody_iff.1 h with rfl | ⟨r, rfl⟩
    · obtain rfl : r' = [] := List.head?_eq_none_iff.1 hr
      exact .finish
    · obtain ⟨u, rfl⟩ := List.head?_eq_some_iff.1 hr
      exact .brace _ _

/-- If `a` ends no line, what may stand behind `a` and `q` may stand behind `q`. -/
theorem Follows.of_append {a q r x : Text} (hlast : a.getLast? ≠ some '\n') (h : Follows (a ++ q) r x) :
    Follows q r x := by
  cases q with
  | nil =>
      rw [List.append_nil] at h
      exact .inr (h.resolve_left hlast)
  | cons c q => rwa [Follows, List.getLast?_append_of_ne_nil _ (List.cons_ne_nil c q)] at h

theorem takeWhile_append_skipSpaces (s : Text) : s.takeWhile isSpace ++ skipSpaces s = s :=
  List.takeWhile_append_dropWhile

theorem getLast?_takeWhile_isSpace (s : Text) : (s.takeWhile isSpace).getLast? ≠ some '\n' := fun h =>
  absurd (List.mem_takeWhile_imp (List.mem_of_getLast? h)) (by decide)

/-- What is skipped up to the end of a line ends the line or stands in front of the end of a body. -/
theorem skipLineTail_local {s r : Text} (h : skipLineTail s = .ok r) :
    ∃ p, s = p ++ r ∧ Follows p r r ∧ ∀ r', Follows p r r' → skipLineTail (p ++ r') = .ok r' := by
  have hblanks := takeWhile_append_skipSpaces s
  fun_induction skipLineTail s with
  | case1 s hs =>
      obtain rfl := Except.ok.inj h
      refine ⟨s.takeWhile isSpace, by rw [← hs, hblanks], .inr ⟨rfl, rfl⟩, fun r' hr => ?_⟩
      rcases hr with hr | ⟨-, hr⟩
      · exact absurd hr (getLast?_takeWhile_isSpace s)
      · obtain rfl : r' = [] := List.head?_eq_none_iff.1 hr
        exact skipLineTail_nil (skipSpaces_append (by rw [hs]))
  | case2 s t hs =>
      obtain rfl := Except.ok.inj h
      refine ⟨s.takeWhile isSpace ++ ['\n'], by simp [← hs, hblanks], .inl (by simp), fun r' _ => ?_⟩
      rw [List.append_assoc]
      exact skipLineTail_line (skipSpaces_append (by rw [hs]; rfl))
  | case3 s c t hs hn hc =>
      obtain rfl := Except.ok.inj h
      obtain ⟨rfl, ht⟩ := hc
      obtain ⟨u, rfl⟩ := List.head?_eq_some_iff.1 ht
      refine ⟨s.takeWhile isSpace ++ ['\r', '\n'], by simp [← hs, hblanks], .inl (by simp), fun r' _ => ?_⟩
      rw [List.append_assoc]
      exact skipLineTail_return (skipSpaces_append (by rw [hs]; rfl))
  | case4 s t hs =>
      obtain rfl := Except.ok.inj h
      refine ⟨s.takeWhile isSpace, by rw [← hs, hblanks], .inr ⟨rfl, rfl⟩, fun r' hr => ?_⟩
      rcases hr with hr | ⟨-, hr⟩
      · exact absurd hr (getLast?_takeWhile_isSpace s)
      · obtain ⟨u, rfl⟩ := List.head?_eq_some_iff.1 hr
        exact skipLineTail_brace (skipSpaces_append (by rw [hs]; rfl))
  | case5 s c t hs hn hr hbr hc rest hk _ _ ih =>
      obtain ⟨q, rfl, hq, ih⟩ := ih h (takeWhile_append_skipSpaces _)
      obtain ⟨p, hp, hlast, hpl⟩ := skipComment_local hk
      have hne : p ≠ [] := by
        rintro rfl
        have := skipComment_length_lt hc hk
        rw [hp] at this
        simp at this
      have hends : (s.takeWhile isSpace ++ p).getLast? ≠ some '\n' := by
        rwa [List.getLast?_append_of_ne_nil _ hne]
      refine ⟨s.takeWhile isSpace ++ p ++ q, ?_, ?_, fun r' hr' => ?_⟩
      · rw [List.append_assoc, List.append_assoc, ← hp, ← hs, hblanks]
      · exact hq.imp_left fun h => by rw [List.getLast?_append, h]; rfl
      · have hq' := hr'.of_append hends
        have hhead : (p ++ (q ++ r')).head? = (skipSpaces s).head? := by
          rw [hs, hp]
          exact (hq'.alike.append p).symm.head?
        rw [List.append_assoc, List.append_assoc]
        rw [skipLineTail_comment (skipSpaces_append hhead) ?_ (hpl _ hq'.alike), ih r' hq']
        exact (hq'.alike.append p).opensComment ▸ hp ▸ hc
  | case6 => simp at h
  | case7 => simp at h

end JujuMigration.Source
