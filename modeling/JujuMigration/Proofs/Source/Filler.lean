import JujuMigration.Proofs.Source.Gap
/-! What is skipped. Between items, and behind an item up to the end of its line, the scanners pass over blanks and
comments, each of them a whole one: a block comment up to the first `*/`, a line comment up to a line end or to the end
of everything. -/

namespace JujuMigration.Source

/-- A comment from `/*` to the first `*/` behind it. -/
def IsBlockComment (t : Text) : Prop :=
  ∃ x, t = '/' :: '*' :: (x ++ ['*', '/']) ∧ ¬['*', '/'] <:+: x ++ ['*']

/-- A comment that reaches to the end of a line, without the line end. -/
def IsLineComment (t : Text) : Prop := ∃ x, (t = '#' :: x ∨ t = '/' :: '/' :: x) ∧ '\n' ∉ x

def OpensLineEnd (t : Text) : Prop := (∃ r, t = '\n' :: r) ∨ ∃ r, t = '\r' :: '\n' :: r

/-- Between the texts is the first line end behind the beginning of `c`, or the end of the text. -/
def EndsLine (c r : Text) : Prop :=
  r = [] ∨ (∃ q, r = '\r' :: '\n' :: q) ∨ c.getLast? ≠ some '\r' ∧ ∃ q, r = '\n' :: q

/-- A whole comment in front of `r`: one that closes itself, or one up to the first line end. -/
inductive IsComment : Text → Text → Prop
  | block {c r : Text} (h : IsBlockComment c) : IsComment c r
  | line {c r : Text} (h : IsLineComment c) (hend : EndsLine c r) : IsComment c r

/-- Blanks and whole comments, and one of the ends. A line comment stands in front of a line end, or it is the last of
the text if that is `final`. -/
inductive Filler (blank : Char → Bool) (ends : List Text) (final : Prop) : Text → Prop
  | stop {t : Text} (ht : t ∈ ends) : Filler blank ends final t
  | blank {c : Char} {t : Text} (hc : blank c = true) (h : Filler blank ends final t) : Filler blank ends final (c :: t)
  | block {c t : Text} (hc : IsBlockComment c) (h : Filler blank ends final t) : Filler blank ends final (c ++ t)
  | line {c t : Text} (hc : IsLineComment c) (hends : OpensLineEnd t ∨ t = [] ∧ final)
      (h : Filler blank ends final t) : Filler blank ends final (c ++ t)

/-- What may stand between items. -/
def IsTrivia (final : Prop) (t : Text) : Prop := Filler isGapChar [[]] final t

/-- What may stand behind an item on its line. -/
def IsLineTail (final : Prop) (t : Text) : Prop := Filler isSpace [[], ['\n'], ['\r', '\n']] final t

section

variable {blank : Char → Bool} {ends : List Text} {final final' : Prop} {p r t : Text}

theorem Filler.mono (hf : final → final') (h : Filler blank ends final t) : Filler blank ends final' t := by
  induction h with
  | stop ht => exact .stop ht
  | blank hc _ ih => exact .blank hc ih
  | block hc _ ih => exact .block hc ih
  | line hc hends _ ih => exact .line hc (hends.imp_right fun h => ⟨h.1, hf h.2⟩) ih

theorem Filler.blanks (hp : ∀ c ∈ p, blank c = true) (h : Filler blank ends final t) :
    Filler blank ends final (p ++ t) := by
  induction p with
  | nil => exact h
  | cons c p ih =>
      obtain ⟨hc, hp⟩ := List.forall_mem_cons.1 hp
      exact .blank hc (ih hp)

/-- A line end is not cut in two where a text ends in a line feed, or where no line end can begin behind it. -/
theorem OpensLineEnd.of_append (h : OpensLineEnd (p ++ r))
    (hr : p.getLast? = some '\n' ∨ r.head?.any isGapChar = false) : OpensLineEnd p := by
  have hnot {c : Char} (hc : isGapChar c = true) (hlast : p.getLast? ≠ some '\n') (u : Text) : r ≠ c :: u := by
    rintro rfl
    have hfalse : isGapChar c = false := hr.resolve_left hlast
    rw [hc] at hfalse
    cases hfalse
  rcases h with ⟨u, h⟩ | ⟨u, h⟩
  · cases p with
    | nil => exact absurd h (hnot rfl (by simp) u)
    | cons c p =>
        obtain ⟨rfl, -⟩ := List.cons.inj h
        exact .inl ⟨p, rfl⟩
  · match p with
    | [] => exact absurd h (hnot rfl (by simp) ('\n' :: u))
    | [c] =>
        obtain ⟨rfl, hbehind⟩ := List.cons.inj h
        exact absurd hbehind (hnot rfl (by decide) u)
    | c :: d :: p =>
        obtain ⟨rfl, hbehind⟩ := List.cons.inj h
        obtain ⟨rfl, -⟩ := List.cons.inj hbehind
        exact .inr ⟨p, rfl⟩

/-- A line comment in front of what goes on with `p` is whole. -/
theorem Filler.comment (hc : IsLineComment t) (hends : OpensLineEnd (p ++ r) ∨ p ++ r = [])
    (hr : p.getLast? = some '\n' ∨ r.head?.any isGapChar = false) (h : Filler blank ends (r = []) p) :
    Filler blank ends (r = []) (t ++ p) := by
  refine .line hc ?_ h
  rcases hends with hline | hnil
  · exact .inl (hline.of_append hr)
  · exact .inr (List.append_eq_nil_iff.1 hnil)

end

/-! ### Comments -/

theorem afterCommentEnd?_cut {s r : Text} (h : afterCommentEnd? s = some r) :
    ∃ x, s = x ++ '*' :: '/' :: r ∧ ¬['*', '/'] <:+: x ++ ['*'] := by
  fun_induction afterCommentEnd? s with
  | case1 => cases h
  | case2 t =>
      obtain rfl := Option.some.inj h
      exact ⟨[], rfl, by decide⟩
  | case3 c t hno ih =>
      obtain ⟨x, rfl, hx⟩ := ih h
      refine ⟨c :: x, rfl, fun hinfix => ?_⟩
      rcases List.infix_cons_iff.1 hinfix with hprefix | hinfix
      · obtain ⟨rfl, hslash⟩ := List.cons_prefix_cons.1 hprefix
        obtain ⟨u, hu⟩ := hslash
        cases x with
        | nil => cases hu
        | cons d x =>
            obtain ⟨rfl, -⟩ := List.cons.inj hu
            exact hno _ rfl rfl
      · exact hx hinfix

theorem afterCommentEnd?_of_first {x : Text} (hx : ¬['*', '/'] <:+: x ++ ['*']) (r : Text) :
    afterCommentEnd? (x ++ '*' :: '/' :: r) = some r := by
  induction x with
  | nil => rfl
  | cons c x ih =>
      rw [List.cons_append, afterCommentEnd?, ih fun h => hx (List.infix_cons h)]
      rintro q rfl hq
      refine hx (List.IsPrefix.isInfix ?_)
      cases x with
      | nil => exact absurd (List.cons.inj hq).1 (by decide)
      | cons d x =>
          obtain rfl : d = '/' := (List.cons.inj hq).1
          exact ⟨x ++ ['*'], rfl⟩

theorem EndsLine.opens {c r : Text} (h : EndsLine c r) : OpensLineEnd r ∨ r = [] := by
  rcases h with rfl | h | ⟨-, h⟩
  · exact .inr rfl
  · exact .inl (.inr h)
  · exact .inl (.inl h)

theorem endsLine_cons {c : Char} {x r : Text} :
    EndsLine (c :: x) r ↔ EndsLine x r ∧ (x = [] → c = '\r' → ∀ q, r ≠ '\n' :: q) := by
  cases x with
  | nil =>
      constructor
      · rintro (rfl | hreturn | ⟨hlast, hline⟩)
        · exact ⟨.inl rfl, fun _ _ q h => nomatch h⟩
        · refine ⟨.inr (.inl hreturn), fun _ _ q hq => ?_⟩
          obtain ⟨t, rfl⟩ := hreturn
          exact absurd (List.cons.inj hq).1 (by decide)
        · exact ⟨.inr (.inr ⟨by simp, hline⟩), fun _ hc => absurd (congrArg some hc) hlast⟩
      · rintro ⟨rfl | hreturn | ⟨-, q, hq⟩, hc⟩
        · exact .inl rfl
        · exact .inr (.inl hreturn)
        · exact .inr (.inr ⟨fun hlast => hc rfl (Option.some.inj hlast) q hq, q, hq⟩)
  | cons d x =>
      rw [EndsLine, EndsLine, List.getLast?_cons_cons]
      exact (and_iff_left fun h => nomatch h).symm

theorem EndsLine.skipLine {x r : Text} (h : EndsLine x r) (hx : '\n' ∉ x) : skipLine (x ++ r) = r := by
  induction x with
  | nil =>
      rcases h with rfl | ⟨q, rfl⟩ | ⟨-, q, rfl⟩ <;> rfl
  | cons c x ih =>
      obtain ⟨hc, hline⟩ := List.ne_and_not_mem_of_not_mem_cons hx
      obtain ⟨h, hreturn⟩ := endsLine_cons.1 h
      rw [List.cons_append, Source.skipLine, ih h hline]
      · exact Ne.symm hc
      · rintro q rfl hq
        cases x with
        | nil => exact hreturn rfl rfl q hq
        | cons d x =>
            obtain rfl : d = '\n' := (List.cons.inj hq).1
            exact hline List.mem_cons_self

theorem exists_skipLine (s : Text) : ∃ x, s = x ++ skipLine s ∧ '\n' ∉ x ∧ EndsLine x (skipLine s) := by
  fun_induction skipLine s with
  | case1 => exact ⟨[], rfl, List.not_mem_nil, .inl rfl⟩
  | case2 r => exact ⟨[], rfl, List.not_mem_nil, .inr (.inr ⟨by simp, r, rfl⟩)⟩
  | case3 r => exact ⟨[], rfl, List.not_mem_nil, .inr (.inl ⟨r, rfl⟩)⟩
  | case4 c r hc hreturn ih =>
      obtain ⟨x, hx, hline, hend⟩ := ih
      refine ⟨c :: x, congrArg (c :: ·) hx, by simp [hline, Ne.symm hc], endsLine_cons.2 ⟨hend, ?_⟩⟩
      rintro rfl rfl q hq
      exact hreturn q rfl (by rw [hx, hq]; rfl)

/-- What is skipped as a comment is a whole one. -/
theorem skipComment_cut {s r : Text} (hopens : opensComment s = true) (h : skipComment s = .ok r) :
    ∃ c, s = c ++ r ∧ IsComment c r := by
  rcases opensComment_cases hopens with ⟨t, rfl⟩ | ⟨t, rfl⟩ | ⟨t, rfl⟩
  · obtain rfl : skipLine t = r := Except.ok.inj h
    obtain ⟨x, hx, hline, hend⟩ := exists_skipLine t
    refine ⟨'#' :: x, congrArg ('#' :: ·) hx, .line ⟨x, .inl rfl, hline⟩ (endsLine_cons.2 ⟨hend, ?_⟩)⟩
    exact fun _ h => absurd h (by decide)
  · obtain rfl : skipLine t = r := Except.ok.inj h
    obtain ⟨x, hx, hline, hend⟩ := exists_skipLine t
    refine ⟨'/' :: '/' :: x, congrArg ('/' :: '/' :: ·) hx, .line ⟨x, .inr rfl, hline⟩ ?_⟩
    refine endsLine_cons.2 ⟨endsLine_cons.2 ⟨hend, ?_⟩, ?_⟩ <;> exact fun _ h => absurd h (by decide)
  · have hblock : skipBlockComment ('/' :: '*' :: t) = .ok r := h
    unfold skipBlockComment at hblock
    split at hblock
    · next u hu =>
        obtain rfl := Except.ok.inj hblock
        obtain ⟨x, hx, hfirst⟩ := afterCommentEnd?_cut hu
        obtain rfl : t = x ++ '*' :: '/' :: u := hx
        exact ⟨'/' :: '*' :: (x ++ ['*', '/']), by simp, .block ⟨x, rfl, hfirst⟩⟩
    · cases hblock

/-- A whole comment is skipped as one. -/
theorem IsComment.skipComment {c r : Text} (h : IsComment c r) :
    opensComment (c ++ r) = true ∧ skipComment (c ++ r) = .ok r := by
  cases h with
  | block h =>
      obtain ⟨x, rfl, hx⟩ := h
      refine ⟨rfl, ?_⟩
      have hfirst : afterCommentEnd? (x ++ ['*', '/'] ++ r) = some r := by
        rw [List.append_assoc]
        exact afterCommentEnd?_of_first hx r
      show skipBlockComment ('/' :: '*' :: (x ++ ['*', '/'] ++ r)) = .ok r
      rw [skipBlockComment, show ('/' :: '*' :: (x ++ ['*', '/'] ++ r)).drop 2 = x ++ ['*', '/'] ++ r from rfl, hfirst]
  | line h hend =>
      obtain ⟨x, rfl | rfl, hx⟩ := h
      · exact ⟨rfl, congrArg Except.ok ((endsLine_cons.1 hend).1.skipLine hx)⟩
      · exact ⟨rfl, congrArg Except.ok ((endsLine_cons.1 (endsLine_cons.1 hend).1).1.skipLine hx)⟩

/-! ### Gaps and the ends of lines -/

theorem isTrivia_of_skipGap {s r : Text} (h : skipGap s = .ok r) : ∃ p, s = p ++ r ∧ IsTrivia (r = []) p := by
  fun_induction skipGap s with
  | case1 =>
      obtain rfl := Except.ok.inj h
      exact ⟨[], rfl, .stop List.mem_cons_self⟩
  | case2 c t hc ih =>
      obtain ⟨p, rfl, hp⟩ := ih h
      exact ⟨c :: p, rfl, .blank hc hp⟩
  | case3 c t _ hc rest hk _ ih =>
      obtain ⟨p, rfl, hp⟩ := ih h
      obtain ⟨x, hx, hcomment⟩ := skipComment_cut hc hk
      refine ⟨x ++ p, by rw [hx, List.append_assoc], ?_⟩
      cases hcomment with
      | block hblock => exact .block hblock hp
      | line hline hend => exact .comment hline hend.opens (.inr (head?_of_skipGap h).1) hp
  | case4 => cases h
  | case5 =>
      obtain rfl := Except.ok.inj h
      exact ⟨[], rfl, .stop List.mem_cons_self⟩

theorem isLineTail_of_skipLineTail {s r : Text} (h : skipLineTail s = .ok r) :
    ∃ p, s = p ++ r ∧ IsLineTail (r = []) p := by
  have hblanks := takeWhile_append_skipSpaces s
  have hspaces : ∀ c ∈ s.takeWhile isSpace, isSpace c = true := fun c hc => List.mem_takeWhile_imp hc
  fun_induction skipLineTail s with
  | case1 s hs =>
      obtain rfl := Except.ok.inj h
      refine ⟨s.takeWhile isSpace ++ [], ?_, .blanks hspaces (.stop List.mem_cons_self)⟩
      rw [List.append_nil, ← hs, hblanks]
  | case2 s t hs =>
      obtain rfl := Except.ok.inj h
      exact ⟨s.takeWhile isSpace ++ ['\n'], by simp [← hs, hblanks], .blanks hspaces (.stop (by simp))⟩
  | case3 s c t hs hn hc =>
      obtain rfl := Except.ok.inj h
      obtain ⟨rfl, ht⟩ := hc
      obtain ⟨u, rfl⟩ := List.head?_eq_some_iff.1 ht
      exact ⟨s.takeWhile isSpace ++ ['\r', '\n'], by simp [← hs, hblanks], .blanks hspaces (.stop (by simp))⟩
  | case4 s t hs =>
      obtain rfl := Except.ok.inj h
      refine ⟨s.takeWhile isSpace ++ [], ?_, .blanks hspaces (.stop List.mem_cons_self)⟩
      rw [List.append_nil, ← hs, hblanks]
  | case5 s c t hs hn hr hbr hc rest hk _ _ ih =>
      obtain ⟨q, rfl, hq⟩ := ih h (takeWhile_append_skipSpaces _) fun c hc => List.mem_takeWhile_imp hc
      obtain ⟨x, hx, hcomment⟩ := skipComment_cut hc hk
      refine ⟨s.takeWhile isSpace ++ (x ++ q), ?_, .blanks hspaces ?_⟩
      · rw [List.append_assoc, List.append_assoc, ← hx, ← hs, hblanks]
      cases hcomment with
      | block hblock => exact .block hblock hq
      | line hline hend =>
        -- What is left of the tail ends the line of the comment, unless a body ends behind it.
        obtain ⟨q', hq', hfollows, -⟩ := skipLineTail_local h
        obtain rfl := List.append_cancel_right hq'
        refine .comment hline hend.opens (hfollows.imp_right fun hbody => ?_) hq
        rcases endsBody_iff.1 hbody.1 with rfl | ⟨u, rfl⟩ <;> rfl
  | case6 => cases h
  | case7 => cases h

/-! ### Trimming -/

theorem IsBlockComment.trimEnd {c : Text} (h : IsBlockComment c) : Text.trimEnd isSpace c = c := by
  obtain ⟨x, rfl, -⟩ := h
  refine Text.trimEnd_eq_self ?_
  have hlast : ('/' :: '*' :: (x ++ ['*', '/'])).getLast? = some '/' := by
    rw [← List.cons_append, ← List.cons_append, List.getLast?_append_of_ne_nil _ (List.cons_ne_nil _ _)]
    rfl
  rw [hlast]
  rfl

theorem IsLineComment.trimEnd {c : Text} (h : IsLineComment c) : IsLineComment (Text.trimEnd isSpace c) := by
  obtain ⟨x, hx, hn⟩ := h
  have hn' : '\n' ∉ Text.trimEnd isSpace x := by
    obtain ⟨b, hb, -⟩ := Text.trimEnd_append isSpace x
    rw [hb] at hn
    exact fun hm => hn (List.mem_append_left b hm)
  refine ⟨Text.trimEnd isSpace x, ?_, hn'⟩
  rcases hx with rfl | rfl
  · exact .inl (Text.trimEnd_cons (.inr rfl))
  · rw [Text.trimEnd_cons (.inr rfl), Text.trimEnd_cons (.inr rfl)]
    exact .inr rfl

theorem OpensLineEnd.trimEnd {t : Text} (h : OpensLineEnd t) : OpensLineEnd (Text.trimEnd isSpace t) := by
  rcases h with ⟨r, rfl⟩ | ⟨r, rfl⟩
  · rw [Text.trimEnd_cons (.inr rfl)]
    exact .inl ⟨_, rfl⟩
  · rw [Text.trimEnd_cons (.inr rfl), Text.trimEnd_cons (.inr rfl)]
    exact .inr ⟨_, rfl⟩

theorem OpensLineEnd.ne_nil {t : Text} (h : OpensLineEnd t) : t ≠ [] := by
  rcases h with ⟨r, rfl⟩ | ⟨r, rfl⟩ <;> exact List.cons_ne_nil _ _

/-- Trivia without the blanks at its end is trivia. -/
theorem IsTrivia.trimEnd {final : Prop} {t : Text} (h : IsTrivia final t) :
    IsTrivia final (Text.trimEnd isSpace t) := by
  induction h with
  | stop ht =>
      obtain rfl := List.mem_singleton.1 ht
      exact .stop List.mem_cons_self
  | @blank c t hc _ ih =>
      by_cases hkept : Text.trimEnd isSpace t ≠ [] ∨ isSpace c = false
      · rw [Text.trimEnd_cons hkept]
        exact .blank hc ih
      · obtain ⟨hnil, hspace⟩ := not_or.1 hkept
        have hall : Text.trimEnd isSpace (c :: t) = [] := by
          refine Text.trimEnd_eq_nil.2 (List.forall_mem_cons.2 ⟨by simpa using hspace, ?_⟩)
          exact Text.trimEnd_eq_nil.1 (not_not.1 hnil)
        rw [hall]
        exact .stop List.mem_cons_self
  | @block c t hc _ ih =>
      by_cases hnil : Text.trimEnd isSpace t = []
      · rw [Text.trimEnd_append_of_forall (Text.trimEnd_eq_nil.1 hnil), hc.trimEnd, ← List.append_nil c]
        exact .block hc (.stop List.mem_cons_self)
      · rw [Text.trimEnd_append_of_ne_nil hnil]
        exact .block hc ih
  | @line c t hc hends _ ih =>
      rcases hends with hline | ⟨rfl, hfinal⟩
      · rw [Text.trimEnd_append_of_ne_nil hline.trimEnd.ne_nil]
        exact .line hc (.inl hline.trimEnd) ih
      · rw [List.append_nil, ← List.append_nil (Text.trimEnd isSpace c)]
        exact .line hc.trimEnd (.inr ⟨rfl, hfinal⟩) (.stop List.mem_cons_self)

end JujuMigration.Source
