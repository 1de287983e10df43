import JujuMigration.Proofs.Source.Gap
/-! Comments that are exchanged for others. Where a scanner comes upon a comment it goes on behind it, whatever the
comment says; so it ends at the same place if the inside of the comment is another. -/

namespace JujuMigration.Source

/-- Comments that differ at most behind the characters that open them. -/
inductive SameStyle : Text → Text → Prop
  | hash (x y : Text) : SameStyle ('#' :: x) ('#' :: y)
  | slashes (x y : Text) : SameStyle ('/' :: '/' :: x) ('/' :: '/' :: y)
  | star (x y : Text) : SameStyle ('/' :: '*' :: x) ('/' :: '*' :: y)

/-- Both are whole comments in front of `q`, and they differ at most in their inside. -/
structure Exchanges (c c' q : Text) : Prop where
  style : SameStyle c c'
  left : skipComment (c ++ q) = .ok q
  right : skipComment (c' ++ q) = .ok q

variable {c c' q : Text}

theorem SameStyle.symm (h : SameStyle c c') : SameStyle c' c := by
  cases h with
  | hash x y => exact .hash y x
  | slashes x y => exact .slashes y x
  | star x y => exact .star y x

theorem SameStyle.alike (h : SameStyle c c') (p s t : Text) : Alike (p ++ (c ++ s)) (p ++ (c' ++ t)) := by
  have hopen : Alike (c ++ s) (c' ++ t) := by
    cases h with
    | hash => exact .hash _ _
    | slashes => exact .slashes _ _
    | star => exact .star _ _
  exact hopen.append p

theorem SameStyle.opens (h : SameStyle c c') (s : Text) : opensComment (c ++ s) = true := by
  cases h <;> rfl

theorem SameStyle.exists_cons (h : SameStyle c c') : ∃ d x, c = d :: x ∧ (d = '#' ∨ d = '/') := by
  cases h with
  | hash => exact ⟨_, _, rfl, .inl rfl⟩
  | slashes => exact ⟨_, _, rfl, .inr rfl⟩
  | star => exact ⟨_, _, rfl, .inr rfl⟩

theorem Exchanges.symm (h : Exchanges c c' q) : Exchanges c' c q := ⟨h.style.symm, h.right, h.left⟩

/-- A comment does not end in a line feed, and it reaches to the end of the line or ends itself. -/
theorem Exchanges.ends (h : Exchanges c c' q) :
    c.getLast? = some '/' ∨ q = [] ∨ (∃ r, q = '\n' :: r) ∨ ∃ r, q = '\r' :: '\n' :: r := by
  have hleft := h.left
  unfold skipComment at hleft
  split at hleft
  · obtain ⟨p, hp, hlast, -⟩ := skipBlockComment_closed hleft
    rw [List.append_cancel_right hp]
    exact .inl hlast
  · have hq : skipLine (c ++ q) = q := Except.ok.inj hleft
    right
    rw [← hq]
    exact skipLine_cases (c ++ q)

/-! ### Between items and at the ends of lines -/

/-- Skipping the blanks and comments in front of the text comes upon the comment `c` in front of `q`. -/
inductive Skips (blank : Char → Bool) (c q : Text) : Text → Prop
  | here : Skips blank c q (c ++ q)
  | blank {d : Char} {t : Text} (hd : blank d = true) (h : Skips blank c q t) : Skips blank c q (d :: t)
  | comment {t r : Text} (ho : opensComment t = true) (hr : skipComment t = .ok r) (h : Skips blank c q r) :
      Skips blank c q t

variable {blank : Char → Bool} {s : Text}

theorem Skips.exchange (he : Exchanges c c' q) (h : Skips blank c q s) :
    ∃ u, s = u ++ (c ++ q) ∧ Skips blank c' q (u ++ (c' ++ q)) := by
  induction h with
  | here => exact ⟨[], rfl, .here⟩
  | @blank d t hd _ ih =>
      obtain ⟨u, rfl, hu⟩ := ih
      exact ⟨d :: u, rfl, .blank hd hu⟩
  | comment ho hr _ ih =>
      obtain ⟨u, rfl, hu⟩ := ih
      obtain ⟨p, rfl, -, hp⟩ := skipComment_local hr
      have hl : Alike (u ++ (c ++ q)) (u ++ (c' ++ q)) := he.style.alike u q q
      refine ⟨p ++ u, (List.append_assoc ..).symm, ?_⟩
      rw [List.append_assoc]
      exact .comment ((hl.append p).opensComment ▸ ho) (hp _ hl) hu

theorem Skips.skipGap (ho : opensComment (c ++ q) = true) (hc : skipComment (c ++ q) = .ok q)
    (h : Skips isGapChar c q s) : skipGap s = skipGap q := by
  induction h with
  | here => exact skipGap_comment ho hc
  | blank hd _ ih => rw [skipGap_cons hd, ih]
  | comment ho hr _ ih => rw [skipGap_comment ho hr, ih]

theorem skipLineTail_of_skipSpaces {s t : Text} (h : skipSpaces s = skipSpaces t) :
    skipLineTail s = skipLineTail t := by
  rw [skipLineTail.eq_def s]
  split
  · next hs => exact (skipLineTail_nil (h.symm.trans hs)).symm
  · next hs =>
      symm
      rw [skipLineTail.eq_def t]
      split
      · next ht => cases hs.symm.trans (h.trans ht)
      · next ht =>
          obtain ⟨rfl, rfl⟩ := List.cons.inj (hs.symm.trans (h.trans ht))
          rfl

theorem Skips.skipLineTail (ho : opensComment (c ++ q) = true) (hc : skipComment (c ++ q) = .ok q)
    (h : Skips isSpace c q s) : skipLineTail s = skipLineTail q := by
  have hspaces {t : Text} (ho : opensComment t = true) : skipSpaces t = t := by
    rcases opensComment_cases ho with ⟨r, rfl⟩ | ⟨r, rfl⟩ | ⟨r, rfl⟩ <;> rfl
  induction h with
  | here => exact skipLineTail_comment (hspaces ho) ho hc
  | @blank d t hd _ ih =>
      rw [← ih]
      apply skipLineTail_of_skipSpaces
      rw [skipSpaces, List.dropWhile_cons_of_pos hd]
      rfl
  | comment ho hr _ ih => rw [skipLineTail_comment (hspaces ho) ho hr, ih]

/-! ### Between brackets -/

/-- The scan of an expression with the brackets `awaited` open comes upon the comment `c` in front of `q`. -/
inductive InBrackets (c q : Text) : List Char → Text → Prop
  | here {closing : Char} {outer : List Char} : InBrackets c q (closing :: outer) (c ++ q)
  | step {awaited awaited' : List Char} {s s' : Text} (hs : Step awaited s awaited' s')
      (h : InBrackets c q awaited' s') :
      InBrackets c q awaited s

theorem Step.scans_iff {awaited awaited' : List Char} {s s' r : Text} (h : Step awaited s awaited' s') :
    Scans awaited s r ↔ Scans awaited' s' r := by
  have hstep : scanBracketed [] awaited s = scanBracketed [] awaited' s' := scanBracketed_step h
  rw [← scanBracketed_eq_ok, hstep, scanBracketed_eq_ok]

/-- With either comment the scan goes on behind it with the same brackets open. -/
theorem InBrackets.exchange {awaited : List Char} (he : Exchanges c c' q) (h : InBrackets c q awaited s) :
    ∃ u closing outer, s = u ++ (c ++ q) ∧ ∀ r, (Scans awaited s r ↔ Scans (closing :: outer) q r) ∧
      (Scans awaited (u ++ (c' ++ q)) r ↔ Scans (closing :: outer) q r) := by
  induction h with
  | @here closing outer =>
      refine ⟨[], closing, outer, rfl, fun r => ⟨?_, ?_⟩⟩
      · exact (Step.comment (he.style.opens q) he.left).scans_iff
      · exact (Step.comment (he.style.symm.opens q) he.right).scans_iff
  | step hs _ ih =>
      obtain ⟨u, closing, outer, rfl, hu⟩ := ih
      obtain ⟨p, rfl, hp⟩ := hs.isLocal
      have hl : Alike (u ++ (c ++ q)) (u ++ (c' ++ q)) := he.style.alike u q q
      refine ⟨p ++ u, closing, outer, (List.append_assoc ..).symm, fun r => ⟨?_, ?_⟩⟩
      · exact hs.scans_iff.trans (hu r).1
      · rw [List.append_assoc]
        exact (hp _ hl).scans_iff.trans (hu r).2

end JujuMigration.Source
