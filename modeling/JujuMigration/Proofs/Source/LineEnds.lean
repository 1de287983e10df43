import JujuMigration.Proofs.Source.Gap
import JujuMigration.Proofs.Text.LineEnds
/-! Scanners and line ends. Of a text whose lines end in line feeds alone every scanner takes as much when each line
feed has a carriage return in front of it: it fails on both texts, or it leaves the same rest but for the line
ends. -/

namespace JujuMigration.Source

open Text

/-- The lines of the text end in line feeds alone, and no backslash stands in front of one. -/
structure HasBareLines (s : Text) : Prop where
  returns : '\r' ∉ s
  escapes : ¬['\\', '\n'] <:+: s

theorem HasBareLines.of_suffix {r s : Text} (h : HasBareLines s) (hr : r <:+ s) : HasBareLines r :=
  ⟨fun hc => h.returns (hr.subset hc), fun he => h.escapes (he.trans hr.isInfix)⟩

theorem HasBareLines.ne {c : Char} {r : Text} (h : HasBareLines (c :: r)) : c ≠ '\r' := by
  rintro rfl
  exact h.returns List.mem_cons_self

theorem HasBareLines.tail {c : Char} {r : Text} (h : HasBareLines (c :: r)) : HasBareLines r :=
  h.of_suffix (List.suffix_cons c r)

/-- Both fail, or both succeed and the second answer is what `f` makes of the first. -/
def Carries {α β : Type} (f : α → β) (e : Except Fault α) (e' : Except Fault β) : Prop := e'.toOption = e.toOption.map f

namespace Carries

variable {α β γ δ : Type} {f : α → β} {g : γ → δ} {e : Except Fault α} {e' : Except Fault β}

theorem ok (a : α) : Carries f (.ok a) (.ok (f a)) := rfl

theorem error (x y : Fault) : Carries f (.error x) (.error y) := rfl

theorem cases (h : Carries f e e') : (∃ a, e = .ok a ∧ e' = .ok (f a)) ∨ ∃ x y, e = .error x ∧ e' = .error y := by
  cases e with
  | error x =>
      cases e' with
      | error y => exact .inr ⟨x, y, rfl, rfl⟩
      | ok b => cases h
  | ok a =>
      cases e' with
      | error y => cases h
      | ok b =>
          obtain rfl : b = f a := Option.some.inj h
          exact .inl ⟨a, rfl, rfl⟩

theorem of_ok {a : α} (h : Carries f e e') (he : e = .ok a) : e' = .ok (f a) := by
  rcases h.cases with ⟨b, hb, he'⟩ | ⟨x, y, hx, -⟩
  · obtain rfl := Except.ok.inj (he.symm.trans hb)
    exact he'
  · cases he.symm.trans hx

theorem of_error {x : Fault} (h : Carries f e e') (he : e = .error x) : ∃ y, e' = .error y := by
  rcases h.cases with ⟨b, hb, -⟩ | ⟨-, y, -, hy⟩
  · cases he.symm.trans hb
  · exact ⟨y, hy⟩

theorem bind {k : α → Except Fault γ} {k' : β → Except Fault δ} (h : Carries f e e')
    (hk : ∀ a, e = .ok a → Carries g (k a) (k' (f a))) : Carries g (e.bind k) (e'.bind k') := by
  rcases h.cases with ⟨a, rfl, rfl⟩ | ⟨x, y, rfl, rfl⟩
  · exact hk a rfl
  · exact .error x y

end Carries

/-! ### Comments -/

theorem skipSpaces_withReturns (s : Text) : skipSpaces (withReturns s) = withReturns (skipSpaces s) :=
  dropWhile_withReturns rfl s

theorem skipLine_cons {c : Char} (hr : c ≠ '\r') (hn : c ≠ '\n') (r : Text) : skipLine (c :: r) = skipLine r := by
  rw [skipLine]
  · exact hn
  · exact fun _ h => absurd h hr

theorem skipLine_withReturns {s : Text} (h : HasBareLines s) : skipLine (withReturns s) = withReturns (skipLine s) := by
  induction s with
  | nil => rfl
  | cons c r ih =>
      by_cases hn : c = '\n'
      · subst hn
        rfl
      · rw [withReturns_cons hn, skipLine_cons h.ne hn, skipLine_cons h.ne hn, ih h.tail]

theorem opensBlockComment_withReturns (s : Text) : opensBlockComment (withReturns s) = opensBlockComment s := by
  have hstar : IsOneLine ['/', '*'] := by decide
  rw [Bool.eq_iff_iff, opensBlockComment_iff, opensBlockComment_iff]
  constructor
  · rintro ⟨t, ht⟩
    obtain ⟨r, rfl, -⟩ := (withReturns_eq_append hstar).1 ht
    exact ⟨r, rfl⟩
  · rintro ⟨r, rfl⟩
    exact ⟨withReturns r, rfl⟩

theorem opensComment_withReturns (s : Text) : opensComment (withReturns s) = opensComment s := by
  rw [Bool.eq_iff_iff, opensComment_iff, opensComment_iff]
  simp only [← List.isPrefixOf_iff_prefix]
  rw [isPrefixOf_withReturns (by decide), isPrefixOf_withReturns (by decide), isPrefixOf_withReturns (by decide)]

theorem afterCommentEnd?_cons {c : Char} {r : Text} (h : c = '*' → r.head? ≠ some '/') :
    afterCommentEnd? (c :: r) = afterCommentEnd? r := by
  rw [afterCommentEnd?]
  rintro t rfl rfl
  exact h rfl rfl

theorem afterCommentEnd?_withReturns (s : Text) :
    afterCommentEnd? (withReturns s) = (afterCommentEnd? s).map withReturns := by
  fun_induction afterCommentEnd? s with
  | case1 => rfl
  | case2 r => rfl
  | case3 c r hend ih =>
      by_cases hn : c = '\n'
      · subst hn
        rw [withReturns_line, afterCommentEnd?_cons (by simp), afterCommentEnd?_cons (by simp), ih]
      · rw [withReturns_cons hn, afterCommentEnd?_cons, ih]
        rintro rfl hr
        obtain ⟨t, ht⟩ := List.head?_eq_some_iff.1 hr
        obtain ⟨u, rfl, -⟩ := (withReturns_eq_cons (by decide)).1 ht
        exact hend u rfl rfl

theorem skipComment_carries {s : Text} (h : HasBareLines s) :
    Carries withReturns (skipComment s) (skipComment (withReturns s)) := by
  unfold skipComment
  rw [opensBlockComment_withReturns]
  split
  · next ho =>
      obtain ⟨r, rfl⟩ := opensBlockComment_iff.1 ho
      unfold skipBlockComment
      have hdrop : (withReturns ('/' :: '*' :: r)).drop 2 = withReturns (('/' :: '*' :: r).drop 2) := rfl
      rw [hdrop, afterCommentEnd?_withReturns]
      cases afterCommentEnd? (('/' :: '*' :: r).drop 2) <;> rfl
  · rw [skipLine_withReturns h]
    rfl

/-! ### Gaps and the ends of lines -/

theorem skipGap_eq (c : Char) (r : Text) : skipGap (c :: r) =
    if isGapChar c then skipGap r
    else if opensComment (c :: r) then (skipComment (c :: r)).bind skipGap else .ok (c :: r) := by
  rw [skipGap]
  split
  · rfl
  · split
    · split
      · next hk =>
          conv_rhs => rw [hk]
          rfl
      · next hk =>
          conv_rhs => rw [hk]
          rfl
    · rfl

theorem skipGap_carries {s : Text} (h : HasBareLines s) :
    Carries withReturns (skipGap s) (skipGap (withReturns s)) := by
  induction hn : s.length using Nat.strongRecOn generalizing s with
  | ind n ih =>
      subst hn
      cases s with
      | nil =>
          rw [withReturns_nil, skipGap]
          exact .ok []
      | cons c r =>
          have hrest := ih r.length (Nat.lt_succ_self _) h.tail rfl
          by_cases hline : c = '\n'
          · subst hline
            rw [withReturns_line, skipGap_cons rfl, skipGap_cons rfl, skipGap_cons rfl]
            exact hrest
          · rw [withReturns_cons hline, skipGap_eq, skipGap_eq, ← withReturns_cons hline, opensComment_withReturns]
            split
            · exact hrest
            · split
              · next hc =>
                  refine (skipComment_carries h).bind fun rest hr => ?_
                  exact ih rest.length (skipComment_length_lt hc hr) (h.of_suffix (skipComment_suffix hr)) rfl
              · exact .ok _

theorem skipLineTail_comment_error {s u : Text} {f : Fault} (h : skipSpaces s = u) (hc : opensComment u = true)
    (hf : skipComment u = .error f) : skipLineTail s = .error f := by
  rw [skipLineTail.eq_def]
  split
  · next h' =>
      rw [← h, h'] at hc
      cases hc
  · next c t h' =>
      obtain rfl : u = c :: t := h.symm.trans h'
      have hn : c ≠ '\n' ∧ c ≠ '\r' ∧ c ≠ '}' := by
        rcases head?_of_opensComment hc with hd | hd <;> obtain rfl := Option.some.inj hd <;> decide
      rw [if_neg hn.1, if_neg (fun h => hn.2.1 h.1), if_neg hn.2.2, dif_pos hc]
      split
      · next h' => simp [hf] at h'
      · next h' => rw [Except.error.inj (hf.symm.trans h')]

theorem skipLineTail_error {s : Text} {c : Char} {r : Text} (h : skipSpaces s = c :: r)
    (hc : c ≠ '\n' ∧ c ≠ '\r' ∧ c ≠ '}') (ho : opensComment (c :: r) = false) :
    skipLineTail s = .error ⟨c :: r, .notEndOfLine c⟩ := by
  rw [skipLineTail.eq_def]
  split
  · next h' => cases h.symm.trans h'
  · next h' =>
      obtain ⟨rfl, rfl⟩ := List.cons.inj (h.symm.trans h')
      rw [if_neg hc.1, if_neg (fun h => hc.2.1 h.1), if_neg hc.2.2, dif_neg (by rw [ho]; decide)]

theorem skipLineTail_carries {s : Text} (h : HasBareLines s) :
    Carries withReturns (skipLineTail s) (skipLineTail (withReturns s)) := by
  have hspaces := skipSpaces_withReturns s
  have hbare := h.of_suffix (skipSpaces_suffix s)
  fun_induction skipLineTail s with
  | case1 s hs =>
      rw [hs] at hspaces
      rw [skipLineTail_nil hspaces]
      exact .ok []
  | case2 s t hs =>
      rw [hs] at hspaces
      rw [skipLineTail_return hspaces]
      exact .ok t
  | case3 s c t hs _ hc =>
      rw [hs] at hbare
      exact absurd hc.1 hbare.ne
  | case4 s t hs =>
      rw [hs, withReturns_cons (by decide)] at hspaces
      rw [skipLineTail_brace hspaces, ← withReturns_cons (by decide)]
      exact .ok ('}' :: t)
  | case5 s c t hs _ _ _ hc rest hk _ _ ih =>
      rw [hs] at hbare hspaces
      have hcomment := opensComment_withReturns (c :: t)
      have hrest := hbare.of_suffix (skipComment_suffix hk)
      rw [skipLineTail_comment hspaces (hcomment.trans hc) ((skipComment_carries hbare).of_ok hk)]
      exact ih hrest (skipSpaces_withReturns rest) (hrest.of_suffix (skipSpaces_suffix rest))
  | case6 s c t hs _ _ _ hc f hk =>
      rw [hs] at hbare hspaces
      have hcomment := opensComment_withReturns (c :: t)
      obtain ⟨y, hy⟩ := (skipComment_carries hbare).of_error hk
      rw [skipLineTail_comment_error hspaces (hcomment.trans hc) hy]
      exact .error f y
  | case7 s c t hs hn hr hb hc =>
      rw [hs] at hbare hspaces
      have hcomment := opensComment_withReturns (c :: t)
      rw [withReturns_cons hn] at hspaces hcomment
      rw [skipLineTail_error hspaces ⟨hn, hbare.ne, hb⟩ (hcomment.trans (by simpa using hc))]
      exact .error _ _

end JujuMigration.Source
