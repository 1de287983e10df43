import JujuMigration.Proofs.Rules.VersionConstraint
/-! Where constraints on a release 0.x stand in a text, and what replacing them leaves. The spans follow each other
without overlap, each is a constraint, and no constraint begins outside of them. What replaces them makes no new
constraint with the text around it, so that a second replacement changes nothing. -/

namespace JujuMigration.VersionConstraint

open Text

/-- A constraint on a release 0.x, up to the quote that closes it. -/
def IsConstraint (t : Text) : Prop := ∃ p body, Opening p ∧ '"' ∉ body ∧ t = p ++ (body ++ ['"'])

/-- A constraint stands in the text between two offsets. -/
def StandsAt (s : Text) (span : Nat × Nat) : Prop :=
  ∃ t back, s.drop span.1 = t ++ back ∧ IsConstraint t ∧ span.2 = span.1 + t.length

/-- The text from an offset on, with a new text in place of each span. -/
def exchange (new s : Text) (pos : Nat) : List (Nat × Nat) → Text
  | [] => s.drop pos
  | (i, j) :: spans => (s.take i).drop pos ++ (new ++ exchange new s j spans)

theorem IsConstraint.length_pos {t : Text} (h : IsConstraint t) : 0 < t.length := by
  obtain ⟨p, body, -, -, rfl⟩ := h
  simp only [List.length_append, List.length_singleton]
  omega

theorem IsConstraint.afterZero? {t : Text} (h : IsConstraint t) (back : Text) :
    VersionConstraint.afterZero? (t ++ back) = some back := by
  obtain ⟨p, body, hp, hbody, rfl⟩ := h
  have hsome : VersionConstraint.afterZero? (p ++ (body ++ '"' :: back)) = some back := afterZero?_of_opening hp hbody
  simpa using hsome

/-! ### Spans -/

/-- A search from an offset on: it goes past a place where no constraint begins, and where one begins it goes on behind
it. -/
inductive Search (s : Text) : Nat → List (Nat × Nat) → Prop
  | done : Search s s.length []
  | past {pos : Nat} {spans : List (Nat × Nat)} (hnone : ∀ j, ¬StandsAt s (pos, j)) (h : Search s (pos + 1) spans) :
      Search s pos spans
  | found {t back : Text} {pos : Nat} {spans : List (Nat × Nat)} (hdrop : s.drop pos = t ++ back) (ht : IsConstraint t)
      (h : Search s (pos + t.length) spans) : Search s pos ((pos, pos + t.length) :: spans)

theorem Cut.search {r : Text} {ps : List Piece} (h : Cut r ps) (front : Text) :
    Search (front ++ r) front.length (spansFrom front.length ps) := by
  induction h generalizing front with
  | nil =>
      rw [List.append_nil]
      exact .done
  | @char c r ps hc _ ih =>
      have hbehind := ih (front ++ [c])
      rw [List.append_assoc, List.length_append] at hbehind
      refine .past ?_ hbehind
      rintro j ⟨t, back, hdrop, ht, -⟩
      rw [List.drop_left] at hdrop
      rw [hdrop, ht.afterZero? back] at hc
      cases hc
  | @zero p body rest ps hp hbody _ ih =>
      have hbehind := ih (front ++ (p ++ (body ++ ['"'])))
      have htext : p ++ (body ++ ['"']) ++ rest = p ++ (body ++ '"' :: rest) := by simp
      rw [List.append_assoc, htext, List.length_append] at hbehind
      have hdrop : (front ++ (p ++ (body ++ '"' :: rest))).drop front.length = p ++ (body ++ ['"']) ++ rest := by
        rw [List.drop_left, htext]
      exact .found hdrop ⟨p, body, hp, hbody, rfl⟩ hbehind

section

variable {s : Text} {pos : Nat} {spans : List (Nat × Nat)} {x : Nat × Nat}

theorem Search.le (h : Search s pos spans) (hx : x ∈ spans) : pos ≤ x.1 := by
  induction h with
  | done => cases hx
  | past _ _ ih => exact Nat.le_of_succ_le (ih hx)
  | found _ _ _ ih =>
      rcases List.mem_cons.1 hx with rfl | hx
      · exact Nat.le_refl _
      · exact Nat.le_trans (Nat.le_add_right _ _) (ih hx)

theorem Search.pairwise (h : Search s pos spans) : spans.Pairwise (·.2 ≤ ·.1) := by
  induction h with
  | done => exact List.Pairwise.nil
  | past _ _ ih => exact ih
  | found _ _ h ih => exact List.pairwise_cons.2 ⟨fun x hx => h.le hx, ih⟩

theorem Search.standsAt (h : Search s pos spans) (hx : x ∈ spans) : StandsAt s x := by
  induction h with
  | done => cases hx
  | past _ _ ih => exact ih hx
  | @found t back pos spans hdrop ht _ ih =>
      rcases List.mem_cons.1 hx with rfl | hx
      · exact ⟨t, back, hdrop, ht, rfl⟩
      · exact ih hx

/-- A constraint is found, or it begins within one that is found. -/
theorem Search.covers (h : Search s pos spans) (hx : StandsAt s x) (hpos : pos ≤ x.1) :
    ∃ y ∈ spans, y.1 ≤ x.1 ∧ x.1 < y.2 := by
  induction h with
  | done =>
      obtain ⟨t, back, hdrop, ht, -⟩ := hx
      rw [List.drop_eq_nil_of_le hpos] at hdrop
      have hnil : t = [] := (List.append_eq_nil_iff.1 hdrop.symm).1
      exact absurd ht.length_pos (by simp [hnil])
  | @past pos spans hnone _ ih =>
      have hne : pos ≠ x.1 := by
        rintro rfl
        exact hnone x.2 hx
      exact ih (by omega)
  | @found t back pos spans _ _ _ ih =>
      by_cases hin : x.1 < pos + t.length
      · exact ⟨_, List.mem_cons_self, hpos, hin⟩
      · obtain ⟨y, hy, hcovers⟩ := ih (by omega)
        exact ⟨y, List.mem_cons_of_mem _ hy, hcovers⟩

end

theorem search_spans (s : Text) : Search s 0 (spans s) := (cut_pieces s).search []

/-! ### The text outside the spans -/

theorem exchange_cons {new s r : Text} {c : Char} {pos : Nat} {spans : List (Nat × Nat)} (hs : s.drop pos = c :: r)
    (hspans : ∀ x ∈ spans, pos + 1 ≤ x.1) : exchange new s pos spans = c :: exchange new s (pos + 1) spans := by
  have hr : s.drop (pos + 1) = r := by rw [← List.tail_drop, hs, List.tail_cons]
  cases spans with
  | nil => rw [exchange, exchange, hs, hr]
  | cons x spans =>
      obtain ⟨i, j⟩ := x
      obtain ⟨n, rfl⟩ := Nat.exists_eq_add_of_le (hspans (i, j) List.mem_cons_self)
      have hfirst : (s.take (pos + 1 + n)).drop pos = c :: r.take n := by
        rw [List.drop_take, hs, show pos + 1 + n - pos = n + 1 by omega, List.take_succ_cons]
      have hrest : (s.take (pos + 1 + n)).drop (pos + 1) = r.take n := by
        rw [List.drop_take, hr, Nat.add_sub_cancel_left]
      rw [exchange, exchange, hfirst, hrest, List.cons_append]

theorem Cut.flatMap_upgraded {r : Text} {ps : List Piece} (h : Cut r ps) (front : Text) :
    ps.flatMap Piece.upgraded = exchange upgrade (front ++ r) front.length (spansFrom front.length ps) := by
  induction h generalizing front with
  | nil =>
      rw [List.append_nil]
      exact List.drop_length.symm
  | @char c r ps _ h ih =>
      have hsearch := h.search (front ++ [c])
      have hbehind := ih (front ++ [c])
      rw [List.append_assoc, List.length_append, List.length_singleton] at hsearch hbehind
      rw [List.flatMap_cons, hbehind, spansFrom, exchange_cons List.drop_left fun x hx => hsearch.le hx]
      rfl
  | @zero p body rest ps _ _ _ ih =>
      have hbehind := ih (front ++ (p ++ (body ++ ['"'])))
      have htext : p ++ (body ++ ['"']) ++ rest = p ++ (body ++ '"' :: rest) := by simp
      rw [List.append_assoc, htext, List.length_append] at hbehind
      rw [List.flatMap_cons, hbehind, spansFrom, exchange, List.take_left, List.drop_length]
      rfl

/-! ### The replacement -/

theorem spans_eq_nil {s : Text} : spans s = [] ↔ occursIn s = false := by simp [occursIn]

theorem replaceZero_of_spans_eq_nil {s : Text} (h : spans s = []) : replaceZero s = s := by
  have hexchange := (cut_pieces s).flatMap_upgraded []
  rwa [List.length_nil, show spansFrom 0 (pieces s) = [] from h] at hexchange

theorem standsAt_of_spans_eq_nil {s : Text} (h : spans s = []) (x : Nat × Nat) : ¬StandsAt s x := by
  intro hx
  obtain ⟨y, hy, -⟩ := (search_spans s).covers hx (Nat.zero_le _)
  rw [h] at hy
  cases hy

/-- The constraints found are apart and in order, and none is missed: one that is not found itself begins within one
that is. Replacing them changes nothing outside of them and leaves none, and the outcome is the text itself exactly if
there were none. -/
theorem replaceZero_reaches_fixpoint (s : Text) :
    (spans s).Pairwise (·.2 ≤ ·.1) ∧ (∀ x ∈ spans s, StandsAt s x) ∧
      (∀ x, StandsAt s x → ∃ y ∈ spans s, y.1 ≤ x.1 ∧ x.1 < y.2) ∧
      replaceZero s = exchange upgrade s 0 (spans s) ∧
      (∀ x, ¬StandsAt (replaceZero s) x) ∧ spans (replaceZero s) = [] ∧
      replaceZero (replaceZero s) = replaceZero s ∧ (replaceZero s = s ↔ spans s = []) := by
  have hsearch := search_spans s
  have hclear : spans (replaceZero s) = [] := spans_eq_nil.2 (occursIn_replaceZero s)
  refine ⟨hsearch.pairwise, fun x hx => hsearch.standsAt hx, fun x hx => hsearch.covers hx (Nat.zero_le _), ?_,
    standsAt_of_spans_eq_nil hclear, hclear, replaceZero_of_spans_eq_nil hclear, ?_, replaceZero_of_spans_eq_nil⟩
  · exact (cut_pieces s).flatMap_upgraded []
  · intro h
    rwa [h] at hclear

/-- A constraint that begins within another stands there, but is not found. -/
theorem replaceZero_reaches_fixpoint_overlapping :
    let s := "version = \"0.1 version = \"0.2\"".toList
    StandsAt s (15, 30) ∧ (∃ y ∈ spans s, y.1 ≤ 15 ∧ 15 < y.2) ∧ spans s = [(0, 26)] ∧
      replaceZero s = "version = \"~> 1.0\"0.2\"".toList := by
  intro s
  have hstands : StandsAt s (15, 30) := by
    refine ⟨"version = \"0.2\"".toList, [], by decide, ?_, by decide⟩
    have hblanks : ∀ c ∈ [' ', ' '], CharClass.isBlank c = true := List.all_eq_true.1 (by decide)
    exact ⟨"version = \"0.".toList, ['2'], ⟨[' '], [' '], [], [], [], by decide, hblanks, by decide⟩, by decide⟩
  exact ⟨hstands, (replaceZero_reaches_fixpoint s).2.2.1 _ hstands, by decide +kernel, by decide +kernel⟩

end JujuMigration.VersionConstraint
