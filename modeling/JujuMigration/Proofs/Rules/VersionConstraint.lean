import Mathlib.Data.List.Basic
import Mathlib.Data.List.TakeWhile
import JujuMigration.Proofs.Text.Difference
import JujuMigration.Rules.VersionConstraint
/-! Version constraints. A constraint on a release 0.x is an opening, which a letter `v` begins and in which no other
follows, and the rest of the quoted text. So no constraint can overlap another from the left, and replacing all of
them leaves none. -/

namespace JujuMigration.VersionConstraint

open Text

theorem behind?_eq_some {p s r : Text} : behind? p s = some r ↔ s = p ++ r := by
  unfold behind?
  split
  · next h =>
      obtain ⟨t, rfl⟩ := List.isPrefixOf_iff_prefix.1 h
      simp
  · next h =>
      constructor
      · intro h
        cases h
      · rintro rfl
        exact absurd (List.isPrefixOf_iff_prefix.2 (List.prefix_append p r)) h

theorem skipBlanks_append {b s : Text} (hb : ∀ c ∈ b, CharClass.isBlank c = true)
    (hs : s.head?.any CharClass.isBlank = false) : skipBlanks (b ++ s) = s := by
  rw [skipBlanks, List.dropWhile_append_of_pos hb]
  cases s with
  | nil => rfl
  | cons c s =>
      have hc : CharClass.isBlank c = false := hs
      simp [hc]

theorem skipOperator_cases (s : Text) : ∃ op ∈ [] :: operators, s = op ++ skipOperator s := by
  unfold skipOperator
  cases h : operators.findSome? (behind? · s) with
  | none => exact ⟨[], List.mem_cons_self, rfl⟩
  | some r =>
      obtain ⟨op, hop, hr⟩ := List.exists_of_findSome?_eq_some h
      exact ⟨op, List.mem_cons_of_mem _ hop, behind?_eq_some.1 hr⟩

/-- A constraint up to the release. -/
def Opening (p : Text) : Prop :=
  ∃ b₁ b₂ b₃ op b₄, p = "version".toList ++ (b₁ ++ '=' :: (b₂ ++ '"' :: (b₃ ++ (op ++ (b₄ ++ ['0', '.']))))) ∧
    (∀ c ∈ b₁ ++ b₂ ++ b₃ ++ b₄, CharClass.isBlank c = true) ∧ op ∈ [] :: operators

theorem skipBlanks_cases (s : Text) : ∃ b, s = b ++ skipBlanks s ∧ ∀ c ∈ b, CharClass.isBlank c = true :=
  ⟨s.takeWhile CharClass.isBlank, List.takeWhile_append_dropWhile.symm, fun _ hc => List.mem_takeWhile_imp hc⟩

theorem opening_of_afterZero? {s rest : Text} (h : afterZero? s = some rest) :
    ∃ p body, Opening p ∧ s = p ++ (body ++ '"' :: rest) ∧ '"' ∉ body := by
  obtain ⟨s₁, h₁, h⟩ := Option.bind_eq_some_iff.1 h
  obtain ⟨s₂, h₂, h⟩ := Option.bind_eq_some_iff.1 h
  obtain ⟨s₃, h₃, h⟩ := Option.bind_eq_some_iff.1 h
  obtain ⟨s₄, h₄, h⟩ := Option.bind_eq_some_iff.1 h
  rw [behind?_eq_some] at h₁ h₂ h₃ h₄
  obtain ⟨b₁, e₁, hb₁⟩ := skipBlanks_cases s₁
  obtain ⟨b₂, e₂, hb₂⟩ := skipBlanks_cases s₂
  obtain ⟨b₃, e₃, hb₃⟩ := skipBlanks_cases s₃
  obtain ⟨op, hop, e₄⟩ := skipOperator_cases (skipBlanks s₃)
  obtain ⟨b₄, e₅, hb₄⟩ := skipBlanks_cases (skipOperator (skipBlanks s₃))
  rw [h₂] at e₁
  rw [h₃] at e₂
  rw [h₄] at e₅
  rw [e₅] at e₄
  rw [e₄] at e₃
  have hs₄ : s₄.takeWhile (· ≠ '"') ++ s₄.dropWhile (· ≠ '"') = s₄ := List.takeWhile_append_dropWhile
  have hdrop := List.head?_dropWhile_not (· ≠ '"') s₄
  have hmem : '"' ∉ s₄.takeWhile (· ≠ '"') := fun hm => by simpa using List.mem_takeWhile_imp hm
  generalize s₄.takeWhile (· ≠ '"') = body at hs₄ hmem
  split at h
  · cases h
  · next c r hr =>
      obtain rfl := Option.some.inj h
      rw [hr] at hs₄ hdrop
      obtain rfl : c = '"' := by simpa using hdrop
      refine ⟨_, body, ⟨b₁, b₂, b₃, op, b₄, rfl, ?_, hop⟩, ?_, hmem⟩
      · simp only [List.forall_mem_append]
        exact ⟨⟨⟨hb₁, hb₂⟩, hb₃⟩, hb₄⟩
      · rw [h₁, e₁, e₂, e₃, ← hs₄]
        simp

theorem skipOperator_append {op s : Text} (hop : op ∈ [] :: operators)
    (hs : ∃ c t, s = c :: t ∧ c ≠ '~' ∧ c ≠ '>' ∧ c ≠ '<' ∧ c ≠ '!' ∧ c ≠ '=') : skipOperator (op ++ s) = s := by
  obtain ⟨c, t, rfl, h₁, h₂, h₃, h₄, h₅⟩ := hs
  simp only [operators, List.mem_cons, List.map_cons, List.map_nil, List.mem_nil_iff, or_false] at hop
  rcases hop with rfl | rfl | rfl | rfl | rfl | rfl | rfl | rfl <;>
    simp [skipOperator, operators, behind?, Ne.symm h₁, Ne.symm h₂, Ne.symm h₃, Ne.symm h₄, Ne.symm h₅]

theorem ne_of_isBlank {c d : Char} (h : CharClass.isBlank c = true) (hd : CharClass.isBlank d = false) : c ≠ d :=
  fun he => by rw [he, hd] at h; cases h

/-- Blanks, at most one operator and blanks are skipped in front of the release. -/
theorem skip_operator {b op b' s : Text} (hb : ∀ c ∈ b, CharClass.isBlank c = true) (hop : op ∈ [] :: operators)
    (hb' : ∀ c ∈ b', CharClass.isBlank c = true) :
    skipBlanks (skipOperator (skipBlanks (b ++ (op ++ (b' ++ '0' :: s))))) = '0' :: s := by
  have hzero : skipBlanks (b' ++ '0' :: s) = '0' :: s := skipBlanks_append hb' rfl
  by_cases he : op = []
  · subst he
    have hsum : skipBlanks (b ++ ([] ++ (b' ++ '0' :: s))) = '0' :: s := by
      rw [List.nil_append, ← List.append_assoc]
      exact skipBlanks_append (List.forall_mem_append.2 ⟨hb, hb'⟩) rfl
    have hno := skipOperator_append (s := '0' :: s) List.mem_cons_self ⟨'0', s, rfl, by decide⟩
    rw [hsum, show skipOperator ('0' :: s) = '0' :: s from hno]
    exact skipBlanks_append (b := []) (by simp) rfl
  · have hhead : (op ++ (b' ++ '0' :: s)).head?.any CharClass.isBlank = false := by
      have hop' := (List.mem_cons.1 hop).resolve_left he
      simp only [operators, List.map_cons, List.map_nil, List.mem_cons, List.mem_nil_iff, or_false] at hop'
      rcases hop' with rfl | rfl | rfl | rfl | rfl | rfl | rfl <;> rfl
    have hnext : ∃ c t, b' ++ '0' :: s = c :: t ∧ c ≠ '~' ∧ c ≠ '>' ∧ c ≠ '<' ∧ c ≠ '!' ∧ c ≠ '=' := by
      cases b' with
      | nil => exact ⟨'0', s, rfl, by decide⟩
      | cons c t =>
          have hc := hb' c List.mem_cons_self
          exact ⟨c, t ++ '0' :: s, rfl, ne_of_isBlank hc (by decide), ne_of_isBlank hc (by decide),
            ne_of_isBlank hc (by decide), ne_of_isBlank hc (by decide), ne_of_isBlank hc (by decide)⟩
    rw [skipBlanks_append hb hhead, skipOperator_append hop hnext, hzero]

theorem afterZero?_of_opening {p body rest : Text} (hp : Opening p) (hb : '"' ∉ body) :
    afterZero? (p ++ (body ++ '"' :: rest)) = some rest := by
  obtain ⟨b₁, b₂, b₃, op, b₄, rfl, hblank, hop⟩ := hp
  simp only [List.forall_mem_append] at hblank
  obtain ⟨⟨⟨hb₁, hb₂⟩, hb₃⟩, hb₄⟩ := hblank
  have hbody : (body ++ '"' :: rest).dropWhile (· ≠ '"') = '"' :: rest := by
    rw [List.dropWhile_append_of_pos fun c hc => by simpa using fun he : c = '"' => hb (he ▸ hc)]
    simp
  have hparts : "version".toList ++ (b₁ ++ '=' :: (b₂ ++ '"' :: (b₃ ++ (op ++ (b₄ ++ ['0', '.']))))) ++
      (body ++ '"' :: rest) = "version".toList ++
        (b₁ ++ '=' :: (b₂ ++ '"' :: (b₃ ++ (op ++ (b₄ ++ '0' :: ('.' :: (body ++ '"' :: rest))))))) := by
    simp
  have hversion (x : Text) : behind? "version".toList ("version".toList ++ x) = some x := behind?_eq_some.2 rfl
  have hequals (x : Text) : behind? ['='] ('=' :: x) = some x := behind?_eq_some.2 rfl
  have hquote (x : Text) : behind? ['"'] ('"' :: x) = some x := behind?_eq_some.2 rfl
  have hzero (x : Text) : behind? ['0', '.'] ('0' :: '.' :: x) = some x := behind?_eq_some.2 rfl
  have hblank₁ (x : Text) : skipBlanks (b₁ ++ '=' :: x) = '=' :: x := skipBlanks_append hb₁ rfl
  have hblank₂ (x : Text) : skipBlanks (b₂ ++ '"' :: x) = '"' :: x := skipBlanks_append hb₂ rfl
  rw [hparts, afterZero?]
  simp only [Option.bind_eq_bind, Option.bind_some, hversion, hblank₁, hequals, hblank₂, hquote,
    skip_operator hb₃ hop hb₄, hzero, hbody]

theorem afterZero?_upgrade (s : Text) : afterZero? (upgrade ++ s) = none := by
  rfl

/-! ### Pieces -/

/-- The text is cut into the pieces, a constraint wherever one begins. -/
inductive Cut : Text → List Piece → Prop
  | nil : Cut [] []
  | char {c : Char} {r : Text} {ps : List Piece} (hc : afterZero? (c :: r) = none) (h : Cut r ps) :
      Cut (c :: r) (.char c :: ps)
  | zero {p body rest : Text} {ps : List Piece} (hp : Opening p) (hbody : '"' ∉ body) (h : Cut rest ps) :
      Cut (p ++ (body ++ '"' :: rest)) (.zero (p ++ (body ++ ['"'])) :: ps)

theorem piecesAfter_eq (k : Nat) (s : Text) : piecesAfter k s = pieces (s.drop k) := by
  induction s generalizing k with
  | nil => rw [piecesAfter, List.drop_nil]; rfl
  | cons c r ih =>
      cases k with
      | zero => rfl
      | succ k => rw [piecesAfter, ih, List.drop_succ_cons]

theorem pieces_of_none {c : Char} {r : Text} (h : afterZero? (c :: r) = none) :
    pieces (c :: r) = .char c :: pieces r := by
  rw [pieces, piecesAfter, h]
  rfl

theorem pieces_of_some {t rest : Text} (ht : t ≠ []) (h : afterZero? (t ++ rest) = some rest) :
    pieces (t ++ rest) = .zero t :: pieces rest := by
  obtain ⟨c, q, rfl⟩ := List.exists_cons_of_ne_nil ht
  have hfound : Text.before rest (c :: (q ++ rest)) = c :: q := Text.before_append (c :: q) rest
  rw [List.cons_append] at h ⊢
  rw [pieces, piecesAfter, h]
  simp only [hfound, piecesAfter_eq, List.length_cons, Nat.add_sub_cancel, List.drop_left]

theorem Opening.exists_cons {p : Text} (h : Opening p) : ∃ q, p = 'v' :: q ∧ 'v' ∉ q := by
  obtain ⟨b₁, b₂, b₃, op, b₄, rfl, hblank, hop⟩ := h
  have hv (b : Text) (hb : ∀ c ∈ b, c ∈ b₁ ++ b₂ ++ b₃ ++ b₄) : 'v' ∉ b := fun hm =>
    absurd (hblank _ (hb _ hm)) (by decide)
  have hop' : 'v' ∉ op := by
    simp only [operators, List.mem_cons, List.map_cons, List.map_nil, List.mem_nil_iff, or_false] at hop
    rcases hop with rfl | rfl | rfl | rfl | rfl | rfl | rfl | rfl <;> decide
  refine ⟨"ersion".toList ++ (b₁ ++ '=' :: (b₂ ++ '"' :: (b₃ ++ (op ++ (b₄ ++ ['0', '.']))))), rfl, ?_⟩
  have h₁ := hv b₁ (by simp_all)
  have h₂ := hv b₂ (by simp_all)
  have h₃ := hv b₃ (by simp_all)
  have h₄ := hv b₄ (by simp_all)
  simp [h₁, h₂, h₃, h₄, hop']

theorem cut_pieces (s : Text) : Cut s (pieces s) := by
  induction hn : s.length using Nat.strongRecOn generalizing s with
  | ind n ih =>
      subst hn
      cases s with
      | nil => exact .nil
      | cons c r =>
          cases hz : afterZero? (c :: r) with
          | none =>
              rw [pieces_of_none hz]
              exact .char hz (ih r.length (Nat.lt_succ_self _) r rfl)
          | some rest =>
              obtain ⟨p, body, hp, hsplit, hbody⟩ := opening_of_afterZero? hz
              have hne : p ++ (body ++ ['"']) ≠ [] := by simp
              have heq : c :: r = p ++ (body ++ ['"']) ++ rest := by rw [hsplit]; simp
              have hless : rest.length < (c :: r).length := by
                rw [hsplit]
                simp only [List.length_append, List.length_cons]
                omega
              have hcut := ih rest.length hless rest rfl
              rw [heq] at hz ⊢
              rw [pieces_of_some hne hz, List.append_assoc, List.append_assoc]
              exact .zero hp hbody hcut

theorem occursIn_iff {s : Text} : occursIn s = true ↔ ∃ t, .zero t ∈ pieces s := by
  have (pos : Nat) (ps : List Piece) : spansFrom pos ps ≠ [] ↔ ∃ t, .zero t ∈ ps := by
    induction ps generalizing pos with
    | nil => simp [spansFrom]
    | cons p ps ih =>
        cases p with
        | char c => simp [spansFrom, ih]
        | zero t => simp [spansFrom]
  rw [← this 0]
  simp [occursIn, spans]

/-! ### Replacing all constraints -/

/-- No constraint begins anywhere in the text. -/
def IsClear (s : Text) : Prop := ∀ x, x <:+ s → afterZero? x = none

theorem isClear_cons {c : Char} {r : Text} (hc : afterZero? (c :: r) = none) (h : IsClear r) : IsClear (c :: r) := by
  intro x hx
  rcases List.suffix_cons_iff.1 hx with rfl | hx
  · exact hc
  · exact h x hx

theorem afterZero?_of_ne {c : Char} (hc : c ≠ 'v') (r : Text) : afterZero? (c :: r) = none := by
  cases hz : afterZero? (c :: r) with
  | none => rfl
  | some rest =>
      obtain ⟨p, body, hp, hs, -⟩ := opening_of_afterZero? hz
      obtain ⟨q, rfl, -⟩ := hp.exists_cons
      exact absurd (List.cons.inj hs).1 hc

theorem isClear_append {p r : Text} (hp : 'v' ∉ p) (h : IsClear r) : IsClear (p ++ r) := by
  induction p with
  | nil => exact h
  | cons c p ih =>
      obtain ⟨hc, hp⟩ := not_or.1 (List.mem_cons.not.1 hp)
      exact isClear_cons (afterZero?_of_ne (Ne.symm hc) _) (ih hp)

theorem occursIn_of_isClear {s : Text} (h : IsClear s) : occursIn s = false := by
  refine Bool.eq_false_iff.2 fun ho => ?_
  obtain ⟨t, ht⟩ := occursIn_iff.1 ho
  clear ho
  induction s with
  | nil => cases ht
  | cons c r ih =>
      rw [pieces_of_none (h _ (List.suffix_refl _))] at ht
      refine ih (fun x hx => h x (hx.trans (List.suffix_cons _ _))) ?_
      exact (List.mem_cons.1 ht).resolve_left (by simp)

/-- Up to the next letter `v` the text is the one before the replacement, and it has a quote where that one has. -/
theorem Cut.before_v {r : Text} {ps : List Piece} (h : Cut r ps) {q y : Text} (hq : 'v' ∉ q)
    (hs : ps.flatMap Piece.upgraded = q ++ y) : ∃ y', r = q ++ y' ∧ ('"' ∈ y → '"' ∈ y') := by
  induction q generalizing r ps with
  | nil =>
      refine ⟨r, rfl, fun hy => ?_⟩
      rw [List.nil_append] at hs
      subst hs
      clear hq
      induction h with
      | nil => cases hy
      | char _ _ ih =>
          rcases List.mem_cons.1 hy with rfl | hy
          · exact List.mem_cons_self
          · exact List.mem_cons_of_mem _ (ih hy)
      | zero => simp
  | cons d q ih =>
      obtain ⟨hd, hq'⟩ := not_or.1 (List.mem_cons.not.1 hq)
      cases h with
      | nil => cases hs
      | char _ h =>
          obtain ⟨rfl, hs'⟩ := List.cons.inj hs
          obtain ⟨y', rfl, hy⟩ := ih h hq' hs'
          exact ⟨y', rfl, hy⟩
      | zero => exact absurd (List.cons.inj hs).1.symm (Ne.symm hd)

theorem Cut.isClear {s : Text} {ps : List Piece} (h : Cut s ps) : IsClear (ps.flatMap Piece.upgraded) := by
  induction h with
  | nil =>
      intro x hx
      rw [List.suffix_nil.1 hx]
      rfl
  | @char c r ps hc h ih =>
      refine isClear_cons ?_ ih
      cases hz : afterZero? (c :: ps.flatMap Piece.upgraded) with
      | none => exact hz
      | some rest =>
          -- The opening lies in front of the next constraint, so one began here before.
          obtain ⟨p, body, hp, hs, -⟩ := opening_of_afterZero? hz
          obtain ⟨q, rfl, hq⟩ := hp.exists_cons
          obtain ⟨rfl, hs'⟩ := List.cons.inj hs
          obtain ⟨y', rfl, hy⟩ := h.before_v hq hs'
          obtain ⟨body', rest', rfl, hbody'⟩ := List.eq_append_cons_of_mem (hy (by simp))
          exact absurd (afterZero?_of_opening hp hbody') (by rw [List.cons_append, hc]; simp)
  | zero _ _ _ ih =>
      have hv : IsClear ("ersion = \"~> 1.0\"".toList ++ (_ : List Piece).flatMap Piece.upgraded) :=
        isClear_append (by decide) ih
      exact isClear_cons (afterZero?_upgrade _) hv

/-- Replacing the constraints leaves none. -/
theorem occursIn_replaceZero (s : Text) : occursIn (replaceZero s) = false := occursIn_of_isClear (cut_pieces s).isClear

theorem Opening.mem_quote {p : Text} (h : Opening p) : '"' ∈ p := by
  obtain ⟨b₁, b₂, b₃, op, b₄, rfl, -⟩ := h
  simp

theorem Opening.mem_equals {p : Text} (h : Opening p) : '=' ∈ p := by
  obtain ⟨b₁, b₂, b₃, op, b₄, rfl, -⟩ := h
  simp

/-- Either the one text begins with the other, or they split. -/
theorem splits_or_prefix (s t : Text) : (∃ c d, Splits s t c d) ∨ s <+: t ∨ t <+: s := by
  induction s generalizing t with
  | nil => exact .inr (.inl (List.nil_prefix))
  | cons c s ih =>
      cases t with
      | nil => exact .inr (.inr (List.nil_prefix))
      | cons d t =>
          by_cases hcd : c = d
          · subst hcd
            rcases ih t with ⟨e, f, h⟩ | h | h
            · exact .inl ⟨e, f, h.prepend [c]⟩
            · exact .inr (.inl (List.cons_prefix_cons.2 ⟨rfl, h⟩))
            · exact .inr (.inr (List.cons_prefix_cons.2 ⟨rfl, h⟩))
          · exact .inl ⟨c, d, hcd, [], s, t, rfl, rfl⟩

/-- A constraint on a release 0.x is not the beginning of the one that replaces it, nor the other way round. -/
theorem splits_upgrade {p body : Text} (hp : Opening p) (hbody : '"' ∉ body) :
    ∃ c d, Splits (p ++ (body ++ ['"'])) upgrade c d := by
  have hz (rest : Text) : afterZero? (p ++ (body ++ ['"']) ++ rest) = some rest := by
    have h : afterZero? (p ++ (body ++ '"' :: rest)) = some rest := afterZero?_of_opening hp hbody
    simpa using h
  have hne (x : Text) (hx : p ++ (body ++ ['"']) = upgrade ++ x) : False := by
    have := hz []
    rw [hx, List.append_assoc, afterZero?_upgrade] at this
    cases this
  rcases splits_or_prefix (p ++ (body ++ ['"'])) upgrade with h | ⟨x, hx⟩ | ⟨x, hx⟩
  · exact h
  · -- The constraint has two quotes, and the second of them ends it.
    have hquotes := congrArg (List.count '"') hx
    have hpq : 0 < p.count '"' := List.count_pos_iff.2 hp.mem_quote
    rw [show upgrade.count '"' = 2 by decide] at hquotes
    simp only [List.count_append, List.count_singleton_self] at hquotes
    have hxq : '"' ∉ x := List.count_eq_zero.1 (by omega)
    cases x with
    | nil => exact (hne [] (by rw [List.append_nil] at hx ⊢; exact hx)).elim
    | cons c x =>
        have hlast := congrArg List.getLast? hx
        have hquote : upgrade.getLast? = some '"' := by decide
        rw [List.getLast?_append_of_ne_nil _ (List.cons_ne_nil c x), hquote] at hlast
        exact absurd (List.mem_of_getLast? hlast) hxq
  · exact (hne x hx.symm).elim

theorem equalsSigns_replaceZero (s : Text) : equalsSigns (replaceZero s) ≤ equalsSigns s := by
  have hcut := cut_pieces s
  unfold replaceZero
  generalize pieces s = ps at hcut ⊢
  induction hcut with
  | nil => exact Nat.le_refl _
  | @char c r ps _ _ ih =>
      rw [List.flatMap_cons, ← List.singleton_append (x := c) (l := r), equalsSigns_append, equalsSigns_append]
      exact Nat.add_le_add_left ih _
  | @zero p body rest ps hp _ _ ih =>
      have hpe : 0 < equalsSigns p := List.count_pos_iff.2 hp.mem_equals
      have hu : equalsSigns (Piece.zero (p ++ (body ++ ['"']))).upgraded = 1 := show equalsSigns upgrade = 1 by decide
      have hrest : equalsSigns ('"' :: rest) = equalsSigns rest := List.count_cons_of_ne (by decide)
      rw [List.flatMap_cons, equalsSigns_append, equalsSigns_append, equalsSigns_append, hu, hrest]
      omega

/-- Replacing the constraints shows. -/
theorem splits_replaceZero {s : Text} (h : occursIn s = true) : ∃ c d, Splits s (replaceZero s) c d := by
  obtain ⟨t, ht⟩ := occursIn_iff.1 h
  have hcut := cut_pieces s
  unfold replaceZero
  clear h
  generalize pieces s = ps at ht hcut
  induction hcut with
  | nil => cases ht
  | @char c r ps _ _ ih =>
      obtain ⟨d, e, hd⟩ := ih ((List.mem_cons.1 ht).resolve_left (by simp))
      exact ⟨d, e, hd.prepend [c]⟩
  | @zero p body rest ps hp hbody _ _ =>
      obtain ⟨d, e, hd⟩ := splits_upgrade hp hbody
      refine ⟨d, e, ?_⟩
      have hsplit := hd.append rest (ps.flatMap Piece.upgraded)
      rw [List.append_assoc, List.append_assoc] at hsplit
      exact hsplit

end JujuMigration.VersionConstraint
