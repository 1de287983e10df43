import Mathlib.Data.List.Basic
import JujuMigration.Console.Markup
/-! Markup that can be shown. A text that has been escaped can, whatever it was, behind any text without brackets and
backslashes and behind any style that is begun and ended. Two escaped texts one behind the other need not: the first
may end in a bracket that the second makes a tag of. -/

namespace JujuMigration.Markup

/-- What can stand between the brackets of a tag. -/
structure IsInside (inside : Text) : Prop where
  opens : ∃ c ∈ inside.head?, opensTag c = true
  noBracket : ∀ c ∈ inside.tail, c ≠ '[' ∧ c ≠ ']'

/-- A style that a tag can begin and end. -/
structure IsStyle (style : Text) : Prop where
  isInside : IsInside style
  noBracket : ∀ c ∈ style, c ≠ '[' ∧ c ≠ ']'
  begins : style.head? ≠ some '/'
  unvalued : style.takeWhile (· ≠ '=') = style
  trimmed : Text.trim CharClass.isBlank style = style

/-- Nothing in the text is, or makes anything of, a tag. -/
def IsPlain (t : Text) : Prop := ∀ c ∈ t, c ≠ '[' ∧ c ≠ '\\'

instance (t : Text) : Decidable (IsPlain t) := List.decidableBAll (fun c => c ≠ '[' ∧ c ≠ '\\') t

instance (style : Text) : Decidable (IsStyle style) :=
  decidable_of_iff (style.head?.any opensTag = true ∧ style.all (fun c => c ≠ '[' ∧ c ≠ ']') = true ∧
      style.head? ≠ some '/' ∧ style.takeWhile (· ≠ '=') = style ∧ Text.trim CharClass.isBlank style = style) <| by
    rw [Option.any_eq_true, List.all_eq_true]
    simp only [decide_eq_true_eq]
    exact ⟨fun ⟨hopens, hnone, hbegins, hunvalued, htrimmed⟩ =>
      ⟨⟨hopens, fun c hc => hnone c (List.mem_of_mem_tail hc)⟩, hnone, hbegins, hunvalued, htrimmed⟩,
      fun h => ⟨h.isInside.opens, h.noBracket, h.begins, h.unvalued, h.trimmed⟩⟩

/-- With these tags open, the text can be shown, whatever stands in front of it. -/
def Shows (tags : List OpenTag) (s : Text) : Prop :=
  ∀ plain position, (showSegments tags (segments plain position s)).isOk = true

variable {tags tags' : List OpenTag} {s t inside style : Text} {c : Char} {k : Nat}

/-! ### Tags -/

def isBracket (c : Char) : Bool := c == '[' || c == ']'

theorem head?_drop_takeWhile (p : Char → Bool) (s : Text) :
    (s.drop (s.takeWhile p).length).head? = s.find? (!p ·) := by
  induction s with
  | nil => rfl
  | cons c s ih =>
      rw [List.takeWhile_cons, List.find?_cons]
      cases hc : p c
      · rfl
      · simpa [hc] using ih

theorem tag?_slash (s : Text) : tag? ('\\' :: s) = (tag? s).map fun (k, inside) => (k + 1, inside) := by
  unfold tag?
  rw [List.takeWhile_cons_of_pos (by decide)]
  simp only [List.length_cons, List.drop_succ_cons]
  split
  · split <;> simp_all
  · simp_all

theorem tag?_bracket (c : Char) (s : Text) : tag? ('[' :: c :: s) =
    if opensTag c ∧ s.find? isBracket = some ']' then some (0, c :: s.takeWhile (!isBracket ·)) else none := by
  have hbracket : (fun c : Char => c != '[' && c != ']') = (!isBracket ·) := by
    funext c
    rw [isBracket, Bool.not_or]
    rfl
  unfold tag?
  rw [List.takeWhile_cons_of_neg (by decide)]
  simp only [List.length_nil, List.drop_zero, hbracket, head?_drop_takeWhile, Bool.not_not, Bool.and_eq_true,
    decide_eq_true_eq]

theorem tag?_of_ne (hbracket : c ≠ '[') (hslash : c ≠ '\\') (s : Text) : tag? (c :: s) = none := by
  unfold tag?
  rw [List.takeWhile_cons_of_neg (by simpa using hslash)]
  simp [hbracket]

theorem not_isBracket : isBracket c = false ↔ c ≠ '[' ∧ c ≠ ']' := by
  simp [isBracket]

theorem takeWhile_inside {t : Text} (h : ∀ c ∈ t, c ≠ '[' ∧ c ≠ ']') (rest : Text) :
    (t ++ ']' :: rest).takeWhile (!isBracket ·) = t := by
  rw [List.takeWhile_append_of_pos fun c hc => by rw [not_isBracket.2 (h c hc)]; rfl,
    List.takeWhile_cons_of_neg (by decide), List.append_nil]

/-- Where a tag begins. -/
theorem tag?_eq_some : tag? s = some (k, inside) ↔
    IsInside inside ∧ ∃ rest, s = List.replicate k '\\' ++ '[' :: (inside ++ ']' :: rest) := by
  constructor
  · intro h
    induction s generalizing k with
    | nil => cases h
    | cons c s ih =>
        by_cases hslash : c = '\\'
        · subst hslash
          rw [tag?_slash] at h
          obtain ⟨⟨k', inside'⟩, htag, heq⟩ := Option.map_eq_some_iff.1 h
          obtain ⟨rfl, rfl⟩ := Prod.mk.inj heq
          obtain ⟨hinside, rest, rfl⟩ := ih htag
          exact ⟨hinside, rest, by rw [List.replicate_succ, List.cons_append]⟩
        by_cases hbracket : c = '['
        · subst hbracket
          cases s with
          | nil => cases h
          | cons d s =>
              rw [tag?_bracket] at h
              split at h
              · next htag =>
                  obtain ⟨rfl, rfl⟩ := Prod.mk.inj (Option.some.inj h)
                  obtain ⟨-, front, rest, rfl, hfront⟩ := List.find?_eq_some_iff_append.1 htag.2
                  have hnone : ∀ c ∈ front, c ≠ '[' ∧ c ≠ ']' := fun c hc =>
                    not_isBracket.1 (by simpa using hfront c hc)
                  rw [takeWhile_inside hnone]
                  exact ⟨⟨⟨d, rfl, htag.1⟩, hnone⟩, rest, rfl⟩
              · cases h
        · rw [tag?_of_ne hbracket hslash] at h
          cases h
  · rintro ⟨⟨⟨c, hc, hopens⟩, hnone⟩, rest, rfl⟩
    induction k with
    | zero =>
        obtain ⟨inside, rfl⟩ := List.head?_eq_some_iff.1 hc
        have hfind : (inside ++ ']' :: rest).find? isBracket = some ']' :=
          List.find?_eq_some_iff_append.2
            ⟨rfl, inside, rest, rfl, fun c hc => by rw [not_isBracket.2 (hnone c hc)]; rfl⟩
        rw [List.replicate_zero, List.nil_append, List.cons_append, tag?_bracket, if_pos ⟨hopens, hfind⟩,
          takeWhile_inside (t := inside) hnone]
    | succ k ih => rw [List.replicate_succ, List.cons_append, tag?_slash, ih, Option.map_some]

/-- A text without an opening bracket has no tag in front. -/
theorem tag?_eq_none_of_not_mem (h : '[' ∉ s) : tag? s = none := by
  rw [Option.eq_none_iff_forall_ne_some]
  rintro ⟨k, inside⟩ htag
  obtain ⟨-, rest, rfl⟩ := tag?_eq_some.1 htag
  simp at h

/-! ### Showing -/

theorem isOk_plainSegment (plain : Text) (rest : List Segment) :
    (showSegments tags (plainSegment plain ++ rest)).isOk = (showSegments tags rest).isOk := by
  unfold plainSegment
  split
  · rfl
  · rw [List.singleton_append, showSegments]
    cases showSegments tags rest <;> rfl

namespace Shows

theorem nil : Shows tags [] := fun plain position => by
  rw [segments, ← List.append_nil (plainSegment plain), isOk_plainSegment]
  rfl

theorem cons (h : tag? (c :: s) = none) (hs : Shows tags s) : Shows tags (c :: s) := fun plain position => by
  rw [segments, h]
  exact hs (c :: plain) (position + 1)

/-- How a text goes on that begins with a tag. -/
theorem isOk_tag (tags : List OpenTag) (hinside : IsInside inside) (rest : Text) (plain : Text) (position : Nat) :
    (showSegments tags (segments plain position (List.replicate k '\\' ++ '[' :: (inside ++ ']' :: rest)))).isOk =
      (showSegments tags (.tag (position + k / 2 * 2) k inside ::
        segments [] (position + (k + inside.length + 2)) rest)).isOk := by
  have htag : tag? (List.replicate k '\\' ++ '[' :: (inside ++ ']' :: rest)) = some (k, inside) :=
    tag?_eq_some.2 ⟨hinside, rest, rfl⟩
  have hdrop : (List.replicate k '\\' ++ '[' :: (inside ++ ']' :: rest)).drop (k + inside.length + 2) = rest := by
    rw [show k + inside.length + 2 = k + (inside.length + 1 + 1) by omega, List.drop_append, List.length_replicate]
    simp
  generalize List.replicate k '\\' ++ '[' :: (inside ++ ']' :: rest) = s at htag hdrop ⊢
  cases s with
  | nil => cases htag
  | cons c s =>
      rw [segments, htag]
      dsimp only
      rw [isOk_plainSegment, Nat.add_sub_assoc (by decide)]
      rw [List.drop_succ_cons] at hdrop
      rw [hdrop]

theorem escaped (hinside : IsInside inside) (hodd : k % 2 = 1) (hs : Shows tags s) :
    Shows tags (List.replicate k '\\' ++ '[' :: (inside ++ ']' :: s)) := fun plain position => by
  have hrest := hs [] (position + (k + inside.length + 2))
  rw [isOk_tag _ hinside, showSegments, if_pos hodd]
  generalize showSegments tags (segments [] _ s) = shown at hrest ⊢
  cases shown with
  | error e => cases hrest
  | ok t => rfl

theorem tag (hinside : IsInside inside) (happly : ∀ position, applyTag position inside tags = .ok tags')
    (hs : Shows tags' s) : Shows tags ('[' :: (inside ++ ']' :: s)) := fun plain position => by
  have hrest := hs [] (position + (0 + inside.length + 2))
  have hshown := isOk_tag (k := 0) tags hinside s plain position
  rw [List.replicate_zero, List.nil_append, showSegments, if_neg (by decide), happly] at hshown
  rw [hshown]
  simp only [bind, Except.bind]
  generalize showSegments tags' (segments [] _ s) = shown at hrest ⊢
  cases shown with
  | error e => cases hrest
  | ok t => rfl

theorem of_not_mem (h : '[' ∉ s) : Shows tags s := by
  induction s with
  | nil => exact nil
  | cons c s ih => exact cons (tag?_eq_none_of_not_mem h) (ih fun hmem => h (List.mem_cons_of_mem c hmem))

/-- Behind a plain text. -/
theorem append (ht : IsPlain t) (hs : Shows tags s) : Shows tags (t ++ s) := by
  induction t with
  | nil => exact hs
  | cons c t ih =>
      obtain ⟨hc, ht⟩ := List.forall_mem_cons.1 ht
      exact cons (tag?_of_ne hc.1 hc.2 _) (ih ht)

/-- Behind a text without opening brackets, if what follows it does not begin with a tag either. -/
theorem behind (ht : '[' ∉ t) (h : tag? s = none) (hs : Shows tags s) : Shows tags (t ++ s) := by
  suffices tag? (t ++ s) = none ∧ Shows tags (t ++ s) from this.2
  induction t with
  | nil => exact ⟨h, hs⟩
  | cons c t ih =>
      obtain ⟨hnone, hshows⟩ := ih fun hmem => ht (List.mem_cons_of_mem c hmem)
      have hc : tag? (c :: (t ++ s)) = none := by
        by_cases hslash : c = '\\'
        · rw [hslash, tag?_slash, hnone, Option.map_none]
        · exact tag?_of_ne (fun hbracket => ht (hbracket ▸ List.mem_cons_self)) hslash _
      exact ⟨hc, cons hc hshows⟩

/-- Behind a plain text in a style. -/
theorem styled (hstyle : IsStyle style) (ht : IsPlain t) (hs : Shows tags s) :
    Shows tags ('[' :: (style ++ ']' :: (t ++ '[' :: ('/' :: style ++ ']' :: s)))) := by
  have hname : (OpenTag.ofInside style).name = Style.normal style := by
    rw [OpenTag.ofInside, hstyle.unvalued]
  have hvalue : (OpenTag.ofInside style).value = none := by
    rw [OpenTag.ofInside, hstyle.unvalued, if_pos rfl]
  have hopen (position : Nat) : applyTag position style tags = .ok (.ofInside style :: tags) := by
    unfold applyTag
    rw [hstyle.unvalued]
    split
    · exact absurd rfl hstyle.begins
    · rfl
  have hclose (position : Nat) : applyTag position ('/' :: style) (.ofInside style :: tags) = .ok tags := by
    obtain ⟨c, hc, -⟩ := hstyle.isInside.opens
    obtain ⟨rest, hrest⟩ := List.head?_eq_some_iff.1 hc
    unfold applyTag
    rw [List.takeWhile_cons_of_pos (by decide), hstyle.unvalued]
    simp only [hstyle.trimmed]
    rw [if_neg (by rw [hrest]; simp), List.find?_cons_of_pos (by rw [hname]; simp)]
    simp only [close, OpenTag.fault?, hvalue, List.erase_cons_head]
  refine tag hstyle.isInside hopen (append ht (tag ⟨⟨'/', rfl, by decide⟩, hstyle.noBracket⟩ hclose hs))

end Shows

/-! ### Escaping -/

/-- Escaping puts no brackets in front of a text's first one. -/
theorem find?_escapeTags (s : Text) : (escapeTags s).find? isBracket = s.find? isBracket := by
  have hslashes (k : Nat) (s : Text) : (List.replicate k '\\' ++ '[' :: s).find? isBracket = some '[' :=
    List.find?_eq_some_iff_append.2 ⟨rfl, _, s, rfl, fun c hc => by rw [(List.mem_replicate.1 hc).2]; rfl⟩
  fun_induction escapeTags s with
  | case1 => rfl
  | case2 c r slashes tag htag ih =>
      obtain ⟨-, rest, hs⟩ := tag?_eq_some.1 htag
      rw [hs, hslashes, hslashes]
  | case3 c r htag ih => rw [List.find?_cons, List.find?_cons, ih]

/-- Where there is no tag, escaping makes none. -/
theorem tag?_escapeTags {e : Text} (he : ∀ c ∈ e, isBracket c = false) (h : tag? s = none) :
    tag? (escapeTags s ++ e) = none := by
  have hend : tag? e = none := tag?_eq_none_of_not_mem fun hmem => by cases he _ hmem
  have hnone {e : Text} (he : ∀ c ∈ e, isBracket c = false) : e.find? isBracket = none :=
    List.find?_eq_none.2 fun c hc => by rw [he c hc]; exact Bool.false_ne_true
  have hfind (s : Text) : (escapeTags s ++ e).find? isBracket = s.find? isBracket := by
    rw [List.find?_append, find?_escapeTags, hnone he, Option.or_none]
  induction s with
  | nil => rwa [escapeTags]
  | cons c s ih =>
      rw [escapeTags, h]
      dsimp only
      by_cases hslash : c = '\\'
      · subst hslash
        rw [tag?_slash, Option.map_eq_none_iff] at h
        rw [List.cons_append, tag?_slash, ih h, Option.map_none]
      by_cases hbracket : c = '['
      · subst hbracket
        cases s with
        | nil =>
            cases e with
            | nil =>
                rw [escapeTags]
                rfl
            | cons d e =>
                rw [escapeTags, List.singleton_append, tag?_bracket, if_neg]
                rw [hnone fun c hc => he c (List.mem_cons_of_mem d hc)]
                exact fun h => by cases h.2
        | cons d s =>
            rw [tag?_bracket, ite_eq_right_iff] at h
            have hno : ¬(opensTag d ∧ s.find? isBracket = some ']') := fun hyes => by cases h hyes
            rw [escapeTags]
            split
            · rw [List.replicate_succ, List.cons_append, List.cons_append, List.cons_append, tag?_bracket,
                if_neg fun hopens => by cases hopens.1]
            · rw [List.cons_append, List.cons_append, tag?_bracket, hfind, if_neg hno]
      · exact tag?_of_ne hbracket hslash _

/-- An escaped text can be shown. -/
theorem shows_escapeTags {e : Text} (he : ∀ c ∈ e, isBracket c = false) (s : Text) :
    Shows tags (escapeTags s ++ e) := by
  fun_induction escapeTags s with
  | case1 => exact .of_not_mem fun hmem => by cases he _ hmem
  | case2 c r slashes tag htag ih =>
      rw [List.append_assoc, List.cons_append, List.append_assoc, List.cons_append]
      exact .escaped (tag?_eq_some.1 htag).1 (by omega) ih
  | case3 c r htag ih =>
      refine .cons ?_ ih
      have hnone := tag?_escapeTags he htag
      rw [escapeTags, htag] at hnone
      exact hnone

theorem shows_escape (s : Text) : Shows tags (escape s) := by
  unfold escape
  dsimp only
  split
  · exact shows_escapeTags (List.forall_mem_singleton.2 (by decide)) s
  · rw [← List.append_nil (escapeTags s)]
    exact shows_escapeTags (fun c hc => absurd hc List.not_mem_nil) s

/-- Escaping leaves a text without opening brackets as it is, but for a backslash at its end. -/
theorem escape_eq_append (h : '[' ∉ s) : ∃ e, '[' ∉ e ∧ escape s = s ++ e := by
  have hsame (s : Text) (h : '[' ∉ s) : escapeTags s = s := by
    induction s with
    | nil => rw [escapeTags]
    | cons c s ih =>
        rw [escapeTags, tag?_eq_none_of_not_mem h]
        exact congrArg (c :: ·) (ih fun hmem => h (List.mem_cons_of_mem c hmem))
  unfold escape
  rw [hsame s h]
  dsimp only
  split
  · exact ⟨['\\'], by decide, rfl⟩
  · exact ⟨[], List.not_mem_nil, (List.append_nil s).symm⟩

end JujuMigration.Markup
