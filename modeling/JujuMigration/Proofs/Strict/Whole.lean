import JujuMigration.Proofs.Strict.Replay
import JujuMigration.Proofs.Strict.Words
/-! Expressions in front of more text. A text that is an expression of its own is read as the same expression wherever
the words of it are the same, and the reading ends where the text does. -/

namespace JujuMigration.Strict

open Source Text Cursor

/-- No word of an expression goes on with the text, and from wherever an expression can end the cursor goes over its
line ends to the same place. -/
structure Stops (t : Text) : Prop where
  apart : StandsApart t
  quiet : ∀ {mode} last {word}, mode ≠ .inString → (Cursor.at mode last t).word = some word → word.isQuiet = true
  settles : ∀ {mode} last, mode ≠ .inString → (Cursor.at mode last t).skipNewlines.Same (settled t)
  behind : ∀ {word}, (settled t).word = some word → word.isQuiet = true

/-- The second cursor is in front of `t` where the first is in a text of its own, or it is behind that text. -/
inductive Tracks (t : Text) (c d : Cursor) : Prop
  | inside {word : Lexeme} (hc : c.word = some word) (hd : d.word = some word) (hstart : d.start = c.start ++ t)
      (hrest : d.rest = c.rest ++ t) (hsteady : IsSteady c.rest) (hconsumes : c.Consumes)
  | outside (hc : c.word = none) (hstart : c.start = []) (hquiet : ∀ {word}, d.word = some word → word.isQuiet = true)
      (hsettles : d.skipNewlines.Same (settled t)) (hconsumes : d.Consumes)

/-- Nothing can be taken here, though the text goes on. -/
def deadEnds : Traps := ⟨fun c => c.Fades ∧ c.start ≠ [], And.left⟩

section

variable {t s last last' : Text} {mode : Mode}

theorem tracks_at (ht : Stops t) (hmode : mode ≠ .inString) (hs : IsSteady s)
    (hlive : ¬deadEnds.holds (Cursor.at mode last s)) :
    Tracks t (Cursor.at mode last s) (Cursor.at mode last' (s ++ t)) := by
  have hc := at_consumes mode last s
  cases hskip : skipSpaces s with
  | nil =>
      obtain rfl : s = [] := by
        cases s with
        | nil => rfl
        | cons c s =>
            have hblank : isSpace c = true := List.dropWhile_eq_nil_iff.1 hskip c List.mem_cons_self
            obtain ⟨d, r, hr⟩ := hs.skipSpaces (isGapChar_of_isSpace hblank)
            rw [skipSpaces, List.dropWhile_cons_of_pos hblank, ← skipSpaces, hr] at hskip
            cases hskip
      rw [at_nil hmode]
      exact .outside rfl rfl (ht.quiet last' hmode) (ht.settles last' hmode) (at_consumes mode last' t)
  | cons c r =>
      have hlonger := skipSpaces_append_of_cons (t := t) hskip
      have hequals' : (if mode.allowsEquals then equals? (s ++ t) else none) =
          (if mode.allowsEquals then equals? s else none).map (· ++ t) := by
        rw [equals?_grows ht.apart hskip]
        split <;> rfl
      cases hequals : if mode.allowsEquals then equals? s else none with
      | some x =>
          have hx : x <:+ s := by
            split at hequals
            · obtain ⟨p, -, rfl⟩ := equals?_append hequals
              exact List.suffix_append p x
            · cases hequals
          rw [hequals] at hequals'
          rw [at_of_equals hmode hequals] at hc ⊢
          rw [at_of_equals hmode hequals']
          exact .inside rfl rfl rfl rfl (hs.suffix hx) hc
      | none =>
          rw [hequals] at hequals'
          have hsteady : IsSteady (c :: r) := hs.suffix (hskip ▸ skipSpaces_suffix s)
          have dead (h : wordAt mode c r = none ∨
              wordAt mode c r = some (.operator ['/'], r) ∧ (Cursor.at .start (c :: r) r).word = none) :
              deadEnds.holds (Cursor.at mode last s) := by
            rcases h with hw | ⟨hw, hoperand⟩
            · rw [at_of_none hmode hequals hskip hw]
              exact ⟨.inl rfl, List.cons_ne_nil c r⟩
            · rw [at_of_word hmode hequals hskip hw]
              exact ⟨.inr ⟨_, rfl, hoperand⟩, List.cons_ne_nil c r⟩
          rcases newline?_grows (t := t) hsteady with hnewline | hends
          · have hgrows := grows_wordAt ht.apart hsteady hnewline mode
            cases hw : wordAt mode c r with
            | none => exact absurd (dead (.inl hw)) hlive
            | some x =>
                rw [Grows, hw] at hgrows
                have hrest : x.2 <:+ c :: r := (leaves_wordAt mode c r _ _ hw).trans (List.suffix_cons c r)
                rw [at_of_word hmode hequals hskip hw] at hc ⊢
                rw [at_of_word hmode hequals' hlonger hgrows]
                exact .inside rfl rfl rfl rfl (hsteady.suffix hrest) hc
          · exact absurd (dead (hends mode)) hlive

/-! ### Quoted texts -/

theorem stringChars_grows (ht : StandsApart t) (hend : (stringChars s).2 ≠ []) (hescape : (stringChars s).2 ≠ ['\\']) :
    stringChars (s ++ t) = ((stringChars s).1, (stringChars s).2 ++ t) := by
  have opens (r : Text) : ((after? ['{'] (r ++ t)).isSome ∨ (after? ['$', '{'] (r ++ t)).isSome) ↔
      (after? ['{'] r).isSome ∨ (after? ['$', '{'] r).isSome := by
    rw [after?_apart ht rfl, after?_apart ht rfl, Option.isSome_map, Option.isSome_map]
  fun_induction stringChars s with
  | case1 r => rfl
  | case2 r c hc q rest hq ih =>
      rw [hq] at ih
      rw [List.cons_append, List.cons_append, stringChars, if_neg hc, ih hend hescape]
  | case3 c r hother hc =>
      rcases hc with rfl | rfl
      · rw [List.cons_append, stringChars, if_pos (.inl rfl)]
        exact fun _ _ h => nomatch h
      · cases r with
        | nil => exact absurd rfl hescape
        | cons d r => exact absurd rfl (hother d r rfl)
  | case4 c r _ hc hhole =>
      rw [List.cons_append, stringChars, if_neg hc, if_pos ⟨hhole.1, (opens r).2 hhole.2⟩]
      exact fun _ _ h => absurd (.inr h) hc
  | case5 c r _ hc hhole q rest hq ih =>
      rw [hq] at ih
      rw [List.cons_append, stringChars, if_neg hc, if_neg fun h => hhole ⟨h.1, (opens r).1 h.2⟩, ih hend hescape]
      exact fun _ _ h => absurd (.inr h) hc
  | case6 => exact absurd rfl hend

theorem escapedHole?_grows (ht : StandsApart t) {q x : Text} (h : escapedHole? s = some (q, x)) :
    escapedHole? (s ++ t) = some (q, x ++ t) := by
  unfold escapedHole? at h ⊢
  rw [after?_apart ht rfl]
  cases hr : after? ['$', '$', '{'] s with
  | none =>
      rw [hr] at h
      cases h
  | some r =>
      rw [hr] at h
      rw [Option.map_some]
      dsimp only at h ⊢
      cases hd : r.dropWhile (· ≠ '}') with
      | nil =>
          rw [hd] at h
          cases h
      | cons d rest =>
          have hlength := congrArg List.length (after?_eq_some hr)
          have hle := (List.dropWhile_suffix (· ≠ '}') (l := r)).length_le
          rw [hd, List.length_cons] at hle
          rw [List.length_append] at hlength
          rw [hd] at h
          obtain ⟨rfl, rfl⟩ := Prod.mk.inj (Option.some.inj h)
          rw [List.dropWhile_append, hd, if_neg (by simp), List.cons_append]
          dsimp only
          rw [before_append (by omega)]

/-- What is read in quotes is read in front of more text, if the text goes on behind it. -/
theorem wordInString_grows (ht : StandsApart t) (hhole : (after? ['$', '$', '{'] s).isSome → (escapedHole? s).isSome)
    (hend : escapedHole? s = none → (stringChars s).2 ≠ [] ∧ (stringChars s).2 ≠ ['\\']) {word : Lexeme} {x : Text}
    (h : wordInString s = some (word, x)) : wordInString (s ++ t) = some (word, x ++ t) := by
  unfold wordInString at h ⊢
  cases he : escapedHole? s with
  | some y =>
      rw [he] at h
      rw [escapedHole?_grows ht he]
      obtain ⟨rfl, rfl⟩ := Prod.mk.inj (Option.some.inj h)
      rfl
  | none =>
      have hnone : after? ['$', '$', '{'] s = none := by
        cases hr : after? ['$', '$', '{'] s with
        | none => rfl
        | some r =>
            have := hhole (by rw [hr]; rfl)
            rw [he] at this
            cases this
      have he' : escapedHole? (s ++ t) = none := by
        unfold escapedHole?
        rw [after?_apart ht rfl, hnone]
        rfl
      obtain ⟨hne, hescape⟩ := hend he
      rw [he] at h
      rw [he', stringChars_grows ht hne hescape]
      dsimp only at h ⊢
      generalize stringChars s = chars at h
      obtain ⟨q, rest⟩ := chars
      cases q with
      | cons c q =>
          obtain ⟨rfl, rfl⟩ := Prod.mk.inj (Option.some.inj h)
          rfl
      | nil =>
          dsimp only at h ⊢
          rw [after?_apart ht rfl, after?_apart ht rfl]
          rcases Option.or_eq_some_iff.1 h with h | ⟨hn, h⟩
          · obtain ⟨y, hy, h⟩ := Option.map_eq_some_iff.1 h
            obtain ⟨rfl, rfl⟩ := Prod.mk.inj h
            rw [hy]
            rfl
          · obtain ⟨y, hy, h⟩ := Option.map_eq_some_iff.1 h
            obtain ⟨rfl, rfl⟩ := Prod.mk.inj h
            rw [Option.map_eq_none_iff.1 hn, hy]
            rfl

theorem parseTemplate_of_none {c : Cursor} (h : c.word = none) (n : Nat) (done : List (Part Expr))
    (x : List (Part Expr) × Cursor) : parseTemplate n done c ≠ .ok x := by
  intro hp
  cases n with
  | zero => cases hp
  | succ n =>
      rw [parseTemplate, h] at hp
      cases hp

/-- An opening of a hole that is not closed is nothing in quotes. -/
theorem wordInString_opened (h : (after? ['$', '$', '{'] s).isSome = true) (he : escapedHole? s = none) :
    wordInString s = none := by
  obtain ⟨r, hr⟩ := Option.isSome_iff_exists.1 h
  rw [wordInString, he, after?_eq_some hr]
  rfl

/-- A quoted text that does not end is not read. -/
theorem parseTemplate_unclosed (he : escapedHole? s = none)
    (hend : (stringChars s).2 = [] ∨ (stringChars s).2 = ['\\']) (n : Nat) (done : List (Part Expr))
    (x : List (Part Expr) × Cursor) : parseTemplate n done (Cursor.at .inString last s) ≠ .ok x := by
  have happend := stringChars_append s
  have stops (last : Text) : (Cursor.at .inString last (stringChars s).2).word = none := by
    rcases hend with h | h <;> rw [h] <;> rfl
  cases hq : (stringChars s).1 with
  | nil =>
      rw [hq, List.nil_append] at happend
      exact parseTemplate_of_none (happend ▸ stops last) n done x
  | cons c q =>
      have hw : wordInString s = some (.chars (c :: q), (stringChars s).2) := by
        rw [wordInString, he, ← hq]
        dsimp only
        split
        · next heq => rw [heq]
        · next heq =>
            rw [heq] at hq
            cases hq
      intro hp
      cases n with
      | zero => cases hp
      | succ n =>
          simp only [Cursor.at, hw] at hp
          rw [parseTemplate] at hp
          exact parseTemplate_of_none (stops s) n _ x hp

/-- In quotes too the second cursor follows the first, unless the quoted text does not end. -/
theorem tracks_inString (ht : StandsApart t) (hs : IsSteady s) :
    Tracks t (Cursor.at .inString last s) (Cursor.at .inString last' (s ++ t)) ∨
      ∀ n done x, parseTemplate n done (Cursor.at .inString last s) ≠ .ok x := by
  by_cases hhole : (after? ['$', '$', '{'] s).isSome → (escapedHole? s).isSome
  · by_cases hend : escapedHole? s = none → (stringChars s).2 ≠ [] ∧ (stringChars s).2 ≠ ['\\']
    · have hc := at_consumes .inString last s
      cases hw : wordInString s with
      | none =>
          refine .inr (parseTemplate_of_none ?_)
          simp only [Cursor.at, hw]
      | some x =>
          obtain ⟨p, -, hx⟩ := wordInString_append hw
          have hgrows := wordInString_grows ht hhole hend hw
          simp only [Cursor.at, hw, hgrows] at hc ⊢
          exact .inl (.inside rfl rfl rfl rfl (hs.suffix (hx ▸ List.suffix_append p x.2)) hc)
    · rw [Classical.not_imp, not_and_or, not_not, not_not] at hend
      exact .inr (parseTemplate_unclosed hend.1 hend.2)
  · rw [Classical.not_imp, Option.not_isSome_iff_eq_none] at hhole
    refine .inr (parseTemplate_of_none ?_)
    simp only [Cursor.at, wordInString_opened hhole.1 hhole.2]

/-! ### The same words in front of more text -/

theorem mirrors_tracks (ht : Stops t) : Mirrors deadEnds (Tracks t) where
  left h := by
    cases h with
    | inside _ _ _ _ _ hc => exact hc
    | outside hc => exact fun word hw => nomatch hc.symm.trans hw
  right h := by
    cases h with
    | inside hc _ hstart hrest _ hconsumes =>
        intro word hw
        have hlt := hconsumes _ hc
        rw [hstart, hrest, List.length_append, List.length_append]
        omega
    | outside _ _ _ _ hd => exact hd
  word h := by
    cases h with
    | inside hc hd => exact .inl (hd.trans hc.symm)
    | outside hc _ hquiet => exact .inr ⟨hc, fun _ => hquiet⟩
  advance mode h hw hmode hlive := by
    cases h with
    | inside _ _ _ hrest hsteady =>
        rw [advance, advance, hrest]
        exact tracks_at ht (by rintro rfl; cases hmode) hsteady hlive
    | outside hc => cases hc.symm.trans hw
  inString h hw := by
    cases h with
    | inside _ _ _ hrest hsteady =>
        rw [advance, advance, hrest]
        exact tracks_inString ht.apart hsteady
    | outside hc => cases hc.symm.trans hw
  settle h hn := by
    cases h with
    | inside hc => cases hc.symm.trans hn
    | outside hc hstart _ hsettles hd =>
        refine .outside hc hstart (fun hw => ht.behind (hsettles.word.symm.trans hw)) ?_ (to_skipNewlines hd).consumes
        rw [skipNewlines_of_word (word_skipNewlines_ne hd)]
        exact hsettles

end

/-! ### Whole expressions -/

/-- The text is an expression: it is read to its end, and its words are the same in front of more text. -/
structure IsWhole (s : Text) : Prop where
  steady : IsSteady s
  reads : ∃ x, parseExpr (8 * s.length + 3) (Cursor.at .start [] s) = .ok x ∧ x.2.start = []

theorem any_toOption_iff {α : Type} {x : Except Text α} {p : α → Bool} :
    x.toOption.any p = true ↔ ∃ a, x = .ok a ∧ p a = true := by
  cases x <;> simp [Except.toOption]

instance (s : Text) : Decidable (IsWhole s) :=
  decidable_of_iff (IsSteady s ∧ (parseExpr (8 * s.length + 3) (Cursor.at .start [] s)).toOption.any
      (fun x => x.2.start.isEmpty) = true) <| by
    rw [any_toOption_iff]
    simp only [List.isEmpty_iff]
    exact ⟨fun ⟨h, h'⟩ => ⟨h, h'⟩, fun ⟨h, h'⟩ => ⟨h, h'⟩⟩

/-- An expression is read as the same one in front of any text that it can stop at, and up to that. -/
theorem parseExpr_append {s t : Text} {e : Expr} {c : Cursor} (hs : IsSteady s)
    (hread : parseExpr (8 * s.length + 3) (Cursor.at .start [] s) = .ok (e, c)) (hempty : c.start = [])
    (ht : Stops t) (last : Text) : ∃ d,
      (∀ m, 8 * s.length + 3 ≤ m → parseExpr m (Cursor.at .start last (s ++ t)) = .ok (e, d)) ∧
      d.skipNewlines.Same (settled t) := by
  have hlive : ¬deadEnds.holds c := fun hdead => hdead.2 hempty
  have hbegins : Tracks t (Cursor.at .start [] s) (Cursor.at .start last (s ++ t)) :=
    tracks_at ht (by simp) hs (((goesOn _).expr (at_consumes _ _ _) hread).to.live hlive)
  have hreplay {m : Nat} (hm : 8 * s.length + 3 ≤ m) :
      ∃ d, parseExpr m (Cursor.at .start last (s ++ t)) = .ok (e, d) ∧ Tracks t c d :=
    (replays (mirrors_tracks ht) _).expr m hbegins hread hlive (by have := at_start_le .start [] s; omega)
  obtain ⟨d, hd, htracks⟩ := hreplay (Nat.le_refl _)
  refine ⟨d, fun m hm => ?_, ?_⟩
  · obtain ⟨d', hd', -⟩ := hreplay hm
    rw [hd', (parseExpr_unique (at_consumes _ _ _) hd' hd).2]
  · cases htracks with
    | inside hc _ _ _ _ hconsumes =>
        have hlt := hconsumes _ hc
        rw [hempty] at hlt
        cases hlt
    | outside _ _ _ hsettles _ => exact hsettles

end JujuMigration.Strict
