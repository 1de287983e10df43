import JujuMigration.Proofs.Strict.Progress
/-! Reading at two places at once. A relation between cursors mirrors the grammar if taking the same words leads from
related cursors to related ones. Then going over line ends does so too, and taking digits, numbers and paths. -/

namespace JujuMigration.Strict

open Source Text Cursor

theorem bind_ok {α β : Type} {x : Except Text α} {f : α → Except Text β} {a : α} {b : β} (h : x = .ok a)
    (h' : f a = .ok b) : x >>= f = .ok b := by
  rw [h]
  exact h'

/-- A word behind which nothing that has been read goes on. -/
def Lexeme.isQuiet : Lexeme → Bool
  | .newline | .rightBrace | .name _ => true
  | _ => false

/-- In quotes blanks are characters like others. -/
def Mode.isQuoted : Mode → Bool
  | .inString => true
  | _ => false

/-- Places that no reading leaves, so that a reading which ends elsewhere has come upon none of them. -/
structure Traps where
  holds : Cursor → Prop
  fades : ∀ {c}, holds c → c.Fades

theorem Cursor.To.live {T : Traps} {c c' : Cursor} (h : c.To c') (hlive : ¬T.holds c') : ¬T.holds c := fun ht => by
  obtain rfl := h.stays (T.fades ht)
  exact hlive ht

theorem Cursor.next_lt {c : Cursor} {w : Lexeme} (h : c.Consumes) (hw : c.word = some w) (mode : Mode) :
    (c.advance mode).skipNewlines.start.length < c.start.length :=
  Nat.lt_of_le_of_lt (to_skipNewlines (advance_consumes _ _)).le (advance_lt h hw mode)

theorem Cursor.word_of_skipNewlines {c : Cursor} {w : Lexeme} (h : c.skipNewlines.word = some w) : c.word ≠ none :=
  fun hn => by
    rw [skipNewlines_of_word (by simp [hn]), hn] at h
    cases h

theorem Cursor.atKeyword_iff {c : Cursor} {t : String} : c.atKeyword t = true ↔ c.word = some (.name t.toList) :=
  isAt_iff

theorem Cursor.Into.word {c c' : Cursor} (h : c.Into c') : c.word ≠ none := fun hn => h.leaves (.inl hn)

/-- Taking the same words leads from related cursors to related ones, but for traps. The cursors differ in the next word
only where the first has none; what the second has instead goes on with nothing. -/
structure Mirrors (T : Traps) (R : Cursor → Cursor → Prop) : Prop where
  left : ∀ {c d}, R c d → c.Consumes
  right : ∀ {c d}, R c d → d.Consumes
  word : ∀ {c d}, R c d → d.word = c.word ∨ c.word = none ∧ ∀ word, d.word = some word → word.isQuiet = true
  advance : ∀ {c d word} (mode), R c d → c.word = some word → mode.isQuoted = false → ¬T.holds (c.advance mode) →
    R (c.advance mode) (d.advance mode)
  inString : ∀ {c d word}, R c d → c.word = some word → R (c.advance .inString) (d.advance .inString) ∨
    ∀ n done x, parseTemplate n done (c.advance .inString) ≠ .ok x
  settle : ∀ {c d}, R c d → c.word = none → R c d.skipNewlines

namespace Mirrors

variable {T : Traps} {R : Cursor → Cursor → Prop} {c d c' : Cursor} {w : Lexeme} {mode : Mode} (hR : Mirrors T R)
include hR

theorem same (h : R c d) (hw : c.word = some w) : d.word = some w := by
  rcases hR.word h with hd | ⟨hn, -⟩
  · exact hd.trans hw
  · cases hn.symm.trans hw

theorem back (h : R c d) (hw : d.word = some w) (hquiet : w.isQuiet = false) : c.word = some w := by
  rcases hR.word h with hd | ⟨-, hall⟩
  · exact hd.symm.trans hw
  · cases hquiet.symm.trans (hall w hw)

theorem isAt_eq (h : R c d) (hn : c.word ≠ none) (w : Lexeme) : d.isAt w = c.isAt w := by
  rcases hR.word h with hd | ⟨hc, -⟩
  · rw [isAt, isAt, hd]
  · exact absurd hc hn

theorem atKeyword_eq (h : R c d) (hn : c.word ≠ none) (t : String) : d.atKeyword t = c.atKeyword t :=
  hR.isAt_eq h hn _

theorem not_isAt (h : R c d) (hat : ¬c.isAt w) (hquiet : w.isQuiet = false) : ¬d.isAt w :=
  fun hd => hat (isAt_iff.2 (hR.back h (isAt_iff.1 hd) hquiet))

/-- Takes a word that does not open a quoted text or go on with one. -/
theorem take (h : R c d) (hw : c.word = some w) (mode : Mode) (hlive : ¬T.holds (c.advance mode))
    (hmode : mode.isQuoted = false) : R (c.advance mode) (d.advance mode) :=
  hR.advance mode h hw hmode hlive

/-- Takes a word that does, where the quoted text is read to its end. -/
theorem quote {n : Nat} {done : List (Part Expr)} {x : List (Part Expr) × Cursor} (h : R c d) (hw : c.word = some w)
    (hparts : parseTemplate n done (c.advance .inString) = .ok x) : R (c.advance .inString) (d.advance .inString) :=
  (hR.inString h hw).resolve_right fun hnot => hnot n done x hparts

theorem expect (h : R c d) (hw : c.word = some w) (mode : Mode) : d.expect w mode = .ok (d.advance mode) :=
  expect_eq_ok.2 ⟨hR.same h hw, rfl⟩

theorem identifier {t : Text} (h : R c d) (hw : c.word = some (.name t)) (mode : Mode) :
    d.identifier mode = .ok (t, d.advance mode) :=
  identifier_eq_ok.2 ⟨hR.same h hw, rfl⟩

theorem skipNewlines (h : R c d) (hlive : ¬T.holds c.skipNewlines) : R c.skipNewlines d.skipNewlines := by
  have hc := hR.left h
  have hd := hR.right h
  induction hlen : c.start.length using Nat.strongRecOn generalizing c d with
  | ind length ih =>
      by_cases hw : c.word = some .newline
      · have hw' := hR.same h hw
        rw [skipNewlines_of_newline (fun h => hc _ h) hw] at hlive ⊢
        rw [skipNewlines_of_newline (fun h => hd _ h) hw']
        have hnext := hR.take h hw .afterNewline ((to_skipNewlines (advance_consumes _ _)).live hlive) rfl
        exact ih _ (hlen ▸ advance_lt hc hw _) hnext hlive (advance_consumes _ _) (advance_consumes _ _) rfl
      · rw [skipNewlines_of_word hw]
        rcases hR.word h with hword | ⟨hn, -⟩
        · rwa [skipNewlines_of_word (hword ▸ hw)]
        · exact hR.settle h hn

/-- Behind a word and the line ends that follow it. -/
theorem next (h : R c d) (hw : c.word = some w) (mode : Mode) (hlive : ¬T.holds (c.advance mode).skipNewlines)
    (hmode : mode.isQuoted = false) : R (c.advance mode).skipNewlines (d.advance mode).skipNewlines :=
  hR.skipNewlines (hR.take h hw mode ((to_skipNewlines (advance_consumes _ _)).live hlive) hmode) hlive

theorem digitsUpTo {n m : Nat} (done : Text) (h : R c d) (hlive : ¬T.holds (digitsUpTo n done c).2)
    (hn : c.start.length ≤ n) (hm : d.start.length ≤ m) :
    (Cursor.digitsUpTo m done d).1 = (Cursor.digitsUpTo n done c).1 ∧
      R (Cursor.digitsUpTo n done c).2 (Cursor.digitsUpTo m done d).2 := by
  have hc := hR.left h
  have hd := hR.right h
  induction n generalizing c d m done with
  | zero =>
      have hno (x : Char) : c.word ≠ some (.digit x) := fun hw => by
        have := hc _ hw
        omega
      rw [digitsUpTo_stop hno, digitsUpTo_stop fun x hw => hno x (hR.back h hw rfl)]
      exact ⟨rfl, h⟩
  | succ n ih =>
      by_cases hw : ∃ x, c.word = some (.digit x)
      · obtain ⟨x, hw⟩ := hw
        have hw' := hR.same h hw
        have hlt := hd _ hw'
        obtain ⟨m, rfl⟩ : ∃ k, m = k + 1 := ⟨m - 1, by omega⟩
        rw [digitsUpTo_eq hw] at hlive ⊢
        rw [digitsUpTo_eq hw']
        have hnext := hR.take h hw .afterDigit ((to_digitsUpTo (advance_consumes _ _) _ _).live hlive) rfl
        have hlt := advance_lt hc hw .afterDigit
        have hlt' := advance_lt hd hw' .afterDigit
        exact ih _ hnext hlive (by omega) (by omega) (advance_consumes _ _) (advance_consumes _ _)
      · have hno (x : Char) : c.word ≠ some (.digit x) := fun h => hw ⟨x, h⟩
        rw [digitsUpTo_stop hno, digitsUpTo_stop fun x hw => hno x (hR.back h hw rfl)]
        exact ⟨rfl, h⟩

theorem digits {ds : Text} (h : R c d) (hd : c.digits = .ok (ds, c')) (hlive : ¬T.holds c') :
    ∃ d', d.digits = .ok (ds, d') ∧ R c' d' := by
  obtain ⟨hne, hds⟩ := digits_eq_ok.1 hd
  obtain ⟨htaken, hnext⟩ := hR.digitsUpTo [] h (by rwa [hds]) (Nat.le_refl _) (Nat.le_refl _)
  rw [hds] at htaken hnext
  exact ⟨(Cursor.digitsUpTo d.start.length [] d).2, digits_eq_ok.2 ⟨hne, Prod.ext htaken rfl⟩, hnext⟩

theorem beginsNumber {whole : Text} (h : R c d) (hb : c.BeginsNumber whole c') (hlive : ¬T.holds c') :
    ∃ d', d.BeginsNumber whole d' ∧ R c' d' := by
  rcases hb with ⟨x, hw, hdigits⟩ | ⟨hne, hdigits⟩
  · have hw' := hR.same h hw
    have hto := to_digitsUpTo (advance_consumes c .afterDigit) c.start.length ['-', x]
    rw [hdigits] at hto
    have hnext := hR.take h hw .afterDigit (hto.live hlive) rfl
    have hlt := advance_lt (hR.left h) hw .afterDigit
    have hlt' := advance_lt (hR.right h) hw' .afterDigit
    obtain ⟨htaken, hafter⟩ := hR.digitsUpTo (n := c.start.length) (m := d.start.length) ['-', x] hnext
      (by rwa [hdigits]) (by omega) (by omega)
    rw [hdigits] at htaken hafter
    exact ⟨(Cursor.digitsUpTo d.start.length ['-', x] (d.advance .afterDigit)).2,
      .inl ⟨x, hw', Prod.ext htaken rfl⟩, hafter⟩
  · obtain ⟨d', hd, hnext⟩ := hR.digits h hdigits hlive
    exact ⟨d', .inr ⟨fun x hw => hne x (hR.back h hw rfl), hd⟩, hnext⟩

theorem endsNumber {whole : Text} {e : Expr} (h : R c d) (hends : EndsNumber whole c e c') (hlive : ¬T.holds c') :
    ∃ d', EndsNumber whole d e d' ∧ R c' d' := by
  cases hends with
  | plain hdot hexponent =>
      exact ⟨d, .plain (fun hw => hdot (hR.back h hw rfl)) fun t hw => hexponent t (hR.back h hw rfl), h⟩
  | power hexponent => exact ⟨_, .power (hR.same h hexponent), hR.take h hexponent .afterQuote hlive rfl⟩
  | fraction hdot hdigits hexponent =>
      have hinto := into_digits (advance_consumes c .start) hdigits
      have hnext := hR.take h hdot .start (hinto.to.live hlive) rfl
      obtain ⟨d₁, hd₁, hafter⟩ := hR.digits hnext hdigits hlive
      exact ⟨d₁, .fraction (hR.same h hdot) hd₁ fun t hw => hexponent t (hR.back hafter hw rfl), hafter⟩
  | @both ds t c₁ hdot hdigits hexponent =>
      have hinto := into_digits (advance_consumes c .start) hdigits
      have hend := (into_advance hinto.consumes hexponent .afterQuote rfl).to.live hlive
      have hnext := hR.take h hdot .start (hinto.to.live hend) rfl
      obtain ⟨d₁, hd₁, hafter⟩ := hR.digits hnext hdigits hend
      exact ⟨_, .both (hR.same h hdot) hd₁ (hR.same hafter hexponent), hR.take hafter hexponent .afterQuote hlive rfl⟩

theorem number {e : Expr} (h : R c d) (hn : c.number = .ok (e, c')) (hlive : ¬T.holds c') :
    ∃ d', d.number = .ok (e, d') ∧ R c' d' := by
  obtain ⟨whole, c₁, hwhole, hends⟩ := number_eq_ok.1 hn
  have hto := to_endsNumber (into_beginsNumber (hR.left h) hwhole).consumes hends
  obtain ⟨d₁, hwhole, hafter⟩ := hR.beginsNumber h hwhole (hto.live hlive)
  obtain ⟨d', hends, hend⟩ := hR.endsNumber hafter hends hlive
  exact ⟨d', number_eq_ok.2 ⟨whole, d₁, hwhole, hends⟩, hend⟩

theorem dottedUpTo (e : Expr) (n m : Nat) {e' : Expr} (h : R c d) (hp : Strict.dottedUpTo n e c = .ok (e', c'))
    (hlive : ¬T.holds c') (hm : c.start.length + 1 ≤ m) : ∃ d', Strict.dottedUpTo m e d = .ok (e', d') ∧ R c' d' := by
  induction n generalizing e c d m with
  | zero => cases hp
  | succ n ih =>
      obtain ⟨m, rfl⟩ := Nat.exists_eq_add_one_of_ne_zero (show m ≠ 0 by omega)
      rw [Strict.dottedUpTo] at hp
      split at hp
      · next hat =>
          have hw := isAt_iff.1 hat
          obtain ⟨name, c₁, hname, hp⟩ := exists_of_bind hp
          obtain ⟨hw₁, rfl⟩ := identifier_eq_ok.1 hname
          have h₁ := into_advance (hR.left h) hw .start rfl
          have h₂ := into_advance h₁.consumes hw₁ .afterName rfl
          have hlive₂ := (to_dottedUpTo h₂.consumes hp).live hlive
          have hr₁ := hR.take h hw .start (h₂.to.live hlive₂) rfl
          have hlt₁ := h₁.lt
          have hlt₂ := h₂.lt
          obtain ⟨d', hd', hr'⟩ := ih _ m (hR.take hr₁ hw₁ .afterName hlive₂ rfl) hp (by omega)
          refine ⟨d', ?_, hr'⟩
          rw [Strict.dottedUpTo, if_pos (isAt_iff.2 (hR.same h hw))]
          exact bind_ok (hR.identifier hr₁ hw₁ .afterName) hd'
      · next hat =>
          obtain ⟨rfl, rfl⟩ := Prod.mk.inj (Except.ok.inj hp)
          refine ⟨d, ?_, h⟩
          rw [Strict.dottedUpTo, if_neg (hR.not_isAt h hat rfl)]

end Mirrors

end JujuMigration.Strict
