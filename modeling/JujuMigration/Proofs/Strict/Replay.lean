import JujuMigration.Proofs.Strict.Mirror
/-! What is read at a cursor is read at every related one, if the relation mirrors the grammar: function by function,
and by induction on the bound for all of them. With equality for the relation this says that the bound of a reading
makes no difference as long as it is high enough. -/

namespace JujuMigration.Strict

open Source Text Cursor

/-- With this bound the function reads at a related cursor what it reads at the first one, whatever the bound there is
that the text in front of the first does not exceed. -/
def Repeats {α : Type} (T : Traps) (R : Cursor → Cursor → Prop) (extra : Nat)
    (read : Nat → Cursor → Except Text (α × Cursor)) (n : Nat) : Prop :=
  ∀ {c d a c'} (m), R c d → read n c = .ok (a, c') → ¬T.holds c' → 8 * c.start.length + extra ≤ m →
    ∃ d', read m d = .ok (a, d') ∧ R c' d'

/-- Every function of the grammar with the bound reads alike at related cursors. What is added to the length grows with
the calls that a function makes before a word is taken. -/
structure Replays (T : Traps) (R : Cursor → Cursor → Prop) (n : Nat) : Prop where
  expr : Repeats T R 3 parseExpr n
  operators : ∀ e, Repeats T R 1 (parseOperators · e) n
  operand : Repeats T R 2 parseOperand n
  term : Repeats T R 1 parseTerm n
  named : ∀ t, Repeats T R 2 (parseNamed · t) n
  arguments : ∀ done, Repeats T R 4 (parseArguments · done) n
  suffixes : ∀ e, Repeats T R 1 (parseSuffixes · e) n
  template : ∀ done, Repeats T R 1 (parseTemplate · done) n
  brackets : Repeats T R 5 parseBrackets n
  items : ∀ done, Repeats T R 4 (parseItems · done) n
  moreItems : ∀ done, Repeats T R 1 (parseMoreItems · done) n
  forIntro : Repeats T R 1 parseForIntro n
  guard : ∀ {c d g c'} (m), R c d → c.word ≠ none → parseGuard n c = .ok (g, c') → ¬T.holds c' →
    8 * c.start.length + 1 ≤ m → ∃ d', parseGuard m d = .ok (g, d') ∧ R c' d'
  forTuple : Repeats T R 2 parseForTuple n
  forObject : Repeats T R 2 parseForObject n
  braces : Repeats T R 3 parseBraces n
  entries : ∀ done, Repeats T R 2 (parseEntries · done) n
  entryValue : ∀ key, Repeats T R 1 (parseEntryValue · key) n
  key : Repeats T R 1 parseKey n

namespace Replays

section

variable {T : Traps} {R : Cursor → Cursor → Prop} {n : Nat}

theorem zero : Replays T R 0 := by
  constructor <;> first | (intro _ _ _ _ _ _ hp; cases hp) | (intro _ _ _ _ _ _ _ hp; cases hp)

variable (hR : Mirrors T R) (ih : Replays T R n)
include hR ih

theorem succ_expr : Repeats T R 3 parseExpr (n + 1) := by
  intro c d e c' m h hp hlive hm
  rw [parseExpr] at hp
  obtain ⟨e₁, c₁, hoperand, hp⟩ := exists_of_bind hp
  have h₁ := (goesOn n).operand (hR.left h) hoperand
  have h₂ := (goesOn n).operators h₁.consumes hp
  have hlt := h₁.lt
  obtain ⟨m, rfl⟩ := Nat.exists_eq_add_one_of_ne_zero (show m ≠ 0 by omega)
  obtain ⟨d₁, hd₁, hr₁⟩ := ih.operand m h hoperand (h₂.live hlive) (by omega)
  obtain ⟨d₂, hd₂, hr₂⟩ := ih.operators e₁ m hr₁ hp hlive (by omega)
  refine ⟨d₂, ?_, hr₂⟩
  rw [parseExpr]
  exact bind_ok hd₁ hd₂

theorem succ_operators (e : Expr) : Repeats T R 1 (parseOperators · e) (n + 1) := by
  intro c d e' c' m h hp hlive hm
  obtain ⟨m, rfl⟩ := Nat.exists_eq_add_one_of_ne_zero (show m ≠ 0 by omega)
  dsimp only at hp ⊢
  rw [parseOperators] at hp
  split at hp
  · next op hw =>
      obtain ⟨right, c₁, hright, hp⟩ := exists_of_bind hp
      have h₁ := (goesOn n).expr (to_skipNewlines (advance_consumes c .start)).consumes hright
      have h₂ := to_skipNewlines h₁.consumes
      have h₃ := (goesOn n).operators h₂.consumes hp
      have hlt := next_lt (hR.left h) hw .start
      have hlt₁ := h₁.lt
      have hle₂ := h₂.le
      have hlive₂ := h₃.live hlive
      have hlive₁ := h₂.live hlive₂
      obtain ⟨d₁, hd₁, hr₁⟩ := ih.expr m (hR.next h hw .start (h₁.to.live hlive₁) rfl) hright hlive₁ (by omega)
      obtain ⟨d₂, hd₂, hr₂⟩ := ih.operators _ m (hR.skipNewlines hr₁ hlive₂) hp hlive (by omega)
      refine ⟨d₂, ?_, hr₂⟩
      rw [parseOperators, hR.same h hw]
      exact bind_ok hd₁ hd₂
  · next hw =>
      obtain ⟨yes, c₁, hyes, hp⟩ := exists_of_bind hp
      obtain ⟨hcolon, hp⟩ := exists_of_expect hp
      obtain ⟨no, c₂, hno, hp⟩ := exists_of_bind hp
      obtain ⟨rfl, rfl⟩ := Prod.mk.inj (Except.ok.inj hp)
      have h₁ := (goesOn n).expr (to_skipNewlines (advance_consumes c .start)).consumes hyes
      have h₂ := to_skipNewlines h₁.consumes
      have h₃ := into_next h₂.consumes hcolon .start rfl
      have h₄ := (goesOn n).expr h₃.consumes hno
      have hlt := next_lt (hR.left h) hw .start
      have hlt₁ := h₁.lt
      have hle₂ := h₂.le
      have hlt₃ := h₃.lt
      have hlive₃ := h₄.to.live hlive
      have hlive₂ := h₃.to.live hlive₃
      have hlive₁ := h₂.live hlive₂
      obtain ⟨d₁, hd₁, hr₁⟩ := ih.expr m (hR.next h hw .start (h₁.to.live hlive₁) rfl) hyes hlive₁ (by omega)
      have hr₂ := hR.skipNewlines hr₁ hlive₂
      obtain ⟨d₂, hd₂, hr₃⟩ := ih.expr m (hR.next hr₂ hcolon .start hlive₃ rfl) hno hlive (by omega)
      refine ⟨d₂, ?_, hr₃⟩
      rw [parseOperators, hR.same h hw]
      exact bind_ok hd₁ (bind_ok (hR.expect hr₂ hcolon .start) (bind_ok hd₂ rfl))
  · next hoperator hquestion =>
      obtain ⟨rfl, rfl⟩ := Prod.mk.inj (Except.ok.inj hp)
      refine ⟨d, ?_, h⟩
      rw [parseOperators]
      split
      · next hw => exact absurd (hR.back h hw rfl) (hoperator _)
      · next hw => exact absurd (hR.back h hw rfl) hquestion
      · rfl

theorem succ_operand : Repeats T R 2 parseOperand (n + 1) := by
  intro c d e c' m h hp hlive hm
  obtain ⟨m, rfl⟩ := Nat.exists_eq_add_one_of_ne_zero (show m ≠ 0 by omega)
  have signed {w : Lexeme} (hw : c.word = some w) {e₁ : Expr} {c₁ : Cursor} (hlive : ¬T.holds c₁)
      (hterm : parseTerm n (c.advance .start) = .ok (e₁, c₁)) :
      ∃ d₁, parseTerm m (d.advance .start) = .ok (e₁, d₁) ∧ R c₁ d₁ := by
    have h₁ := (goesOn n).term (advance_consumes c .start) hterm
    have hlt := advance_lt (hR.left h) hw .start
    exact ih.term m (hR.take h hw .start (h₁.to.live hlive) rfl) hterm hlive (by omega)
  rw [parseOperand] at hp
  split at hp
  · next hw =>
      obtain ⟨e₁, c₁, hterm, hp⟩ := exists_of_bind hp
      obtain ⟨rfl, rfl⟩ := Prod.mk.inj (Except.ok.inj hp)
      obtain ⟨d₁, hd₁, hr₁⟩ := signed hw hlive hterm
      refine ⟨d₁, ?_, hr₁⟩
      rw [parseOperand, hR.same h hw]
      exact bind_ok hd₁ rfl
  · next hw =>
      obtain ⟨e₁, c₁, hterm, hp⟩ := exists_of_bind hp
      obtain ⟨rfl, rfl⟩ := Prod.mk.inj (Except.ok.inj hp)
      obtain ⟨d₁, hd₁, hr₁⟩ := signed hw hlive hterm
      refine ⟨d₁, ?_, hr₁⟩
      rw [parseOperand, hR.same h hw]
      exact bind_ok hd₁ rfl
  · next hminus hbang =>
      obtain ⟨d₁, hd₁, hr₁⟩ := ih.term m h hp hlive (by omega)
      refine ⟨d₁, ?_, hr₁⟩
      rw [parseOperand]
      split
      · next hw => exact absurd (hR.back h hw rfl) hminus
      · next hw => exact absurd (hR.back h hw rfl) hbang
      · exact hd₁

omit hR in
/-- The suffixes behind what has been taken of a term. -/
theorem suffixes_behind {c c₁ c' : Cursor} {e₁ e : Expr} {m : Nat} (h₁ : c.Into c₁)
    (hp : parseSuffixes n e₁ c₁ = .ok (e, c')) (hlive : ¬T.holds c') (hm : 8 * c.start.length ≤ m) :
    ¬T.holds c₁ ∧ ∀ {d₁}, R c₁ d₁ → ∃ d', parseSuffixes m e₁ d₁ = .ok (e, d') ∧ R c' d' := by
  have hlt := h₁.lt
  exact ⟨((goesOn n).suffixes h₁.consumes hp).live hlive, fun hr₁ => ih.suffixes e₁ m hr₁ hp hlive (by omega)⟩

/-- An expression between a word that opens and one that closes. -/
theorem enclosed {c d c₁ : Cursor} {opener closer : Lexeme} {e₁ : Expr} {m : Nat} (h : R c d)
    (hw : c.word = some opener) (hopener : opener.isOperator = false)
    (hexpr : parseExpr n (c.advance .start).skipNewlines = .ok (e₁, c₁))
    (hw₁ : c₁.skipNewlines.word = some closer) (hcloser : closer.isOperator = false)
    (hm : 8 * c.start.length ≤ m) : c.Into (c₁.skipNewlines.advance .afterOperand) ∧
      (¬T.holds (c₁.skipNewlines.advance .afterOperand) → ∃ d₁,
        parseExpr m (d.advance .start).skipNewlines = .ok (e₁, d₁) ∧
        d₁.skipNewlines.expect closer .afterOperand = .ok (d₁.skipNewlines.advance .afterOperand) ∧
        R (c₁.skipNewlines.advance .afterOperand) (d₁.skipNewlines.advance .afterOperand)) := by
  have hnext := into_next (hR.left h) hw .start hopener
  have h₁ := (goesOn n).expr hnext.consumes hexpr
  have h₂ := to_skipNewlines h₁.consumes
  have h₃ := into_advance h₂.consumes hw₁ .afterOperand hcloser
  refine ⟨hnext.trans (h₁.to.trans (h₂.trans h₃.to)), fun hlive => ?_⟩
  have hlive₂ := h₃.to.live hlive
  have hlive₁ := h₂.live hlive₂
  have hlt := hnext.lt
  obtain ⟨d₁, hd₁, hr₁⟩ := ih.expr m (hR.next h hw .start (h₁.to.live hlive₁) rfl) hexpr hlive₁ (by omega)
  have hr₂ := hR.skipNewlines hr₁ hlive₂
  exact ⟨d₁, hd₁, hR.expect hr₂ hw₁ .afterOperand, hR.take hr₂ hw₁ .afterOperand hlive rfl⟩

theorem succ_term : Repeats T R 1 parseTerm (n + 1) := by
  intro c d e c' m h hp hlive hm
  obtain ⟨m, rfl⟩ := Nat.exists_eq_add_one_of_ne_zero (show m ≠ 0 by omega)
  have suffixes {e₁ : Expr} {c₁ : Cursor} (h₁ : c.Into c₁) (hp : parseSuffixes n e₁ c₁ = .ok (e, c')) :
      ¬T.holds c₁ ∧ ∀ {d₁}, R c₁ d₁ → ∃ d', parseSuffixes m e₁ d₁ = .ok (e, d') ∧ R c' d' :=
    ih.suffixes_behind h₁ hp hlive (by omega)
  have numeral {e₁ : Expr} {c₁ : Cursor} (hnumber : c.number = .ok (e₁, c₁))
      (hp : parseSuffixes n e₁ c₁ = .ok (e, c')) :
      ∃ d₁ d', d.number = .ok (e₁, d₁) ∧ parseSuffixes m e₁ d₁ = .ok (e, d') ∧ R c' d' := by
    obtain ⟨hend, read⟩ := suffixes (into_number (hR.left h) hnumber) hp
    obtain ⟨d₁, hd₁, hr₁⟩ := hR.number h hnumber hend
    obtain ⟨d', hd', hr'⟩ := read hr₁
    exact ⟨d₁, d', hd₁, hd', hr'⟩
  rw [parseTerm_succ] at hp
  cases hw : c.word with
  | none =>
      rw [hw] at hp
      cases hp
  | some word =>
      have hw' := hR.same h hw
      have hlt := fun mode => advance_lt (hR.left h) hw mode
      rw [parseTerm_succ, hw']
      rw [hw] at hp
      cases word with
      | name t =>
          have h₁ := (goesOn n).named (advance_consumes c .afterName) hp
          have hlt := hlt .afterName
          exact ih.named t m (hR.take h hw .afterName (h₁.live hlive) rfl) hp hlive (by omega)
      | digit x =>
          obtain ⟨e₁, c₁, hnumber, hp⟩ := exists_of_bind hp
          obtain ⟨d₁, d', hd₁, hd', hr'⟩ := numeral hnumber hp
          exact ⟨d', bind_ok hd₁ hd', hr'⟩
      | negative x =>
          obtain ⟨e₁, c₁, hnumber, hp⟩ := exists_of_bind hp
          obtain ⟨d₁, d', hd₁, hd', hr'⟩ := numeral hnumber hp
          exact ⟨d', bind_ok hd₁ hd', hr'⟩
      | quote =>
          obtain ⟨parts, c₁, hparts, hp⟩ := exists_of_bind hp
          have h₁ := (into_advance (hR.left h) hw .inString rfl).trans
            ((goesOn n).template (advance_consumes c .inString) hparts).to
          have hlt := hlt .inString
          obtain ⟨hend, read⟩ := suffixes h₁ hp
          obtain ⟨d₁, hd₁, hr₁⟩ := ih.template [] m (hR.quote h hw hparts) hparts hend (by omega)
          obtain ⟨d', hd', hr'⟩ := read hr₁
          exact ⟨d', bind_ok hd₁ hd', hr'⟩
      | heredoc t =>
          obtain ⟨hend, read⟩ := suffixes (into_advance (hR.left h) hw .afterOperand rfl) hp
          exact read (hR.take h hw .afterOperand hend rfl)
      | trimmedHeredoc t =>
          obtain ⟨hend, read⟩ := suffixes (into_advance (hR.left h) hw .afterOperand rfl) hp
          exact read (hR.take h hw .afterOperand hend rfl)
      | leftParen =>
          obtain ⟨e₁, c₁, hexpr, hp⟩ := exists_of_bind hp
          obtain ⟨hparen, hp⟩ := exists_of_expect hp
          obtain ⟨hinto, between⟩ := ih.enclosed hR h hw rfl hexpr hparen rfl (m := m) (by omega)
          obtain ⟨hend, read⟩ := suffixes hinto hp
          obtain ⟨d₁, hd₁, hexpect, hr₁⟩ := between hend
          obtain ⟨d', hd', hr'⟩ := read hr₁
          exact ⟨d', bind_ok hd₁ (bind_ok hexpect hd'), hr'⟩
      | leftBracket =>
          obtain ⟨e₁, c₁, hbrackets, hp⟩ := exists_of_bind hp
          have hinto := (goesOn n).brackets (advance_consumes c .start) hbrackets
          have hlt := hlt .start
          obtain ⟨hend, read⟩ := suffixes ((into_advance (hR.left h) hw .start rfl).trans hinto.to) hp
          obtain ⟨d₁, hd₁, hr₁⟩ := ih.brackets m (hR.take h hw .start (hinto.to.live hend) rfl) hbrackets hend
            (by omega)
          obtain ⟨d', hd', hr'⟩ := read hr₁
          exact ⟨d', bind_ok hd₁ hd', hr'⟩
      | leftBrace =>
          obtain ⟨e₁, c₁, hbraces, hp⟩ := exists_of_bind hp
          have hinto := (goesOn n).braces (advance_consumes c .start) hbraces
          have hlt := hlt .start
          obtain ⟨hend, read⟩ := suffixes ((into_advance (hR.left h) hw .start rfl).trans hinto.to) hp
          obtain ⟨d₁, hd₁, hr₁⟩ := ih.braces m (hR.take h hw .start (hinto.to.live hend) rfl) hbraces hend
            (by omega)
          obtain ⟨d', hd', hr'⟩ := read hr₁
          exact ⟨d', bind_ok hd₁ hd', hr'⟩
      | _ => cases hp

theorem succ_named (t : Text) : Repeats T R 2 (parseNamed · t) (n + 1) := by
  intro c d e c' m h hp hlive hm
  obtain ⟨m, rfl⟩ := Nat.exists_eq_add_one_of_ne_zero (show m ≠ 0 by omega)
  dsimp only at hp ⊢
  rw [parseNamed] at hp
  split at hp
  · next hw =>
      obtain ⟨args, c₁, hargs, hp⟩ := exists_of_bind hp
      have hnext := into_next (hR.left h) hw .start rfl
      have h₁ := (goesOn n).arguments hnext.consumes hargs
      have h₂ := (goesOn n).suffixes h₁.consumes hp
      have hlt := hnext.lt
      have hlt₁ := h₁.lt
      have hlive₁ := h₂.live hlive
      obtain ⟨d₁, hd₁, hr₁⟩ := ih.arguments [] m (hR.next h hw .start (h₁.to.live hlive₁) rfl) hargs hlive₁ (by omega)
      obtain ⟨d', hd', hr'⟩ := ih.suffixes _ m hr₁ hp hlive (by omega)
      refine ⟨d', ?_, hr'⟩
      rw [parseNamed, hR.same h hw]
      exact bind_ok hd₁ hd'
  · next hw =>
      obtain ⟨t₂, c₁, hname, hp⟩ := exists_of_bind hp
      obtain ⟨hw₁, rfl⟩ := identifier_eq_ok.1 hname
      obtain ⟨hw₂, hp⟩ := exists_of_expect hp
      obtain ⟨t₃, c₃, hname, hp⟩ := exists_of_bind hp
      obtain ⟨hw₃, rfl⟩ := identifier_eq_ok.1 hname
      obtain ⟨hw₄, hp⟩ := exists_of_expect hp
      obtain ⟨args, c₅, hargs, hp⟩ := exists_of_bind hp
      have h₁ := into_advance (hR.left h) hw .start rfl
      have h₂ := into_advance h₁.consumes hw₁ .afterName rfl
      have h₃ := into_advance h₂.consumes hw₂ .start rfl
      have h₄ := into_advance h₃.consumes hw₃ .afterName rfl
      have h₅ := into_next h₄.consumes hw₄ .start rfl
      have h₆ := (goesOn n).arguments h₅.consumes hargs
      have h₇ := (goesOn n).suffixes h₆.consumes hp
      have hlive₆ := h₇.live hlive
      have hlive₅ := h₆.to.live hlive₆
      have hlive₄ := h₅.to.live hlive₅
      have hlive₃ := h₄.to.live hlive₄
      have hlive₂ := h₃.to.live hlive₃
      have hr₁ := hR.take h hw .start (h₂.to.live hlive₂) rfl
      have hr₂ := hR.take hr₁ hw₁ .afterName hlive₂ rfl
      have hr₃ := hR.take hr₂ hw₂ .start hlive₃ rfl
      have hr₄ := hR.take hr₃ hw₃ .afterName hlive₄ rfl
      have hlt := ((h₁.trans h₂.to).trans ((h₃.trans h₄.to).trans h₅.to).to).lt
      have hlt₆ := h₆.lt
      obtain ⟨d₁, hd₁, hr₅⟩ := ih.arguments [] m (hR.next hr₄ hw₄ .start hlive₅ rfl) hargs hlive₆ (by omega)
      obtain ⟨d', hd', hr'⟩ := ih.suffixes _ m hr₅ hp hlive (by omega)
      refine ⟨d', ?_, hr'⟩
      rw [parseNamed, hR.same h hw]
      exact bind_ok (hR.identifier hr₁ hw₁ .afterName) (bind_ok (hR.expect hr₂ hw₂ .start)
        (bind_ok (hR.identifier hr₃ hw₃ .afterName) (bind_ok (hR.expect hr₄ hw₄ .start) (bind_ok hd₁ hd'))))
  · next hparen hcolons =>
      obtain ⟨d', hd', hr'⟩ := ih.suffixes _ m h hp hlive (by omega)
      refine ⟨d', ?_, hr'⟩
      rw [parseNamed]
      split
      · next hw => exact absurd (hR.back h hw rfl) hparen
      · next hw => exact absurd (hR.back h hw rfl) hcolons
      · exact hd'

theorem succ_arguments (done : List Expr) : Repeats T R 4 (parseArguments · done) (n + 1) := by
  intro c d es c' m h hp hlive hm
  obtain ⟨m, rfl⟩ := Nat.exists_eq_add_one_of_ne_zero (show m ≠ 0 by omega)
  dsimp only at hp ⊢
  rw [parseArguments] at hp
  split at hp
  · next hat =>
      have hw := isAt_iff.1 hat
      obtain ⟨rfl, rfl⟩ := Prod.mk.inj (Except.ok.inj hp)
      refine ⟨d.advance .afterOperand, ?_, hR.take h hw .afterOperand hlive rfl⟩
      rw [parseArguments, if_pos (isAt_iff.2 (hR.same h hw))]
  · next hat =>
      obtain ⟨e, c₁, hexpr, hp⟩ := exists_of_bind hp
      have h₁ := (goesOn n).expr (hR.left h) hexpr
      have hlt₁ := h₁.lt
      rw [parseArguments, if_neg (hR.not_isAt h hat rfl)]
      dsimp only at hp
      split at hp
      · next hellipsis =>
          have hw₁ := isAt_iff.1 hellipsis
          obtain ⟨hparen, hp⟩ := exists_of_expect hp
          obtain ⟨rfl, rfl⟩ := Prod.mk.inj (Except.ok.inj hp)
          have h₂ := into_next h₁.consumes hw₁ .afterEllipsis rfl
          have hlive₂ := (into_advance h₂.consumes hparen .afterOperand rfl).to.live hlive
          obtain ⟨d₁, hd₁, hr₁⟩ := ih.expr m h hexpr (h₂.to.live hlive₂) (by omega)
          have hr₂ := hR.next hr₁ hw₁ .afterEllipsis hlive₂ rfl
          refine ⟨_, bind_ok hd₁ ?_, hR.take hr₂ hparen .afterOperand hlive rfl⟩
          dsimp only
          rw [if_pos (isAt_iff.2 (hR.same hr₁ hw₁))]
          exact bind_ok (hR.expect hr₂ hparen .afterOperand) rfl
      · next hellipsis =>
          have h₂ := to_skipNewlines h₁.consumes
          split at hp
          · next hparen =>
              have hw₂ := isAt_iff.1 hparen
              obtain ⟨rfl, rfl⟩ := Prod.mk.inj (Except.ok.inj hp)
              have hlive₂ := (into_advance h₂.consumes hw₂ .afterOperand rfl).to.live hlive
              obtain ⟨d₁, hd₁, hr₁⟩ := ih.expr m h hexpr (h₂.live hlive₂) (by omega)
              have hr₂ := hR.skipNewlines hr₁ hlive₂
              refine ⟨_, bind_ok hd₁ ?_, hR.take hr₂ hw₂ .afterOperand hlive rfl⟩
              dsimp only
              rw [if_neg (hR.not_isAt hr₁ hellipsis rfl), if_pos (isAt_iff.2 (hR.same hr₂ hw₂))]
          · next hparen =>
              obtain ⟨hcomma, hp⟩ := exists_of_expect hp
              split at hp
              · cases hp
              · next hended =>
                  have h₃ := into_next h₂.consumes hcomma .start rfl
                  have h₄ := (goesOn n).arguments h₃.consumes hp
                  have hlt₃ := h₃.lt
                  have hle₂ := h₂.le
                  have hlive₃ := h₄.to.live hlive
                  have hlive₂ := h₃.to.live hlive₃
                  obtain ⟨d₁, hd₁, hr₁⟩ := ih.expr m h hexpr (h₂.live hlive₂) (by omega)
                  have hr₂ := hR.skipNewlines hr₁ hlive₂
                  have hr₃ := hR.next hr₂ hcomma .start hlive₃ rfl
                  obtain ⟨d', hd', hr'⟩ := ih.arguments _ m hr₃ hp hlive (by omega)
                  refine ⟨d', bind_ok hd₁ ?_, hr'⟩
                  dsimp only
                  rw [if_neg (hR.not_isAt hr₁ hellipsis rfl), if_neg (hR.not_isAt hr₂ hparen rfl),
                    hR.isAt_eq hr₁ (word_of_skipNewlines hcomma)]
                  refine bind_ok (hR.expect hr₂ hcomma .start) ?_
                  rw [hR.isAt_eq hr₃ h₄.word, if_neg hended]
                  exact hd'

theorem succ_suffixes (e : Expr) : Repeats T R 1 (parseSuffixes · e) (n + 1) := by
  intro c d e' c' m h hp hlive hm
  obtain ⟨m, rfl⟩ := Nat.exists_eq_add_one_of_ne_zero (show m ≠ 0 by omega)
  have suffixes {e₁ : Expr} {c₁ : Cursor} (h₁ : c.Into c₁) (hp : parseSuffixes n e₁ c₁ = .ok (e', c')) :
      ¬T.holds c₁ ∧ ∀ {d₁}, R c₁ d₁ → ∃ d', parseSuffixes m e₁ d₁ = .ok (e', d') ∧ R c' d' :=
    ih.suffixes_behind h₁ hp hlive (by omega)
  dsimp only at hp ⊢
  rw [parseSuffixes] at hp
  split at hp
  · next hw =>
      have h₁ := into_advance (hR.left h) hw .start rfl
      dsimp only at hp
      split at hp
      · next x hx =>
          obtain ⟨ds, c₁, hdigits, hp⟩ := exists_of_bind hp
          have h₂ := into_digits h₁.consumes hdigits
          obtain ⟨hend, read⟩ := suffixes (h₁.trans h₂.to) hp
          have hr₁ := hR.take h hw .start (h₂.to.live hend) rfl
          obtain ⟨d₁, hd₁, hr₂⟩ := hR.digits hr₁ hdigits hend
          obtain ⟨d', hd', hr'⟩ := read hr₂
          refine ⟨d', ?_, hr'⟩
          rw [parseSuffixes, hR.same h hw]
          dsimp only
          rw [hR.same hr₁ hx]
          exact bind_ok hd₁ hd'
      · next hdigit =>
          obtain ⟨name, c₁, hname, hp⟩ := exists_of_bind hp
          obtain ⟨hw₁, rfl⟩ := identifier_eq_ok.1 hname
          have h₂ := into_advance h₁.consumes hw₁ .afterName rfl
          obtain ⟨hend, read⟩ := suffixes (h₁.trans h₂.to) hp
          have hr₁ := hR.take h hw .start (h₂.to.live hend) rfl
          obtain ⟨d', hd', hr'⟩ := read (hR.take hr₁ hw₁ .afterName hend rfl)
          refine ⟨d', ?_, hr'⟩
          rw [parseSuffixes, hR.same h hw]
          dsimp only
          rw [hR.same hr₁ hw₁]
          exact bind_ok (hR.identifier hr₁ hw₁ .afterName) hd'
  · next hw =>
      obtain ⟨i, c₁, hexpr, hp⟩ := exists_of_bind hp
      obtain ⟨hbracket, hp⟩ := exists_of_expect hp
      obtain ⟨hinto, between⟩ := ih.enclosed hR h hw rfl hexpr hbracket rfl (m := m) (by omega)
      obtain ⟨hend, read⟩ := suffixes hinto hp
      obtain ⟨d₁, hd₁, hexpect, hr₁⟩ := between hend
      obtain ⟨d', hd', hr'⟩ := read hr₁
      refine ⟨d', ?_, hr'⟩
      rw [parseSuffixes, hR.same h hw]
      exact bind_ok hd₁ (bind_ok hexpect hd')
  · next hw =>
      obtain ⟨hend, read⟩ := suffixes (into_advance (hR.left h) hw .afterOperand rfl) hp
      obtain ⟨d', hd', hr'⟩ := read (hR.take h hw .afterOperand hend rfl)
      refine ⟨d', ?_, hr'⟩
      rw [parseSuffixes, hR.same h hw]
      exact hd'
  · next hw =>
      obtain ⟨e₁, c₁, hdotted, hp⟩ := exists_of_bind hp
      have h₁ := into_advance (hR.left h) hw .afterOperand rfl
      have h₂ := to_dottedUpTo h₁.consumes hdotted
      obtain ⟨hend, read⟩ := suffixes (h₁.trans h₂) hp
      have hlt := h₁.lt
      have hr₁ := hR.take h hw .afterOperand (h₂.live hend) rfl
      obtain ⟨d₁, hd₁, hr₂⟩ := hR.dottedUpTo _ (n + 1) (m + 1) hr₁ hdotted hend (by omega)
      obtain ⟨d', hd', hr'⟩ := read hr₂
      refine ⟨d', ?_, hr'⟩
      rw [parseSuffixes, hR.same h hw]
      exact bind_ok hd₁ hd'
  · next hdot hbracket hsplat hdotSplat =>
      obtain ⟨rfl, rfl⟩ := Prod.mk.inj (Except.ok.inj hp)
      refine ⟨d, ?_, h⟩
      rw [parseSuffixes]
      split
      · next hw => exact absurd (hR.back h hw rfl) hdot
      · next hw => exact absurd (hR.back h hw rfl) hbracket
      · next hw => exact absurd (hR.back h hw rfl) hsplat
      · next hw => exact absurd (hR.back h hw rfl) hdotSplat
      · rfl

theorem succ_template (done : List (Part Expr)) : Repeats T R 1 (parseTemplate · done) (n + 1) := by
  intro c d parts c' m h hp hlive hm
  obtain ⟨m, rfl⟩ := Nat.exists_eq_add_one_of_ne_zero (show m ≠ 0 by omega)
  dsimp only at hp ⊢
  rw [parseTemplate] at hp
  split at hp
  · next t hw =>
      have hlt := advance_lt (hR.left h) hw .inString
      obtain ⟨d', hd', hr'⟩ := ih.template _ m (hR.quote h hw hp) hp hlive (by omega)
      refine ⟨d', ?_, hr'⟩
      rw [parseTemplate, hR.same h hw]
      exact hd'
  · next t hw =>
      have hlt := advance_lt (hR.left h) hw .inString
      obtain ⟨d', hd', hr'⟩ := ih.template _ m (hR.quote h hw hp) hp hlive (by omega)
      refine ⟨d', ?_, hr'⟩
      rw [parseTemplate, hR.same h hw]
      exact hd'
  · next hw =>
      obtain ⟨e, c₁, hexpr, hp⟩ := exists_of_bind hp
      obtain ⟨hbrace, hp⟩ := exists_of_expect hp
      have h₁ := into_advance (hR.left h) hw .start rfl
      have h₂ := (goesOn n).expr h₁.consumes hexpr
      have h₃ := into_advance h₂.consumes hbrace .inString rfl
      have h₄ := (goesOn n).template h₃.consumes hp
      have hlive₂ := h₃.to.live (h₄.to.live hlive)
      have hlt₁ := h₁.lt
      have hlt₂ := h₂.lt
      have hlt₃ := h₃.lt
      obtain ⟨d₁, hd₁, hr₁⟩ := ih.expr m (hR.take h hw .start (h₂.to.live hlive₂) rfl) hexpr hlive₂ (by omega)
      obtain ⟨d', hd', hr'⟩ := ih.template _ m (hR.quote hr₁ hbrace hp) hp hlive (by omega)
      refine ⟨d', ?_, hr'⟩
      rw [parseTemplate, hR.same h hw]
      exact bind_ok hd₁ (bind_ok (hR.expect hr₁ hbrace .inString) hd')
  · next hw =>
      obtain ⟨rfl, rfl⟩ := Prod.mk.inj (Except.ok.inj hp)
      refine ⟨_, ?_, hR.take h hw .afterQuote hlive rfl⟩
      rw [parseTemplate, hR.same h hw]
  · cases hp

theorem succ_items (done : List Expr) : Repeats T R 4 (parseItems · done) (n + 1) := by
  intro c d es c' m h hp hlive hm
  obtain ⟨m, rfl⟩ := Nat.exists_eq_add_one_of_ne_zero (show m ≠ 0 by omega)
  dsimp only at hp ⊢
  rw [parseItems] at hp
  split at hp
  · next hat =>
      have hw := isAt_iff.1 hat
      obtain ⟨rfl, rfl⟩ := Prod.mk.inj (Except.ok.inj hp)
      refine ⟨_, ?_, hR.take h hw .afterOperand hlive rfl⟩
      rw [parseItems, if_pos (isAt_iff.2 (hR.same h hw))]
  · next hat =>
      obtain ⟨e, c₁, hexpr, hp⟩ := exists_of_bind hp
      have h₁ := (goesOn n).expr (hR.left h) hexpr
      have h₂ := (goesOn n).moreItems h₁.consumes hp
      have hlt := h₁.lt
      obtain ⟨d₁, hd₁, hr₁⟩ := ih.expr m h hexpr (h₂.to.live hlive) (by omega)
      obtain ⟨d', hd', hr'⟩ := ih.moreItems _ m hr₁ hp hlive (by omega)
      refine ⟨d', ?_, hr'⟩
      rw [parseItems, if_neg (hR.not_isAt h hat rfl)]
      exact bind_ok hd₁ hd'

theorem succ_moreItems (done : List Expr) : Repeats T R 1 (parseMoreItems · done) (n + 1) := by
  intro c d es c' m h hp hlive hm
  obtain ⟨m, rfl⟩ := Nat.exists_eq_add_one_of_ne_zero (show m ≠ 0 by omega)
  have h₁ := to_skipNewlines (hR.left h)
  dsimp only at hp ⊢
  rw [parseMoreItems] at hp
  split at hp
  · next hat =>
      have hw := isAt_iff.1 hat
      obtain ⟨rfl, rfl⟩ := Prod.mk.inj (Except.ok.inj hp)
      have hr₁ := hR.skipNewlines h ((into_advance h₁.consumes hw .afterOperand rfl).to.live hlive)
      refine ⟨_, ?_, hR.take hr₁ hw .afterOperand hlive rfl⟩
      rw [parseMoreItems]
      rw [if_pos (isAt_iff.2 (hR.same hr₁ hw))]
  · next hat =>
      obtain ⟨hcomma, hp⟩ := exists_of_expect hp
      have h₂ := into_next h₁.consumes hcomma .start rfl
      have h₃ := (goesOn n).items h₂.consumes hp
      have hlive₂ := h₃.to.live hlive
      have hle := h₁.le
      have hlt := h₂.lt
      have hr₁ := hR.skipNewlines h (h₂.to.live hlive₂)
      obtain ⟨d', hd', hr'⟩ := ih.items done m (hR.next hr₁ hcomma .start hlive₂ rfl) hp hlive (by omega)
      refine ⟨d', ?_, hr'⟩
      rw [parseMoreItems]
      rw [if_neg (hR.not_isAt hr₁ hat rfl)]
      exact bind_ok (hR.expect hr₁ hcomma .start) hd'

theorem succ_brackets : Repeats T R 5 parseBrackets (n + 1) := by
  intro c d e c' m h hp hlive hm
  have hword := ((goesOn (n + 1)).brackets (hR.left h) hp).word
  obtain ⟨m, rfl⟩ := Nat.exists_eq_add_one_of_ne_zero (show m ≠ 0 by omega)
  rw [parseBrackets, hR.isAt_eq h hword]
  rw [parseBrackets] at hp
  split at hp
  · next hnewline =>
      have h₁ := to_skipNewlines (hR.left h)
      have hle := h₁.le
      dsimp only at hp
      rw [if_pos hnewline]
      dsimp only
      split at hp
      · next hat =>
          have hw := isAt_iff.1 hat
          have h₂ := into_advance h₁.consumes hw .start rfl
          have h₃ := (goesOn n).forTuple h₂.consumes hp
          have hlive₂ := h₃.to.live hlive
          have hlt := h₂.lt
          have hr₁ := hR.skipNewlines h (h₂.to.live hlive₂)
          rw [if_pos (atKeyword_iff.2 (hR.same hr₁ hw))]
          exact ih.forTuple m (hR.take hr₁ hw .start hlive₂ rfl) hp hlive (by omega)
      · next hat =>
          obtain ⟨es, c₁, hitems, hp⟩ := exists_of_bind hp
          obtain ⟨rfl, rfl⟩ := Prod.mk.inj (Except.ok.inj hp)
          have h₂ := (goesOn n).items h₁.consumes hitems
          have hr₁ := hR.skipNewlines h (h₂.to.live hlive)
          obtain ⟨d', hd', hr'⟩ := ih.items [] m hr₁ hitems hlive (by omega)
          rw [if_neg (by rwa [hR.atKeyword_eq hr₁ h₂.word])]
          exact ⟨d', bind_ok hd' rfl, hr'⟩
  · next hnewline =>
      rw [if_neg hnewline]
      split at hp
      · next hat =>
          have hw := isAt_iff.1 hat
          have h₁ := into_advance (hR.left h) hw .afterFor rfl
          have hlt := h₁.lt
          rw [if_pos (atKeyword_iff.2 (hR.same h hw))]
          dsimp only at hp ⊢
          split at hp
          · next hw₁ =>
              have h₂ := (goesOn n).forTuple h₁.consumes hp
              have hr₁ := hR.take h hw .afterFor (h₂.to.live hlive) rfl
              rw [hR.same hr₁ hw₁]
              exact ih.forTuple m hr₁ hp hlive (by omega)
          · next hw₁ =>
              have h₂ := (goesOn n).forTuple h₁.consumes hp
              have hr₁ := hR.take h hw .afterFor (h₂.to.live hlive) rfl
              rw [hR.same hr₁ hw₁]
              exact ih.forTuple m hr₁ hp hlive (by omega)
          · next hno hno' =>
              obtain ⟨e₁, c₁, hnamed, hp⟩ := exists_of_bind hp
              obtain ⟨e₂, c₂, hoperators, hp⟩ := exists_of_bind hp
              obtain ⟨es, c₃, hmore, hp⟩ := exists_of_bind hp
              obtain ⟨rfl, rfl⟩ := Prod.mk.inj (Except.ok.inj hp)
              have h₂ := (goesOn n).named h₁.consumes hnamed
              have h₃ := (goesOn n).operators h₂.consumes hoperators
              have h₄ := (goesOn n).moreItems h₃.consumes hmore
              have hle₂ := h₂.le
              have hle₃ := h₃.le
              have hlive₂ := h₄.to.live hlive
              have hlive₁ := h₃.live hlive₂
              have hr₁ := hR.take h hw .afterFor (h₂.live hlive₁) rfl
              obtain ⟨d₁, hd₁, hr₂⟩ := ih.named _ m hr₁ hnamed hlive₁ (by omega)
              obtain ⟨d₂, hd₂, hr₃⟩ := ih.operators _ m hr₂ hoperators hlive₂ (by omega)
              obtain ⟨d₃, hd₃, hr₄⟩ := ih.moreItems _ m hr₃ hmore hlive (by omega)
              refine ⟨d₃, ?_, hr₄⟩
              have hsame : (d.advance .afterFor).word = (c.advance .afterFor).word :=
                (hR.word hr₁).resolve_right fun hend => ((h₂.trans h₃).into h₄).word hend.1
              rw [hsame]
              split
              · next hw₁ => exact absurd hw₁ hno
              · next hw₁ => exact absurd hw₁ (hno' _)
              · exact bind_ok hd₁ (bind_ok hd₂ (bind_ok hd₃ rfl))
      · next hat =>
          obtain ⟨es, c₁, hitems, hp⟩ := exists_of_bind hp
          obtain ⟨rfl, rfl⟩ := Prod.mk.inj (Except.ok.inj hp)
          obtain ⟨d', hd', hr'⟩ := ih.items [] m h hitems hlive (by omega)
          rw [if_neg (by rwa [hR.atKeyword_eq h hword])]
          exact ⟨d', bind_ok hd' rfl, hr'⟩

theorem succ_forIntro : Repeats T R 1 parseForIntro (n + 1) := by
  intro c d x c' m h hp hlive hm
  obtain ⟨m, rfl⟩ := Nat.exists_eq_add_one_of_ne_zero (show m ≠ 0 by omega)
  rw [parseForIntro] at hp
  obtain ⟨key, c₁, hname, hp⟩ := exists_of_bind hp
  obtain ⟨hw, rfl⟩ := identifier_eq_ok.1 hname
  have h₁ := to_skipNewlines (hR.left h)
  have h₂ := into_advance h₁.consumes hw .afterName rfl
  have hle₁ := h₁.le
  have hlt₂ := h₂.lt
  -- From the names on.
  have rest {value : Option Text} {c₂ d₂ : Cursor} (h₃ : (c.skipNewlines.advance .afterName).To c₂)
      (hr : ¬T.holds c₂ → R c₂ d₂) (hp : (do
        let c ← c₂.skipNewlines.expectKeyword "in"
        let source ← parseExpr n c.skipNewlines
        let c ← source.2.skipNewlines.expect .colon .start
        .ok ((key, value, source.1), c.skipNewlines)) = Except.ok (x, c')) : ¬T.holds c₂ ∧ ∃ d', (do
        let c ← d₂.skipNewlines.expectKeyword "in"
        let source ← parseExpr m c.skipNewlines
        let c ← source.2.skipNewlines.expect .colon .start
        .ok ((key, value, source.1), c.skipNewlines)) = Except.ok (x, d') ∧ R c' d' := by
    obtain ⟨hin, hp⟩ := exists_of_expect hp
    obtain ⟨source, c₃, hexpr, hp⟩ := exists_of_bind hp
    obtain ⟨hcolon, hp⟩ := exists_of_expect hp
    obtain ⟨rfl, rfl⟩ := Prod.mk.inj (Except.ok.inj hp)
    have h₄ := to_skipNewlines h₃.consumes
    have h₅ := into_next h₄.consumes hin .start rfl
    have h₆ := (goesOn n).expr h₅.consumes hexpr
    have h₇ := to_skipNewlines h₆.consumes
    have h₈ := into_next h₇.consumes hcolon .start rfl
    have hlive₇ := h₈.to.live hlive
    have hlive₆ := h₇.live hlive₇
    have hlive₅ := h₆.to.live hlive₆
    have hlive₄ := h₅.to.live hlive₅
    have hle := (h₃.trans (h₄.trans h₅.to)).le
    have hr₄ := hR.skipNewlines (hr (h₄.live hlive₄)) hlive₄
    obtain ⟨d₃, hd₃, hr₆⟩ := ih.expr m (hR.next hr₄ hin .start hlive₅ rfl) hexpr hlive₆ (by omega)
    have hr₇ := hR.skipNewlines hr₆ hlive₇
    exact ⟨h₄.live hlive₄, _, bind_ok (hR.expect hr₄ hin .start) (bind_ok hd₃
      (bind_ok (hR.expect hr₇ hcolon .start) rfl)), hR.next hr₇ hcolon .start hlive rfl⟩
  rw [parseForIntro]
  dsimp only at hp
  split at hp
  · next hat =>
      have hw₂ := isAt_iff.1 hat
      obtain ⟨name, c₂, hname, hp⟩ := exists_of_bind hp
      obtain ⟨hw₃, rfl⟩ := identifier_eq_ok.1 hname
      have h₃ := into_advance h₂.consumes hw₂ .start rfl
      have h₄ := into_advance h₃.consumes hw₃ .afterName rfl
      have hr₁ (hlive : ¬T.holds (c.skipNewlines.advance .afterName)) := hR.take
        (hR.skipNewlines h (h₂.to.live hlive)) hw .afterName hlive rfl
      have hr₂ (hlive : ¬T.holds ((c.skipNewlines.advance .afterName).advance .start)) := hR.take
        (hr₁ (h₃.to.live hlive)) hw₂ .start hlive rfl
      obtain ⟨hlive₄, d', hd', hr'⟩ := rest (h₃.trans h₄.to).to
        (fun hlive => hR.take (hr₂ (h₄.to.live hlive)) hw₃ .afterName hlive rfl) hp
      have hlive₃ := h₄.to.live hlive₄
      have hlive₂ := h₃.to.live hlive₃
      refine ⟨d', bind_ok (hR.identifier (hR.skipNewlines h (h₂.to.live hlive₂)) hw .afterName) ?_, hr'⟩
      dsimp only
      rw [if_pos (isAt_iff.2 (hR.same (hr₁ hlive₂) hw₂))]
      exact bind_ok (hR.identifier (hr₂ hlive₃) hw₃ .afterName) hd'
  · next hat =>
      have hr₁ (hlive : ¬T.holds (c.skipNewlines.advance .afterName)) := hR.take
        (hR.skipNewlines h (h₂.to.live hlive)) hw .afterName hlive rfl
      obtain ⟨hlive₂, d', hd', hr'⟩ := rest (.refl h₂.consumes) hr₁ hp
      refine ⟨d', bind_ok (hR.identifier (hR.skipNewlines h (h₂.to.live hlive₂)) hw .afterName) ?_, hr'⟩
      dsimp only
      rw [if_neg (hR.not_isAt (hr₁ hlive₂) hat rfl)]
      exact hd'

theorem succ_guard {c d c' : Cursor} {g : Option Expr} {m : Nat} (h : R c d) (hword : c.word ≠ none)
    (hp : parseGuard (n + 1) c = .ok (g, c')) (hlive : ¬T.holds c') (hm : 8 * c.start.length + 1 ≤ m) :
    ∃ d', parseGuard m d = .ok (g, d') ∧ R c' d' := by
  obtain ⟨m, rfl⟩ := Nat.exists_eq_add_one_of_ne_zero (show m ≠ 0 by omega)
  rw [parseGuard, hR.atKeyword_eq h hword]
  rw [parseGuard] at hp
  split at hp
  · next hat =>
      have hw := isAt_iff.1 hat
      obtain ⟨e, c₁, hexpr, hp⟩ := exists_of_bind hp
      obtain ⟨rfl, rfl⟩ := Prod.mk.inj (Except.ok.inj hp)
      have h₁ := into_next (hR.left h) hw .start rfl
      have h₂ := (goesOn n).expr h₁.consumes hexpr
      have hlive₂ := (to_skipNewlines h₂.consumes).live hlive
      have hlt := h₁.lt
      obtain ⟨d₁, hd₁, hr₁⟩ := ih.expr m (hR.next h hw .start (h₂.to.live hlive₂) rfl) hexpr hlive₂ (by omega)
      refine ⟨d₁.skipNewlines, ?_, hR.skipNewlines hr₁ hlive⟩
      rw [if_pos hat]
      exact bind_ok hd₁ rfl
  · next hat =>
      obtain ⟨rfl, rfl⟩ := Prod.mk.inj (Except.ok.inj hp)
      exact ⟨d, if_neg hat, h⟩

theorem succ_forTuple : Repeats T R 2 parseForTuple (n + 1) := by
  intro c d e c' m h hp hlive hm
  obtain ⟨m, rfl⟩ := Nat.exists_eq_add_one_of_ne_zero (show m ≠ 0 by omega)
  rw [parseForTuple] at hp
  obtain ⟨⟨key, value, source⟩, c₁, hintro, hp⟩ := exists_of_bind hp
  obtain ⟨item, c₂, hitem, hp⟩ := exists_of_bind hp
  obtain ⟨g, c₃, hguard, hp⟩ := exists_of_bind hp
  obtain ⟨hbracket, hp⟩ := exists_of_expect hp
  obtain ⟨rfl, rfl⟩ := Prod.mk.inj (Except.ok.inj hp)
  have h₁ := (goesOn n).forIntro (hR.left h) hintro
  have h₂ := (goesOn n).expr h₁.consumes hitem
  have h₃ := to_skipNewlines h₂.consumes
  have h₄ := (goesOn n).guard h₃.consumes hguard
  have h₅ := into_advance h₄.consumes hbracket .afterOperand rfl
  have hlive₄ := h₅.to.live hlive
  have hlive₃ := h₄.live hlive₄
  have hlive₂ := h₃.live hlive₃
  have hlt₁ := h₁.lt
  have hlt₂ := h₂.lt
  have hle₃ := h₃.le
  obtain ⟨d₁, hd₁, hr₁⟩ := ih.forIntro m h hintro (h₂.to.live hlive₂) (by omega)
  obtain ⟨d₂, hd₂, hr₂⟩ := ih.expr m hr₁ hitem hlive₂ (by omega)
  obtain ⟨d₃, hd₃, hr₃⟩ := ih.guard m (hR.skipNewlines hr₂ hlive₃) (h₄.into h₅).word hguard hlive₄ (by omega)
  refine ⟨_, ?_, hR.take hr₃ hbracket .afterOperand hlive rfl⟩
  rw [parseForTuple]
  exact bind_ok hd₁ (bind_ok hd₂ (bind_ok hd₃ (bind_ok (hR.expect hr₃ hbracket .afterOperand) rfl)))

theorem succ_forObject : Repeats T R 2 parseForObject (n + 1) := by
  intro c d e c' m h hp hlive hm
  obtain ⟨m, rfl⟩ := Nat.exists_eq_add_one_of_ne_zero (show m ≠ 0 by omega)
  rw [parseForObject] at hp
  obtain ⟨⟨key, value, source⟩, c₁, hintro, hp⟩ := exists_of_bind hp
  obtain ⟨itemKey, c₂, hkey, hp⟩ := exists_of_bind hp
  obtain ⟨harrow, hp⟩ := exists_of_expect hp
  obtain ⟨item, c₃, hitem, hp⟩ := exists_of_bind hp
  obtain ⟨g, c₄, hguard, hp⟩ := exists_of_bind hp
  obtain ⟨hbrace, hp⟩ := exists_of_expect hp
  obtain ⟨rfl, rfl⟩ := Prod.mk.inj (Except.ok.inj hp)
  have h₁ := (goesOn n).forIntro (hR.left h) hintro
  have h₂ := (goesOn n).expr h₁.consumes hkey
  have h₃ := into_next h₂.consumes harrow .start rfl
  have h₄ := (goesOn n).expr h₃.consumes hitem
  have h₅ := to_skipNewlines h₄.consumes
  have h₆ : c₃.skipNewlines.To (if c₃.skipNewlines.isAt .ellipsis then
      (c₃.skipNewlines.advance .afterEllipsis).skipNewlines else c₃.skipNewlines) := by
    split
    · next hat => exact (into_next h₅.consumes (isAt_iff.1 hat) _ rfl).to
    · exact .refl h₅.consumes
  have h₇ := (goesOn n).guard h₆.consumes hguard
  have h₈ := into_advance h₇.consumes hbrace .afterOperand rfl
  have hlive₇ := h₈.to.live hlive
  have hlive₆ := h₇.live hlive₇
  have hlive₅ := h₆.live hlive₆
  have hlive₄ := h₅.live hlive₅
  have hlive₃ := h₄.to.live hlive₄
  have hlive₂ := h₃.to.live hlive₃
  have hlt₁ := h₁.lt
  have hlt₂ := h₂.lt
  have hlt₃ := h₃.lt
  have hlt₄ := h₄.lt
  have hle₅ := h₅.le
  have hle₆ := h₆.le
  obtain ⟨d₁, hd₁, hr₁⟩ := ih.forIntro m h hintro (h₂.to.live hlive₂) (by omega)
  obtain ⟨d₂, hd₂, hr₂⟩ := ih.expr m hr₁ hkey hlive₂ (by omega)
  obtain ⟨d₃, hd₃, hr₃⟩ := ih.expr m (hR.next hr₂ harrow .start hlive₃ rfl) hitem hlive₄ (by omega)
  have hr₄ := hR.skipNewlines hr₃ hlive₅
  have hgrouped : d₃.skipNewlines.isAt .ellipsis = c₃.skipNewlines.isAt .ellipsis :=
    hR.isAt_eq hr₄ (h₆.into (h₇.into h₈)).word _
  have hr₅ : R
      (if c₃.skipNewlines.isAt .ellipsis then (c₃.skipNewlines.advance .afterEllipsis).skipNewlines
        else c₃.skipNewlines)
      (if c₃.skipNewlines.isAt .ellipsis then (d₃.skipNewlines.advance .afterEllipsis).skipNewlines
        else d₃.skipNewlines) := by
    by_cases hat : c₃.skipNewlines.isAt .ellipsis
    · rw [if_pos hat] at hlive₆
      rw [if_pos hat, if_pos hat]
      exact hR.next hr₄ (isAt_iff.1 hat) .afterEllipsis hlive₆ rfl
    · rw [if_neg hat, if_neg hat]
      exact hr₄
  obtain ⟨d₄, hd₄, hr₆⟩ := ih.guard m hr₅ (h₇.into h₈).word hguard hlive₇ (by omega)
  refine ⟨_, ?_, hR.take hr₆ hbrace .afterOperand hlive rfl⟩
  rw [parseForObject]
  refine bind_ok hd₁ (bind_ok hd₂ (bind_ok (hR.expect hr₂ harrow .start) (bind_ok hd₃ ?_)))
  dsimp only
  rw [hgrouped]
  exact bind_ok hd₄ (bind_ok (hR.expect hr₆ hbrace .afterOperand) rfl)

theorem succ_braces : Repeats T R 3 parseBraces (n + 1) := by
  intro c d e c' m h hp hlive hm
  obtain ⟨m, rfl⟩ := Nat.exists_eq_add_one_of_ne_zero (show m ≠ 0 by omega)
  have h₁ := to_skipNewlines (hR.left h)
  have hle := h₁.le
  rw [parseBraces] at hp ⊢
  dsimp only at hp ⊢
  split at hp
  · next hat =>
      have hw := isAt_iff.1 hat
      have h₂ := into_advance h₁.consumes hw .afterFor rfl
      have hlt := h₂.lt
      have behind (hlive : ¬T.holds (c.skipNewlines.advance .afterFor)) :
          d.skipNewlines.atKeyword "for" = true ∧
            R (c.skipNewlines.advance .afterFor) (d.skipNewlines.advance .afterFor) := by
        have hr₁ := hR.skipNewlines h (h₂.to.live hlive)
        exact ⟨atKeyword_iff.2 (hR.same hr₁ hw), hR.take hr₁ hw .afterFor hlive rfl⟩
      split at hp
      · next hw₁ =>
          obtain ⟨hfor, hr₁⟩ := behind (((goesOn n).forObject h₂.consumes hp).to.live hlive)
          rw [if_pos hfor, hR.same hr₁ hw₁]
          exact ih.forObject m hr₁ hp hlive (by omega)
      · next hw₁ =>
          obtain ⟨hfor, hr₁⟩ := behind (((goesOn n).forObject h₂.consumes hp).to.live hlive)
          rw [if_pos hfor, hR.same hr₁ hw₁]
          exact ih.forObject m hr₁ hp hlive (by omega)
      · next hno hno' =>
          obtain ⟨key, c₁, hkey, hp⟩ := exists_of_bind hp
          obtain ⟨entry, c₂, hvalue, hp⟩ := exists_of_bind hp
          obtain ⟨entries, c₃, hentries, hp⟩ := exists_of_bind hp
          obtain ⟨rfl, rfl⟩ := Prod.mk.inj (Except.ok.inj hp)
          have h₃ := to_dottedUpTo h₂.consumes hkey
          have h₄ := (goesOn n).entryValue h₃.consumes hvalue
          have h₅ := (goesOn n).entries h₄.consumes hentries
          have hle₃ := h₃.le
          have hlt₄ := h₄.lt
          have hlive₄ := h₅.to.live hlive
          have hlive₃ := h₄.to.live hlive₄
          obtain ⟨hfor, hr₁⟩ := behind (h₃.live hlive₃)
          obtain ⟨d₁, hd₁, hr₂⟩ := hR.dottedUpTo _ (n + 1) (m + 1) hr₁ hkey hlive₃ (by omega)
          obtain ⟨d₂, hd₂, hr₃⟩ := ih.entryValue _ m hr₂ hvalue hlive₄ (by omega)
          obtain ⟨d₃, hd₃, hr₄⟩ := ih.entries _ m hr₃ hentries hlive (by omega)
          refine ⟨d₃, ?_, hr₄⟩
          have hsame : (d.skipNewlines.advance .afterFor).word = (c.skipNewlines.advance .afterFor).word :=
            (hR.word hr₁).resolve_right fun hend => (h₃.into h₄).word hend.1
          rw [if_pos hfor, hsame]
          split
          · next hw₁ => exact absurd hw₁ hno
          · next hw₁ => exact absurd hw₁ (hno' _)
          · exact bind_ok hd₁ (bind_ok hd₂ (bind_ok hd₃ rfl))
  · next hat =>
      obtain ⟨entries, c₁, hentries, hp⟩ := exists_of_bind hp
      obtain ⟨rfl, rfl⟩ := Prod.mk.inj (Except.ok.inj hp)
      have h₂ := (goesOn n).entries h₁.consumes hentries
      have hr₁ := hR.skipNewlines h (h₂.to.live hlive)
      obtain ⟨d', hd', hr'⟩ := ih.entries [] m hr₁ hentries hlive (by omega)
      rw [if_neg (by rwa [hR.atKeyword_eq hr₁ h₂.word])]
      exact ⟨d', bind_ok hd' rfl, hr'⟩

theorem succ_entries (done : List (Expr × Expr)) : Repeats T R 2 (parseEntries · done) (n + 1) := by
  intro c d entries c' m h hp hlive hm
  have hword := ((goesOn (n + 1)).entries (hR.left h) hp).word
  obtain ⟨m, rfl⟩ := Nat.exists_eq_add_one_of_ne_zero (show m ≠ 0 by omega)
  dsimp only at hp ⊢
  rw [parseEntries, hR.isAt_eq h hword]
  rw [parseEntries] at hp
  split at hp
  · next hat =>
      obtain ⟨rfl, rfl⟩ := Prod.mk.inj (Except.ok.inj hp)
      rw [if_pos hat]
      exact ⟨_, rfl, hR.take h (isAt_iff.1 hat) .afterOperand hlive rfl⟩
  · next hat =>
      obtain ⟨key, c₁, hkey, hp⟩ := exists_of_bind hp
      obtain ⟨entry, c₂, hvalue, hp⟩ := exists_of_bind hp
      have h₁ := (goesOn n).key (hR.left h) hkey
      have h₂ := (goesOn n).entryValue h₁.consumes hvalue
      have h₃ := (goesOn n).entries h₂.consumes hp
      have hlt₁ := h₁.lt
      have hlt₂ := h₂.lt
      have hlive₂ := h₃.to.live hlive
      obtain ⟨d₁, hd₁, hr₁⟩ := ih.key m h hkey (h₂.to.live hlive₂) (by omega)
      obtain ⟨d₂, hd₂, hr₂⟩ := ih.entryValue _ m hr₁ hvalue hlive₂ (by omega)
      obtain ⟨d₃, hd₃, hr₃⟩ := ih.entries _ m hr₂ hp hlive (by omega)
      rw [if_neg hat]
      exact ⟨d₃, bind_ok hd₁ (bind_ok hd₂ hd₃), hr₃⟩

theorem succ_entryValue (key : Expr) : Repeats T R 1 (parseEntryValue · key) (n + 1) := by
  intro c d entry c' m h hp hlive hm
  have hword := ((goesOn (n + 1)).entryValue (hR.left h) hp).word
  obtain ⟨m, rfl⟩ := Nat.exists_eq_add_one_of_ne_zero (show m ≠ 0 by omega)
  dsimp only at hp ⊢
  rw [parseEntryValue, hR.isAt_eq h hword, hR.isAt_eq h hword]
  rw [parseEntryValue] at hp
  split at hp
  · next hat =>
      obtain ⟨w, hw⟩ := Option.ne_none_iff_exists'.1 hword
      obtain ⟨value, c₁, hexpr, hp⟩ := exists_of_bind hp
      obtain ⟨rfl, rfl⟩ := Prod.mk.inj (Except.ok.inj hp)
      have h₁ := (goesOn n).expr (advance_consumes c .start) hexpr
      have hlt := advance_lt (hR.left h) hw .start
      have read (hlive : ¬T.holds c₁) := ih.expr m (hR.take h hw .start (h₁.to.live hlive) rfl) hexpr hlive (by omega)
      rw [if_pos hat]
      by_cases hcomma : c₁.isAt .comma
      · have hw₁ := isAt_iff.1 hcomma
        rw [if_pos hcomma] at hlive ⊢
        obtain ⟨d₁, hd₁, hr₁⟩ := read ((into_next h₁.consumes hw₁ .start rfl).to.live hlive)
        refine ⟨_, bind_ok hd₁ ?_, hR.next hr₁ hw₁ .start hlive rfl⟩
        dsimp only
        rw [if_pos (isAt_iff.2 (hR.same hr₁ hw₁))]
      · rw [if_neg hcomma] at hlive ⊢
        obtain ⟨d₁, hd₁, hr₁⟩ := read ((to_skipNewlines h₁.consumes).live hlive)
        refine ⟨_, bind_ok hd₁ ?_, hR.skipNewlines hr₁ hlive⟩
        dsimp only
        rw [if_neg (hR.not_isAt hr₁ hcomma rfl)]
  · cases hp

theorem succ_key : Repeats T R 1 parseKey (n + 1) := by
  intro c d e c' m h hp hlive hm
  obtain ⟨m, rfl⟩ := Nat.exists_eq_add_one_of_ne_zero (show m ≠ 0 by omega)
  rw [parseKey_succ] at hp
  cases hw : c.word with
  | none =>
      rw [hw] at hp
      cases hp
  | some word =>
      rw [parseKey_succ, hR.same h hw]
      rw [hw] at hp
      cases word with
      | name t =>
          have h₁ := into_advance (hR.left h) hw .afterName rfl
          have hlt := h₁.lt
          exact hR.dottedUpTo _ (n + 1) (m + 1)
            (hR.take h hw .afterName ((to_dottedUpTo h₁.consumes hp).live hlive) rfl) hp hlive (by omega)
      | digit x => exact hR.number h hp hlive
      | negative x => exact hR.number h hp hlive
      | quote =>
          obtain ⟨parts, c₁, hparts, hp⟩ := exists_of_bind hp
          obtain ⟨rfl, rfl⟩ := Prod.mk.inj (Except.ok.inj hp)
          have hlt := advance_lt (hR.left h) hw .inString
          obtain ⟨d₁, hd₁, hr₁⟩ := ih.template [] m (hR.quote h hw hparts) hparts hlive (by omega)
          exact ⟨d₁, bind_ok hd₁ rfl, hr₁⟩
      | leftParen =>
          obtain ⟨e₁, c₁, hexpr, hp⟩ := exists_of_bind hp
          obtain ⟨hparen, hp⟩ := exists_of_expect hp
          obtain ⟨rfl, rfl⟩ := Prod.mk.inj (Except.ok.inj hp)
          have h₁ := into_advance (hR.left h) hw .start rfl
          have h₂ := (goesOn n).expr h₁.consumes hexpr
          have hlive₂ := (into_advance h₂.consumes hparen .afterQuote rfl).to.live hlive
          have hlt := h₁.lt
          obtain ⟨d₁, hd₁, hr₁⟩ := ih.expr m (hR.take h hw .start (h₂.to.live hlive₂) rfl) hexpr hlive₂ (by omega)
          exact ⟨_, bind_ok hd₁ (bind_ok (hR.expect hr₁ hparen .afterQuote) rfl),
            hR.take hr₁ hparen .afterQuote hlive rfl⟩
      | _ => cases hp

end

end Replays

/-- What is read at a cursor is read at every related one, with any bound that the text does not exceed. -/
theorem replays {T : Traps} {R : Cursor → Cursor → Prop} (hR : Mirrors T R) (n : Nat) : Replays T R n := by
  induction n with
  | zero => exact .zero
  | succ n ih =>
      exact {
        expr := ih.succ_expr hR
        operators := ih.succ_operators hR
        operand := ih.succ_operand hR
        term := ih.succ_term hR
        named := ih.succ_named hR
        arguments := ih.succ_arguments hR
        suffixes := ih.succ_suffixes hR
        template := ih.succ_template hR
        brackets := ih.succ_brackets hR
        items := ih.succ_items hR
        moreItems := ih.succ_moreItems hR
        forIntro := ih.succ_forIntro hR
        guard := fun m h hword hp hlive hm => ih.succ_guard hR h hword hp hlive hm
        forTuple := ih.succ_forTuple hR
        forObject := ih.succ_forObject hR
        braces := ih.succ_braces hR
        entries := ih.succ_entries hR
        entryValue := ih.succ_entryValue hR
        key := ih.succ_key hR }

/-! ### The same cursor -/

/-- Equal cursors. -/
def Equals (c d : Cursor) : Prop := c = d ∧ c.Consumes

theorem mirrors_equals : Mirrors ⟨fun _ => False, False.elim⟩ Equals where
  left h := h.2
  right h := h.1 ▸ h.2
  word h := .inl (congrArg Cursor.word h.1.symm)
  advance _ h _ _ _ := ⟨congrArg (Cursor.advance · _) h.1, advance_consumes _ _⟩
  inString h _ := .inl ⟨congrArg (Cursor.advance · _) h.1, advance_consumes _ _⟩
  settle h hn := by
    obtain ⟨rfl, hc⟩ := h
    rw [skipNewlines_of_word (by simp [hn])]
    exact ⟨rfl, hc⟩

/-- An expression that is read with some bound is read with every bound that the text does not exceed. -/
theorem parseExpr_of_bound {n m : Nat} {c c' : Cursor} {e : Expr} (hc : c.Consumes) (h : parseExpr n c = .ok (e, c'))
    (hm : 8 * c.start.length + 3 ≤ m) : parseExpr m c = .ok (e, c') := by
  obtain ⟨d', hd, rfl, -⟩ := (replays mirrors_equals n).expr m ⟨rfl, hc⟩ h id hm
  exact hd

/-- The bound of a reading has no part in what is read. -/
theorem parseExpr_unique {n m : Nat} {c c₁ c₂ : Cursor} {e₁ e₂ : Expr} (hc : c.Consumes)
    (h₁ : parseExpr n c = .ok (e₁, c₁)) (h₂ : parseExpr m c = .ok (e₂, c₂)) : e₁ = e₂ ∧ c₁ = c₂ := by
  have h := (parseExpr_of_bound hc h₁ (Nat.le_refl _)).symm.trans (parseExpr_of_bound hc h₂ (Nat.le_refl _))
  exact Prod.mk.inj (Except.ok.inj h)

end JujuMigration.Strict
