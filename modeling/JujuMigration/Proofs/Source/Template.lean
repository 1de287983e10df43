import JujuMigration.Proofs.Source.Alike
/-! Templates, identifiers and labels end where they end in front of every text: a template at its last quote, an
identifier in front of a character that does not continue it. -/

namespace JujuMigration.Source

/-- What is open, without the text that it remembers: a quoted text, or a hole with braces open inside. -/
def Frame.shape : Frame → Option Nat
  | .quoted _ => none
  | .hole _ nested => some nested

theorem Frame.shape_eq_none {frame : Frame} : frame.shape = none ↔ ∃ s, frame = .quoted s := by
  cases frame <;> simp [shape]

theorem Frame.shape_eq_some {frame : Frame} {n : Nat} : frame.shape = some n ↔ ∃ s, frame = .hole s n := by
  cases frame <;> simp [shape]

section

variable (s : Text) (outer : List Frame) (r : Text)

theorem scanFrame_escape (c : Char) :
    scanFrame (.quoted s) outer ('\\' :: c :: r) = scanFrame (.quoted s) outer r := by
  rw [scanFrame.eq_def]; rfl

theorem scanFrame_quote (frame : Frame) :
    scanFrame (.quoted s) (frame :: outer) ('"' :: r) = scanFrame frame outer r := by
  rw [scanFrame.eq_def]; rfl

theorem scanFrame_last_quote : scanFrame (.quoted s) [] ('"' :: r) = .ok r := by
  rw [scanFrame.eq_def]; rfl

theorem scanFrame_opening {c : Char} (hc : c = '$' ∨ c = '%') :
    scanFrame (.quoted s) outer (c :: '{' :: r) = scanFrame (.hole r 0) (.quoted s :: outer) r := by
  rcases hc with rfl | rfl <;> rw [scanFrame.eq_def] <;> rfl

theorem scanFrame_doubled {c : Char} (hc : c = '$' ∨ c = '%') :
    scanFrame (.quoted s) outer (c :: c :: '{' :: r) = scanFrame (.quoted s) outer r := by
  rcases hc with rfl | rfl <;> rw [scanFrame.eq_def] <;> rfl

theorem scanFrame_plain {c : Char} (hs : c ≠ '\\') (hq : c ≠ '"') (hn : c ≠ '\n') (hc : ¬(c = '$' ∨ c = '%')) :
    scanFrame (.quoted s) outer (c :: r) = scanFrame (.quoted s) outer r := by
  rw [scanFrame.eq_def]; simp only [if_neg hs, if_neg hq, if_neg hn, if_neg hc]

/-- A sign that neither opens a hole nor is doubled in front of a brace is a character like others. -/
theorem scanFrame_sign {c : Char} (hc : c = '$' ∨ c = '%') (hb : ∀ q, r ≠ '{' :: q) (hd : ∀ q, r ≠ c :: '{' :: q) :
    scanFrame (.quoted s) outer (c :: r) = scanFrame (.quoted s) outer r := by
  rw [scanFrame.eq_def]
  have hs : c ≠ '\\' ∧ c ≠ '"' ∧ c ≠ '\n' := by rcases hc with rfl | rfl <;> decide
  simp only [if_neg hs.1, if_neg hs.2.1, if_neg hs.2.2, if_pos hc]
  split
  · next q => exact absurd rfl (hb q)
  · next d q _ =>
      have hdc : d ≠ c := fun h => hd q (by rw [h])
      rw [if_neg hdc]
  · rfl

end
section
variable (s : Text) (n : Nat) (outer : List Frame) (r : Text)

theorem scanFrame_hole_quote :
    scanFrame (.hole s n) outer ('"' :: r) = scanFrame (.quoted ('"' :: r)) (.hole s n :: outer) r := by
  rw [scanFrame.eq_def]; rfl

theorem scanFrame_hole_open : scanFrame (.hole s n) outer ('{' :: r) = scanFrame (.hole s (n + 1)) outer r := by
  rw [scanFrame.eq_def]; rfl

theorem scanFrame_hole_close : scanFrame (.hole s (n + 1)) outer ('}' :: r) = scanFrame (.hole s n) outer r := by
  rw [scanFrame.eq_def]; rfl

theorem scanFrame_hole_end (frame : Frame) :
    scanFrame (.hole s 0) (frame :: outer) ('}' :: r) = scanFrame frame outer r := by
  rw [scanFrame.eq_def]; rfl

theorem scanFrame_last_hole_end : scanFrame (.hole s 0) [] ('}' :: r) = .ok r := by
  rw [scanFrame.eq_def]; rfl

theorem scanFrame_hole_plain {c : Char} (hq : c ≠ '"') (ho : c ≠ '{') (hc : c ≠ '}') :
    scanFrame (.hole s n) outer (c :: r) = scanFrame (.hole s n) outer r := by
  rw [scanFrame.eq_def]; simp only [if_neg hq, if_neg ho, if_neg hc]

end

/-- The frames take the text up to `r`, and do so in front of every text and whatever texts they remember. -/
def Frame.EndsAt (frame : Frame) (outer : List Frame) (s r : Text) : Prop :=
  ∃ p, s = p ++ r ∧ p ≠ [] ∧ ∀ frame' outer' r', frame'.shape = frame.shape →
    outer'.map Frame.shape = outer.map Frame.shape → scanFrame frame' outer' (p ++ r') = .ok r'

/-- Frames that take `front` and go on as frames that end at `r` do so themselves. -/
theorem Frame.EndsAt.step {frame next : Frame} {outer nextOuter : List Frame} {s r : Text}
    (h : next.EndsAt nextOuter s r) (front : Text) (hfront : front ≠ [])
    (hstep : ∀ frame' outer' t, frame'.shape = frame.shape → outer'.map shape = outer.map shape →
      ∃ next' nextOuter', scanFrame frame' outer' (front ++ t) = scanFrame next' nextOuter' t ∧
        next'.shape = next.shape ∧ nextOuter'.map shape = nextOuter.map shape) :
    frame.EndsAt outer (front ++ s) r := by
  obtain ⟨p, rfl, -, hp⟩ := h
  refine ⟨front ++ p, by simp, by simp [hfront], fun frame' outer' r' hf ho => ?_⟩
  obtain ⟨next', nextOuter', hs, hf', ho'⟩ := hstep frame' outer' (p ++ r') hf ho
  rw [List.append_assoc, hs, hp next' nextOuter' r' hf' ho']

/-- What a frame takes up to its end it takes in front of every text, whatever texts the frames remember. -/
theorem scanFrame_closed {frame : Frame} {outer : List Frame} {s r : Text}
    (h : scanFrame frame outer s = .ok r) : frame.EndsAt outer s r := by
  fun_induction scanFrame frame outer s with
  | case1 | case2 | case6 => simp at h
  | case3 s outer c t ih =>
      refine (ih h).step ['\\', c] (by simp) fun frame' outer' t' hf ho => ?_
      obtain ⟨u, rfl⟩ := Frame.shape_eq_none.1 hf
      exact ⟨_, _, scanFrame_escape .., rfl, ho⟩
  | case4 s t =>
      obtain rfl := Except.ok.inj h
      refine ⟨['"'], rfl, by simp, fun frame' outer' r' hf ho => ?_⟩
      obtain ⟨u, rfl⟩ := Frame.shape_eq_none.1 hf
      obtain rfl := List.map_eq_nil_iff.1 ho
      exact scanFrame_last_quote ..
  | case5 s t frame outer _ ih =>
      refine (ih h).step ['"'] (by simp) fun frame' outer' t' hf ho => ?_
      obtain ⟨u, rfl⟩ := Frame.shape_eq_none.1 hf
      obtain ⟨frame', outer', rfl, hf, ho⟩ := List.map_eq_cons_iff.1 ho
      exact ⟨_, _, scanFrame_quote .., hf, ho⟩
  | case7 s outer c hc₁ hc₂ hc₃ hc t ih =>
      refine (ih h).step [c, '{'] (by simp) fun frame' outer' t' hf ho => ?_
      obtain ⟨u, rfl⟩ := Frame.shape_eq_none.1 hf
      exact ⟨_, _, scanFrame_opening _ _ _ hc, rfl, by simp [Frame.shape, ho]⟩
  | case8 s outer c t _ _ _ _ hc ih =>
      refine (ih h).step [c, c, '{'] (by simp) fun frame' outer' t' hf ho => ?_
      obtain ⟨u, rfl⟩ := Frame.shape_eq_none.1 hf
      exact ⟨_, _, scanFrame_doubled _ _ _ hc, rfl, ho⟩
  -- What the sign means depends on the characters behind it, so these cases look into the text that is taken.
  | case9 s outer c hc₁ hc₂ hc₃ hc d t hb hd ih =>
      obtain ⟨p, hs, hp, ih⟩ := ih h
      refine ⟨c :: p, congrArg (c :: ·) hs, by simp, fun frame' outer' r' hf ho => ?_⟩
      obtain ⟨u, rfl⟩ := Frame.shape_eq_none.1 hf
      obtain ⟨e, q, rfl⟩ := List.exists_cons_of_ne_nil hp
      obtain rfl : d = e := (List.cons.inj hs).1
      refine (scanFrame_sign _ _ _ hc ?_ ?_).trans (ih _ outer' r' rfl ho)
      · exact fun _ he => hb (List.cons.inj he).1
      · exact fun _ he => hd (List.cons.inj he).1
  | case10 s outer c hc₁ hc₂ hc₃ hc t hb hd ih =>
      obtain ⟨p, rfl, hp, ih⟩ := ih h
      refine ⟨c :: p, rfl, by simp, fun frame' outer' r' hf ho => ?_⟩
      obtain ⟨u, rfl⟩ := Frame.shape_eq_none.1 hf
      obtain ⟨d, p, rfl⟩ := List.exists_cons_of_ne_nil hp
      refine (scanFrame_sign _ _ _ hc ?_ ?_).trans (ih _ outer' r' rfl ho)
      · exact fun _ he => hb (p ++ r) (by rw [← (List.cons.inj he).1]; rfl)
      · intro q he
        obtain ⟨rfl, hq⟩ := List.cons.inj he
        cases p with
        | nil =>
            -- The sign alone does not end the quoted text.
            have hsign := ih (.quoted u) outer' [] rfl ho
            rw [List.append_nil, scanFrame_sign _ _ _ hc (by simp) (by simp), scanFrame.eq_1] at hsign
            cases hsign
        | cons e p => exact hd d (p ++ r) (by rw [← (List.cons.inj hq).1]; rfl)
  | case11 s outer c t hc₁ hc₂ hc₃ hc ih =>
      refine (ih h).step [c] (by simp) fun frame' outer' t' hf ho => ?_
      obtain ⟨u, rfl⟩ := Frame.shape_eq_none.1 hf
      exact ⟨_, _, scanFrame_plain _ _ _ hc₁ hc₂ hc₃ hc, rfl, ho⟩
  | case12 s n outer t ih =>
      refine (ih h).step ['"'] (by simp) fun frame' outer' t' hf ho => ?_
      obtain ⟨u, rfl⟩ := Frame.shape_eq_some.1 hf
      exact ⟨_, _, scanFrame_hole_quote .., rfl, by simp [Frame.shape, ho]⟩
  | case13 s n outer t _ ih =>
      refine (ih h).step ['{'] (by simp) fun frame' outer' t' hf ho => ?_
      obtain ⟨u, rfl⟩ := Frame.shape_eq_some.1 hf
      exact ⟨_, _, scanFrame_hole_open .., rfl, ho⟩
  | case14 s t n outer _ _ ih =>
      refine (ih h).step ['}'] (by simp) fun frame' outer' t' hf ho => ?_
      obtain ⟨u, rfl⟩ := Frame.shape_eq_some.1 hf
      exact ⟨_, _, scanFrame_hole_close .., rfl, ho⟩
  | case15 s t =>
      obtain rfl := Except.ok.inj h
      refine ⟨['}'], rfl, by simp, fun frame' outer' r' hf ho => ?_⟩
      obtain ⟨u, rfl⟩ := Frame.shape_eq_some.1 hf
      obtain rfl := List.map_eq_nil_iff.1 ho
      exact scanFrame_last_hole_end ..
  | case16 s t frame outer _ _ ih =>
      refine (ih h).step ['}'] (by simp) fun frame' outer' t' hf ho => ?_
      obtain ⟨u, rfl⟩ := Frame.shape_eq_some.1 hf
      obtain ⟨frame', outer', rfl, hf, ho⟩ := List.map_eq_cons_iff.1 ho
      exact ⟨_, _, scanFrame_hole_end .., hf, ho⟩
  | case17 s n outer c t hq ho hc ih =>
      refine (ih h).step [c] (by simp) fun frame' outer' t' hf hout => ?_
      obtain ⟨u, rfl⟩ := Frame.shape_eq_some.1 hf
      exact ⟨_, _, scanFrame_hole_plain _ _ _ _ hq ho hc, rfl, hout⟩

theorem scanString_closed {s r : Text} (h : scanString s = .ok r) : Closed scanString s r := by
  obtain ⟨p, hp, -, hr⟩ := scanFrame_closed h
  cases s with
  | nil => simp [scanString, scanFrame.eq_1] at h
  | cons c s =>
      obtain rfl : s = p ++ r := hp
      exact ⟨c :: p, rfl, fun r' => hr _ _ r' rfl rfl⟩

/-- Whether the outermost of the frames is a quoted text. -/
def Frame.isInText : Frame → List Frame → Bool
  | .quoted _, [] => true
  | .hole _ _, [] => false
  | _, frame :: outer => frame.isInText outer

/-- A scan that ends with a quoted text ends behind a quote. -/
theorem scanFrame_ends {frame : Frame} {outer : List Frame} {s r : Text} (h : scanFrame frame outer s = .ok r)
    (hq : frame.isInText outer = true) : '"' :: r <:+ s := by
  fun_induction scanFrame frame outer s with
  | case1 | case2 | case6 => simp at h
  | case4 s t =>
      obtain rfl := Except.ok.inj h
      exact List.suffix_refl _
  | case13 s n outer t _ ih =>
      refine (ih h ?_).trans (List.suffix_cons _ _)
      cases outer <;> exact hq
  | case14 s t n outer _ _ ih =>
      refine (ih h ?_).trans (List.suffix_cons _ _)
      cases outer <;> exact hq
  | case15 s t => cases hq
  | _ => grind [Frame.isInText, List.suffix_cons]

theorem scanString_ends {s r : Text} (h : scanString s = .ok r) : '"' :: r <:+ s :=
  (scanFrame_ends h rfl).trans (List.drop_suffix 1 s)

/-! ### Identifiers and labels -/

/-- A cut where `p` ends holds in front of every text that begins like the rest. -/
theorem span_append {p : Char → Bool} {s r : Text} (h : r.head? = (s.dropWhile p).head?) :
    (s.takeWhile p ++ r).takeWhile p = s.takeWhile p ∧ (s.takeWhile p ++ r).dropWhile p = r := by
  have hs : ∀ c ∈ s.takeWhile p, p c = true := fun c hc => List.mem_takeWhile_imp hc
  have hr : r.takeWhile p = [] ∧ r.dropWhile p = r := by
    cases r with
    | nil => simp
    | cons c r =>
        have hn := List.head?_dropWhile_not p s
        rw [← h] at hn
        have hc : p c = false := hn
        simp [hc]
  rw [List.takeWhile_append_of_pos hs, List.dropWhile_append_of_pos hs, hr.1, hr.2, List.append_nil]
  exact ⟨rfl, rfl⟩

theorem skipSpaces_append {s r : Text} (h : r.head? = (skipSpaces s).head?) :
    skipSpaces (s.takeWhile isSpace ++ r) = r := (span_append h).2

theorem readIdentifier_chars {s name r : Text} (h : readIdentifier s = .ok (name, r)) :
    ∀ c ∈ name, isIdentChar c = true := by
  unfold readIdentifier at h
  split at h
  · obtain ⟨rfl, rfl⟩ := Prod.mk.inj (Except.ok.inj h)
    exact fun c hc => List.mem_takeWhile_imp hc
  · simp at h

theorem readIdentifier_append {s name r : Text} (h : readIdentifier s = .ok (name, r)) :
    s = name ++ r ∧ name ≠ [] ∧ ∀ r', r'.head? = r.head? → readIdentifier (name ++ r') = .ok (name, r') := by
  unfold readIdentifier at h
  split at h
  · next ho =>
      obtain ⟨rfl, rfl⟩ := Prod.mk.inj (Except.ok.inj h)
      have hne : s.takeWhile isIdentChar ≠ [] := by
        cases s with
        | nil => simp [opensIdentifier] at ho
        | cons c s =>
            have hc : isIdentChar c = true := isIdentChar_of_isIdentStart (by simpa [opensIdentifier] using ho)
            simp [hc]
      refine ⟨List.takeWhile_append_dropWhile.symm, hne, fun r' hr => ?_⟩
      have ho' : opensIdentifier (s.takeWhile isIdentChar ++ r') = true := by
        rw [← List.takeWhile_append_dropWhile (p := isIdentChar) (l := s)] at ho
        obtain ⟨c, t, ht⟩ := List.exists_cons_of_ne_nil hne
        rw [ht] at ho ⊢
        exact ho
      rw [readIdentifier, if_pos ho', (span_append hr).1, (span_append hr).2]
  · simp at h

/-- The text of a quoted label is what is in front of the closing quote. -/
theorem dropLast_before (raw : Text) (c : Char) (r : Text) : (Text.before r (raw ++ c :: r)).dropLast = raw := by
  rw [List.append_cons, Text.before_append, List.dropLast_concat]

/-- A label ends in front of every text that begins like the rest. -/
theorem readLabel_append {s label r : Text} (h : readLabel s = .ok (label, r)) :
    ∃ p, s = p ++ r ∧ p ≠ [] ∧ ∀ r', r'.head? = r.head? → readLabel (p ++ r') = .ok (label, r') := by
  unfold readLabel at h
  split at h
  · next t =>
      simp only [bind, Except.bind] at h
      split at h
      · simp at h
      · next rest hs =>
          obtain ⟨rfl, rfl⟩ := Prod.mk.inj (Except.ok.inj h)
          obtain ⟨p, hp, hr⟩ := scanString_closed hs
          cases p with
          | nil =>
              have := scanString_length_lt hs
              rw [hp] at this
              simp at this
          | cons c p =>
              obtain ⟨rfl, ht⟩ := List.cons.inj hp
              obtain rfl : t = p ++ rest := ht
              refine ⟨'"' :: p, rfl, by simp, fun r' _ => ?_⟩
              have hs' : scanString ('"' :: (p ++ r')) = .ok r' := hr r'
              simp only [List.cons_append, readLabel, hs', bind, Except.bind, Text.before_append]
  · next hq =>
      obtain ⟨hp, hne, hr⟩ := readIdentifier_append h
      refine ⟨label, hp, hne, fun r' h' => ?_⟩
      obtain ⟨c, p, rfl⟩ := List.exists_cons_of_ne_nil hne
      rw [readLabel, hr r' h']
      rintro t ht
      exact hq (p ++ r) (by rw [hp, ← (List.cons.inj ht).1]; rfl)

end JujuMigration.Source

namespace JujuMigration

open Source

def IsIdentifier (s : Text) : Prop := opensIdentifier s = true ∧ ∀ c ∈ s, isIdentChar c = true

theorem IsIdentifier.ne_nil {s : Text} (h : IsIdentifier s) : s ≠ [] := by
  rintro rfl
  exact absurd h.1 (by decide)

theorem isIdentifier_of_all {s : Text} (ho : opensIdentifier s = true) (h : s.all isIdentChar = true) :
    IsIdentifier s :=
  ⟨ho, List.all_eq_true.1 h⟩

theorem isIdentifier_of_readIdentifier {s name r : Text} (h : readIdentifier s = .ok (name, r)) :
    IsIdentifier name := by
  refine ⟨?_, readIdentifier_chars h⟩
  obtain ⟨-, hne, hr⟩ := readIdentifier_append h
  have h' := hr r rfl
  unfold readIdentifier at h'
  split at h'
  · next ho =>
      obtain ⟨c, t, rfl⟩ := List.exists_cons_of_ne_nil hne
      exact ho
  · simp at h'

theorem readIdentifier_of_isIdentifier {name r : Text} (h : IsIdentifier name) (hr : r.head?.any isIdentChar = false) :
    readIdentifier (name ++ r) = .ok (name, r) := by
  have ho : opensIdentifier (name ++ r) = true := by
    obtain ⟨ho, -⟩ := h
    cases name with
    | nil => simp [opensIdentifier] at ho
    | cons c name => exact ho
  have hr' : r.takeWhile isIdentChar = [] ∧ r.dropWhile isIdentChar = r := by
    cases r with
    | nil => exact ⟨rfl, rfl⟩
    | cons c r =>
        have hc : isIdentChar c = false := hr
        simp [hc]
  rw [readIdentifier, if_pos ho, List.takeWhile_append_of_pos h.2, List.dropWhile_append_of_pos h.2, hr'.1, hr'.2,
    List.append_nil]

end JujuMigration
