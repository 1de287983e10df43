import JujuMigration.Proofs.Source.Offset
import JujuMigration.Proofs.Source.Template
/-! The grammar of quoted templates. A template holds parts between its quotes, and a hole holds parts between its
braces; each kind of part may hold parts of the other. The scanner, which keeps a stack of what is open, takes a
template if and only if the text begins with a word of the grammar. -/

namespace JujuMigration.Source

/-- What parts stand in: between the quotes of a template, or between the braces of a hole. -/
inductive Enclosure
  | quotes
  | braces

def Enclosure.closing : Enclosure → Char
  | quotes => '"'
  | braces => '}'

/-- The signs that open a hole in front of a brace. -/
def IsSign (c : Char) : Prop := c = '$' ∨ c = '%'

/-- The text begins with a sign in front of a brace, or with a doubled one, which keeps the brace from opening
a hole. -/
def SignsBrace (t : Text) : Prop := ∃ c r, IsSign c ∧ (t = c :: '{' :: r ∨ t = c :: c :: '{' :: r)

/-- Parts, one behind the other. A backslash begins an escape and a sign that has to do with a brace begins what it
stands for, so that neither is a character by itself. -/
inductive Parts : Enclosure → Text → Prop
  | nil {k : Enclosure} : Parts k []
  | escape {t : Text} (c : Char) (h : Parts .quotes t) : Parts .quotes ('\\' :: c :: t)
  | doubled {c : Char} {t : Text} (hc : IsSign c) (h : Parts .quotes t) : Parts .quotes (c :: c :: '{' :: t)
  | hole {c : Char} {b t : Text} (hc : IsSign c) (hb : Parts .braces b) (h : Parts .quotes t) :
      Parts .quotes (c :: '{' :: (b ++ '}' :: t))
  | plain {c : Char} {t : Text} (hslash : c ≠ '\\') (hquote : c ≠ '"') (hline : c ≠ '\n')
      (hsign : ¬SignsBrace (c :: t)) (h : Parts .quotes t) : Parts .quotes (c :: t)
  | template {b t : Text} (hb : Parts .quotes b) (h : Parts .braces t) : Parts .braces ('"' :: (b ++ '"' :: t))
  | group {b t : Text} (hb : Parts .braces b) (h : Parts .braces t) : Parts .braces ('{' :: (b ++ '}' :: t))
  | other {c : Char} {t : Text} (hquote : c ≠ '"') (hopen : c ≠ '{') (hclose : c ≠ '}') (h : Parts .braces t) :
      Parts .braces (c :: t)

/-- A quote, parts, and a quote. -/
def IsTemplate (w : Text) : Prop := ∃ b, w = '"' :: (b ++ ['"']) ∧ Parts .quotes b

variable {frame : Frame} {outer : List Frame} {k : Enclosure} {b r s t u w : Text} {c : Char}

/-! ### What a sign stands for -/

theorem IsSign.ne (h : IsSign c) : c ≠ '\\' ∧ c ≠ '"' ∧ c ≠ '\n' ∧ c ≠ '{' := by
  rcases h with rfl | rfl <;> decide

theorem SignsBrace.append (h : SignsBrace t) (u : Text) : SignsBrace (t ++ u) := by
  obtain ⟨c, r, hc, rfl | rfl⟩ := h
  · exact ⟨c, r ++ u, hc, .inl rfl⟩
  · exact ⟨c, r ++ u, hc, .inr rfl⟩

/-- The quote behind the parts of a template has no part in what a sign in front of it stands for. -/
theorem SignsBrace.of_quote (h : SignsBrace (t ++ '"' :: r)) : SignsBrace t := by
  obtain ⟨c, q, hc, h⟩ := h
  obtain ⟨-, hquote, -, -⟩ := hc.ne
  match t with
  | [] =>
      have hfirst : '"' = c := by rcases h with h | h <;> exact (List.cons.inj h).1
      exact absurd hfirst.symm hquote
  | [d] =>
      rcases h with h | h
      · exact absurd (List.cons.inj (List.cons.inj h).2).1 (by decide)
      · exact absurd (List.cons.inj (List.cons.inj h).2).1.symm hquote
  | [d, e] =>
      rcases h with h | h
      · obtain ⟨hd, h⟩ := List.cons.inj h
        obtain ⟨he, -⟩ := List.cons.inj h
        exact ⟨c, [], hc, .inl (by rw [hd, he])⟩
      · exact absurd (List.cons.inj (List.cons.inj (List.cons.inj h).2).2).1 (by decide)
  | d :: e :: f :: t =>
      rcases h with h | h
      · obtain ⟨hd, h⟩ := List.cons.inj h
        obtain ⟨he, -⟩ := List.cons.inj h
        exact ⟨c, f :: t, hc, .inl (by rw [hd, he])⟩
      · obtain ⟨hd, h⟩ := List.cons.inj h
        obtain ⟨he, h⟩ := List.cons.inj h
        obtain ⟨hf, -⟩ := List.cons.inj h
        exact ⟨c, t, hc, .inr (by rw [hd, he, hf])⟩

theorem scanFrame_unsigned (hslash : c ≠ '\\') (hquote : c ≠ '"') (hline : c ≠ '\n') (hsign : ¬SignsBrace (c :: t)) :
    scanFrame (.quoted s) outer (c :: t) = scanFrame (.quoted s) outer t := by
  by_cases hc : IsSign c
  · refine scanFrame_sign s outer t hc ?_ ?_
    · rintro q rfl
      exact hsign ⟨c, q, hc, .inl rfl⟩
    · rintro q rfl
      exact hsign ⟨c, q, hc, .inr rfl⟩
  · exact scanFrame_plain s outer t hslash hquote hline hc

/-! ### The scanner passes over parts -/

def Frame.enclosure : Frame → Enclosure
  | .quoted _ => .quotes
  | .hole _ _ => .braces

theorem Frame.eq_quoted (h : frame.enclosure = .quotes) : ∃ s, frame = .quoted s := by
  cases frame with
  | quoted s => exact ⟨s, rfl⟩
  | hole s n => cases h

theorem Frame.eq_hole (h : frame.enclosure = .braces) : ∃ s n, frame = .hole s n := by
  cases frame with
  | quoted s => cases h
  | hole s n => exact ⟨s, n, rfl⟩

/-- In front of what closes a frame the scanner passes over its parts, whatever frames are around it. -/
theorem Parts.scanFrame (h : Parts k b) (hframe : frame.enclosure = k) (outer : List Frame) (r : Text) :
    Source.scanFrame frame outer (b ++ k.closing :: r) = Source.scanFrame frame outer (k.closing :: r) := by
  induction h generalizing frame outer r with
  | nil => rfl
  | escape c _ ih =>
      obtain ⟨s, rfl⟩ := Frame.eq_quoted hframe
      exact (scanFrame_escape s outer _ c).trans (ih rfl outer r)
  | doubled hc _ ih =>
      obtain ⟨s, rfl⟩ := Frame.eq_quoted hframe
      exact (scanFrame_doubled s outer _ hc).trans (ih rfl outer r)
  | @hole c b t hc _ _ ihb ih =>
      obtain ⟨s, rfl⟩ := Frame.eq_quoted hframe
      have htext : c :: '{' :: (b ++ '}' :: t) ++ '"' :: r = c :: '{' :: (b ++ '}' :: (t ++ '"' :: r)) := by simp
      calc Source.scanFrame (.quoted s) outer (c :: '{' :: (b ++ '}' :: t) ++ '"' :: r)
        _ = Source.scanFrame (.hole (b ++ '}' :: (t ++ '"' :: r)) 0) (.quoted s :: outer)
            (b ++ '}' :: (t ++ '"' :: r)) := by
            rw [htext, scanFrame_opening s outer _ hc]
        _ = Source.scanFrame (.hole (b ++ '}' :: (t ++ '"' :: r)) 0) (.quoted s :: outer) ('}' :: (t ++ '"' :: r)) :=
            ihb rfl _ _
        _ = Source.scanFrame (.quoted s) outer (t ++ '"' :: r) := scanFrame_hole_end ..
        _ = Source.scanFrame (.quoted s) outer ('"' :: r) := ih rfl outer r
  | plain hslash hquote hline hsign _ ih =>
      obtain ⟨s, rfl⟩ := Frame.eq_quoted hframe
      have hsign' := mt (SignsBrace.of_quote (t := _ :: _) (r := r)) hsign
      exact (scanFrame_unsigned hslash hquote hline hsign').trans (ih rfl outer r)
  | @template b t _ _ ihb ih =>
      obtain ⟨s, n, rfl⟩ := Frame.eq_hole hframe
      have htext : '"' :: (b ++ '"' :: t) ++ '}' :: r = '"' :: (b ++ '"' :: (t ++ '}' :: r)) := by simp
      calc Source.scanFrame (.hole s n) outer ('"' :: (b ++ '"' :: t) ++ '}' :: r)
        _ = Source.scanFrame (.quoted ('"' :: (b ++ '"' :: (t ++ '}' :: r)))) (.hole s n :: outer)
              (b ++ '"' :: (t ++ '}' :: r)) := by rw [htext, scanFrame_hole_quote]
        _ = Source.scanFrame (.quoted ('"' :: (b ++ '"' :: (t ++ '}' :: r)))) (.hole s n :: outer)
              ('"' :: (t ++ '}' :: r)) := ihb rfl _ _
        _ = Source.scanFrame (.hole s n) outer (t ++ '}' :: r) := scanFrame_quote ..
        _ = Source.scanFrame (.hole s n) outer ('}' :: r) := ih rfl outer r
  | @group b t _ _ ihb ih =>
      obtain ⟨s, n, rfl⟩ := Frame.eq_hole hframe
      have htext : '{' :: (b ++ '}' :: t) ++ '}' :: r = '{' :: (b ++ '}' :: (t ++ '}' :: r)) := by simp
      calc Source.scanFrame (.hole s n) outer ('{' :: (b ++ '}' :: t) ++ '}' :: r)
        _ = Source.scanFrame (.hole s (n + 1)) outer (b ++ '}' :: (t ++ '}' :: r)) := by
            rw [htext, scanFrame_hole_open]
        _ = Source.scanFrame (.hole s (n + 1)) outer ('}' :: (t ++ '}' :: r)) := ihb rfl _ _
        _ = Source.scanFrame (.hole s n) outer (t ++ '}' :: r) := scanFrame_hole_close ..
        _ = Source.scanFrame (.hole s n) outer ('}' :: r) := ih rfl outer r
  | other hquote hopen hclose _ ih =>
      obtain ⟨s, n, rfl⟩ := Frame.eq_hole hframe
      exact (scanFrame_hole_plain s n outer _ hquote hopen hclose).trans (ih rfl outer r)

/-! ### What the scanner takes are parts -/

/-- The text ends a hole in which `n` braces are open: parts and a brace, once more for every brace that is open. -/
def EndsHole : Nat → Text → Prop
  | 0, t => ∃ b, t = b ++ ['}'] ∧ Parts .braces b
  | n + 1, t => ∃ b u, t = b ++ '}' :: u ∧ Parts .braces b ∧ EndsHole n u

/-- The text ends the frame: parts and what closes them. -/
def Frame.IsEnd : Frame → Text → Prop
  | .quoted _, t => ∃ b, t = b ++ ['"'] ∧ Parts .quotes b
  | .hole _ n, t => EndsHole n t

/-- The text ends the frames one after the other, the first one first. -/
def EndsFrames : Frame → List Frame → Text → Prop
  | frame, [], t => frame.IsEnd t
  | frame, next :: outer, t => ∃ u v, t = u ++ v ∧ frame.IsEnd u ∧ EndsFrames next outer v

theorem EndsFrames.prepend {next : Frame} (p : Text)
    (hp : ∀ u v, t = u ++ v → next.IsEnd u → frame.IsEnd (p ++ u)) (h : EndsFrames next outer t) :
    EndsFrames frame outer (p ++ t) := by
  cases outer with
  | nil => exact hp t [] (List.append_nil t).symm h
  | cons after outer =>
      obtain ⟨u, v, rfl, hu, hv⟩ := h
      exact ⟨p ++ u, v, (List.append_assoc ..).symm, hp u v rfl hu, hv⟩

/-- A part in front of what ends a hole, however many braces are open in it. -/
theorem EndsHole.prepend {n : Nat} (p : Text) (hp : ∀ b, Parts .braces b → Parts .braces (p ++ b))
    (h : EndsHole n u) : EndsHole n (p ++ u) := by
  cases n with
  | zero =>
      obtain ⟨b, rfl, hb⟩ := h
      exact ⟨p ++ b, (List.append_assoc ..).symm, hp b hb⟩
  | succ n =>
      obtain ⟨b, v, rfl, hb, hv⟩ := h
      exact ⟨p ++ b, v, (List.append_assoc ..).symm, hp b hb, hv⟩

/-- A character that stands for itself in front of what ends a quoted text. -/
theorem EndsFrames.plain (hslash : c ≠ '\\') (hquote : c ≠ '"') (hline : c ≠ '\n')
    (h : EndsFrames (.quoted s) outer t) (hsign : ¬SignsBrace (c :: (t ++ r))) :
    EndsFrames (.quoted s) outer (c :: t) := by
  refine h.prepend [c] ?_
  rintro u v rfl ⟨b, rfl, hb⟩
  refine ⟨c :: b, rfl, .plain hslash hquote hline (fun hbrace => hsign ?_) hb⟩
  simpa using hbrace.append ('"' :: (v ++ r))

theorem endsFrames_of_scanFrame (h : scanFrame frame outer s = .ok r) : ∃ t, s = t ++ r ∧ EndsFrames frame outer t := by
  fun_induction scanFrame frame outer s with
  | case1 | case2 | case6 => cases h
  | case3 s outer c q ih =>
      obtain ⟨t, rfl, ht⟩ := ih h
      refine ⟨'\\' :: c :: t, rfl, ht.prepend ['\\', c] ?_⟩
      rintro u v - ⟨b, rfl, hb⟩
      exact ⟨'\\' :: c :: b, rfl, .escape c hb⟩
  | case4 s q =>
      obtain rfl := Except.ok.inj h
      exact ⟨['"'], rfl, [], rfl, .nil⟩
  | case5 s q frame outer _ ih =>
      obtain ⟨t, rfl, ht⟩ := ih h
      exact ⟨'"' :: t, rfl, ['"'], t, rfl, ⟨[], rfl, .nil⟩, ht⟩
  | case7 s outer c hslash hquote hline hc q ih =>
      obtain ⟨t, rfl, u, v, rfl, ⟨b, rfl, hb⟩, hv⟩ := ih h
      refine ⟨c :: '{' :: (b ++ ['}'] ++ v), rfl, hv.prepend (c :: '{' :: (b ++ ['}'])) ?_⟩
      rintro u - - ⟨b', rfl, hb'⟩
      refine ⟨c :: '{' :: (b ++ '}' :: b'), by simp, .hole hc hb hb'⟩
  | case8 s outer c q _ _ _ _ hc ih =>
      obtain ⟨t, rfl, ht⟩ := ih h
      refine ⟨c :: c :: '{' :: t, rfl, ht.prepend [c, c, '{'] ?_⟩
      rintro u v - ⟨b, rfl, hb⟩
      exact ⟨c :: c :: '{' :: b, rfl, .doubled hc hb⟩
  | case9 s outer c hslash hquote hline hc d q hbrace hdouble ih =>
      obtain ⟨t, hsplit, ht⟩ := ih h
      refine ⟨c :: t, congrArg (c :: ·) hsplit, ht.plain hslash hquote hline (r := r) ?_⟩
      rw [← hsplit]
      rintro ⟨e, q', -, h | h⟩
      · exact hbrace (List.cons.inj (List.cons.inj h).2).1
      · obtain ⟨rfl, h⟩ := List.cons.inj h
        exact hdouble (List.cons.inj h).1
  | case10 s outer c hslash hquote hline hc q hbrace hdouble ih =>
      obtain ⟨t, rfl, ht⟩ := ih h
      refine ⟨c :: t, rfl, ht.plain hslash hquote hline (r := r) ?_⟩
      rintro ⟨e, q', -, h | h⟩
      · exact hbrace q' (List.cons.inj h).2
      · exact hdouble e q' (List.cons.inj h).2
  | case11 s outer c q hslash hquote hline hc ih =>
      obtain ⟨t, rfl, ht⟩ := ih h
      refine ⟨c :: t, rfl, ht.plain hslash hquote hline (r := r) ?_⟩
      rintro ⟨d, q, hd, h | h⟩ <;> exact hc ((List.cons.inj h).1 ▸ hd)
  | case12 s n outer q ih =>
      obtain ⟨t, rfl, u, v, rfl, ⟨b, rfl, hb⟩, hv⟩ := ih h
      refine ⟨'"' :: (b ++ ['"'] ++ v), rfl, hv.prepend ('"' :: (b ++ ['"'])) fun u _ _ hu => ?_⟩
      refine EndsHole.prepend _ (fun b' hb' => ?_) hu
      have hpart := Parts.template hb hb'
      simpa using hpart
  | case13 s n outer q _ ih =>
      obtain ⟨t, rfl, ht⟩ := ih h
      refine ⟨'{' :: t, rfl, ht.prepend ['{'] ?_⟩
      rintro u v - ⟨b, w, rfl, hb, hw⟩
      have hgroup := hw.prepend ('{' :: (b ++ ['}'])) fun b' hb' => by simpa using Parts.group hb hb'
      simpa [Frame.IsEnd] using hgroup
  | case14 s q n outer _ _ ih =>
      obtain ⟨t, rfl, ht⟩ := ih h
      refine ⟨'}' :: t, rfl, ht.prepend ['}'] fun u _ _ hu => ?_⟩
      exact ⟨[], u, rfl, .nil, hu⟩
  | case15 s q =>
      obtain rfl := Except.ok.inj h
      exact ⟨['}'], rfl, [], rfl, .nil⟩
  | case16 s q frame outer _ _ ih =>
      obtain ⟨t, rfl, ht⟩ := ih h
      exact ⟨'}' :: t, rfl, ['}'], t, rfl, ⟨[], rfl, .nil⟩, ht⟩
  | case17 s n outer c q hquote hopen hclose ih =>
      obtain ⟨t, rfl, ht⟩ := ih h
      refine ⟨c :: t, rfl, ht.prepend [c] fun u _ _ hu => ?_⟩
      exact hu.prepend [c] fun b hb => .other hquote hopen hclose hb

/-! ### The scanner takes the templates -/

/-- A text that begins with a quote has one template in front if the scanner takes it, and the scanner takes it if the
text has one in front. -/
theorem scanString_eq_ok (hs : s.head? = some '"') : scanString s = .ok r ↔ ∃ w, s = w ++ r ∧ IsTemplate w := by
  obtain ⟨t, rfl⟩ := List.head?_eq_some_iff.1 hs
  constructor
  · intro h
    have hframe : scanFrame (.quoted ('"' :: t)) [] t = .ok r := h
    obtain ⟨u, hsplit, b, rfl, hb⟩ := endsFrames_of_scanFrame hframe
    exact ⟨'"' :: (b ++ ['"']), congrArg ('"' :: ·) hsplit, b, rfl, hb⟩
  · rintro ⟨w, hsplit, b, rfl, hb⟩
    obtain rfl : t = b ++ '"' :: r := by simpa using hsplit
    calc scanString ('"' :: (b ++ '"' :: r))
      _ = scanFrame (.quoted ('"' :: (b ++ '"' :: r))) [] ('"' :: r) := hb.scanFrame rfl [] r
      _ = .ok r := scanFrame_last_quote ..

/-- From the offset of a quote the scanner ends at an offset if and only if the text up to it is a template, of which
there is at most one, and it has a fault if there is none. -/
theorem scanAt_scanString_iff (s : Text) (p : Nat) (hp : s[p]? = some '"') :
    (∀ e, scanAt scanString s p = .ok e ↔ ∃ w r, Cut s p e w r ∧ IsTemplate w) ∧
      (∀ e e' w w' r r', Cut s p e w r → IsTemplate w → Cut s p e' w' r' → IsTemplate w' → e = e') ∧
      ((¬∃ e w r, Cut s p e w r ∧ IsTemplate w) → ∃ f, scanAt scanString s p = .error f) := by
  have hhead : (s.drop p).head? = some '"' := by rw [List.head?_drop, hp]
  exact scanAt_exact fun r => scanString_eq_ok hhead

/-- An escape, a doubled sign, a hole with braces in it and a template among them, and a sign by itself. -/
def nestedTemplate : Text := "x = \"a\\\"$$\x7b$\x7bf(\x7bk = \"%\x7b\x7b\x7d\x7d\x7d\"\x7d)\x7d$\" # \"".toList

theorem scanAt_scanString_iff_nested :
    nestedTemplate[4]? = some '"' ∧ scanAt scanString nestedTemplate 4 = .ok 33 ∧
      (∃ w r, Cut nestedTemplate 4 33 w r ∧ IsTemplate w) ∧ ¬∃ w r, Cut nestedTemplate 4 37 w r ∧ IsTemplate w := by
  have hp : nestedTemplate[4]? = some '"' := by decide +kernel
  have hscan : scanAt scanString nestedTemplate 4 = .ok 33 := by decide +kernel
  have hends := (scanAt_scanString_iff nestedTemplate 4 hp).1
  refine ⟨hp, hscan, (hends 33).1 hscan, fun hlate => ?_⟩
  exact absurd (Except.ok.inj (hscan.symm.trans ((hends 37).2 hlate))) (by decide)

end JujuMigration.Source
