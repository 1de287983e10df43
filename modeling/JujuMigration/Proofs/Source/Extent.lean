import JujuMigration.Proofs.Source.Filler
import JujuMigration.Proofs.Source.TemplateGrammar
/-! How far an expression reaches. An expression is made of pieces: templates, heredocs, groups in brackets, whose
inside is made of pieces again, comments inside groups, and single characters. The scanner, which keeps a stack of the
brackets that are open, ends where the pieces end that stand in front of an end of an expression. -/

namespace JujuMigration.Source

open CharClass (isBlank)

/-! ### The grammar -/

/-- `<<`, perhaps a dash, the marker, blanks and a line end. -/
def IsHeredocOpening (marker opening : Text) : Prop :=
  ∃ dash blanks ending, opening = '<' :: '<' :: (dash ++ (marker ++ (blanks ++ ending))) ∧ (dash = [] ∨ dash = ['-']) ∧
    IsIdentifier marker ∧ (∀ c ∈ blanks, isSpace c = true) ∧ (ending = ['\n'] ∨ ending = ['\r', '\n'])

/-- The first line that is the marker and blanks ends in front of `r`, but for the blanks behind the marker. -/
inductive ReachesMarker (marker : Text) : Text → Text → Prop
  | line {line s r : Text} (hline : '\n' ∉ line) (hother : Text.trim isBlank line ≠ marker)
      (h : ReachesMarker marker s r) : ReachesMarker marker (line ++ '\n' :: s) r
  | closing {last r : Text} (hlast : '\n' ∉ last)
      (hmarker : Text.trim isBlank (last ++ r.takeWhile (· ≠ '\n')) = marker)
      (hend : Text.trimEnd isBlank (last ++ r.takeWhile (· ≠ '\n')) = last) : ReachesMarker marker (last ++ r) r

/-- The text begins with a heredoc, and `r` is what is behind its marker. -/
def IsHeredoc (s r : Text) : Prop :=
  ∃ marker opening t, s = opening ++ t ∧ IsHeredocOpening marker opening ∧ ReachesMarker marker t r

def OpensHeredoc (s : Text) : Prop := ∃ marker opening t, s = opening ++ t ∧ IsHeredocOpening marker opening

def OpensComment (s : Text) : Prop := ['#'] <+: s ∨ ['/', '/'] <+: s ∨ ['/', '*'] <+: s

/-- A character that begins nothing that consists of more than itself, and that is no bracket. -/
structure IsSingle (c : Char) (t : Text) : Prop where
  quote : c ≠ '"'
  bracket : c ∉ ['(', ')', '[', ']', '{', '}']
  heredoc : ¬OpensHeredoc (c :: t)
  comment : ¬OpensComment (c :: t)

/-- What stands in the text in front of `r` is pieces, one behind the other. Only `inside` a group there are comments
and line ends among them. -/
inductive Pieces : Bool → Text → Text → Prop
  | nil {inside : Bool} {r : Text} : Pieces inside r r
  | template {inside : Bool} {w t r : Text} (hw : IsTemplate w) (h : Pieces inside t r) : Pieces inside (w ++ t) r
  | heredoc {inside : Bool} {s t r : Text} (hs : IsHeredoc s t) (h : Pieces inside t r) : Pieces inside s r
  | group {inside : Bool} {c d : Char} {s t r : Text} (hc : closer? c = some d) (hs : Pieces true s (d :: t))
      (h : Pieces inside t r) : Pieces inside (c :: s) r
  | comment {w t r : Text} (hw : IsComment w t) (h : Pieces true t r) : Pieces true (w ++ t) r
  | single {inside : Bool} {c : Char} {t r : Text} (hc : IsSingle c t) (hline : inside = false → c ≠ '\r' ∧ c ≠ '\n')
      (h : Pieces inside t r) : Pieces inside (c :: t) r

/-- An expression ends in front of the text: it is empty, or it begins with a line end, a comment or the brace that
closes the body. -/
def EndsExpression (r : Text) : Prop := r = [] ∨ (∃ c ∈ ['\r', '\n', '}'], [c] <+: r) ∨ OpensComment r

variable {marker line s t r w : Text} {c : Char} {awaited : List Char} {inside : Bool}

/-! ### Heredocs -/

theorem IsHeredocOpening.ne_nil {opening : Text} (h : IsHeredocOpening marker opening) : marker ≠ [] := by
  obtain ⟨-, -, -, -, -, hname, -⟩ := h
  exact hname.ne_nil

theorem heredocMarker?_iff {body : Text} :
    heredocMarker? s = some (marker, body) ↔ ∃ opening, s = opening ++ body ∧ IsHeredocOpening marker opening := by
  rw [heredocMarker?_eq_some]
  constructor
  · rintro ⟨dash, t, rest, rfl, hdash, hname, hends⟩
    obtain ⟨ending, hending, hrest⟩ : ∃ e, (e = ['\n'] ∨ e = ['\r', '\n']) ∧ skipSpaces rest = e ++ body := by
      rcases hends with h | h
      · exact ⟨['\n'], .inl rfl, h⟩
      · exact ⟨['\r', '\n'], .inr rfl, h⟩
    obtain ⟨rfl, -, -⟩ := readIdentifier_append hname
    have hblanks : rest = rest.takeWhile isSpace ++ (ending ++ body) := by rw [← hrest, takeWhile_append_skipSpaces]
    refine ⟨'<' :: '<' :: (dash ++ (marker ++ (rest.takeWhile isSpace ++ ending))), ?_, dash, _, ending, rfl,
      hdash.symm.imp_left And.left, isIdentifier_of_readIdentifier hname, fun c hc => List.mem_takeWhile_imp hc,
        hending⟩
    conv_lhs => rw [hblanks]
    simp
  · rintro ⟨opening, rfl, dash, blanks, ending, rfl, hdash, hmarker, hblanks, hending⟩
    have hrest : skipSpaces (blanks ++ (ending ++ body)) = ending ++ body := by
      rw [skipSpaces, List.dropWhile_append_of_pos hblanks]
      rcases hending with rfl | rfl <;> rfl
    refine ⟨dash, marker ++ (blanks ++ (ending ++ body)), _, by simp, ?_, readIdentifier_of_isIdentifier hmarker ?_, ?_⟩
    · rcases hdash with rfl | rfl
      · refine .inr ⟨rfl, fun hhead => ?_⟩
        obtain ⟨d, m, rfl⟩ := List.exists_cons_of_ne_nil hmarker.ne_nil
        obtain rfl : d = '-' := Option.some.inj hhead
        have hstart : isIdentStart '-' = true := hmarker.1
        exact absurd hstart (by decide)
      · exact .inl rfl
    · cases blanks with
      | nil => rcases hending with rfl | rfl <;> rfl
      | cons b blanks =>
          have hb : isSpace b = true := hblanks b List.mem_cons_self
          have hcases : b = ' ' ∨ b = '\t' := by simpa [isSpace] using hb
          rcases hcases with rfl | rfl <;> rfl
    · rw [endsMarkerLine, hrest]
      rcases hending with rfl | rfl
      · exact .inl rfl
      · exact .inr rfl

theorem opensHeredoc_iff : opensHeredoc s = true ↔ OpensHeredoc s := by
  rw [opensHeredoc, Option.isSome_iff_exists, Prod.exists]
  constructor
  · rintro ⟨marker, body, h⟩
    obtain ⟨opening, hs, hopening⟩ := heredocMarker?_iff.1 h
    exact ⟨marker, opening, body, hs, hopening⟩
  · rintro ⟨marker, opening, t, hs, hopening⟩
    exact ⟨marker, t, heredocMarker?_iff.2 ⟨opening, hs, hopening⟩⟩

/-- Up to the end of a line that has begun the marker is not looked for. -/
theorem afterMarker?_inside (hline : '\n' ∉ line) (s : Text) :
    afterMarker? marker false (line ++ '\n' :: s) = afterMarker? marker true s ∧
      afterMarker? marker false line = none := by
  induction line with
  | nil => exact ⟨by simp [afterMarker?], rfl⟩
  | cons d line ih =>
      obtain ⟨hd, hline⟩ := List.ne_and_not_mem_of_not_mem_cons hline
      simpa [afterMarker?, Ne.symm hd] using ih hline

/-- A line that is not the marker is passed over, and if it is the last one there is none. -/
theorem afterMarker?_line (hline : '\n' ∉ line) (hother : Text.trim isBlank line ≠ marker) (s : Text) :
    afterMarker? marker true (line ++ '\n' :: s) = afterMarker? marker true s ∧
      afterMarker? marker true line = none := by
  have hfull : (line ++ '\n' :: s).takeWhile (· ≠ '\n') = line := takeWhile_line_append hline rfl
  have halone : (line ++ []).takeWhile (· ≠ '\n') = line := takeWhile_line_append hline rfl
  rw [List.append_nil] at halone
  cases line with
  | nil => exact ⟨by simpa [afterMarker?] using fun h => absurd h hother, rfl⟩
  | cons d line =>
      obtain ⟨hd, hline⟩ := List.ne_and_not_mem_of_not_mem_cons hline
      have hbehind : afterMarker? marker false (line ++ '\n' :: s) = afterMarker? marker true s ∧
          afterMarker? marker false line = none := afterMarker?_inside hline s
      constructor
      · rw [List.cons_append] at hfull ⊢
        rw [afterMarker?]
        simp only [hfull, hother, and_false, if_false, Ne.symm hd, decide_false]
        exact hbehind.1
      · rw [afterMarker?]
        simp only [halone, hother, and_false, if_false, Ne.symm hd, decide_false]
        exact hbehind.2

theorem reachesMarker_of_afterMarker? {s : Text} (hm : marker ≠ []) (h : afterMarker? marker true s = some r) :
    ReachesMarker marker s r := by
  have hline : '\n' ∉ s.takeWhile (· ≠ '\n') := fun hmem => by simpa using List.mem_takeWhile_imp hmem
  have hsplit : s = s.takeWhile (· ≠ '\n') ++ s.dropWhile (· ≠ '\n') := List.takeWhile_append_dropWhile.symm
  have hrest := takeWhile_dropWhile (· ≠ '\n') s
  generalize hl : s.takeWhile (· ≠ '\n') = line at hline hsplit
  generalize s.dropWhile (· ≠ '\n') = rest at hsplit hrest
  by_cases htrim : Text.trim isBlank line = marker
  · have hne : line ++ rest ≠ [] := by
      intro hnil
      rw [(List.append_eq_nil_iff.1 hnil).1] at htrim
      exact hm htrim.symm
    obtain ⟨b, hb, -⟩ := Text.trimEnd_append isBlank line
    have hfound := afterMarker?_closing (fun d hd hn => hline (hn ▸ hd)) hrest htrim hne
    rw [← hsplit, h, hsplit, drop_trimEnd hb] at hfound
    obtain rfl := Option.some.inj hfound
    have hb' : '\n' ∉ Text.trimEnd isBlank line ∧ '\n' ∉ b := by
      rw [hb] at hline
      exact not_or.1 (mt List.mem_append.2 hline)
    have hwhole : Text.trimEnd isBlank line ++ (b ++ rest).takeWhile (· ≠ '\n') = line := by
      rw [takeWhile_line_append hb'.2 hrest, ← hb]
    rw [hsplit]
    conv_lhs => rw [hb, List.append_assoc]
    exact .closing hb'.1 (by rw [hwhole, htrim]) (by rw [hwhole])
  · cases rest with
    | nil =>
        rw [List.append_nil] at hsplit
        rw [hsplit, (afterMarker?_line hline htrim []).2] at h
        cases h
    | cons d rest =>
        obtain rfl : d = '\n' := by
          by_contra hd
          simp [hd] at hrest
        rw [hsplit, (afterMarker?_line hline htrim rest).1] at h
        rw [hsplit]
        exact .line hline htrim (reachesMarker_of_afterMarker? hm h)
termination_by s.length
decreasing_by
  rw [hsplit]
  simp
  omega

theorem ReachesMarker.afterMarker? (hm : marker ≠ []) (h : ReachesMarker marker s r) :
    Source.afterMarker? marker true s = some r := by
  induction h with
  | line hline hother _ ih => exact (afterMarker?_line hline hother _).1.trans ih
  | @closing last r hlast hmarker hend =>
      have hsplit : last ++ r = last ++ r.takeWhile (· ≠ '\n') ++ r.dropWhile (· ≠ '\n') := by
        rw [List.append_assoc, List.takeWhile_append_dropWhile]
      have hline : ∀ d ∈ last ++ r.takeWhile (· ≠ '\n'), d ≠ '\n' := by
        intro d hd hn
        rcases List.mem_append.1 hd with hd | hd
        · exact hlast (hn ▸ hd)
        · simpa [hn] using List.mem_takeWhile_imp hd
      have hne : last ++ r.takeWhile (· ≠ '\n') ++ r.dropWhile (· ≠ '\n') ≠ [] := by
        intro hnil
        rw [(List.append_eq_nil_iff.1 hnil).1] at hmarker
        exact hm hmarker.symm
      rw [hsplit, afterMarker?_closing hline (takeWhile_dropWhile _ r) hmarker hne, hend, ← hsplit, List.drop_left]

theorem scanHeredoc_iff : scanHeredoc s = .ok r ↔ IsHeredoc s r := by
  constructor
  · intro h
    unfold scanHeredoc at h
    split at h
    · cases h
    · next marker body hopens =>
        split at h
        · cases h
        · next t ht =>
            obtain rfl := Except.ok.inj h
            obtain ⟨opening, rfl, hopening⟩ := heredocMarker?_iff.1 hopens
            exact ⟨marker, opening, body, rfl, hopening, reachesMarker_of_afterMarker? hopening.ne_nil ht⟩
  · rintro ⟨marker, opening, t, hs, hopening, ht⟩
    rw [scanHeredoc, heredocMarker?_iff.2 ⟨opening, hs, hopening⟩]
    simp only [ht.afterMarker? hopening.ne_nil]

/-! ### Groups -/

theorem isSingle_iff : IsSingle c t ↔ IsPlain c t := by
  have hbracket : c ∉ ['(', ')', '[', ']', '{', '}'] ↔ closer? c = none ∧ isCloser c = false := by
    constructor
    · intro h
      constructor
      · refine Option.eq_none_iff_forall_not_mem.2 fun d hd => ?_
        rcases closer?_eq_some hd with rfl | rfl | rfl <;> exact absurd h (by decide)
      · refine Bool.eq_false_iff.2 fun hc => ?_
        rcases isCloser_cases hc with rfl | rfl | rfl <;> exact absurd h (by decide)
    · rintro ⟨hopener, hcloser⟩ hmem
      simp only [List.mem_cons, List.not_mem_nil, or_false] at hmem
      rcases hmem with rfl | rfl | rfl | rfl | rfl | rfl <;> revert hopener hcloser <;> decide
  constructor
  · rintro ⟨hquote, hbrackets, hheredoc, hcomment⟩
    obtain ⟨hopener, hcloser⟩ := hbracket.1 hbrackets
    refine ⟨hquote, Bool.eq_false_iff.2 (mt opensHeredoc_iff.1 hheredoc), hopener, hcloser, ?_⟩
    exact Bool.eq_false_iff.2 (mt opensComment_iff.1 hcomment)
  · rintro ⟨hquote, hheredoc, hopener, hcloser, hcomment⟩
    refine ⟨hquote, hbracket.2 ⟨hopener, hcloser⟩, mt opensHeredoc_iff.2 (Bool.eq_false_iff.1 hheredoc), ?_⟩
    exact mt opensComment_iff.2 (Bool.eq_false_iff.1 hcomment)

theorem endsExpression_iff : EndsExpression r ↔ stopsExpression r = true := by
  have hcomment : opensComment r = true ↔ OpensComment r := opensComment_iff
  rw [EndsExpression, stopsExpression, Bool.or_eq_true, hcomment, ← or_assoc]
  refine or_congr_left ?_
  cases r with
  | nil => simp
  | cons c r => simp [or_assoc]

theorem isCloser_of_closer? {d : Char} (h : closer? c = some d) : isCloser d = true := by
  rcases closer?_eq_some h with rfl | rfl | rfl <;> obtain rfl := Option.some.inj h <;> rfl

theorem Pieces.suffix (h : Pieces inside s r) : r <:+ s := by
  induction h with
  | nil => exact List.suffix_refl _
  | template _ _ ih => exact ih.trans (List.suffix_append ..)
  | heredoc hs _ ih => exact ih.trans (scanHeredoc_suffix (scanHeredoc_iff.2 hs)).1
  | group _ _ _ ihgroup ih => exact ih.trans ((List.suffix_cons ..).trans (ihgroup.trans (List.suffix_cons ..)))
  | comment _ _ ih => exact ih.trans (List.suffix_append ..)
  | single _ _ _ ih => exact ih.trans (List.suffix_cons ..)

/-- The text closes the brackets that are open, the innermost first, each behind pieces, and `r` is behind the pieces
that come then. -/
def Closes : List Char → Text → Text → Prop
  | [], s, r => Pieces false s r
  | d :: outer, s, r => ∃ t, Pieces true s (d :: t) ∧ Closes outer t r

/-- Whether a bracket is open. -/
abbrev isInside (awaited : List Char) : Bool := !awaited.isEmpty

theorem Closes.prepend (hp : ∀ u, Pieces (isInside awaited) t u → Pieces (isInside awaited) s u)
    (h : Closes awaited t r) : Closes awaited s r := by
  cases awaited with
  | nil => exact hp r h
  | cons d outer =>
      obtain ⟨u, hu, h⟩ := h
      exact ⟨u, hp _ hu, h⟩

/-- What a step of the scan takes is the next piece, or a bracket that opens or closes a group. -/
theorem Step.closes {awaited' : List Char} (h : Step awaited s awaited' t) (hr : Closes awaited' t r) :
    Closes awaited s r := by
  cases h with
  | quoted h =>
      obtain ⟨w, hw, htemplate⟩ := (scanString_eq_ok rfl).1 h
      rw [hw]
      exact hr.prepend fun u hu => .template htemplate hu
  | heredoc h => exact hr.prepend fun u hu => .heredoc (scanHeredoc_iff.1 h) hu
  | opening h =>
      obtain ⟨u, hgroup, hr⟩ := hr
      exact hr.prepend fun v hv => .group h hgroup hv
  | closing => exact ⟨t, .nil, hr⟩
  | comment hc h =>
      obtain ⟨w, rfl, hcomment⟩ := skipComment_cut hc h
      exact hr.prepend fun u hu => .comment hcomment hu
  | plain h hline =>
      refine hr.prepend fun u hu => .single (isSingle_iff.2 h) (fun houter => hline ?_) hu
      simpa using houter

theorem Scans.closes (h : Scans awaited s r) : Closes awaited s r := by
  induction h with
  | stop => exact .nil
  | step hstep _ ih => exact hstep.closes ih

/-- The scan goes over pieces, whatever brackets are open around them. -/
theorem Pieces.scans (h : Pieces inside s r) (hinside : isInside awaited = inside) {q : Text}
    (hq : Scans awaited r q) : Scans awaited s q := by
  induction h generalizing awaited with
  | nil => exact hq
  | template hw _ ih =>
      obtain ⟨b, rfl, hb⟩ := hw
      refine .step (.quoted ?_) (ih hinside hq)
      exact (scanString_eq_ok rfl).2 ⟨_, rfl, b, rfl, hb⟩
  | heredoc hs _ ih => exact .step (.heredoc (scanHeredoc_iff.2 hs)) (ih hinside hq)
  | group hc _ _ ihgroup ih =>
      refine .step (.opening hc) (ihgroup rfl ?_)
      exact .step (.closing (isCloser_of_closer? hc)) (ih hinside hq)
  | comment hw _ ih =>
      obtain ⟨hopens, hskip⟩ := hw.skipComment
      cases awaited with
      | nil => cases hinside
      | cons d outer => exact .step (.comment hopens hskip) (ih hinside hq)
  | single hc hline _ ih =>
      refine .step (.plain (isSingle_iff.1 hc) fun hnil => hline ?_) (ih hinside hq)
      rw [← hinside, hnil]
      rfl

/-! ### The scanner takes the pieces -/

theorem scanExpression_iff : scanExpression s = .ok r ↔ Pieces false s r ∧ EndsExpression r := by
  rw [scanExpression_eq_ok, endsExpression_iff]
  exact ⟨fun h => ⟨h.closes, h.stops⟩, fun ⟨h, hstop⟩ => h.scans rfl (.stop hstop)⟩

/-- From every offset the scanner ends at an offset if and only if there are pieces up to it and an expression ends
there, which is so for at most one offset, and it has a fault if there is none. -/
theorem scanAt_scanExpression_iff (s : Text) (p : Nat) :
    (∀ e, scanAt scanExpression s p = .ok e ↔
      ∃ w r, Cut s p e w r ∧ Pieces false (w ++ r) r ∧ EndsExpression r) ∧
      (∀ e e' w w' r r', Cut s p e w r → Pieces false (w ++ r) r ∧ EndsExpression r →
        Cut s p e' w' r' → Pieces false (w' ++ r') r' ∧ EndsExpression r' → e = e') ∧
      ((¬∃ e w r, Cut s p e w r ∧ Pieces false (w ++ r) r ∧ EndsExpression r) →
        ∃ f, scanAt scanExpression s p = .error f) := by
  refine scanAt_exact fun r => scanExpression_iff.trans ⟨?_, ?_⟩
  · rintro ⟨hpieces, hends⟩
    obtain ⟨w, hw⟩ := hpieces.suffix
    exact ⟨w, hw.symm, hw ▸ hpieces, hends⟩
  · rintro ⟨w, hw, hpieces, hends⟩
    exact ⟨hw ▸ hpieces, hends⟩

/-- Groups with a line comment, a quoted brace, a heredoc and a block comment in them, each with a bracket inside. -/
def nestedExpression : Text := "x = f([ # ]\r\n  \"\x7d\", <<-A\n)\n  A\n], /* ( */ \x7b\x7d) # y".toList

theorem scanAt_scanExpression_iff_nested :
    scanAt scanExpression nestedExpression 4 = .ok 46 ∧
      (∃ w r, Cut nestedExpression 4 46 w r ∧ Pieces false (w ++ r) r ∧ EndsExpression r) ∧
      ¬∃ w r, Cut nestedExpression 4 49 w r ∧ Pieces false (w ++ r) r ∧ EndsExpression r := by
  have hscan : scanAt scanExpression nestedExpression 4 = .ok 46 := by decide +kernel
  have hends := (scanAt_scanExpression_iff nestedExpression 4).1
  refine ⟨hscan, (hends 46).1 hscan, fun hlate => ?_⟩
  exact absurd (Except.ok.inj (hscan.symm.trans ((hends 49).2 hlate))) (by decide)

end JujuMigration.Source
