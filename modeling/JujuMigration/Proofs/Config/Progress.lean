import JujuMigration.Proofs.Config.Fault
import JujuMigration.Proofs.Source.Extent
/-! Scanning and reading come to an end. From an offset in a text every scanner ends at one that is not in front of it
and not behind the end of the text, or it has a fault that lies between the two; a scanner that must take something
ends behind it. So a turn of a loop of the reader leaves less of the text than there was, and the loop ends after as
many turns as the text has characters, and one more, at the latest. -/

namespace JujuMigration

namespace Source

/-! ### Scanners -/

/-- What looks for an end in a text. -/
inductive Scanner
  | spaces
  | lineEnd
  | blockComment
  | comment
  | gap
  | lineTail
  | identifier
  | label
  | string
  | interpolation
  | heredoc
  | expression

namespace Scanner

/-- What the scanner leaves of the text. -/
def scan : Scanner → Text → Except Fault Text
  | spaces, s => .ok (skipSpaces s)
  | lineEnd, s => .ok (skipLine s)
  | blockComment, s => skipBlockComment s
  | comment, s => skipComment s
  | gap, s => skipGap s
  | lineTail, s => skipLineTail s
  | identifier, s => (readIdentifier s).map Prod.snd
  | label, s => (readLabel s).map Prod.snd
  | string, s => scanString s
  | interpolation, s => scanInterpolation s
  | heredoc, s => scanHeredoc s
  | expression, s => scanExpression s

/-- Where the scanner ends that is run at an offset. -/
def run : Scanner → Text → Nat → Except Fault Nat
  | spaces, s, p => scanAt (fun t => .ok (skipSpaces t)) s p
  | lineEnd, s, p => .ok (lineEndAt s p)
  | blockComment, s, p => scanAt skipBlockComment s p
  | comment, s, p => skipCommentAt s p
  | gap, s, p => scanAt skipGap s p
  | lineTail, s, p => scanAt skipLineTail s p
  | identifier, s, p => (readAt readIdentifier s p).map Prod.snd
  | label, s, p => (readAt readLabel s p).map Prod.snd
  | string, s, p => scanAt scanString s p
  | interpolation, s, p => scanAt scanInterpolation s p
  | heredoc, s, p => scanAt scanHeredoc s p
  | expression, s, p => scanAt scanExpression s p

/-- Whether the scanner takes a character of the text at least, if it has no fault. -/
def Consumes : Scanner → Text → Prop
  | lineEnd, s | blockComment, s | comment, s => OpensComment s
  | identifier, _ | label, _ | string, _ | interpolation, _ | heredoc, _ => True
  | spaces, _ | gap, _ | lineTail, _ | expression, _ => False

end Scanner

variable {scanner : Scanner} {s r : Text} {f : Fault} {p : Nat}

theorem map_snd_eq_ok {α β : Type} {x : Except Fault (α × β)} {b : β} :
    x.map Prod.snd = .ok b ↔ ∃ a, x = .ok (a, b) := by
  constructor
  · intro h
    cases x with
    | error f => cases h
    | ok y => exact ⟨y.1, congrArg Except.ok (Prod.ext rfl (Except.ok.inj h))⟩
  · rintro ⟨a, rfl⟩
    rfl

theorem map_snd_eq_error {α β : Type} {x : Except Fault (α × β)} : x.map Prod.snd = .error f ↔ x = .error f := by
  cases x with
  | error g => simp [Except.map]
  | ok y => exact ⟨nofun, nofun⟩

/-- A comment takes the character that opens it, also where only the end of its line is looked for. -/
theorem skipLine_length_lt (h : OpensComment s) : (skipLine s).length < s.length := by
  rcases opensComment_cases (opensComment_iff.2 h) with ⟨t, rfl⟩ | ⟨t, rfl⟩ | ⟨t, rfl⟩
  · exact Nat.lt_succ_of_le (skipLine_suffix t).length_le
  · exact Nat.lt_succ_of_le (skipLine_suffix ('/' :: t)).length_le
  · exact Nat.lt_succ_of_le (skipLine_suffix ('*' :: t)).length_le

theorem skipBlockComment_length_lt (hs : s ≠ []) (h : skipBlockComment s = .ok r) : r.length < s.length := by
  have hle := (skipBlockComment_suffix_drop h).length_le
  have hpos := List.length_pos_iff.2 hs
  rw [List.length_drop] at hle
  omega

namespace Scanner

theorem scan_suffix (h : scanner.scan s = .ok r) : r <:+ s := by
  cases scanner with
  | spaces => exact Except.ok.inj h ▸ skipSpaces_suffix s
  | lineEnd => exact Except.ok.inj h ▸ skipLine_suffix s
  | blockComment => exact skipBlockComment_suffix h
  | comment => exact skipComment_suffix h
  | gap => exact skipGap_suffix h
  | lineTail => exact skipLineTail_suffix h
  | identifier =>
      obtain ⟨name, hread⟩ := map_snd_eq_ok.1 h
      exact (readIdentifier_suffix hread).1
  | label =>
      obtain ⟨text, hread⟩ := map_snd_eq_ok.1 h
      exact (readLabel_suffix hread).1
  | string => exact scanString_suffix h
  | interpolation => exact scanInterpolation_suffix h
  | heredoc => exact (scanHeredoc_suffix h).1
  | expression => exact scanExpression_suffix h

theorem scan_length_lt (hc : scanner.Consumes s) (h : scanner.scan s = .ok r) : r.length < s.length := by
  cases scanner with
  | spaces | gap | lineTail | expression => exact hc.elim
  | lineEnd => exact Except.ok.inj h ▸ skipLine_length_lt hc
  | blockComment =>
      refine skipBlockComment_length_lt ?_ h
      rintro rfl
      exact absurd (opensComment_iff.2 hc) Bool.false_ne_true
  | comment => exact skipComment_length_lt (opensComment_iff.2 hc) h
  | identifier =>
      obtain ⟨name, hread⟩ := map_snd_eq_ok.1 h
      exact (readIdentifier_suffix hread).2
  | label =>
      obtain ⟨text, hread⟩ := map_snd_eq_ok.1 h
      exact (readLabel_suffix hread).2
  | string => exact scanString_length_lt h
  | interpolation =>
      obtain ⟨htail, hne⟩ := scanFrame_suffix_tail h
      have hpos := List.length_pos_iff.2 hne
      have hle := htail.length_le
      rw [List.length_tail] at hle
      omega
  | heredoc => exact (scanHeredoc_suffix h).2

theorem scan_fault (h : scanner.scan s = .error f) : f.rest <:+ s := by
  have hframe (frame : Frame) {t : Text} (ht : t <:+ s) (hrest : frame.fault.rest <:+ s)
      (h : scanFrame frame [] t = .error f) : f.rest <:+ s :=
    scanFrame_error (P := (·.rest <:+ s)) ht (fun _ hq => hq) (fun _ hq => hq)
      (List.forall_mem_singleton.2 hrest) h
  cases scanner with
  | spaces | lineEnd => cases h
  | blockComment =>
      simp only [scan, skipBlockComment] at h
      split at h
      · cases h
      · exact Except.error.inj h ▸ List.suffix_refl s
  | comment => exact (skipComment_fault h).suffix
  | gap => exact (skipGap_fault h).suffix
  | lineTail => exact (skipLineTail_fault h).suffix
  | identifier => exact (readIdentifier_fault (map_snd_eq_error.1 h)).suffix
  | label => exact (readLabel_fault (map_snd_eq_error.1 h)).suffix
  | string => exact hframe (.quoted s) (List.drop_suffix 1 s) (List.suffix_refl s) h
  | interpolation => exact hframe (.hole s 0) (List.suffix_refl s) (List.suffix_refl s) h
  | heredoc => exact (scanHeredoc_fault h).suffix
  | expression => exact (scanExpression_fault h).suffix

end Scanner

/-! ### Scanners at an offset -/

theorem offsetAfter_eq (hp : p ≤ s.length) (hr : r <:+ s.drop p) :
    offsetAfter s p r = s.length - r.length ∧ s.drop (offsetAfter s p r) = r := by
  have hlength := List.length_drop (i := p) (l := s)
  have hle := hr.length_le
  have hend : offsetAfter s p r = s.length - r.length := by
    rw [offsetAfter]
    omega
  exact ⟨hend, by rw [hend, ← List.suffix_iff_eq_drop.1 (hr.trans (List.drop_suffix p s))]⟩

theorem readAt_map_snd (read : Text → Except Fault (Text × Text)) (s : Text) (p : Nat) :
    (readAt read s p).map Prod.snd = scanAt (fun t => (read t).map Prod.snd) s p := by
  rw [readAt, scanAt]
  cases read (s.drop p) with
  | error f => rfl
  | ok x => rfl

namespace Scanner

theorem run_eq (scanner : Scanner) (hp : p ≤ s.length) : scanner.run s p = scanAt scanner.scan s p := by
  cases scanner with
  | lineEnd =>
      obtain ⟨hend, -⟩ := offsetAfter_eq hp (skipLine_suffix (s.drop p))
      exact congrArg Except.ok hend.symm
  | comment =>
      simp only [run, skipCommentAt, scanAt, scan]
      cases h : skipComment (s.drop p) with
      | error f => rfl
      | ok r =>
          obtain ⟨hend, -⟩ := offsetAfter_eq hp (skipComment_suffix h)
          exact congrArg Except.ok hend.symm
  | identifier => exact readAt_map_snd readIdentifier s p
  | label => exact readAt_map_snd readLabel s p
  | _ => rfl

/-- A scanner ends inside the text, in front of what it leaves, or it has a fault from its offset on. -/
theorem run_cases (scanner : Scanner) (hp : p ≤ s.length) :
    (∃ f, scanner.run s p = .error f ∧ f.rest <:+ s.drop p) ∨
      ∃ e, scanner.run s p = .ok e ∧ p ≤ e ∧ e ≤ s.length ∧ scanner.scan (s.drop p) = .ok (s.drop e) ∧
        (scanner.Consumes (s.drop p) → p < e) := by
  rw [run_eq scanner hp, scanAt]
  cases h : scanner.scan (s.drop p) with
  | error f => exact .inl ⟨f, rfl, scan_fault h⟩
  | ok r =>
      obtain ⟨hend, hrest⟩ := offsetAfter_eq hp (scan_suffix h)
      refine .inr ⟨offsetAfter s p r, rfl, Nat.le_add_right _ _, ?_, congrArg Except.ok hrest.symm, fun hc => ?_⟩
      · rw [hend]
        exact Nat.sub_le _ _
      · have hlt := scan_length_lt hc h
        rw [offsetAfter]
        omega

/-- A gap ends where the text does, or in front of a character that belongs to none. -/
theorem run_gap {e : Nat} (hp : p ≤ s.length) (h : gap.run s p = .ok e) :
    e = s.length ∨ ∃ c, s[e]? = some c ∧ c ∉ [' ', '\t', '\r', '\n'] ∧ ¬OpensComment (s.drop e) := by
  rcases run_cases gap hp with ⟨f, hfault, -⟩ | ⟨e', hrun, -, hle, hscan, -⟩
  · rw [hfault] at h
    cases h
  · obtain rfl : e' = e := Except.ok.inj (hrun.symm.trans h)
    obtain ⟨hblank, hcomment⟩ := head?_of_skipGap hscan
    rcases Nat.eq_or_lt_of_le hle with hend | hlt
    · exact .inl hend
    · rw [List.drop_eq_getElem_cons hlt] at hblank
      have hc : isGapChar s[e'] = false := hblank
      refine .inr ⟨s[e'], List.getElem?_eq_getElem hlt, fun hmem => ?_, fun hopens => ?_⟩
      · simp only [List.mem_cons, List.not_mem_nil, or_false] at hmem
        rcases hmem with hx | hx | hx | hx <;> rw [hx] at hc <;> cases hc
      · rw [opensComment_iff.2 hopens] at hcomment
        cases hcomment

end Scanner

/-- Between two offsets trailing blanks are trimmed, all of them and nothing else. -/
theorem trimRight?_eq_some {start stop : Nat} (hlow : start ≤ stop) (hhigh : stop ≤ s.length) :
    ∃ e, trimRight? s start stop = some e ∧ start ≤ e ∧ e ≤ stop ∧ (∀ c ∈ (s.take stop).drop e, isSpace c = true) ∧
      ((s.take e).drop start).getLast?.all (!isSpace ·) = true := by
  have hslice : ((s.take stop).drop start).length = stop - start := by
    rw [List.length_drop, List.length_take_of_le hhigh]
  obtain ⟨b, hb, hblank⟩ := Text.trimEnd_append isSpace ((s.take stop).drop start)
  have hlast := Text.getLast?_trimEnd isSpace ((s.take stop).drop start)
  generalize hk : Text.trimEnd isSpace ((s.take stop).drop start) = kept at hb hlast
  have hlength : kept.length + b.length = stop - start := by rw [← hslice, hb, List.length_append]
  have hbehind : (s.take stop).drop (start + kept.length) = b := by
    rw [← List.drop_drop, hb, List.drop_left]
  have hfront : (s.take (start + kept.length)).drop start = kept := by
    have htake : s.take (start + kept.length) = (s.take stop).take (start + kept.length) := by
      rw [List.take_take, Nat.min_eq_left (by omega)]
    rw [htake, List.drop_take, hb, Nat.add_sub_cancel_left, List.take_left]
  refine ⟨start + kept.length, ?_, Nat.le_add_right _ _, by omega, by rwa [hbehind], by rwa [hfront]⟩
  rw [trimRight?]
  split
  · congr 1
    omega
  · rw [if_neg (Nat.not_lt.2 hhigh), hk]

end Source

open Source

/-! ### Loops -/

/-- What a turn of a loop comes to: the state in which the next one begins, or the result. -/
inductive Turn (σ α : Type)
  | again (next : σ)
  | done (result : α)

namespace Turn

variable {σ α : Type} {turn : σ → Turn σ α} {value : σ → α}

/-- The result of a turn, if `value` is what the loop gives from a state on. -/
def result (value : σ → α) : Turn σ α → α
  | again next => value next
  | done a => a

/-- A loop from a state on ends with its `n`th turn, and `a` is its result. -/
inductive Ends (turn : σ → Turn σ α) : σ → Nat → α → Prop
  | done {x : σ} {a : α} (h : turn x = .done a) : Ends turn x 1 a
  | again {x y : σ} {n : Nat} {a : α} (h : turn x = .again y) (hend : Ends turn y n a) : Ends turn x (n + 1) a

/-- A loop ends if every turn makes its state smaller, after one turn more than the state is large at the latest. -/
theorem ends_of_size (size : σ → Nat) (hvalue : ∀ x, value x = (turn x).result value)
    (hsize : ∀ x y, turn x = .again y → size y < size x) (x : σ) : ∃ n ≤ size x + 1, Ends turn x n (value x) := by
  cases h : turn x with
  | done a =>
      have ha : value x = a := by rw [hvalue, h, result]
      exact ⟨1, Nat.le_add_left _ _, ha ▸ .done h⟩
  | again y =>
      have hlt := hsize x y h
      obtain ⟨n, hn, hend⟩ := ends_of_size size hvalue hsize y
      have hy : value x = value y := by rw [hvalue x, h, result]
      exact ⟨n + 1, by omega, hy ▸ .again h hend⟩
termination_by size x

end Turn

variable {s : Text}

/-! ### The loop over labels -/

/-- A turn of the loop that reads the labels of a block: the labels so far and the text behind them. -/
def labelTurn (kind : Text) (x : List Text × Text) : Turn (List Text × Text) (Except Fault (List Text × Text)) :=
  match x.2 with
  | '{' :: r => .done (.ok (x.1, r))
  | s =>
    if s.head? = some '"' ∨ opensIdentifier s then
      match readLabel s with
      | .ok (label, rest) => .again (x.1 ++ [label], skipSpaces rest)
      | .error f => .done (.error f)
    else .done (.error ⟨s, .notLabel kind⟩)

theorem readLabels_turn (kind : Text) (x : List Text × Text) :
    readLabels kind x.1 x.2 = (labelTurn kind x).result fun y => readLabels kind y.1 y.2 := by
  obtain ⟨labels, s⟩ := x
  rw [labelTurn]
  dsimp only
  split
  · rw [readLabels]
    rfl
  · next hbrace =>
      rw [readLabels.eq_def]
      split
      · next r => exact absurd rfl (hbrace r)
      · split
        · split
          · next hread =>
              dsimp only
              rw [hread]
              rfl
          · next hread =>
              rw [hread]
              rfl
        · rfl

theorem labelTurn_size {kind : Text} (x y : List Text × Text) (h : labelTurn kind x = .again y) :
    y.2.length < x.2.length := by
  obtain ⟨labels, s⟩ := x
  rw [labelTurn] at h
  dsimp only at h
  split at h
  · cases h
  · split at h
    · split at h
      · next label rest hread =>
          cases h
          exact Nat.lt_of_le_of_lt (skipSpaces_suffix rest).length_le (readLabel_suffix hread).2
      · cases h
    · cases h

/-! ### The loop over items -/

/-- What the reader has in hand between two items: the blocks that are open, the innermost first, what has been read of
the innermost body, newest first, the line, and the text that has not been read. -/
structure Reader where
  outer : List OpenBlock
  nodes : List Node
  line : Nat
  rest : Text

namespace Reader

def start (s : Text) : Reader := ⟨[], [], 1, s⟩

/-- The tree that the reader comes to. -/
def tree (x : Reader) : Except Fault Body := readNodes x.outer x.nodes x.line x.rest

/-- The turn of a reader in front of the end of a body. -/
def close (x : Reader) : Turn Reader (Except Fault Body) :=
  match x.rest, x.outer with
  | [], [] => .done (.ok x.nodes.reverse)
  | [], _ :: _ => .done (.error ⟨[], .unexpectedEnd⟩)
  | c :: r, [] => .done (.error ⟨c :: r, .unexpectedBrace⟩)
  | c :: r, block :: outer =>
    match skipLineTail r with
    | .error f => .done (.error f)
    | .ok behind =>
      let closing := Text.before behind (c :: r)
      .again ⟨outer, .block block.head x.nodes.reverse closing :: block.siblings, x.line + Text.newlines closing,
        behind⟩

/-- The turn of a reader in front of an item. -/
def take (x : Reader) (lead : Text) : Turn Reader (Except Fault Body) :=
  match readItem lead x.line x.rest with
  | .error f => .done (.error f)
  | .ok (.attribute a behind) =>
    .again ⟨x.outer, .attribute a :: x.nodes, x.line + Text.newlines (Text.before behind x.rest), behind⟩
  | .ok (.opening head behind) =>
    .again ⟨⟨head, x.nodes⟩ :: x.outer, [], x.line + Text.newlines (Text.before behind x.rest), behind⟩

/-- A turn of the reader takes a gap and what is behind it, an item or the end of a body. -/
def turn (x : Reader) : Turn Reader (Except Fault Body) :=
  match skipGap x.rest with
  | .error f => .done (.error f)
  | .ok rest =>
    let gap := Text.before rest x.rest
    let nodes := pushGap (Text.trimEnd isSpace gap) x.nodes
    let line := x.line + Text.newlines gap
    if endsBody rest then close ⟨x.outer, pushGap (indentation gap) nodes, line, rest⟩
    else take ⟨x.outer, nodes, line, rest⟩ (indentation gap)

variable {x y : Reader}

theorem resume_close (x : Reader) : resume x.outer x.nodes x.line x.rest = x.close.result tree := by
  obtain ⟨outer, nodes, line, rest⟩ := x
  cases rest with
  | nil =>
      cases outer with
      | nil => rfl
      | cons block outer => rfl
  | cons c r =>
      cases outer with
      | nil => rfl
      | cons block outer =>
          rw [close]
          dsimp only [resume]
          cases skipLineTail r with
          | error f => rfl
          | ok behind => rfl

theorem proceed_take (x : Reader) (lead : Text) :
    (readItem lead x.line x.rest).bind (proceed x.outer x.nodes x.line x.rest) = (x.take lead).result tree := by
  rw [take]
  cases readItem lead x.line x.rest with
  | error f => rfl
  | ok item =>
      cases item with
      | «attribute» a behind => rfl
      | opening head behind => rfl

theorem tree_turn (x : Reader) : x.tree = x.turn.result tree := by
  rw [turn, tree]
  cases hgap : skipGap x.rest with
  | error f =>
      rw [readNodes.eq_def]
      split
      · next hfault =>
          rw [← Except.error.inj (hgap.symm.trans hfault)]
          rfl
      · next hok => cases hgap.symm.trans hok
  | ok rest =>
      rw [readNodes_eq (Text.before_append_self (skipGap_suffix hgap)).symm hgap]
      dsimp only
      split
      · exact resume_close ⟨_, _, _, _⟩
      · exact proceed_take ⟨_, _, _, _⟩ _

theorem close_size (h : x.close = .again y) : y.rest.length < x.rest.length := by
  rw [close] at h
  split at h
  · cases h
  · cases h
  · cases h
  · next c r block outer hrest _ =>
      split at h
      · cases h
      · next behind htail =>
          cases h
          rw [hrest]
          exact Nat.lt_succ_of_le (skipLineTail_suffix htail).length_le

theorem take_size {lead : Text} (h : x.take lead = .again y) : y.rest.length < x.rest.length := by
  rw [take] at h
  split at h
  · cases h
  · next a behind hitem =>
      cases h
      exact (readItem_suffix hitem).2
  · next head behind hitem =>
      cases h
      exact (readItem_suffix hitem).2

theorem turn_size (x y : Reader) (h : x.turn = .again y) : y.rest.length < x.rest.length := by
  rw [turn] at h
  split at h
  · cases h
  · next rest hgap =>
      have hle := (skipGap_suffix hgap).length_le
      dsimp only at h
      split at h
      · exact Nat.lt_of_lt_of_le (close_size h) hle
      · exact Nat.lt_of_lt_of_le (take_size h) hle

end Reader

/-- Scanners end inside the text and not in front of where they begin, or they have a fault there, and what must take
something does; blanks are trimmed inside their bounds; a gap ends in front of what belongs to none. So the loop over
the labels of a block and the loop over the items of a text end, whatever the text. -/
theorem scanning_ends (s : Text) :
    (∀ scanner : Scanner, ∀ p ≤ s.length, (∃ f, scanner.run s p = .error f ∧ f.rest <:+ s.drop p) ∨
      ∃ e, scanner.run s p = .ok e ∧ p ≤ e ∧ e ≤ s.length ∧ scanner.scan (s.drop p) = .ok (s.drop e) ∧
        (scanner.Consumes (s.drop p) → p < e)) ∧
      (∀ start stop, start ≤ stop → stop ≤ s.length → ∃ e, trimRight? s start stop = some e ∧ start ≤ e ∧ e ≤ stop ∧
        (∀ c ∈ (s.take stop).drop e, isSpace c = true) ∧ ((s.take e).drop start).getLast?.all (!isSpace ·) = true) ∧
      (∀ p e, p ≤ s.length → Scanner.gap.run s p = .ok e →
        e = s.length ∨ ∃ c, s[e]? = some c ∧ c ∉ [' ', '\t', '\r', '\n'] ∧ ¬OpensComment (s.drop e)) ∧
      (∀ kind, ∃ n ≤ s.length + 1, Turn.Ends (labelTurn kind) ([], s) n (readLabels kind [] s)) ∧
      ∃ n ≤ s.length + 1, Turn.Ends Reader.turn (.start s) n (Body.read s) := by
  refine ⟨fun scanner p hp => scanner.run_cases hp, fun start stop hlow hhigh => trimRight?_eq_some hlow hhigh,
    fun p e hp h => Scanner.run_gap hp h, fun kind => ?_, ?_⟩
  · exact Turn.ends_of_size (fun x => x.2.length) (readLabels_turn kind) labelTurn_size ([], s)
  · exact Turn.ends_of_size (fun x => x.rest.length) Reader.tree_turn Reader.turn_size (.start s)

/-- A gap with comments of both kinds, and a label whose last backslash has nothing behind it. -/
def unfinishedSource : Text := " # c\r\n/* */x \"\\".toList

theorem scanning_ends_unfinished :
    (∃ f, Scanner.string.run unfinishedSource 13 = .error f ∧ f.rest <:+ unfinishedSource.drop 13) ∧
      (1 < 4 ∧ Scanner.comment.scan (unfinishedSource.drop 1) = .ok (unfinishedSource.drop 4)) ∧
      (∃ c, unfinishedSource[11]? = some c ∧ c ∉ [' ', '\t', '\r', '\n'] ∧ ¬OpensComment (unfinishedSource.drop 11)) ∧
      (∃ e, trimRight? unfinishedSource 11 13 = some e ∧ 11 ≤ e ∧ e ≤ 13) ∧
      ∃ n ≤ 16, Turn.Ends Reader.turn (.start unfinishedSource) n (Body.read unfinishedSource) := by
  obtain ⟨hscan, htrim, hgap, -, hread⟩ := scanning_ends unfinishedSource
  have hlength : unfinishedSource.length = 15 := by decide +kernel
  rw [hlength] at hread
  refine ⟨?_, ?_, ?_, ?_, hread⟩
  · have hfails : (Scanner.string.run unfinishedSource 13).toOption = none := by decide +kernel
    rcases hscan .string 13 (by omega) with hfault | ⟨e, hrun, -⟩
    · exact hfault
    · rw [hrun] at hfails
      cases hfails
  · have hends : Scanner.comment.run unfinishedSource 1 = .ok 4 := by decide +kernel
    have hopens : OpensComment (unfinishedSource.drop 1) := opensComment_iff.1 (by decide +kernel)
    rcases hscan .comment 1 (by omega) with ⟨f, hfault, -⟩ | ⟨e, hrun, -, -, hrest, hconsumes⟩
    · rw [hfault] at hends
      cases hends
    · obtain rfl : e = 4 := Except.ok.inj (hrun.symm.trans hends)
      exact ⟨hconsumes hopens, hrest⟩
  · refine (hgap 0 11 (by omega) (by decide +kernel)).resolve_left ?_
    omega
  · obtain ⟨e, htrimmed, hlow, hhigh, -, -⟩ := htrim 11 13 (by omega) (by omega)
    exact ⟨e, htrimmed, hlow, hhigh⟩

end JujuMigration
