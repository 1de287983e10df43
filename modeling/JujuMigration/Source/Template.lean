import JujuMigration.Source.Fault
/-! Quoted templates. A template is a quoted text in which `${` and `%{` open holes; a hole may hold further
quoted templates, and its braces nest. The scanner keeps a stack of what is open, the innermost first, and
takes one step per character, so it ends on every text; `$${` and `%%{` open no hole. -/

namespace JujuMigration.Source

/-- Something open: a quoted text or a hole. Each remembers the text from its opening on. -/
inductive Frame
  | quoted (opening : Text)
  /-- `nested` counts the braces that are open inside the hole. -/
  | hole (opening : Text) (nested : Nat)
  deriving DecidableEq, Repr

/-- What is wrong if the text ends with this frame open. -/
def Frame.fault : Frame → Fault
  | .quoted s => ⟨s, .unterminatedString⟩
  | .hole s _ => ⟨s, .unterminatedInterpolation⟩

/-- Scans to the end of the outermost frame; `outer` holds the frames around the first. -/
def scanFrame : Frame → List Frame → Text → Except Fault Text
  | frame, _, [] => .error frame.fault
  | .quoted s, outer, c :: r =>
    if c = '\\' then
      match r with
      | [] => .error (Frame.quoted s).fault
      | _ :: r => scanFrame (.quoted s) outer r
    else if c = '"' then
      match outer with
      | [] => .ok r
      | frame :: outer => scanFrame frame outer r
    else if c = '\n' then .error (Frame.quoted s).fault
    else if c = '$' ∨ c = '%' then
      match r with
      | '{' :: r => scanFrame (.hole r 0) (.quoted s :: outer) r
      | d :: '{' :: q => if d = c then scanFrame (.quoted s) outer q else scanFrame (.quoted s) outer (d :: '{' :: q)
      | r => scanFrame (.quoted s) outer r
    else scanFrame (.quoted s) outer r
  | .hole s nested, outer, c :: r =>
    if c = '"' then scanFrame (.quoted (c :: r)) (.hole s nested :: outer) r
    else if c = '{' then scanFrame (.hole s (nested + 1)) outer r
    else if c = '}' then
      match nested, outer with
      | n + 1, outer => scanFrame (.hole s n) outer r
      | 0, [] => .ok r
      | 0, frame :: outer => scanFrame frame outer r
    else scanFrame (.hole s nested) outer r

/-- Scans a quoted template; its first character is taken for the opening quote. -/
def scanString (s : Text) : Except Fault Text := scanFrame (.quoted s) [] (s.drop 1)

/-- Scans from the inside of a hole to the end of its closing brace. -/
def scanInterpolation (s : Text) : Except Fault Text := scanFrame (.hole s 0) [] s

private theorem suffix_of_tail {a b r : Text} (h : r <:+ a.tail ∧ a ≠ []) (hab : a <:+ b) : r <:+ b :=
  h.1.trans ((List.tail_suffix a).trans hab)

/-- A scan that succeeds returns a suffix and consumes at least a character. -/
theorem scanFrame_suffix_tail {frame : Frame} {outer : List Frame} {s r : Text}
    (h : scanFrame frame outer s = .ok r) : r <:+ s.tail ∧ s ≠ [] := by
  fun_induction scanFrame frame outer s <;> grind [suffix_of_tail, List.suffix_cons, List.suffix_refl]

theorem scanString_suffix {s r : Text} (h : scanString s = .ok r) : r <:+ s :=
  suffix_of_tail (scanFrame_suffix_tail h) (List.drop_suffix 1 s)

theorem scanString_length_lt {s r : Text} (h : scanString s = .ok r) : r.length < s.length := by
  obtain ⟨hr, hs⟩ := scanFrame_suffix_tail h
  have := hr.length_le
  have := List.length_pos_iff.2 hs
  simp only [List.length_tail, List.length_drop] at *
  omega

theorem scanInterpolation_suffix {s r : Text} (h : scanInterpolation s = .ok r) : r <:+ s :=
  suffix_of_tail (scanFrame_suffix_tail h) (List.suffix_refl s)

end JujuMigration.Source
