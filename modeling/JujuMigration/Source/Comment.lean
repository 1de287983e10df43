import JujuMigration.Source.Fault
/-! Comments: from `#` or `//` to the end of the line, or between `/*` and `*/`. Scanners here and in the
neighbouring modules take the text from some place on and return the text from the end of the construct on;
each returns a suffix of what it was given. -/

namespace JujuMigration.Source

/-- The blanks that separate words on a line. -/
def isSpace (c : Char) : Bool := c == ' ' || c == '\t'

def skipSpaces (s : Text) : Text := s.dropWhile isSpace

/-- The text from the end of the line on, a line end being a line feed or a carriage return before one. -/
def skipLine : Text → Text
  | [] => []
  | '\n' :: r => '\n' :: r
  | '\r' :: '\n' :: r => '\r' :: '\n' :: r
  | _ :: r => skipLine r

/-- The text after the first `*/`. -/
def afterCommentEnd? : Text → Option Text
  | [] => none
  | '*' :: '/' :: r => some r
  | _ :: r => afterCommentEnd? r

def opensBlockComment : Text → Bool
  | '/' :: '*' :: _ => true
  | _ => false

def opensComment : Text → Bool
  | '#' :: _ => true
  | '/' :: '/' :: _ => true
  | s => opensBlockComment s

/-- The two characters that open the comment are not looked at. -/
def skipBlockComment (s : Text) : Except Fault Text :=
  match afterCommentEnd? (s.drop 2) with
  | some r => .ok r
  | none => .error ⟨s, .unterminatedComment⟩

def skipComment (s : Text) : Except Fault Text :=
  if opensBlockComment s then skipBlockComment s else .ok (skipLine s)

theorem skipSpaces_suffix (s : Text) : skipSpaces s <:+ s := List.dropWhile_suffix isSpace

theorem skipLine_suffix (s : Text) : skipLine s <:+ s := by
  fun_induction skipLine s with
  | case1 => exact List.suffix_refl _
  | case2 => exact List.suffix_refl _
  | case3 => exact List.suffix_refl _
  | case4 c r _ _ ih => exact ih.trans (List.suffix_cons _ _)

theorem afterCommentEnd?_suffix {s r : Text} (h : afterCommentEnd? s = some r) : r <:+ s := by
  fun_induction afterCommentEnd? s with
  | case1 => simp at h
  | case2 t => obtain rfl := Option.some.inj h; exact ⟨['*', '/'], rfl⟩
  | case3 c t _ ih => exact (ih h).trans (List.suffix_cons _ _)

theorem skipBlockComment_suffix_drop {s r : Text} (h : skipBlockComment s = .ok r) : r <:+ s.drop 2 := by
  unfold skipBlockComment at h
  split at h
  · next t ht => obtain rfl := Except.ok.inj h; exact afterCommentEnd?_suffix ht
  · simp at h

theorem skipBlockComment_suffix {s r : Text} (h : skipBlockComment s = .ok r) : r <:+ s :=
  (skipBlockComment_suffix_drop h).trans (List.drop_suffix 2 s)

theorem skipComment_suffix {s r : Text} (h : skipComment s = .ok r) : r <:+ s := by
  unfold skipComment at h
  split at h
  · exact skipBlockComment_suffix h
  · obtain rfl := Except.ok.inj h; exact skipLine_suffix s

theorem opensComment_cases {s : Text} (h : opensComment s = true) :
    (∃ r, s = '#' :: r) ∨ (∃ r, s = '/' :: '/' :: r) ∨ ∃ r, s = '/' :: '*' :: r := by
  unfold opensComment at h
  split at h
  · exact .inl ⟨_, rfl⟩
  · exact .inr (.inl ⟨_, rfl⟩)
  · unfold opensBlockComment at h
    split at h
    · exact .inr (.inr ⟨_, rfl⟩)
    · simp at h

/-- A comment takes at least the characters that open it. -/
theorem skipComment_length_lt {s r : Text} (hs : opensComment s = true) (h : skipComment s = .ok r) :
    r.length < s.length := by
  rcases opensComment_cases hs with ⟨t, rfl⟩ | ⟨t, rfl⟩ | ⟨t, rfl⟩
  · obtain rfl : skipLine t = r := Except.ok.inj h
    exact Nat.lt_succ_of_le (skipLine_suffix t).length_le
  · obtain rfl : skipLine t = r := Except.ok.inj h
    exact Nat.lt_succ_of_le (Nat.le_succ_of_le (skipLine_suffix t).length_le)
  · have := (skipBlockComment_suffix_drop (s := '/' :: '*' :: t) h).length_le
    simp only [List.length_drop, List.length_cons] at this ⊢
    omega

end JujuMigration.Source
