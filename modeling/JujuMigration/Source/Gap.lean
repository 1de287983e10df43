import JujuMigration.Source.Comment
/-! What may stand between items, blanks, line ends and comments, and what may stand between an item and the
end of its line. -/

namespace JujuMigration.Source

def isGapChar (c : Char) : Bool := isSpace c || c == '\r' || c == '\n'

/-- Skips blanks, line ends and comments of every style. -/
def skipGap (s : Text) : Except Fault Text :=
  match s with
  | [] => .ok []
  | c :: r =>
    if isGapChar c then skipGap r
    else if hc : opensComment (c :: r) then
      match h : skipComment (c :: r) with
      | .ok rest => have := skipComment_length_lt hc h; skipGap rest
      | .error f => .error f
    else .ok (c :: r)
termination_by s.length
decreasing_by all_goals simp_all

/-- Skips blanks and comments up to and with the line end. A closing brace ends the line too and is left for
the body that it closes. -/
def skipLineTail (s : Text) : Except Fault Text :=
  match _hs : skipSpaces s with
  | [] => .ok []
  | c :: r =>
    if c = '\n' then .ok r
    else if c = '\r' ∧ r.head? = some '\n' then .ok r.tail
    else if c = '}' then .ok (c :: r)
    else if hc : opensComment (c :: r) then
      match h : skipComment (c :: r) with
      | .ok rest =>
        have := skipComment_length_lt hc h
        have := (skipSpaces_suffix s).length_le
        skipLineTail rest
      | .error f => .error f
    else .error ⟨c :: r, .notEndOfLine c⟩
termination_by s.length
decreasing_by simp_all; omega

theorem skipGap_suffix {s r : Text} (h : skipGap s = .ok r) : r <:+ s := by
  fun_induction skipGap s with
  | case1 => obtain rfl := Except.ok.inj h; exact List.suffix_refl _
  | case2 c t hc ih => exact (ih h).trans (List.suffix_cons _ _)
  | case3 c t _ _ rest hk _ ih => exact (ih h).trans (skipComment_suffix hk)
  | case4 => simp at h
  | case5 => obtain rfl := Except.ok.inj h; exact List.suffix_refl _

theorem skipLineTail_suffix {s r : Text} (h : skipLineTail s = .ok r) : r <:+ s := by
  fun_induction skipLineTail s with
  | case1 => obtain rfl := Except.ok.inj h; exact List.nil_suffix
  | case2 s t hs =>
    obtain rfl := Except.ok.inj h
    exact (List.suffix_cons _ _).trans (hs ▸ skipSpaces_suffix s)
  | case3 s c t hs _ _ =>
    obtain rfl := Except.ok.inj h
    exact (List.tail_suffix t).trans ((List.suffix_cons _ _).trans (hs ▸ skipSpaces_suffix s))
  | case4 s t hs =>
    obtain rfl := Except.ok.inj h
    exact hs ▸ skipSpaces_suffix s
  | case5 s c t hs _ _ _ _ rest hk _ _ ih =>
    exact (ih h).trans ((skipComment_suffix hk).trans (hs ▸ skipSpaces_suffix s))
  | case6 => simp at h
  | case7 => simp at h

end JujuMigration.Source
