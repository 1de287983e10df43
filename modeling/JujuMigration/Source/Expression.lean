import JujuMigration.Source.Gap
import JujuMigration.Source.Heredoc
import JujuMigration.Source.Template
/-! How far an expression reaches. Outside all brackets it ends at a line end, a comment or the brace that
closes the body around it; inside brackets it goes on over lines and comments. Quoted templates and heredocs
are taken whole. -/

namespace JujuMigration.Source

/-- The bracket that closes an opening bracket. -/
def closer? : Char → Option Char
  | '(' => some ')'
  | '[' => some ']'
  | '{' => some '}'
  | _ => none

def isCloser (c : Char) : Bool := c == ')' || c == ']' || c == '}'

/-- Scans with the brackets `awaited` still to be closed, the innermost first; `start` is the text that the
whole expression begins. -/
def scanBracketed (start : Text) (awaited : List Char) (s : Text) : Except Fault Text :=
  match s with
  | [] => if awaited.isEmpty then .ok [] else .error ⟨start, .unclosedBracket⟩
  | c :: r =>
    if c = '"' then
      match h : scanString (c :: r) with
      | .ok rest => have := scanString_length_lt h; scanBracketed start awaited rest
      | .error f => .error f
    else if opensHeredoc (c :: r) then
      match h : scanHeredoc (c :: r) with
      | .ok rest => have := (scanHeredoc_suffix h).2; scanBracketed start awaited rest
      | .error f => .error f
    else if let some closing := closer? c then scanBracketed start (closing :: awaited) r
    else if isCloser c then
      match awaited with
      | closing :: outer =>
        if closing = c then scanBracketed start outer r else .error ⟨c :: r, .mismatched c⟩
      | [] => if c = '}' then .ok (c :: r) else .error ⟨c :: r, .unbalanced c⟩
    else if hc : opensComment (c :: r) then
      if awaited.isEmpty then .ok (c :: r)
      else match h : skipComment (c :: r) with
        | .ok rest => have := skipComment_length_lt hc h; scanBracketed start awaited rest
        | .error f => .error f
    else if (c = '\r' ∨ c = '\n') ∧ awaited.isEmpty then .ok (c :: r)
    else scanBracketed start awaited r
termination_by s.length
decreasing_by all_goals simp_all

def scanExpression (s : Text) : Except Fault Text := scanBracketed s [] s

theorem scanBracketed_suffix {start s r : Text} {awaited : List Char}
    (h : scanBracketed start awaited s = .ok r) : r <:+ s := by
  fun_induction scanBracketed start awaited s with
  | case1 => simp_all
  | case2 => simp at h
  | case3 awaited t rest hs _ ih => exact (ih h).trans (scanString_suffix hs)
  | case4 => simp at h
  | case5 awaited c t _ _ rest hs _ ih => exact (ih h).trans (scanHeredoc_suffix hs).1
  | case6 => simp at h
  | case7 awaited c t _ _ closing hc ih => exact (ih h).trans (List.suffix_cons _ _)
  | case8 _ _ _ _ _ _ _ ih => exact (ih h).trans (List.suffix_cons _ _)
  | case9 => simp at h
  | case10 => obtain rfl := Except.ok.inj h; exact List.suffix_refl _
  | case11 => simp at h
  | case12 => obtain rfl := Except.ok.inj h; exact List.suffix_refl _
  | case13 _ _ _ _ _ _ _ _ _ hs _ _ ih => exact (ih h).trans (skipComment_suffix hs)
  | case14 => simp at h
  | case15 => obtain rfl := Except.ok.inj h; exact List.suffix_refl _
  | case16 awaited c t _ _ _ _ _ _ ih => exact (ih h).trans (List.suffix_cons _ _)

theorem scanExpression_suffix {s r : Text} (h : scanExpression s = .ok r) : r <:+ s := scanBracketed_suffix h

end JujuMigration.Source
