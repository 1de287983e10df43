import JujuMigration.Source.Template
/-! Identifiers and block labels. A label is an identifier or a quoted text; in the quoted one a backslash
before a quote or before a backslash is dropped. -/

namespace JujuMigration.Source

def isIdentStart (c : Char) : Bool := c.isAlpha || c == '_'

def isIdentChar (c : Char) : Bool := c.isAlphanum || c == '_' || c == '-'

def opensIdentifier (s : Text) : Bool := s.head?.any isIdentStart

/-- The identifier that the text begins with, and the text after it. -/
def readIdentifier (s : Text) : Except Fault (Text × Text) :=
  if opensIdentifier s then .ok (s.takeWhile isIdentChar, s.dropWhile isIdentChar)
  else .error ⟨s, .notIdentifier s.head?⟩

/-- Replaces escaped quotes, then doubled backslashes. -/
def unescapeLabel (raw : Text) : Text :=
  Text.replaceAll ['\\', '\\'] ['\\'] (Text.replaceAll ['\\', '"'] ['"'] raw)

def readLabel (s : Text) : Except Fault (Text × Text) :=
  match s with
  | '"' :: r => do
    let rest ← scanString s
    .ok (unescapeLabel (Text.before rest r).dropLast, rest)
  | _ => readIdentifier s

theorem isIdentChar_of_isIdentStart {c : Char} (h : isIdentStart c = true) : isIdentChar c = true := by
  simp only [isIdentStart, Bool.or_eq_true, beq_iff_eq] at h
  rcases h with h | rfl
  · simp [isIdentChar, Char.isAlphanum, h]
  · decide

theorem readIdentifier_suffix {s name r : Text} (h : readIdentifier s = .ok (name, r)) :
    r <:+ s ∧ r.length < s.length := by
  unfold readIdentifier at h
  split at h
  · next ho =>
    obtain ⟨rfl, rfl⟩ := Prod.mk.inj (Except.ok.inj h)
    refine ⟨List.dropWhile_suffix _, ?_⟩
    cases s with
    | nil => simp [opensIdentifier] at ho
    | cons c t =>
      have hc : isIdentChar c = true := isIdentChar_of_isIdentStart (by simpa [opensIdentifier] using ho)
      simpa [List.dropWhile_cons, hc] using
        Nat.lt_succ_of_le (List.dropWhile_suffix (l := t) isIdentChar).length_le
  · simp at h

theorem readLabel_suffix {s label r : Text} (h : readLabel s = .ok (label, r)) :
    r <:+ s ∧ r.length < s.length := by
  unfold readLabel at h
  split at h
  · next t =>
    match hs : scanString ('"' :: t) with
    | .error f => simp [hs, bind, Except.bind] at h
    | .ok rest =>
      simp only [hs, bind, Except.bind, Except.ok.injEq, Prod.mk.injEq] at h
      exact h.2 ▸ ⟨scanString_suffix hs, scanString_length_lt hs⟩
  · exact readIdentifier_suffix h

end JujuMigration.Source
