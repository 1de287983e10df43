import JujuMigration.Source.Comment
import JujuMigration.Source.Label
import JujuMigration.Text.WordClass
/-! Heredocs: `<<` or `<<-`, a marker at the end of the line, then lines up to the first that holds nothing
but the marker. -/

namespace JujuMigration.Source

/-- The marker and the text from the line after it on. -/
def heredocMarker? (s : Text) : Option (Text × Text) :=
  match s with
  | '<' :: '<' :: r =>
    let r := if r.head? = some '-' then r.tail else r
    match readIdentifier r with
    | .error _ => none
    | .ok (marker, rest) =>
      match skipSpaces rest with
      | '\n' :: body => some (marker, body)
      | '\r' :: '\n' :: body => some (marker, body)
      | _ => none
  | _ => none

def opensHeredoc (s : Text) : Bool := (heredocMarker? s).isSome

/-- The text from behind the closing marker on; `atStart` tells whether a line begins here. -/
def afterMarker? (marker : Text) : Bool → Text → Option Text
  | _, [] => none
  | atStart, c :: r =>
    let line := (c :: r).takeWhile (· ≠ '\n')
    if atStart = true ∧ Text.trim CharClass.isBlank line = marker then
      some ((c :: r).drop (Text.trimEnd CharClass.isBlank line).length)
    else afterMarker? marker (c = '\n') r

def scanHeredoc (s : Text) : Except Fault Text :=
  match heredocMarker? s with
  | none => .error ⟨s, .malformedHeredoc⟩
  | some (marker, body) =>
    match afterMarker? marker true body with
    | none => .error ⟨s, .unclosedHeredoc marker⟩
    | some r => .ok r

theorem afterMarker?_suffix {marker s r : Text} {atStart : Bool} (h : afterMarker? marker atStart s = some r) :
    r <:+ s := by
  fun_induction afterMarker? marker atStart s with
  | case1 => simp at h
  | case2 => obtain rfl := Option.some.inj h; exact List.drop_suffix _ _
  | case3 _ c t _ _ ih => exact (ih h).trans (List.suffix_cons _ _)

theorem heredocMarker?_suffix {s marker body : Text} (h : heredocMarker? s = some (marker, body)) :
    body <:+ s ∧ body.length < s.length := by
  unfold heredocMarker? at h
  split at h
  · next r =>
    have hr : (if r.head? = some '-' then r.tail else r) <:+ r := by
      split
      · exact List.tail_suffix r
      · exact List.suffix_refl r
    generalize (if r.head? = some '-' then r.tail else r) = t at h hr
    have hs : t <:+ '<' :: '<' :: r := hr.trans ⟨['<', '<'], rfl⟩
    simp only at h
    split at h
    · simp at h
    · next marker' rest hm =>
      have hrest := (readIdentifier_suffix hm).1
      have hsp := (skipSpaces_suffix rest).trans (hrest.trans hs)
      split at h
      · next b hb =>
        obtain ⟨rfl, rfl⟩ := Prod.mk.inj (Option.some.inj h)
        rw [hb] at hsp
        exact ⟨(List.suffix_cons _ _).trans hsp, hsp.length_le⟩
      · next b hb =>
        obtain ⟨rfl, rfl⟩ := Prod.mk.inj (Option.some.inj h)
        rw [hb] at hsp
        exact ⟨(List.suffix_cons _ _).trans ((List.suffix_cons _ _).trans hsp), Nat.lt_of_succ_lt hsp.length_le⟩
      · simp at h
  · simp at h

theorem scanHeredoc_suffix {s r : Text} (h : scanHeredoc s = .ok r) : r <:+ s ∧ r.length < s.length := by
  unfold scanHeredoc at h
  split at h
  · simp at h
  · next marker body hm =>
    split at h
    · simp at h
    · next t ht =>
      obtain rfl := Except.ok.inj h
      have h1 := afterMarker?_suffix ht
      obtain ⟨h2, h3⟩ := heredocMarker?_suffix hm
      exact ⟨h1.trans h2, Nat.lt_of_le_of_lt h1.length_le h3⟩

end JujuMigration.Source
