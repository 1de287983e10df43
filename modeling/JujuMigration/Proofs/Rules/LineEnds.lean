import JujuMigration.Proofs.Rules.Reference
import JujuMigration.Proofs.Rules.VersionConstraint
import JujuMigration.Proofs.Text.LineEnds
import JujuMigration.Upgrade.Block
/-! What the rules read of an expression and line ends. A reference, a constraint and a description say the same with a
carriage return in front of every line feed, since a carriage return is a blank as a line feed is, and is part of no
word. -/

namespace JujuMigration

open Text

/-! ### References -/

namespace Reference

theorem isModelName_withReturns (e : Text) : isModelName (withReturns e) = isModelName e := by
  rw [isModelName, isModelName, contains_withReturns (by decide) (by decide), isSuffixOf_withReturns (by decide)]

theorem isVariable_withReturns (e : Text) : isVariable (withReturns e) = isVariable e := by
  rw [isVariable, isVariable, dropWhile_withReturns (by decide), isPrefixOf_withReturns (by decide)]

theorem kind_withReturns (e : Text) : kind (withReturns e) = kind e := by
  rw [kind, kind, isModelName_withReturns, isVariable_withReturns]

theorem referent_withReturns (e : Text) : referent (withReturns e) = referent e := by
  rw [referent, referent, contains_withReturns (by decide) (by decide)]

/-- A traversal stands on one line, so it has no line end to get a carriage return. -/
theorem isTraversal_withReturns (s : Text) : isTraversal (withReturns s) = isTraversal s := by
  by_cases hs : '\n' ∈ s
  · have hno (t : Text) (ht : '\n' ∈ t) : isTraversal t = false :=
      Bool.eq_false_iff.2 fun h => newline_not_mem_of_isTraversal h ht
    rw [hno s hs, hno _ (newline_mem_withReturns.2 hs)]
  · rw [withReturns_of_not_mem hs]

theorem upgraded?_withReturns (e : Text) : upgraded? (withReturns e) = (upgraded? e).map withReturns := by
  unfold upgraded?
  rw [trim_withReturns (by decide)]
  generalize trim CharClass.isBlank e = t
  dsimp only
  rw [isSuffixOf_withReturns (by decide), isTraversal_withReturns]
  split
  · next h =>
      have hline : '\n' ∉ t := newline_not_mem_of_isTraversal (Bool.and_eq_true_iff.1 h).2
      have hupgraded : '\n' ∉ t.take (t.length - nameEnding.length) ++ uuidEnding := by
        rw [List.mem_append, not_or]
        exact ⟨fun hm => hline (List.mem_of_mem_take hm), by decide⟩
      rw [withReturns_of_not_mem hline, Option.map_some, withReturns_of_not_mem hupgraded]
  · rfl

end Reference

/-! ### Version constraints -/

namespace VersionConstraint

theorem behind?_withReturns {p : Text} (hp : IsOneLine p) (s : Text) :
    behind? p (withReturns s) = (behind? p s).map withReturns := by
  cases h : behind? p s with
  | some r =>
      rw [behind?_eq_some] at h
      rw [Option.map_some, behind?_eq_some]
      exact (withReturns_eq_append hp).2 ⟨r, h, rfl⟩
  | none =>
      cases h' : behind? p (withReturns s) with
      | none => rfl
      | some t =>
          obtain ⟨r, hr, -⟩ := (withReturns_eq_append hp).1 (behind?_eq_some.1 h')
          rw [behind?_eq_some.2 hr] at h
          cases h

theorem skipBlanks_withReturns (s : Text) : skipBlanks (withReturns s) = withReturns (skipBlanks s) :=
  dropWhile_withReturns (by decide) s

theorem skipOperator_withReturns (s : Text) : skipOperator (withReturns s) = withReturns (skipOperator s) := by
  have hfind {ops : List Text} (hops : ∀ op ∈ ops, IsOneLine op) :
      ops.findSome? (behind? · (withReturns s)) = (ops.findSome? (behind? · s)).map withReturns := by
    induction ops with
    | nil => rfl
    | cons op ops ih =>
        obtain ⟨hop, hops⟩ := List.forall_mem_cons.1 hops
        rw [List.findSome?_cons, List.findSome?_cons, behind?_withReturns hop, ih hops]
        cases behind? op s <;> rfl
  rw [skipOperator, skipOperator, hfind (by decide)]
  cases operators.findSome? (behind? · s) <;> rfl

/-- What is found one thing behind the other is found so in the text with carriage returns. -/
theorem bind_withReturns {x x' : Option Text} (hx : x' = x.map withReturns) {k k' : Text → Option Text}
    (hk : ∀ t, k' (withReturns t) = (k t).map withReturns) : x'.bind k' = (x.bind k).map withReturns := by
  rw [hx, Option.bind_map, Option.map_bind]
  exact Option.bind_congr fun t _ => hk t

theorem afterZero?_withReturns (s : Text) : afterZero? (withReturns s) = (afterZero? s).map withReturns := by
  unfold afterZero?
  simp only [Option.bind_eq_bind]
  refine bind_withReturns (behind?_withReturns (by decide) s) fun s => ?_
  rw [skipBlanks_withReturns]
  refine bind_withReturns (behind?_withReturns (by decide) _) fun s => ?_
  rw [skipBlanks_withReturns]
  refine bind_withReturns (behind?_withReturns (by decide) _) fun s => ?_
  rw [skipBlanks_withReturns, skipOperator_withReturns, skipBlanks_withReturns]
  refine bind_withReturns (behind?_withReturns (by decide) _) fun s => ?_
  have hquote := List.head?_dropWhile_not (· ≠ '"') s
  rw [dropWhile_withReturns rfl]
  cases hd : s.dropWhile (· ≠ '"') with
  | nil => rfl
  | cons c rest =>
      rw [hd] at hquote
      obtain rfl : c = '"' := by simpa using hquote
      rw [withReturns_cons (by decide)]
      rfl

/-- The pieces of a piece with carriage returns. -/
def Piece.withReturns : Piece → List Piece
  | .char c => (Text.withReturns [c]).map .char
  | .zero t => [.zero (Text.withReturns t)]

theorem pieces_withReturns (s : Text) : pieces (withReturns s) = (pieces s).flatMap Piece.withReturns := by
  induction hn : s.length using Nat.strongRecOn generalizing s with
  | ind n ih =>
      subst hn
      cases s with
      | nil => rfl
      | cons c r =>
          have hzero := afterZero?_withReturns (c :: r)
          cases hz : afterZero? (c :: r) with
          | none =>
              rw [hz, Option.map_none] at hzero
              have hrest := ih r.length (Nat.lt_succ_self _) r rfl
              rw [pieces_of_none hz, List.flatMap_cons, ← hrest]
              by_cases hline : c = '\n'
              · subst hline
                rw [withReturns_line, pieces_of_none (afterZero?_of_ne (by decide) _),
                  pieces_of_none (afterZero?_of_ne (by decide) _)]
                rfl
              · rw [withReturns_cons hline] at hzero ⊢
                rw [pieces_of_none hzero, Piece.withReturns, withReturns_cons hline]
                rfl
          | some rest =>
              obtain ⟨p, body, hp, hs, -⟩ := opening_of_afterZero? hz
              have heq : c :: r = p ++ (body ++ ['"']) ++ rest := by rw [hs]; simp
              have hne : p ++ (body ++ ['"']) ≠ [] := by simp
              have hless : rest.length < (c :: r).length := by
                rw [heq, List.length_append]
                have := List.length_pos_iff.2 hne
                omega
              rw [hz, Option.map_some] at hzero
              generalize p ++ (body ++ ['"']) = t at heq hne
              rw [heq] at hz hzero ⊢
              rw [withReturns_append] at hzero ⊢
              have hne' : withReturns t ≠ [] := by rwa [Ne, withReturns_eq_iff (by simp)]
              rw [pieces_of_some hne hz, pieces_of_some hne' hzero, ih _ hless _ rfl]
              rfl

theorem occursIn_withReturns (s : Text) : occursIn (withReturns s) = occursIn s := by
  rw [Bool.eq_iff_iff, occursIn_iff, occursIn_iff, pieces_withReturns]
  constructor
  · rintro ⟨t, ht⟩
    obtain ⟨piece, hpiece, hm⟩ := List.mem_flatMap.1 ht
    cases piece with
    | char c => simp [Piece.withReturns] at hm
    | zero u => exact ⟨u, hpiece⟩
  · rintro ⟨t, ht⟩
    exact ⟨withReturns t, List.mem_flatMap.2 ⟨.zero t, ht, List.mem_singleton.2 rfl⟩⟩

theorem replaceZero_withReturns (s : Text) : replaceZero (withReturns s) = withReturns (replaceZero s) := by
  rw [replaceZero, replaceZero, pieces_withReturns]
  induction pieces s with
  | nil => rfl
  | cons piece ps ih =>
      rw [List.flatMap_cons, List.flatMap_append, List.flatMap_cons, withReturns_append, ih]
      cases piece with
      | char c =>
          rw [Piece.withReturns, List.flatMap_map]
          exact congrArg (· ++ _) (List.flatMap_singleton' _)
      | zero t => rfl

end VersionConstraint

/-! ### Separators and descriptions -/

theorem realignSeparator_withReturns (sep : Text) (m n : Int) :
    realignSeparator (withReturns sep) m n = withReturns (realignSeparator sep m n) := by
  have hspaces : '\n' ∉ sep.takeWhile (· = ' ') := fun h => by simpa using List.mem_takeWhile_imp h
  unfold realignSeparator
  rw [takeWhile_withReturns rfl, dropWhile_withReturns rfl, withReturns_of_not_mem hspaces]
  dsimp only
  split
  · rfl
  · rw [withReturns_append, withReturns_of_not_mem (fun h => absurd (List.eq_of_mem_replicate h) (by decide))]

theorem plainDescription_withReturns (e : Text) :
    Body.plainDescription (withReturns e) = withReturns (Body.plainDescription e) := by
  unfold Body.plainDescription
  dsimp only
  rw [trim_withReturns (by decide), trim_withReturns (by decide), trim_withReturns (by decide)]

theorem toLower_ne_line {c : Char} (h : c ≠ '\n') : c.toLower ≠ '\n' := by
  unfold Char.toLower
  split
  · next hc =>
      intro he
      have hupper : 65 ≤ c.val.toNat ∧ c.val.toNat ≤ 90 :=
        ⟨UInt32.le_iff_toNat_le.1 hc.1, UInt32.le_iff_toNat_le.1 hc.2⟩
      have hsum : (c.val + 32).toNat = 10 := congrArg (fun d : Char => d.val.toNat) he
      rw [UInt32.toNat_add, show (32 : UInt32).toNat = 32 from rfl] at hsum
      omega
  · exact h

theorem map_toLower_withReturns (t : Text) : (withReturns t).map Char.toLower = withReturns (t.map Char.toLower) := by
  induction t with
  | nil => rfl
  | cons c t ih =>
      by_cases hline : c = '\n'
      · subst hline
        rw [withReturns_line, List.map_cons, List.map_cons, ih]
        rfl
      · rw [withReturns_cons hline, List.map_cons, List.map_cons, withReturns_cons (toLower_ne_line hline), ih]

end JujuMigration
