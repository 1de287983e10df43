import Mathlib.Data.List.Induction
import JujuMigration.Source.Position
/-! Positions. In a text cut at an offset the table of lines holds the beginnings of lines of the front, which are not
behind the offset, and then those of the back, which are; so bisection counts the line feeds of the front. Positions
grow with offsets. -/

namespace JujuMigration

/-- The number of characters behind the last line feed. -/
def Text.sinceLine (s : Text) : Nat := (s.reverse.takeWhile (· ≠ '\n')).length

namespace Position

open Text

/-- A position is in front of another if it is on an earlier line, or further left on the same one. -/
instance : LT Position where
  lt a b := a.line < b.line ∨ a.line = b.line ∧ a.column < b.column

theorem lt_iff {a b : Position} : a < b ↔ a.line < b.line ∨ a.line = b.line ∧ a.column < b.column := Iff.rfl

variable {front back s : Text} {p q : Nat}

/-! ### The table of lines -/

theorem startsBehind_append (offset : Nat) (front back : Text) :
    startsBehind offset (front ++ back) = startsBehind offset front ++ startsBehind (offset + front.length) back := by
  induction front generalizing offset with
  | nil => rfl
  | cons c front ih =>
      have hoffset : offset + (c :: front).length = offset + 1 + front.length := by
        rw [List.length_cons]
        omega
      rw [List.cons_append, startsBehind, startsBehind, ih, hoffset]
      split
      · rfl
      · rfl

theorem length_startsBehind (offset : Nat) (s : Text) : (startsBehind offset s).length = newlines s := by
  induction s generalizing offset with
  | nil => rfl
  | cons c s ih =>
      rw [startsBehind, newlines, List.count_cons]
      split
      · next hc => rw [List.length_cons, ih, newlines, hc, beq_self_eq_true, if_pos rfl]
      · next hc => rw [ih, newlines, beq_eq_false_iff_ne.2 hc, if_neg Bool.false_ne_true, Nat.add_zero]

theorem mem_startsBehind {offset start : Nat} (h : start ∈ startsBehind offset s) :
    offset < start ∧ start ≤ offset + s.length := by
  induction s generalizing offset with
  | nil => cases h
  | cons c s ih =>
      have hbehind (h : start ∈ startsBehind (offset + 1) s) : offset < start ∧ start ≤ offset + (c :: s).length := by
        obtain ⟨hlow, hhigh⟩ := ih h
        rw [List.length_cons]
        omega
      rw [startsBehind] at h
      split at h
      · rcases List.mem_cons.1 h with rfl | h
        · rw [List.length_cons]
          omega
        · exact hbehind h
      · exact hbehind h

theorem sinceLine_concat (s : Text) (c : Char) :
    sinceLine (s ++ [c]) = if c = '\n' then 0 else sinceLine s + 1 := by
  rw [sinceLine, List.reverse_append, List.reverse_singleton, List.singleton_append, List.takeWhile_cons]
  by_cases hc : c = '\n'
  · rw [if_pos hc, if_neg (by simp [hc])]
    rfl
  · rw [if_neg hc, if_pos (by simpa using hc), List.length_cons, sinceLine]

theorem sinceLine_le (s : Text) : sinceLine s ≤ s.length := by
  have hprefix := (List.takeWhile_prefix (l := s.reverse) fun c => decide (c ≠ '\n')).length_le
  rwa [List.length_reverse] at hprefix

/-- The last line that begins in a text begins as far in front of its end as there are characters behind its last line
feed. -/
theorem getLast?_starts (s : Text) : (0 :: startsBehind 0 s).getLast? = some (s.length - sinceLine s) := by
  induction s using List.reverseRecOn with
  | nil => rfl
  | append_singleton s c ih =>
      rw [startsBehind_append, sinceLine_concat, List.length_append, List.length_singleton, Nat.zero_add, startsBehind,
        startsBehind]
      by_cases hc : c = '\n'
      · rw [if_pos hc, if_pos hc, ← List.cons_append, List.getLast?_concat, Nat.sub_zero]
      · rw [if_neg hc, if_neg hc, List.append_nil, ih, Nat.add_sub_add_right]

/-! ### Bisection -/

theorem bisect_eq {table : Array Nat} {count offset low high : Nat} (hlow : low ≤ count) (hhigh : count ≤ high)
    (hbehind : ∀ i, i < high → (offset < table.getD i 0 ↔ count ≤ i)) : bisect table offset low high = count := by
  fun_induction bisect table offset low high with
  | case1 low high hlt hless ih =>
      have hcount : count ≤ (low + high) / 2 := (hbehind _ (by omega)).1 hless
      exact ih hlow hcount fun i hi => hbehind i (by omega)
  | case2 low high hlt hmore ih =>
      have hcount : ¬count ≤ (low + high) / 2 := fun hle => hmore ((hbehind _ (by omega)).2 hle)
      exact ih (by omega) hhigh hbehind
  | case3 low high hlt => omega

/-- The line of an offset is found where the table passes from the front of the text to the back. -/
theorem bisect_lineStarts (front back : Text) :
    bisect (lineStarts (front ++ back)) front.length 0 (lineStarts (front ++ back)).size = 1 + newlines front := by
  have hstarts : lineStarts (front ++ back) =
      ((0 :: startsBehind 0 front) ++ startsBehind front.length back).toArray := by
    rw [lineStarts, startsBehind_append, Nat.zero_add, List.cons_append]
  have hcount : (0 :: startsBehind 0 front).length = 1 + newlines front := by
    rw [List.length_cons, length_startsBehind, Nat.add_comm]
  have hfront : ∀ x ∈ 0 :: startsBehind 0 front, x ≤ front.length := by
    intro x hx
    rcases List.mem_cons.1 hx with rfl | hx
    · exact Nat.zero_le _
    · have := (mem_startsBehind hx).2
      omega
  rw [hstarts]
  generalize 0 :: startsBehind 0 front = starts at hcount hfront
  refine bisect_eq (Nat.zero_le _) ?_ fun i hi => ?_
  · rw [List.size_toArray, List.length_append, hcount]
    exact Nat.le_add_right _ _
  · rw [List.size_toArray, List.length_append] at hi
    rw [Array.getD_eq_getD_getElem?, List.getElem?_toArray, ← hcount]
    by_cases hi' : i < starts.length
    · rw [List.getElem?_append_left hi', List.getElem?_eq_getElem hi', Option.getD_some]
      have := hfront _ (List.getElem_mem hi')
      omega
    · have hback : i - starts.length < (startsBehind front.length back).length := by omega
      rw [List.getElem?_append_right (Nat.le_of_not_lt hi'), List.getElem?_eq_getElem hback, Option.getD_some]
      have := (mem_startsBehind (List.getElem_mem hback)).1
      omega

/-- The position of the end of a text that goes on behind it. -/
theorem ofOffset_append (front back : Text) :
    ofOffset (front ++ back) front.length = ⟨1 + newlines front, 1 + sinceLine front⟩ := by
  have hstart : (lineStarts (front ++ back)).getD (newlines front) 0 = front.length - sinceLine front := by
    have hlength : (startsBehind 0 front).length = newlines front := length_startsBehind 0 front
    have hlast := getLast?_starts front
    rw [List.getLast?_eq_getElem?, List.length_cons, Nat.add_sub_cancel, hlength] at hlast
    rw [lineStarts, startsBehind_append, Array.getD_eq_getD_getElem?, List.getElem?_toArray, ← List.cons_append,
      List.getElem?_append_left (by rw [List.length_cons, hlength]; exact Nat.lt_succ_self _), hlast, Option.getD_some]
  have hsince := sinceLine_le front
  rw [ofOffset, bisect_lineStarts, Nat.add_sub_cancel_left, hstart, Nat.sub_sub_self hsince,
    Nat.add_comm 1 (sinceLine _)]

theorem ofOffset_eq (h : p ≤ s.length) : ofOffset s p = ⟨1 + newlines (s.take p), 1 + sinceLine (s.take p)⟩ := by
  have hposition := ofOffset_append (s.take p) (s.drop p)
  rwa [List.take_append_drop, List.length_take_of_le h] at hposition

theorem ofRest_append (front back : Text) :
    ofRest (front ++ back) back = ⟨1 + newlines front, 1 + sinceLine front⟩ := by
  rw [ofRest, List.length_append, Nat.add_sub_cancel, ofOffset_append]

/-! ### Order -/

theorem sinceLine_append_of_not_mem (front : Text) {mid : Text} (h : '\n' ∉ mid) :
    sinceLine (front ++ mid) = sinceLine front + mid.length := by
  have hall : ∀ c ∈ mid.reverse, decide (c ≠ '\n') = true := by
    intro c hc
    refine decide_eq_true ?_
    rintro rfl
    exact h (List.mem_reverse.1 hc)
  rw [sinceLine, List.reverse_append, List.takeWhile_append_of_pos hall, List.length_append, List.length_reverse,
    Nat.add_comm, sinceLine]

theorem ofOffset_lt (hpq : p < q) (hq : q ≤ s.length) : ofOffset s p < ofOffset s q := by
  obtain ⟨mid, hmid⟩ : s.take p <+: s.take q := List.take_prefix_take_left (Nat.le_of_lt hpq)
  have hlength : 0 < mid.length := by
    have := congrArg List.length hmid
    rw [List.length_append, List.length_take_of_le (by omega), List.length_take_of_le hq] at this
    omega
  rw [ofOffset_eq (by omega), ofOffset_eq hq, ← hmid, lt_iff, newlines_append]
  by_cases hn : '\n' ∈ mid
  · have hcount : 0 < newlines mid := List.count_pos_iff.2 hn
    left
    dsimp only
    omega
  · have hcount : newlines mid = 0 := List.count_eq_zero.2 hn
    right
    rw [sinceLine_append_of_not_mem _ hn]
    dsimp only
    omega

theorem ne_of_lt {a b : Position} (h : a < b) : a ≠ b := by
  rintro rfl
  rcases lt_iff.1 h with h | ⟨-, h⟩
  · exact Nat.lt_irrefl _ h
  · exact Nat.lt_irrefl _ h

end Position
end JujuMigration
