import JujuMigration.Proofs.Rules.Reference
/-! Traversals as a name with segments behind it. The scan of a text ends well if and only if the text is such a name
with its segments, and then it is so in one way only; what is rewritten in a reference is its last segment. -/

namespace JujuMigration.Reference

open Text

/-- The characters of a name behind its first. -/
def continuesName (c : Char) : Bool := CharClass.isWord c || c == '-'

def IsName : Text → Prop
  | [] => False
  | c :: t => opensName c = true ∧ ∀ d ∈ t, continuesName d = true

instance : DecidablePred IsName
  | [] => inferInstanceAs (Decidable False)
  | c :: t => decidable_of_iff (opensName c = true ∧ t.all continuesName = true) (and_congr_right' List.all_eq_true)

/-- One step from a value to a part of it: `.name`, `.0` or `[key]`. -/
inductive Segment
  | field (name : Text)
  | element (digits : Text)
  | index (key : Text)
  deriving DecidableEq, Repr

namespace Segment

def text : Segment → Text
  | field name => '.' :: name
  | element digits => '.' :: digits
  | index key => '[' :: (key ++ [']'])

def WellFormed : Segment → Prop
  | field name => IsName name
  | element digits => digits ≠ [] ∧ ∀ c ∈ digits, CharClass.isDecimal c = true
  | index key => key ≠ [] ∧ ∀ c ∈ key, isIndexChar c = true

instance : DecidablePred WellFormed
  | field name => inferInstanceAs (Decidable (IsName name))
  | element digits =>
    decidable_of_iff (digits ≠ [] ∧ digits.all CharClass.isDecimal = true) (and_congr_right' List.all_eq_true)
  | index key => decidable_of_iff (key ≠ [] ∧ key.all isIndexChar = true) (and_congr_right' List.all_eq_true)

end Segment

/-- A root and the segments behind it. -/
@[ext] structure Traversal where
  root : Text
  segments : List Segment
  root_isName : IsName root
  segments_wellFormed : ∀ x ∈ segments, x.WellFormed

namespace Traversal

def text (t : Traversal) : Text := t.root ++ t.segments.flatMap Segment.text

/-- The traversal ends in that field. -/
def EndsIn (t : Traversal) (name : Text) : Prop := t.segments.getLast? = some (.field name)

/-- The traversal with another segment in place of its last one. -/
def withLast (t : Traversal) (x : Segment) (hx : x.WellFormed) : Traversal where
  root := t.root
  segments := t.segments.dropLast ++ [x]
  root_isName := t.root_isName
  segments_wellFormed := by
    intro y hy
    rcases List.mem_append.1 hy with hy | hy
    · exact t.segments_wellFormed y (List.dropLast_subset t.segments hy)
    · rwa [List.mem_singleton.1 hy]

theorem text_withLast (t : Traversal) (x : Segment) (hx : x.WellFormed) :
    (t.withLast x hx).text = t.root ++ t.segments.dropLast.flatMap Segment.text ++ x.text := by
  rw [text, withLast, List.flatMap_append, List.flatMap_singleton, List.append_assoc]

theorem EndsIn.text {t : Traversal} {name : Text} (h : t.EndsIn name) :
    t.text = t.root ++ t.segments.dropLast.flatMap Segment.text ++ '.' :: name := by
  have hsegments : t.segments.dropLast ++ [.field name] = t.segments := List.dropLast_append_getLast? _ h
  calc t.text
    _ = t.root ++ (t.segments.dropLast ++ [Segment.field name]).flatMap Segment.text := by
        rw [hsegments, Traversal.text]
    _ = t.root ++ (t.segments.dropLast.flatMap Segment.text ++ (Segment.field name).text) := by
        rw [List.flatMap_append, List.flatMap_singleton]
    _ = t.root ++ t.segments.dropLast.flatMap Segment.text ++ '.' :: name := (List.append_assoc ..).symm

end Traversal

/-! ### The scan -/

/-- Segments stand one behind the other. -/
def IsChain (s : Text) : Prop :=
  ∃ segments : List Segment, (∀ x ∈ segments, x.WellFormed) ∧ s = segments.flatMap Segment.text

/-- Characters of a class, and segments behind them. -/
def RunsOn (p : Char → Bool) (s : Text) : Prop :=
  ∃ front rest, (∀ c ∈ front, p c = true) ∧ IsChain rest ∧ s = front ++ rest

/-- The rest of an index, and segments behind it. -/
def Closes (s : Text) : Prop :=
  ∃ key rest, (∀ c ∈ key, isIndexChar c = true) ∧ IsChain rest ∧ s = key ++ ']' :: rest

/-- What makes a traversal of the text that has led to the stage. -/
def Stage.Completes : Stage → Text → Prop
  | .start, s => ∃ c t, s = c :: t ∧ opensName c = true ∧ RunsOn continuesName t
  | .name, s => RunsOn continuesName s
  | .dot, s =>
    (∃ c t, s = c :: t ∧ opensName c = true ∧ RunsOn continuesName t) ∨
      ∃ c t, s = c :: t ∧ CharClass.isDecimal c = true ∧ RunsOn CharClass.isDecimal t
  | .digits, s => RunsOn CharClass.isDecimal s
  | .bracket, s => ∃ c t, s = c :: t ∧ isIndexChar c = true ∧ Closes t
  | .index, s => Closes s
  | .closed, s => IsChain s

theorem isChain_nil : IsChain [] := ⟨[], by simp, rfl⟩

theorem IsChain.cons {x : Segment} {s : Text} (hx : x.WellFormed) (h : IsChain s) : IsChain (x.text ++ s) := by
  obtain ⟨segments, hs, rfl⟩ := h
  exact ⟨x :: segments, List.forall_mem_cons.2 ⟨hx, hs⟩, rfl⟩

/-- A chain that goes on does so with a dot or a bracket. -/
theorem isChain_cons {c : Char} {s : Text} :
    IsChain (c :: s) ↔ ∃ stage, Stage.next? c = some stage ∧ stage.Completes s := by
  constructor
  · rintro ⟨segments, hs, h⟩
    cases segments with
    | nil => cases h
    | cons x segments =>
        obtain ⟨hx, hs⟩ := List.forall_mem_cons.1 hs
        have hrest : IsChain (segments.flatMap Segment.text) := ⟨segments, hs, rfl⟩
        cases x with
        | field name =>
            obtain ⟨rfl, rfl⟩ := List.cons.inj h
            cases name with
            | nil => exact hx.elim
            | cons d name => exact ⟨.dot, rfl, .inl ⟨d, _, rfl, hx.1, name, _, hx.2, hrest, rfl⟩⟩
        | element digits =>
            obtain ⟨rfl, rfl⟩ := List.cons.inj h
            obtain ⟨d, digits, rfl⟩ := List.exists_cons_of_ne_nil hx.1
            obtain ⟨hd, hdigits⟩ := List.forall_mem_cons.1 hx.2
            exact ⟨.dot, rfl, .inr ⟨d, _, rfl, hd, digits, _, hdigits, hrest, rfl⟩⟩
        | index key =>
            obtain ⟨rfl, rfl⟩ := List.cons.inj h
            obtain ⟨d, key, rfl⟩ := List.exists_cons_of_ne_nil hx.1
            obtain ⟨hd, hkey⟩ := List.forall_mem_cons.1 hx.2
            refine ⟨.bracket, rfl, d, key ++ ']' :: segments.flatMap Segment.text, ?_, hd, key, _, hkey, hrest, rfl⟩
            change d :: key ++ [']'] ++ segments.flatMap Segment.text = _
            simp
  · rintro ⟨stage, hnext, h⟩
    unfold Stage.next? at hnext
    split at hnext
    · next hc =>
        subst hc
        obtain rfl := Option.some.inj hnext
        rcases h with ⟨d, _, rfl, hd, name, rest, hname, hrest, rfl⟩ |
          ⟨d, _, rfl, hd, digits, rest, hdigits, hrest, rfl⟩
        · exact IsChain.cons (x := .field (d :: name)) ⟨hd, hname⟩ hrest
        · have hall : ∀ c ∈ d :: digits, CharClass.isDecimal c = true := List.forall_mem_cons.2 ⟨hd, hdigits⟩
          exact IsChain.cons (x := .element (d :: digits)) ⟨List.cons_ne_nil d digits, hall⟩ hrest
    · split at hnext
      · next hc =>
          subst hc
          obtain rfl := Option.some.inj hnext
          obtain ⟨d, _, rfl, hd, key, rest, hkey, hrest, rfl⟩ := h
          have hall : ∀ c ∈ d :: key, isIndexChar c = true := List.forall_mem_cons.2 ⟨hd, hkey⟩
          have hchain := IsChain.cons (x := .index (d :: key)) ⟨List.cons_ne_nil d key, hall⟩ hrest
          simpa [Segment.text] using hchain
      · cases hnext

theorem next?_eq_none {c : Char} {p : Char → Bool} (hdot : p '.' = false) (hbracket : p '[' = false) (hc : p c = true) :
    Stage.next? c = none := by
  have h1 : c ≠ '.' := fun h => by rw [h, hdot] at hc; cases hc
  have h2 : c ≠ '[' := fun h => by rw [h, hbracket] at hc; cases hc
  rw [Stage.next?, if_neg h1, if_neg h2]

/-- Characters of a class go on, or a segment begins. -/
theorem runsOn_cons {p : Char → Bool} (hdot : p '.' = false) (hbracket : p '[' = false) {c : Char} {s : Text} :
    RunsOn p (c :: s) ↔ if p c = true then RunsOn p s else IsChain (c :: s) := by
  constructor
  · rintro ⟨front, rest, hfront, hrest, h⟩
    cases front with
    | nil =>
        rw [List.nil_append] at h
        subst h
        have hc : ¬p c = true := by
          intro hc
          obtain ⟨stage, hnext, -⟩ := isChain_cons.1 hrest
          rw [next?_eq_none hdot hbracket hc] at hnext
          cases hnext
        rwa [if_neg hc]
    | cons d front =>
        obtain ⟨rfl, rfl⟩ := List.cons.inj h
        obtain ⟨hd, hfront⟩ := List.forall_mem_cons.1 hfront
        rw [if_pos hd]
        exact ⟨front, rest, hfront, hrest, rfl⟩
  · intro h
    split at h
    · next hc =>
        obtain ⟨front, rest, hfront, hrest, rfl⟩ := h
        exact ⟨c :: front, rest, List.forall_mem_cons.2 ⟨hc, hfront⟩, hrest, rfl⟩
    · exact ⟨[], c :: s, by simp, h, rfl⟩

theorem closes_cons {c : Char} {s : Text} :
    Closes (c :: s) ↔ if c = ']' then IsChain s else isIndexChar c = true ∧ Closes s := by
  constructor
  · rintro ⟨key, rest, hkey, hrest, h⟩
    cases key with
    | nil =>
        obtain ⟨rfl, rfl⟩ := List.cons.inj h
        rwa [if_pos rfl]
    | cons d key =>
        obtain ⟨rfl, rfl⟩ := List.cons.inj h
        obtain ⟨hd, hkey⟩ := List.forall_mem_cons.1 hkey
        have hne : c ≠ ']' := fun h => by rw [h] at hd; cases hd
        rw [if_neg hne]
        exact ⟨hd, key, rest, hkey, hrest, rfl⟩
  · intro h
    split at h
    · next hc => exact ⟨[], s, by simp, h, by rw [hc]; rfl⟩
    · obtain ⟨hc, key, rest, hkey, hrest, rfl⟩ := h
      exact ⟨c :: key, rest, List.forall_mem_cons.2 ⟨hc, hkey⟩, hrest, rfl⟩

/-- One step of the scan takes one character of what completes the traversal. -/
theorem completes_cons {stage : Stage} {c : Char} {s : Text} :
    stage.Completes (c :: s) ↔ ∃ next, stage.step c = some next ∧ next.Completes s := by
  -- Neither class has the characters that begin a segment, so it never has to be guessed where a run ends.
  have hname : continuesName '.' = false ∧ continuesName '[' = false := by decide
  have hdigits : CharClass.isDecimal '.' = false ∧ CharClass.isDecimal '[' = false := by decide
  cases stage with
  | start => by_cases hc : opensName c = true <;> simp [Stage.Completes, Stage.step, hc]
  | name =>
      rw [Stage.Completes, runsOn_cons hname.1 hname.2, isChain_cons, continuesName, Stage.step]
      split <;> simp [Stage.Completes]
  | dot =>
      by_cases hc : opensName c = true
      · simp [Stage.Completes, Stage.step, hc, isDecimal_of_opensName hc]
      · by_cases hd : CharClass.isDecimal c = true <;> simp [Stage.Completes, Stage.step, hc, hd]
  | digits =>
      rw [Stage.Completes, runsOn_cons hdigits.1 hdigits.2, isChain_cons, Stage.step]
      split <;> simp [Stage.Completes]
  | bracket => by_cases hc : isIndexChar c = true <;> simp [Stage.Completes, Stage.step, hc]
  | index =>
      rw [Stage.Completes, closes_cons, Stage.step]
      by_cases hc : c = ']'
      · simp [Stage.Completes, hc]
      · by_cases hi : isIndexChar c = true <;> simp [Stage.Completes, hc, hi]
  | closed => exact isChain_cons

theorem completes_nil {stage : Stage} : stage.Completes [] ↔ stage.isComplete = true := by
  have hrun (p : Char → Bool) : RunsOn p [] := ⟨[], [], by simp, isChain_nil, rfl⟩
  cases stage with
  | name | digits => exact iff_of_true (hrun _) rfl
  | closed => exact iff_of_true isChain_nil rfl
  | start | dot | bracket => simp [Stage.Completes, Stage.isComplete]
  | index => simp [Stage.Completes, Closes, Stage.isComplete]

/-- The scan ends well from a stage on if and only if what it reads completes the traversal. -/
theorem foldlM_step_iff {stage : Stage} {s : Text} :
    (s.foldlM Stage.step stage).any Stage.isComplete = true ↔ stage.Completes s := by
  induction s generalizing stage with
  | nil => exact completes_nil.symm
  | cons c s ih =>
      rw [completes_cons, List.foldlM_cons]
      cases stage.step c with
      | none => simp
      | some next => simpa using ih

theorem isTraversal_iff {s : Text} : isTraversal s = true ↔ ∃ t : Traversal, t.text = s := by
  rw [isTraversal, foldlM_step_iff]
  constructor
  · rintro ⟨c, _, rfl, hc, name, _, hname, ⟨segments, hsegments, rfl⟩, rfl⟩
    exact ⟨⟨c :: name, segments, ⟨hc, hname⟩, hsegments⟩, rfl⟩
  · rintro ⟨⟨root, segments, hroot, hsegments⟩, rfl⟩
    cases root with
    | nil => exact hroot.elim
    | cons c name => exact ⟨c, _, rfl, hroot.1, name, _, hroot.2, ⟨segments, hsegments, rfl⟩, rfl⟩

/-! ### The segments of a text -/

theorem IsChain.head? {s : Text} (h : IsChain s) {p : Char → Bool} (hdot : p '.' = false) (hbracket : p '[' = false) :
    s.head?.any p = false := by
  cases s with
  | nil => rfl
  | cons c s =>
      obtain ⟨stage, hnext, -⟩ := isChain_cons.1 h
      refine Bool.eq_false_iff.2 fun hc => ?_
      rw [next?_eq_none hdot hbracket hc] at hnext
      cases hnext

/-- Two texts are cut alike where characters of a class end. -/
theorem cut_unique {p : Char → Bool} {a b s t : Text} (ha : ∀ c ∈ a, p c = true) (hb : ∀ c ∈ b, p c = true)
    (hs : s.head?.any p = false) (ht : t.head?.any p = false) (h : a ++ s = b ++ t) : a = b ∧ s = t := by
  have hfront {a s : Text} (ha : ∀ c ∈ a, p c = true) (hs : s.head?.any p = false) : (a ++ s).takeWhile p = a := by
    rw [List.takeWhile_append_of_pos ha]
    cases s with
    | nil => simp
    | cons c s =>
        have hc : p c = false := hs
        simp [hc]
  obtain rfl : a = b :=
    calc a
      _ = (a ++ s).takeWhile p := (hfront ha hs).symm
      _ = (b ++ t).takeWhile p := by rw [h]
      _ = b := hfront hb ht
  exact ⟨rfl, List.append_cancel_left h⟩

theorem IsName.cut_unique {a b s t : Text} (ha : IsName a) (hb : IsName b) (hs : IsChain s) (ht : IsChain t)
    (h : a ++ s = b ++ t) : a = b ∧ s = t := by
  have hp : continuesName '.' = false ∧ continuesName '[' = false := by decide
  cases a with
  | nil => exact ha.elim
  | cons c a =>
      cases b with
      | nil => exact hb.elim
      | cons d b =>
          obtain ⟨rfl, hbehind⟩ := List.cons.inj h
          obtain ⟨rfl, rfl⟩ := Reference.cut_unique ha.2 hb.2 (hs.head? hp.1 hp.2) (ht.head? hp.1 hp.2) hbehind
          exact ⟨rfl, rfl⟩

theorem field_ne_element {name digits s t : Text} (hn : IsName name)
    (hd : digits ≠ [] ∧ ∀ c ∈ digits, CharClass.isDecimal c = true) : name ++ s ≠ digits ++ t := by
  intro h
  obtain ⟨d, digits, rfl⟩ := List.exists_cons_of_ne_nil hd.1
  cases name with
  | nil => exact hn
  | cons c name =>
      obtain ⟨rfl, -⟩ := List.cons.inj h
      have hdecimal := hd.2 c List.mem_cons_self
      rw [isDecimal_of_opensName hn.1] at hdecimal
      cases hdecimal

/-- The first segment of a chain can be told from what follows. -/
theorem Segment.cut_unique {x y : Segment} {s t : Text} (hx : x.WellFormed) (hy : y.WellFormed) (hs : IsChain s)
    (ht : IsChain t) (h : x.text ++ s = y.text ++ t) : x = y ∧ s = t := by
  -- A bracket tells an index from the others, and behind a dot the first character tells a name from digits.
  cases x with
  | field name =>
      cases y with
      | field other =>
          obtain ⟨rfl, rfl⟩ := IsName.cut_unique hx hy hs ht (List.cons.inj h).2
          exact ⟨rfl, rfl⟩
      | element => exact absurd (List.cons.inj h).2 (field_ne_element hx hy)
      | index => exact absurd (List.cons.inj h).1 (by decide)
  | element digits =>
      cases y with
      | field => exact absurd (List.cons.inj h).2.symm (field_ne_element hy hx)
      | element other =>
          have hp : CharClass.isDecimal '.' = false ∧ CharClass.isDecimal '[' = false := by decide
          obtain ⟨rfl, rfl⟩ :=
            Reference.cut_unique hx.2 hy.2 (hs.head? hp.1 hp.2) (ht.head? hp.1 hp.2) (List.cons.inj h).2
          exact ⟨rfl, rfl⟩
      | index => exact absurd (List.cons.inj h).1 (by decide)
  | index key =>
      cases y with
      | field => exact absurd (List.cons.inj h).1 (by decide)
      | element => exact absurd (List.cons.inj h).1 (by decide)
      | index other =>
          have hkeys : key ++ ']' :: s = other ++ ']' :: t := by simpa [text] using h
          obtain ⟨rfl, hrest⟩ := Reference.cut_unique hx.2 hy.2 rfl rfl hkeys
          exact ⟨rfl, (List.cons.inj hrest).2⟩

theorem segments_unique {xs ys : List Segment} (hxs : ∀ x ∈ xs, x.WellFormed) (hys : ∀ y ∈ ys, y.WellFormed)
    (h : xs.flatMap Segment.text = ys.flatMap Segment.text) : xs = ys := by
  have hne (x : Segment) (s : Text) : [] ≠ x.text ++ s := by cases x <;> simp [Segment.text]
  induction xs generalizing ys with
  | nil =>
      cases ys with
      | nil => rfl
      | cons y ys => exact absurd h (hne y _)
  | cons x xs ih =>
      cases ys with
      | nil => exact absurd h.symm (hne x _)
      | cons y ys =>
          obtain ⟨hx, hxs⟩ := List.forall_mem_cons.1 hxs
          obtain ⟨hy, hys⟩ := List.forall_mem_cons.1 hys
          rw [List.flatMap_cons, List.flatMap_cons] at h
          obtain ⟨hxy, hrest⟩ := Segment.cut_unique hx hy ⟨xs, hxs, rfl⟩ ⟨ys, hys, rfl⟩ h
          rw [hxy, ih hxs hys hrest]

namespace Traversal

/-- A text is a traversal in one way. -/
theorem text_injective {t u : Traversal} (h : t.text = u.text) : t = u := by
  obtain ⟨hroot, hsegments⟩ := IsName.cut_unique t.root_isName u.root_isName
    ⟨t.segments, t.segments_wellFormed, rfl⟩ ⟨u.segments, u.segments_wellFormed, rfl⟩ h
  exact Traversal.ext hroot (segments_unique t.segments_wellFormed u.segments_wellFormed hsegments)

end Traversal

/-! ### The last segment -/

theorem not_mem_of_isName {name : Text} (h : IsName name) : '.' ∉ name := by
  cases name with
  | nil => exact List.not_mem_nil
  | cons c name =>
      intro hm
      rcases List.mem_cons.1 hm with rfl | hm
      · exact absurd h.1 (by decide)
      · exact absurd (h.2 _ hm) (by decide)

/-- Two texts are cut alike at the last dot. -/
theorem last_dot {a b x y : Text} (hx : '.' ∉ x) (hy : '.' ∉ y) (h : a ++ '.' :: x = b ++ '.' :: y) : x = y := by
  rcases List.append_eq_append_iff.1 h with ⟨m, -, hm⟩ | ⟨m, -, hm⟩
  · cases m with
    | nil => exact (List.cons.inj hm).2
    | cons d m => exact absurd ((List.cons.inj hm).2 ▸ by simp) hx
  · cases m with
    | nil => exact (List.cons.inj hm).2.symm
    | cons d m => exact absurd ((List.cons.inj hm).2 ▸ by simp) hy

/-- Segments whose text ends in `.name` have that as their last, whatever stands in their indexes. -/
theorem getLast?_of_nameEnding {root p : Text} {segments : List Segment} (hroot : IsName root)
    (hsegments : ∀ x ∈ segments, x.WellFormed) (h : root ++ segments.flatMap Segment.text = p ++ nameEnding) :
    segments.getLast? = some (.field "name".toList) := by
  have hname : '.' ∉ "name".toList := by decide
  rcases List.eq_nil_or_concat' segments with rfl | ⟨front, x, rfl⟩
  · rw [List.flatMap_nil, List.append_nil] at h
    exact absurd (h ▸ List.mem_append_right p List.mem_cons_self) (not_mem_of_isName hroot)
  · have hx := hsegments x (by simp)
    rw [List.flatMap_append, List.flatMap_singleton, ← List.append_assoc] at h
    rw [List.getLast?_concat]
    cases x with
    | field name => rw [last_dot (not_mem_of_isName hx) hname h]
    | element digits =>
        have hdigits : '.' ∉ digits := fun hm => absurd (hx.2 _ hm) (by decide)
        obtain rfl := last_dot hdigits hname h
        exact absurd (hx.2 'n' (by decide)) (by decide)
    | index key =>
        -- what closes an index is a bracket, and the ending closes with a letter
        have hlast := congrArg List.getLast? h
        simp [Segment.text, nameEnding_eq] at hlast
        rw [← List.cons_append, List.getLast?_concat] at hlast
        exact absurd (Option.some.inj hlast) (by decide)

theorem endsIn_name {t : Traversal} {p : Text} (h : t.text = p ++ nameEnding) : t.EndsIn "name".toList :=
  getLast?_of_nameEnding t.root_isName t.segments_wellFormed h

theorem wellFormed_uuid : (Segment.field "uuid".toList).WellFormed := by decide

/-- What is rewritten is a traversal that ends in `.name`, with blanks around it. The outcome is that traversal with
`.uuid` as its last segment: as long as the traversal was, and itself neither a model's name nor to be rewritten. -/
theorem upgraded?_exchanges_last (expr : Text) :
    ((upgraded? expr).isSome = true ↔
        ∃! t : Traversal, t.text = trim CharClass.isBlank expr ∧ t.EndsIn "name".toList) ∧
      ∀ t : Traversal, t.text = trim CharClass.isBlank expr → t.EndsIn "name".toList →
        ∃ u : Traversal, upgraded? expr = some u.text ∧ u.root = t.root ∧
          u.segments = t.segments.dropLast ++ [.field "uuid".toList] ∧ isTraversal u.text = true ∧
          u.text.length = t.text.length ∧ kind u.text ≠ .modelName ∧ upgraded? u.text = none := by
  have hrewritten {t : Traversal} (ht : t.text = trim CharClass.isBlank expr) (hends : t.EndsIn "name".toList) :
      upgraded? expr = some (t.withLast _ wellFormed_uuid).text := by
    rw [Traversal.text_withLast]
    apply upgraded?_of_trim
    · rw [← ht, hends.text]
      rfl
    · exact isTraversal_iff.2 ⟨t, hends.text⟩
  refine ⟨⟨fun h => ?_, ?_⟩, fun t ht hends => ?_⟩
  · obtain ⟨v, hv⟩ := Option.isSome_iff_exists.1 h
    obtain ⟨p, hp, htraversal, -⟩ := upgraded?_eq_some hv
    obtain ⟨t, ht⟩ := isTraversal_iff.1 htraversal
    refine ⟨t, ⟨ht.trans hp.symm, endsIn_name ht⟩, fun u hu => ?_⟩
    apply Traversal.text_injective
    rw [hu.1, hp, ht]
  · rintro ⟨t, ⟨ht, hends⟩, -⟩
    rw [hrewritten ht hends]
    rfl
  · have h := hrewritten ht hends
    refine ⟨t.withLast _ wellFormed_uuid, h, rfl, rfl, isTraversal_iff.2 ⟨_, rfl⟩, ?_, kind_upgraded? h, ?_⟩
    · simp only [Traversal.text_withLast, hends.text, List.length_append]
      rfl
    · rw [Traversal.text_withLast]
      exact upgraded?_uuidEnding _

/-- The ending of a name inside an index is no segment. -/
theorem upgraded?_exchanges_last_behind_index :
    ∃ u : Traversal, upgraded? " juju_model.m[\".name\"].name\n".toList = some u.text ∧
      u.root = "juju_model".toList ∧
      u.segments = [.field "m".toList, .index "\".name\"".toList, .field "uuid".toList] := by
  obtain ⟨u, hu, hroot, hsegments, -⟩ := (upgraded?_exchanges_last " juju_model.m[\".name\"].name\n".toList).2
    ⟨"juju_model".toList, [.field "m".toList, .index "\".name\"".toList, .field "name".toList], by decide, by decide⟩
    (by decide +kernel) rfl
  exact ⟨u, hu, hroot, hsegments⟩

end JujuMigration.Reference
