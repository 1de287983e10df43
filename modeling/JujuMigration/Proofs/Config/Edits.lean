import JujuMigration.Proofs.Config.Names
/-! Sequences of changes. Each call either finds no attribute of its name and leaves the body, or it puts one attribute
in place of the first one of that name, or drops it. Whatever the calls are, what stays keeps its order and its
surroundings, and names that stood once stand once. -/

namespace JujuMigration

/-- One call that changes the attributes of a body. -/
inductive Edit
  | set (name expr : Text)
  | remove (name : Text)
  | rename (old new : Text) (expr : Option Text)
  deriving DecidableEq, Repr

namespace Edit

/-- The name that the call looks for. -/
def target : Edit → Text
  | .set name _ | .remove name | .rename name _ _ => name

/-- The names of attributes that the call may change. -/
def touched : Edit → List Text
  | .set name _ | .remove name => [name]
  | .rename old new _ => [old, new]

def outcome? : Edit → Body → Option Body
  | .set name expr => Body.setExpression? name expr
  | .remove name => Body.removeAttribute? name
  | .rename old new expr => Body.renameAttribute? old new expr

/-- What the call answers, and the body behind it. -/
def perform (e : Edit) (body : Body) : Bool × Body :=
  match e.outcome? body with
  | none => (false, body)
  | some body' => (true, body')

end Edit

def Body.performAll (edits : List Edit) (body : Body) : Body := edits.foldl (fun body e => (e.perform body).2) body

/-- The separator of an attribute under a new name. It differs in its leading spaces only: a single one or none is left,
and of more there are as many as keep the column of the rest, or one where these would be none. -/
def Realigned (old new sep sep' : Text) : Prop :=
  ∃ m n rest, sep = List.replicate m ' ' ++ rest ∧ sep' = List.replicate n ' ' ++ rest ∧ rest.head? ≠ some ' ' ∧
    (m ≤ 1 → n = m) ∧ (2 ≤ m → new.length < old.length + m → new.length + n = old.length + m) ∧
    (2 ≤ m → old.length + m ≤ new.length → n = 1)

open Body (names attribute? performAll)

/-- A call puts another attribute in place of the first one of its name, or drops it; a rename onto a name that stands
in the body gives the expression to the first attribute of that name. -/
inductive Changes : Edit → Body → Body → Prop
  | set {a : Attribute} {front : Body} (hfirst : a.name ∉ names front) (expr : Text) (back : Body) :
      Changes (.set a.name expr) (front ++ .attribute a :: back) (front ++ .attribute { a with expr := expr } :: back)
  | remove {a : Attribute} {front : Body} (hfirst : a.name ∉ names front) (back : Body) :
      Changes (.remove a.name) (front ++ .attribute a :: back) (front ++ back)
  | keep {a : Attribute} {front : Body} (hfirst : a.name ∉ names front) (expr : Option Text) (back : Body) :
      Changes (.rename a.name a.name expr) (front ++ .attribute a :: back)
        (front ++ .attribute { a with expr := expr.getD a.expr } :: back)
  | mergeBehind {a b : Attribute} {front mid : Body} (hne : a.name ≠ b.name) (hfirst : a.name ∉ names front)
      (hother : b.name ∉ names (front ++ mid)) (expr : Option Text) (back : Body) :
      Changes (.rename a.name b.name expr) (front ++ .attribute a :: (mid ++ .attribute b :: back))
        (front ++ (mid ++ .attribute { b with expr := expr.getD a.expr } :: back))
  | mergeBefore {a b : Attribute} {front mid : Body} (hne : a.name ≠ b.name) (hfirst : a.name ∉ names (front ++ mid))
      (hother : b.name ∉ names front) (expr : Option Text) (back : Body) :
      Changes (.rename a.name b.name expr) (front ++ .attribute b :: (mid ++ .attribute a :: back))
        (front ++ .attribute { b with expr := expr.getD a.expr } :: (mid ++ back))
  | rename {a : Attribute} {front back : Body} {new sep : Text} (hfirst : a.name ∉ names front)
      (hfree : new ∉ names (front ++ .attribute a :: back)) (hsep : Realigned a.name new a.sep sep)
      (expr : Option Text) :
      Changes (.rename a.name new expr) (front ++ .attribute a :: back)
        (front ++ .attribute { a with name := new, sep := sep, expr := expr.getD a.expr } :: back)

/-- What a call answers, and what it does. -/
inductive Answers (e : Edit) (body : Body) : Bool → Body → Prop
  | refused (h : attribute? body e.target = none) : Answers e body false body
  | changed {body' : Body} (h : Changes e body body') : Answers e body true body'

/-! ### One call -/

theorem realigned_realignSeparator (old new sep : Text) :
    Realigned old new sep (realignSeparator sep old.length new.length) := by
  have hspaces : sep.takeWhile (· = ' ') = List.replicate (sep.takeWhile (· = ' ')).length ' ' :=
    List.eq_replicate_of_mem fun c hc => by simpa using List.mem_takeWhile_imp hc
  have hrest : (sep.dropWhile (· = ' ')).head? ≠ some ' ' := by
    intro h
    have hnot := List.head?_dropWhile_not (· = ' ') sep
    rw [h] at hnot
    cases hnot
  have hsep : sep = List.replicate (sep.takeWhile (· = ' ')).length ' ' ++ sep.dropWhile (· = ' ') := by
    rw [← hspaces, List.takeWhile_append_dropWhile]
  unfold realignSeparator
  simp only
  split
  · next hfew => exact ⟨_, _, _, hsep, hsep, hrest, fun _ => rfl, by omega, by omega⟩
  · next hmany => exact ⟨_, _, _, hsep, rfl, hrest, by omega, by omega, by omega⟩

namespace Body

variable {body body' : Body} {name : Text} {a : Attribute}

theorem not_mem_names : name ∉ names body ↔ attribute? body name = none := by
  rw [mem_names, has, Bool.not_eq_true, Option.isSome_eq_false_iff, Option.isNone_iff_eq_none]

theorem isNamed_eq_false (h : name ∉ names body) : ∀ n ∈ body, n.isNamed name = false := by
  intro n hn
  refine Bool.eq_false_iff.2 fun hnamed => h ?_
  obtain ⟨a, rfl, ha⟩ := eq_attribute_of_isNamed hnamed
  exact List.mem_map.2 ⟨a, mem_attributes.2 hn, ha⟩

theorem exists_first (h : attribute? body name = some a) :
    ∃ front back, body = front ++ .attribute a :: back ∧ a.name = name ∧ name ∉ names front := by
  obtain ⟨front, back, hbody, ha, hfront, -⟩ := attribute?_eq_some h
  exact ⟨front, back, hbody, ha, not_mem_names.2 hfront⟩

theorem modifyFirst_append {front : Body} (h : a.name ∉ names front) (change : Attribute → Attribute) (back : Body) :
    modifyFirst a.name change (front ++ .attribute a :: back) = front ++ .attribute (change a) :: back := by
  rw [modifyFirst_append_of_unnamed (isNamed_eq_false h), modifyFirst, if_pos rfl]

theorem dropFirst_append {front : Body} (h : a.name ∉ names front) (back : Body) :
    dropFirst a.name (front ++ .attribute a :: back) = front ++ back := by
  have hnamed : (Node.attribute a).isNamed a.name = true := decide_eq_true rfl
  rw [dropFirst_append_of_unnamed (isNamed_eq_false h), dropFirst, List.eraseP_cons_of_pos hnamed]

/-- Where the body has both names, the attribute of the new one takes the expression, on either side. -/
theorem changes_merge {old new : Text} (hne : old ≠ new) {expr : Option Text} (ha : attribute? body old = some a)
    (hhas : has body new = true) : Changes (.rename old new expr) body
      (dropFirst old (modifyFirst new ({ · with expr := expr.getD a.expr }) body)) := by
  obtain ⟨front, back, rfl, rfl, hfirst⟩ := exists_first ha
  have hmem : new ∈ names front ∨ new ∈ names back := by
    have hnames := mem_names.2 hhas
    rw [names_append, names_cons_attribute] at hnames
    exact (List.mem_append.1 hnames).imp_right fun h => (List.mem_cons.1 h).resolve_left hne.symm
  -- The attribute of the new name stands on one side of the renamed one; the drop finds the latter on the other.
  by_cases hfront : new ∈ names front
  · obtain ⟨b, hb⟩ := Option.isSome_iff_exists.1 (mem_names.1 hfront)
    obtain ⟨front, mid, rfl, rfl, hother⟩ := exists_first hb
    rw [names_append, names_cons_attribute] at hfirst
    have hfirst' : a.name ∉ names (front ++ .attribute { b with expr := expr.getD a.expr } :: mid) := by
      rwa [names_append, names_cons_attribute]
    have hdrop := dropFirst_append hfirst' back
    have hmid : a.name ∉ names (front ++ mid) := by
      rw [names_append]
      intro hm
      apply hfirst
      rcases List.mem_append.1 hm with hm | hm
      · exact List.mem_append_left _ hm
      · exact List.mem_append_right _ (List.mem_cons_of_mem _ hm)
    rw [List.append_assoc, List.cons_append, List.append_assoc, List.cons_append] at hdrop
    rw [List.append_assoc, List.cons_append, modifyFirst_append hother, hdrop]
    exact .mergeBefore hne hmid hother expr back
  · obtain ⟨b, hb⟩ := Option.isSome_iff_exists.1 (mem_names.1 (hmem.resolve_left hfront))
    obtain ⟨mid, back, rfl, rfl, hmid⟩ := exists_first hb
    have hother : b.name ∉ names (front ++ .attribute a :: mid) := by
      rw [names_append, names_cons_attribute]
      intro hm
      rcases List.mem_append.1 hm with hm | hm
      · exact hfront hm
      · exact (List.mem_cons.1 hm).elim hne.symm hmid
    have hmodify := modifyFirst_append hother ({ · with expr := expr.getD a.expr }) back
    rw [List.append_assoc, List.cons_append, List.append_assoc, List.cons_append] at hmodify
    rw [hmodify, dropFirst_append hfirst]
    refine .mergeBehind hne hfirst ?_ expr back
    rw [names_append]
    intro hm
    exact (List.mem_append.1 hm).elim hfront hmid

end Body

namespace Edit

variable {e : Edit} {body body' : Body}

theorem outcome?_eq_none : e.outcome? body = none ↔ attribute? body e.target = none := by
  cases e <;> exact Option.map_eq_none_iff

theorem changes_of_outcome? (h : e.outcome? body = some body') : Changes e body body' := by
  cases e with
  | set name expr =>
      obtain ⟨a, ha, rfl⟩ := Option.map_eq_some_iff.1 h
      obtain ⟨front, back, rfl, rfl, hfirst⟩ := Body.exists_first ha
      rw [Body.modifyFirst_append hfirst]
      exact .set hfirst expr back
  | remove name =>
      obtain ⟨a, ha, rfl⟩ := Option.map_eq_some_iff.1 h
      rw [Body.erase_attribute ha]
      obtain ⟨front, back, rfl, rfl, hfirst⟩ := Body.exists_first ha
      rw [Body.dropFirst_append hfirst]
      exact .remove hfirst back
  | rename old new expr =>
      rw [outcome?, Body.renameAttribute?_eq] at h
      obtain ⟨a, ha, rfl⟩ := Option.map_eq_some_iff.1 h
      simp only
      split
      · next heq =>
          subst heq
          obtain ⟨front, back, rfl, rfl, hfirst⟩ := Body.exists_first ha
          rw [Body.modifyFirst_append hfirst]
          exact .keep hfirst expr back
      · next hne =>
          split
          · next hhas => exact Body.changes_merge hne ha hhas
          · next hfree =>
              obtain ⟨front, back, rfl, rfl, hfirst⟩ := Body.exists_first ha
              rw [Body.modifyFirst_append hfirst]
              exact .rename hfirst (fun hm => hfree (Body.mem_names.1 hm)) (realigned_realignSeparator _ new a.sep) expr

theorem answers (e : Edit) (body : Body) : Answers e body (e.perform body).1 (e.perform body).2 := by
  rw [perform]
  cases h : e.outcome? body with
  | none => exact .refused (outcome?_eq_none.1 h)
  | some body' => exact .changed (changes_of_outcome? h)

theorem edited_perform (e : Edit) (body : Body) : Edited e.touched body (e.perform body).2 := by
  rw [perform]
  cases h : e.outcome? body with
  | none => exact .refl _ body
  | some body' =>
      cases e with
      | set name expr =>
          obtain ⟨a, -, rfl⟩ := Option.map_eq_some_iff.1 h
          refine Body.edited_modifyFirst List.mem_cons_self (fun b hb => ?_) body
          exact ⟨hb.symm ▸ List.mem_cons_self, rfl, rfl, rfl⟩
      | remove name =>
          obtain ⟨a, ha, rfl⟩ := Option.map_eq_some_iff.1 h
          rw [Body.erase_attribute ha]
          exact Body.edited_dropFirst List.mem_cons_self body
      | rename old new expr =>
          exact Body.edited_renameAttribute? List.mem_cons_self (List.mem_cons_of_mem _ List.mem_cons_self) h

end Edit

/-- Each change leaves every name that stands once standing once. -/
theorem Changes.nodup {e : Edit} {body body' : Body} (h : Changes e body body') (hnodup : (names body).Nodup) :
    (names body').Nodup := by
  cases h with
  | set | keep => simpa only [Body.names_append, Body.names_cons_attribute] using hnodup
  | remove | mergeBehind | mergeBefore =>
      simp only [Body.names_append, Body.names_cons_attribute] at hnodup ⊢
      refine hnodup.sublist ?_
      simp
  | rename _ hfree =>
      -- This alone brings in a name, and one that is free.
      simp only [Body.names_append, Body.names_cons_attribute] at hnodup hfree ⊢
      grind

theorem Answers.nodup {e : Edit} {answer : Bool} {body body' : Body} (h : Answers e body answer body')
    (hnodup : (names body).Nodup) : (names body').Nodup := by
  cases h with
  | refused => exact hnodup
  | changed hchanges => exact hchanges.nodup hnodup

/-! ### All calls -/

namespace Body

theorem performAll_append (front back : List Edit) (body : Body) :
    performAll (front ++ back) body = performAll back (performAll front body) := List.foldl_append

theorem edited_performAll (edits : List Edit) (body : Body) :
    Edited (edits.flatMap Edit.touched) body (performAll edits body) := by
  induction edits generalizing body with
  | nil => exact .refl _ body
  | cons e edits ih =>
      have hfirst := (e.edited_perform body).mono fun t ht => List.mem_append_left (edits.flatMap Edit.touched) ht
      exact hfirst.trans ((ih _).mono fun t ht => List.mem_append_right _ ht)

theorem nodup_performAll (edits : List Edit) {body : Body} (h : (names body).Nodup) :
    (names (performAll edits body)).Nodup := by
  induction edits generalizing body with
  | nil => exact h
  | cons e edits ih => exact ih ((e.answers body).nodup h)

/-- In any sequence of calls each one does what it answers, and what stays keeps its order and what surrounds it. If
every name stood once before, then every name stands once behind them. -/
theorem performAll_sound (edits : List Edit) (body : Body) :
    (∀ front e back, edits = front ++ e :: back →
        Answers e (performAll front body) (e.perform (performAll front body)).1 (performAll (front ++ [e]) body)) ∧
      Edited (edits.flatMap Edit.touched) body (performAll edits body) ∧
      ((names body).Nodup → (names (performAll edits body)).Nodup) := by
  refine ⟨fun front e back _ => ?_, edited_performAll edits body, nodup_performAll edits⟩
  rw [performAll_append]
  exact e.answers (performAll front body)

/-- A rename onto a name that stands there, the rename back into a name that is free again, and a call that finds
nothing. -/
theorem performAll_sound_back_and_forth :
    let series : Attribute := ⟨"  ".toList, "series".toList, " = ".toList, "a".toList, "\n".toList, 1⟩
    let base : Attribute := ⟨"  ".toList, "base".toList, "   = ".toList, "b".toList, " # c\n".toList, 3⟩
    let body : Body := [.attribute series, .gap "\n".toList, .attribute base]
    let edits : List Edit := [.rename "series".toList "base".toList none, .rename "base".toList "series".toList none,
      .remove "base".toList]
    (names body).Nodup ∧ (names (performAll edits body)).Nodup ∧
      performAll edits body =
        [.gap "\n".toList, .attribute ⟨"  ".toList, "series".toList, " = ".toList, "a".toList, " # c\n".toList, 3⟩] ∧
      Answers (.remove "base".toList) (performAll edits body) false (performAll edits body) := by
  intro series base body edits
  have hnodup : (names body).Nodup := by decide
  obtain ⟨hanswers, -, hnames⟩ := performAll_sound edits body
  exact ⟨hnodup, hnames hnodup, rfl, hanswers (edits.take 2) _ [] rfl⟩

end Body
end JujuMigration
