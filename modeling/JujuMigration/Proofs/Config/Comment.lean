import JujuMigration.Proofs.Config.Variation
import JujuMigration.Proofs.Config.Concat
import JujuMigration.Proofs.Source.Comment
/-! Where the reader comes upon a comment: in a gap, at the end of a line or between the brackets of an expression. The
piece that holds the comment is read with another comment in its place. -/

namespace JujuMigration

open Source

variable {c c' q : Text}

/-- The reader, when it looks for the next item, comes upon the comment `c` in front of `q`. -/
inductive Meets (c q : Text) : Text → Prop
  | gap {s : Text} (h : Skips isGapChar c q s) : Meets c q s
  | closing {s r : Text} (hgap : skipGap s = .ok ('}' :: r)) (h : Skips isSpace c q r) : Meets c q s
  | tail {s t behind lead : Text} {line : Nat} {a : Attribute} (hgap : skipGap s = .ok t)
      (hitem : readItem lead line t = .ok (.attribute a behind)) (h : Skips isSpace c q (a.tail ++ behind)) :
      Meets c q s
  | expression {s t behind lead : Text} {line : Nat} {a : Attribute} (hgap : skipGap s = .ok t)
      (hitem : readItem lead line t = .ok (.attribute a behind))
      (h : InBrackets c q [] (a.expr ++ (a.tail ++ behind))) :
      Meets c q s
  | past_item {s t lead : Text} {line : Nat} {item : Item} (hgap : skipGap s = .ok t)
      (hitem : readItem lead line t = .ok item) (h : Meets c q item.rest) : Meets c q s
  | past_closing {s r behind : Text} (hgap : skipGap s = .ok ('}' :: r)) (htail : skipLineTail r = .ok behind)
      (h : Meets c q behind) : Meets c q s

section

variable {s : Text}

theorem eq_ok_of_toOption {ε α : Type} {e : Except ε α} {x : α} (h : e.toOption = some x) : e = .ok x := by
  cases e with
  | error f => cases h
  | ok y => exact congrArg Except.ok (Option.some.inj h)

/-- What stands behind the equals sign of an attribute. -/
def Item.value? : Item → Option Text
  | .attribute a rest => some (a.expr ++ (a.tail ++ rest))
  | .opening _ _ => none

/-- The first item of the text. -/
def firstItem? (s : Text) : Option Item := do
  let t ← (skipGap s).toOption
  (readItem [] 0 t).toOption

theorem firstItem?_eq_some {item : Item} (h : firstItem? s = some item) :
    ∃ t, skipGap s = .ok t ∧ readItem [] 0 t = .ok item := by
  obtain ⟨t, ht, hitem⟩ := Option.bind_eq_some_iff.1 h
  exact ⟨t, eq_ok_of_toOption ht, eq_ok_of_toOption hitem⟩

/-- A comment behind the first item. -/
theorem Meets.past (rest : Text) (hitem : (firstItem? s).map Item.rest = some rest) (h : Meets c q rest) :
    Meets c q s := by
  obtain ⟨item, hfirst, rfl⟩ := Option.map_eq_some_iff.1 hitem
  obtain ⟨t, hgap, hread⟩ := firstItem?_eq_some hfirst
  exact .past_item hgap hread h

/-- A comment in the expression of the first item. -/
theorem Meets.in_value (value : Text) (hitem : (firstItem? s).bind Item.value? = some value)
    (h : InBrackets c q [] value) : Meets c q s := by
  obtain ⟨item, hfirst, hvalue⟩ := Option.bind_eq_some_iff.1 hitem
  obtain ⟨t, hgap, hread⟩ := firstItem?_eq_some hfirst
  cases item with
  | opening head rest => cases hvalue
  | «attribute» a rest =>
      obtain rfl := Option.some.inj hvalue
      exact .expression hgap hread h

theorem Source.InBrackets.of_ordinary {awaited : List Char} {p : Text} (h : InBrackets c q awaited s)
    (hp : ∀ d ∈ p, IsOrdinary d) (hn : awaited = [] → ∀ d ∈ p, d ≠ '\r' ∧ d ≠ '\n') :
    InBrackets c q awaited (p ++ s) := by
  induction p with
  | nil => exact h
  | cons d p ih =>
      obtain ⟨ho, hp⟩ := List.forall_mem_cons.1 hp
      have hplain : Step awaited (d :: (p ++ s)) awaited (p ++ s) :=
        .plain (ho.isPlain _) fun hnil => hn hnil d List.mem_cons_self
      exact .step hplain (ih hp fun hnil e he => hn hnil e (List.mem_cons_of_mem d he))

end

/-! ### Pieces that hold the comment -/

/-- A comment in front of what stands in no gap is not cut off with the blanks behind it. -/
theorem Source.Exchanges.trimEnd {v r : Text} (he : Exchanges c c' q) (hq : q = v ++ r) (hr : r ≠ [])
    (hn : r.head?.any isGapChar = false) (u : Text) :
    Text.trimEnd isSpace (u ++ (c ++ v)) = u ++ (c ++ Text.trimEnd isSpace v) := by
  by_cases hv : Text.trimEnd isSpace v = []
  · have hblank := Text.trimEnd_eq_nil.1 hv
    have hends := he.ends
    rw [← List.append_assoc, Text.trimEnd_append_of_forall hblank, hv, List.append_nil]
    rcases hends with hc | rfl | hline
    · obtain ⟨p, rfl⟩ := List.getLast?_eq_some_iff.1 hc
      rw [← List.append_assoc]
      apply Text.trimEnd_eq_self
      rw [List.getLast?_concat]
      rfl
    · exact absurd (List.append_eq_nil_iff.1 hq.symm).2 hr
    · exfalso
      have hhead : q.head?.any isGapChar = true ∧ q.head?.any isSpace = false := by
        rcases hline with ⟨x, rfl⟩ | ⟨x, rfl⟩ <;> exact ⟨rfl, rfl⟩
      cases v with
      | nil =>
          rw [hq, List.nil_append, hn] at hhead
          exact Bool.false_ne_true hhead.1
      | cons d v =>
          rw [hq] at hhead
          exact Bool.false_ne_true (hhead.2.symm.trans (hblank d List.mem_cons_self))
  · have hcv : Text.trimEnd isSpace (c ++ v) ≠ [] := by
      rw [Text.trimEnd_append_of_ne_nil hv]
      simp [hv]
    rw [Text.trimEnd_append_of_ne_nil hcv, Text.trimEnd_append_of_ne_nil hv]

/-- A gap with the comment in it is a gap with the other one. -/
theorem exchange_gap {s gap r : Text} (he : Exchanges c c' q) (hs : s = gap ++ r) (hgap : skipGap s = .ok r)
    (h : Skips isGapChar c q s) :
    ∃ u v, gap = u ++ (c ++ v) ∧ q = v ++ r ∧ skipGap (u ++ (c' ++ q)) = .ok r := by
  obtain ⟨u, hu, hother⟩ := h.exchange he
  have hq : skipGap q = .ok r := by
    rw [← h.skipGap (he.style.opens q) he.left]
    exact hgap
  obtain ⟨v, rfl⟩ := skipGap_suffix hq
  refine ⟨u, v, ?_, rfl, ?_⟩
  · apply (List.append_left_inj r).1
    rw [← hs, hu, List.append_assoc, List.append_assoc]
  · rw [hother.skipGap (he.style.symm.opens _) he.right]
    exact hq

theorem indentation_append_trimEnd {p v : Text} (h : Text.trimEnd isSpace (p ++ v) = p ++ Text.trimEnd isSpace v) :
    indentation (p ++ v) = indentation v := by
  rw [indentation, h, List.length_append, ← List.drop_drop, List.drop_left, indentation]

/-- In front of an item the two gaps have the same indentation, and what is left of them varies. -/
theorem exchange_indentation {v r : Text} (he : Exchanges c c' q) (hq : q = v ++ r) (hr : opensIdentifier r = true)
    (u : Text) : indentation (u ++ (c' ++ v)) = indentation (u ++ (c ++ v)) ∧
      Text.Varies c c' 1 (Text.trimEnd isSpace (u ++ (c ++ v))) (Text.trimEnd isSpace (u ++ (c' ++ v))) := by
  have hn := (head?_of_skipGap (skipGap_of_opensIdentifier hr)).1
  have hleft := he.trimEnd hq (ne_nil_of_opensIdentifier hr) hn u
  have hright := he.symm.trimEnd hq (ne_nil_of_opensIdentifier hr) hn u
  constructor
  · rw [← List.append_assoc, ← List.append_assoc] at hleft hright
    rw [← List.append_assoc, ← List.append_assoc, indentation_append_trimEnd hleft, indentation_append_trimEnd hright]
  · rw [hleft, hright]
    exact .one _ _

/-- The end of a line with the comment in it is one with the other. -/
theorem exchange_tail {tail behind : Text} (he : Exchanges c c' q) (htail : skipLineTail (tail ++ behind) = .ok behind)
    (h : Skips isSpace c q (tail ++ behind)) :
    ∃ u v, tail = u ++ (c ++ v) ∧ q = v ++ behind ∧ skipLineTail (u ++ (c' ++ v) ++ behind) = .ok behind := by
  obtain ⟨u, hu, hother⟩ := h.exchange he
  have hq : skipLineTail q = .ok behind := by
    rw [← h.skipLineTail (he.style.opens q) he.left]
    exact htail
  obtain ⟨v, rfl⟩ := skipLineTail_suffix hq
  refine ⟨u, v, ?_, rfl, ?_⟩
  · apply (List.append_left_inj behind).1
    rw [hu, List.append_assoc, List.append_assoc]
  · rw [List.append_assoc, List.append_assoc, hother.skipLineTail (he.style.symm.opens _) he.right]
    exact hq

/-- A comment between the brackets of an expression has a bracket behind it, and it may be exchanged for the other. -/
theorem Attribute.Fits.comment_in_expr {a : Attribute} {behind : Text} (hfits : a.Fits behind) (he : Exchanges c c' q)
    (h : InBrackets c q [] (a.expr ++ (a.tail ++ behind))) :
    ∃ u v d, a.expr = u ++ (c ++ v) ∧ q = v ++ (a.tail ++ behind) ∧ d ∈ v ∧ ¬IsOrdinary d ∧
      ∀ stop, Scans [] (a.expr ++ (a.tail ++ behind)) stop → Scans [] (u ++ (c' ++ q)) stop := by
  obtain ⟨b, stop, hb, hsp, hscan⟩ := hfits.stop
  obtain ⟨u, closing, outer, hu, hscans⟩ := h.exchange he
  have hrest : Scans (closing :: outer) q stop := (hscans stop).1.1 (scanExpression_eq_ok.1 hscan)
  obtain ⟨m, rfl⟩ := hrest.suffix
  -- The bracket around the comment is closed behind it.
  obtain ⟨d, hd, hord⟩ : ∃ d ∈ m, ¬IsOrdinary d := by
    by_contra hall
    have hordinary : ∀ d ∈ m, IsOrdinary d := fun d hd => Decidable.not_not.1 fun ho => hall ⟨d, hd, ho⟩
    cases (hrest.of_ordinary hordinary).1
  have hexpr : a.expr ++ b = u ++ (c ++ m) := by
    apply (List.append_left_inj stop).1
    rw [List.append_assoc, ← hb, hu, List.append_assoc, List.append_assoc]
  have hblank (x : Char) (hx : x ∈ b) : IsOrdinary x := (isOrdinary_of_isSpace (hsp x hx)).1
  obtain ⟨v, rfl, hv⟩ : ∃ v, m = v ++ b ∧ a.expr = u ++ (c ++ v) := by
    rw [← List.append_assoc] at hexpr
    rcases List.append_eq_append_iff.1 hexpr with ⟨x, hx, hbx⟩ | ⟨v, hv, hm⟩
    · exact absurd (hblank d (hbx ▸ List.mem_append_right x hd)) hord
    · exact ⟨v, hm, by rw [hv, List.append_assoc]⟩
  have hdv : d ∈ v := (List.mem_append.1 hd).resolve_right fun hdb => hord (hblank d hdb)
  refine ⟨u, v, d, hv, by rw [hb, List.append_assoc], hdv, hord, ?_⟩
  intro stop' h'
  exact (hscans stop').2.2 ((hscans stop').1.1 h')

/-- An attribute with the comment in its expression fits with the other one. -/
theorem Attribute.Fits.exchange {a : Attribute} {behind : Text} (hfits : a.Fits behind) (he : Exchanges c c' q)
    (h : InBrackets c q [] (a.expr ++ (a.tail ++ behind))) :
    ∃ u v d, a.expr = u ++ (c ++ v) ∧ q = v ++ (a.tail ++ behind) ∧ d ∈ v ∧ ¬IsOrdinary d ∧
      ({ a with expr := u ++ (c' ++ v) }).Fits behind := by
  obtain ⟨u, v, d, hv, rfl, hd, hord, hscans⟩ := hfits.comment_in_expr he h
  refine ⟨u, v, d, hv, rfl, hd, hord, ?_⟩
  have hvne : v ≠ [] := List.ne_nil_of_mem hd
  have hne : u ++ (c' ++ v) ≠ [] := by simp [hvne]
  have hother : u ++ (c' ++ v) ++ (a.tail ++ behind) = u ++ (c' ++ (v ++ (a.tail ++ behind))) := by simp
  have hl : Alike (a.expr ++ (a.tail ++ behind)) (u ++ (c' ++ v) ++ (a.tail ++ behind)) := by
    rw [hother, hv, List.append_assoc, List.append_assoc]
    exact he.style.alike u _ _
  have hhead : (u ++ (c' ++ v)).head? = a.expr.head? := by
    have hcons {x y : Text} (hx : x ≠ []) : (x ++ y).head? = x.head? := by
      obtain ⟨e, t, rfl⟩ := List.exists_cons_of_ne_nil hx
      rfl
    calc
      (u ++ (c' ++ v)).head? = (u ++ (c' ++ v) ++ (a.tail ++ behind)).head? := (hcons hne).symm
      _ = (a.expr ++ (a.tail ++ behind)).head? := hl.head?.symm
      _ = a.expr.head? := hcons hfits.nonempty
  have hlast : (u ++ (c' ++ v)).getLast? = a.expr.getLast? := by
    rw [hv, ← List.append_assoc, ← List.append_assoc, List.getLast?_append_of_ne_nil _ hvne,
      List.getLast?_append_of_ne_nil _ hvne]
  have htrim : Text.trimEnd isSpace (u ++ (c' ++ v)) = u ++ (c' ++ v) := by
    apply Text.trimEnd_eq_self
    rw [hlast, ← hfits.trimmed]
    exact Text.getLast?_trimEnd isSpace a.expr
  refine { hfits with value := ?_, nonempty := hne, start := ?_, trimmed := htrim, expr := ?_, stop := ?_ }
  · intro hsep
    rw [hhead]
    exact hfits.value hsep
  · rw [hhead]
    exact hfits.start
  · show stopsExpression (u ++ (c' ++ v) ++ (a.tail ++ behind)) = false
    rw [← hl.stopsExpression]
    exact hfits.expr
  · obtain ⟨b, stop, hb, hsp, hscan⟩ := hfits.stop
    refine ⟨b, stop, hb, hsp, ?_⟩
    show scanExpression (u ++ (c' ++ v) ++ (a.tail ++ behind)) = .ok stop
    rw [hother]
    exact scanExpression_eq_ok.2 (hscans stop (scanExpression_eq_ok.1 hscan))

/-! ### Where the comment is met -/

/-- The comment stands behind a brace that closes a body. -/
def MeetsBehind (c q t : Text) : Prop :=
  Skips isSpace c q t ∨ ∃ behind, skipLineTail t = .ok behind ∧ Meets c q behind

section

variable {s : Text}

theorem Meets.of_stop {r : Text} (hm : Meets c q s) (hgap : skipGap s = .ok r) (hr : endsBody r = true) :
    Skips isGapChar c q s ∨ ∃ t, r = '}' :: t ∧ MeetsBehind c q t := by
  have noItem {t lead : Text} {line : Nat} {item : Item} (hgap' : skipGap s = .ok t)
      (hitem : readItem lead line t = .ok item) : False := by
    obtain rfl := Except.ok.inj (hgap.symm.trans hgap')
    rw [endsBody_of_opensIdentifier (opensIdentifier_of_readItem hitem)] at hr
    cases hr
  cases hm with
  | gap h => exact .inl h
  | closing hgap' h => exact .inr ⟨_, Except.ok.inj (hgap.symm.trans hgap'), .inl h⟩
  | tail hgap' hitem => exact (noItem hgap' hitem).elim
  | expression hgap' hitem => exact (noItem hgap' hitem).elim
  | past_item hgap' hitem => exact (noItem hgap' hitem).elim
  | past_closing hgap' htail h => exact .inr ⟨_, Except.ok.inj (hgap.symm.trans hgap'), .inr ⟨_, htail, h⟩⟩

/-- Where an item is read, no body is closed. -/
theorem not_closing_of_opensIdentifier {x t : Text} (hgap : skipGap s = .ok x) (hx : opensIdentifier x = true)
    (hgap' : skipGap s = .ok ('}' :: t)) : False := by
  rw [Except.ok.inj (hgap.symm.trans hgap')] at hx
  cases hx

theorem Meets.of_field {a : Attribute} {behind : Text} (hm : Meets c q s) (hgap : skipGap s = .ok (a.text ++ behind))
    (hfits : a.Fits behind) :
    Skips isGapChar c q s ∨ Skips isSpace c q (a.tail ++ behind) ∨
      InBrackets c q [] (a.expr ++ (a.tail ++ behind)) ∨ Meets c q behind := by
  have noBrace {t : Text} (hgap' : skipGap s = .ok ('}' :: t)) : False :=
    not_closing_of_opensIdentifier hgap hfits.opensIdentifier hgap'
  have sameItem {t lead : Text} {line : Nat} {item : Item} (hgap' : skipGap s = .ok t)
      (hitem : readItem lead line t = .ok item) : .attribute { a with lead := lead, line := line } behind = item := by
    obtain rfl := Except.ok.inj (hgap.symm.trans hgap')
    exact Except.ok.inj ((readItem_of_fits hfits lead line).symm.trans hitem)
  cases hm with
  | gap h => exact .inl h
  | closing hgap' => exact (noBrace hgap').elim
  | past_closing hgap' => exact (noBrace hgap').elim
  | tail hgap' hitem h =>
      obtain ⟨rfl, rfl⟩ := Item.attribute.inj (sameItem hgap' hitem)
      exact .inr (.inl h)
  | expression hgap' hitem h =>
      obtain ⟨rfl, rfl⟩ := Item.attribute.inj (sameItem hgap' hitem)
      exact .inr (.inr (.inl h))
  | past_item hgap' hitem h =>
      obtain rfl := sameItem hgap' hitem
      exact .inr (.inr (.inr h))

theorem Meets.of_head {head : BlockHead} {inner : Text} (hm : Meets c q s)
    (hgap : skipGap s = .ok (head.header ++ inner)) (hopens : head.Opens) :
    Skips isGapChar c q s ∨ Meets c q inner := by
  have noBrace {t : Text} (hgap' : skipGap s = .ok ('}' :: t)) : False :=
    not_closing_of_opensIdentifier hgap (hopens.opensIdentifier inner) hgap'
  have sameItem {t lead : Text} {line : Nat} {item : Item} (hgap' : skipGap s = .ok t)
      (hitem : readItem lead line t = .ok item) : .opening { head with lead := lead, line := line } inner = item := by
    obtain rfl := Except.ok.inj (hgap.symm.trans hgap')
    exact Except.ok.inj ((hopens lead line inner).symm.trans hitem)
  cases hm with
  | gap h => exact .inl h
  | closing hgap' => exact (noBrace hgap').elim
  | past_closing hgap' => exact (noBrace hgap').elim
  | tail hgap' hitem => cases sameItem hgap' hitem
  | expression hgap' hitem => cases sameItem hgap' hitem
  | past_item hgap' hitem h =>
      obtain rfl := sameItem hgap' hitem
      exact .inr h

end

end JujuMigration
