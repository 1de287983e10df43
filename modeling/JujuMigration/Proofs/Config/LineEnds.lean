import JujuMigration.Proofs.Config.Recast
import JujuMigration.Proofs.Source.Multiline
/-! Trees and line ends. A text is read exactly when it is read with a carriage return in front of every line feed, and
then as the same tree with the carriage returns in its texts. -/

namespace JujuMigration

open Source Text

/-- The texts get their carriage returns, and the lines stay where they are. -/
def Recasting.returns : Recasting := ⟨withReturns, id⟩

def Item.recast (R : Recasting) : Item → Item
  | .attribute a rest => .attribute (a.recast R) (R.text rest)
  | .opening head rest => .opening (head.recast R) (R.text rest)

def OpenBlock.recast (R : Recasting) (b : OpenBlock) : OpenBlock := ⟨b.head.recast R, b.siblings.map (·.recast R)⟩

/-! ### Labels -/

theorem readLabels_error {kind : Text} {done : List Text} {s : Text} {f : Fault} (hb : s.head? ≠ some '{')
    (hs : s.head? = some '"' ∨ opensIdentifier s = true) (hl : readLabel s = .error f) :
    readLabels kind done s = .error f := by
  rw [readLabels.eq_def]
  split
  · exact absurd rfl hb
  · rw [if_pos hs]
    split
    · next h => cases hl.symm.trans h
    · next h => rw [Except.error.inj (hl.symm.trans h)]

theorem readLabels_other {kind : Text} {done : List Text} {s : Text} (hb : s.head? ≠ some '{')
    (hs : ¬(s.head? = some '"' ∨ opensIdentifier s = true)) : readLabels kind done s = .error ⟨s, .notLabel kind⟩ := by
  rw [readLabels.eq_def]
  split
  · exact absurd rfl hb
  · rw [if_neg hs]

theorem head?_withReturns_ne {c : Char} (hc : c ≠ '\r' ∧ c ≠ '\n') {s : Text} (h : ∀ r, s = c :: r → False) :
    (withReturns s).head? ≠ some c := by
  intro hs
  obtain ⟨r, rfl⟩ := List.head?_eq_some_iff.1 ((head?_withReturns_eq_some hc).1 hs)
  exact h r rfl

theorem opensLabel_withReturns (s : Text) : (withReturns s).head? = some '"' ∨ opensIdentifier (withReturns s) = true ↔
    s.head? = some '"' ∨ opensIdentifier s = true := by
  rw [head?_withReturns_eq_some (by decide), opensIdentifier_withReturns]

theorem readLabels_carries (kind kind' : Text) (done : List Text) {s : Text} (h : HasBareLines s) :
    Carries (Prod.map (List.map withReturns) withReturns) (readLabels kind done s)
      (readLabels kind' (done.map withReturns) (withReturns s)) := by
  fun_induction readLabels kind done s with
  | case1 done r =>
      rw [withReturns_cons (by decide), readLabels]
      exact .ok (done, r)
  | case2 done s hb hs label rest hl _ _ ih =>
      have hdone : done.map withReturns ++ [withReturns label] = (done ++ [label]).map withReturns := by simp
      rw [readLabels_label (head?_withReturns_ne (by decide) hb) ((opensLabel_withReturns s).2 hs)
        ((readLabel_carries h).of_ok hl), skipSpaces_withReturns, hdone]
      exact ih (h.of_suffix ((skipSpaces_suffix rest).trans (readLabel_suffix hl).1))
  | case3 done s hb hs f hl =>
      obtain ⟨y, hy⟩ := (readLabel_carries h).of_error hl
      rw [readLabels_error (head?_withReturns_ne (by decide) hb) ((opensLabel_withReturns s).2 hs) hy]
      exact .error f y
  | case4 done s hb hs =>
      rw [readLabels_other (head?_withReturns_ne (by decide) hb) fun hc => hs ((opensLabel_withReturns s).1 hc)]
      exact .error _ _

/-! ### Items -/

theorem lacksExpression_withReturns (s : Text) : lacksExpression (withReturns s) = lacksExpression s := by
  rw [Attribute.lacksExpression_eq, Attribute.lacksExpression_eq, stopsExpression_withReturns]

theorem opensValue_withReturns (s : Text) : opensValue (withReturns s) = opensValue s := by
  rw [Bool.eq_iff_iff, opensValue_iff, opensValue_iff]
  constructor
  · rintro ⟨t, ht, hne⟩
    obtain ⟨r, rfl, rfl⟩ := (withReturns_eq_cons (by decide)).1 ht
    exact ⟨r, rfl, fun hr => hne ((head?_withReturns_eq_some (by decide)).2 hr)⟩
  · rintro ⟨r, rfl, hne⟩
    exact ⟨withReturns r, withReturns_cons (by decide) r, fun hr => hne ((head?_withReturns_eq_some (by decide)).1 hr)⟩

theorem readAttribute_carries (lead : Text) (line : Nat) (name : Text) {afterName r : Text} (h : HasBareLines r)
    (hr : '=' :: r <:+ afterName) :
    Carries (Item.recast .returns) (readAttribute lead line name afterName ('=' :: r))
      (readAttribute (withReturns lead) line (withReturns name) (withReturns afterName) (withReturns ('=' :: r))) := by
  have hvalue : skipSpaces ((withReturns ('=' :: r)).drop 1) = withReturns (skipSpaces r) := skipSpaces_withReturns r
  have hsuffix : skipSpaces r <:+ afterName := (skipSpaces_suffix r).trans ((List.suffix_cons _ _).trans hr)
  have hbare := h.of_suffix (skipSpaces_suffix r)
  unfold readAttribute
  rw [hvalue, show ('=' :: r).drop 1 = r from rfl]
  generalize skipSpaces r = value at hsuffix hbare
  dsimp only
  rw [lacksExpression_withReturns]
  split
  · exact .error _ _
  · refine (scanExpression_carries hbare).bind fun stop hstop => ?_
    obtain ⟨b, hb, -⟩ := trimEnd_append isSpace (before stop value)
    have hexpr := trimEnd_withReturns (q := isSpace) rfl (before stop value)
    rw [← before_withReturns (scanExpression_suffix hstop)] at hexpr
    rw [hexpr]
    have hvalue := before_append_self (scanExpression_suffix hstop)
    generalize trimEnd isSpace (before stop value) = expr at hb
    obtain rfl : value = expr ++ (b ++ stop) := by rw [← hvalue, hb, List.append_assoc]
    rw [drop_withReturns, List.drop_left]
    have hrest := hbare.of_suffix (List.suffix_append expr (b ++ stop))
    refine (skipLineTail_carries hrest).bind fun behind hbehind => ?_
    rw [before_withReturns hsuffix, before_withReturns (skipLineTail_suffix hbehind)]
    exact .ok (Item.attribute _ behind)

theorem readItem_carries (lead : Text) (line : Nat) {s : Text} (h : HasBareLines s) :
    Carries (Item.recast .returns) (readItem lead line s) (readItem (withReturns lead) line (withReturns s)) := by
  refine (readIdentifier_carries s).bind fun x hx => ?_
  obtain ⟨name, afterName⟩ := x
  have hafter := (readIdentifier_suffix hx).1
  have hspaces := skipSpaces_suffix afterName
  dsimp only [Prod.map]
  rw [skipSpaces_withReturns, opensValue_withReturns]
  split
  · next ho =>
      obtain ⟨r, hr, -⟩ := opensValue_iff.1 ho
      rw [hr] at hspaces ⊢
      exact readAttribute_carries lead line name
        (h.of_suffix ((List.suffix_cons _ _).trans (hspaces.trans hafter))) hspaces
  · refine (readLabels_carries name (withReturns name) [] (h.of_suffix (hspaces.trans hafter))).bind fun x hx => ?_
    obtain ⟨labels, rest⟩ := x
    have hrest := (readLabels_suffix hx).1.trans (hspaces.trans hafter)
    dsimp only [Prod.map]
    rw [before_withReturns hrest]
    exact .ok (Item.opening _ rest)

/-! ### Bodies -/

theorem endsBody_withReturns (s : Text) : endsBody (withReturns s) = endsBody s := by
  cases s with
  | nil => rfl
  | cons c r =>
      by_cases hline : c = '\n'
      · subst hline
        rfl
      · rw [withReturns_cons hline]
        rfl

theorem indentation_withReturns (gap : Text) : indentation (withReturns gap) = withReturns (indentation gap) := by
  obtain ⟨b, hb, -⟩ := trimEnd_append isSpace gap
  rw [indentation, indentation, trimEnd_withReturns rfl]
  generalize trimEnd isSpace gap = t at hb
  rw [hb, drop_withReturns, List.drop_left]

theorem pushGap_recast (text : Text) (nodes : List Node) :
    pushGap (withReturns text) (nodes.map (·.recast .returns)) = (pushGap text nodes).map (·.recast .returns) := by
  have hempty : (withReturns text).isEmpty = text.isEmpty := by
    rw [Bool.eq_iff_iff, List.isEmpty_iff, List.isEmpty_iff, withReturns_eq_iff (by simp)]
  rw [pushGap, pushGap, hempty]
  split
  · rfl
  · rw [List.map_cons, Node.recast_gap]
    rfl

theorem readNodes_error {outer : List OpenBlock} {nodes : List Node} {line : Nat} {s : Text} {f : Fault}
    (h : skipGap s = .error f) : readNodes outer nodes line s = .error f := by
  rw [readNodes.eq_def]
  split
  · next h' => rw [Except.error.inj (h.symm.trans h')]
  · next h' => cases h.symm.trans h'

/-- From every text of fewer than `n` characters the reader goes on alike. -/
def CarriesBelow (n : Nat) : Prop :=
  ∀ (outer : List OpenBlock) (nodes : List Node) (line : Nat) {s : Text}, s.length < n → HasBareLines s →
    Carries (Body.recast .returns) (readNodes outer nodes line s)
      (readNodes (outer.map (·.recast .returns)) (nodes.map (·.recast .returns)) line (withReturns s))

theorem resume_carries {outer : List OpenBlock} {nodes : List Node} {line : Nat} {r : Text} (h : HasBareLines r)
    (hends : endsBody r = true) (ih : CarriesBelow r.length) :
    Carries (Body.recast .returns) (resume outer nodes line r)
      (resume (outer.map (·.recast .returns)) (nodes.map (·.recast .returns)) line (withReturns r)) := by
  have hnodes : (nodes.map (Node.recast .returns)).reverse = Body.recast .returns nodes.reverse := by
    rw [← List.map_reverse, Body.recast_eq_map]
  rcases endsBody_iff.1 hends with rfl | ⟨t, rfl⟩
  · cases outer with
    | nil =>
        rw [withReturns_nil, List.map_nil, resume, resume, hnodes]
        exact .ok nodes.reverse
    | cons block outer => exact .error _ _
  · rw [withReturns_cons (by decide)]
    cases outer with
    | nil => exact .error _ _
    | cons block outer =>
        rw [List.map_cons, resume, resume, hnodes]
        rcases (skipLineTail_carries h.tail).cases with ⟨behind, hr, hr'⟩ | ⟨x, y, hx, hy⟩
        · have hsuffix := skipLineTail_suffix hr
          have hclosing := before_withReturns (hsuffix.trans (List.suffix_cons '}' t))
          rw [withReturns_cons (by decide)] at hclosing
          rw [hr, hr']
          dsimp only
          rw [hclosing, newlines_withReturns]
          have hbelow := ih outer (.block block.head nodes.reverse (before behind ('}' :: t)) :: block.siblings)
            (line + newlines (before behind ('}' :: t))) (Nat.lt_succ_of_le hsuffix.length_le)
            (h.tail.of_suffix hsuffix)
          rw [List.map_cons, Node.recast_block] at hbelow
          exact hbelow
        · rw [hx, hy]
          exact .error x y

theorem proceed_carries {outer : List OpenBlock} {nodes : List Node} {line : Nat} {r : Text} {item : Item}
    (h : HasBareLines r) (hitem : item.rest <:+ r ∧ item.rest.length < r.length) (ih : CarriesBelow r.length) :
    Carries (Body.recast .returns) (proceed outer nodes line r item)
      (proceed (outer.map (·.recast .returns)) (nodes.map (·.recast .returns)) line (withReturns r)
        (item.recast .returns)) := by
  obtain ⟨hsuffix, hless⟩ := hitem
  have hline (behind : Text) (hbehind : behind <:+ r) :
      newlines (before (Recasting.returns.text behind) (withReturns r)) = newlines (before behind r) := by
    rw [Recasting.returns, before_withReturns hbehind, newlines_withReturns]
  cases item with
  | «attribute» a behind =>
      have hbelow := ih outer (.attribute a :: nodes) (line + newlines (before behind r)) hless (h.of_suffix hsuffix)
      rw [List.map_cons, Node.recast_attribute] at hbelow
      rw [Item.recast, proceed, proceed, hline behind hsuffix]
      exact hbelow
  | opening head behind =>
      have hbelow := ih (⟨head, nodes⟩ :: outer) [] (line + newlines (before behind r)) hless (h.of_suffix hsuffix)
      rw [List.map_cons] at hbelow
      rw [Item.recast, proceed, proceed, hline behind hsuffix]
      exact hbelow

theorem readNodes_carries (outer : List OpenBlock) (nodes : List Node) (line : Nat) {s : Text} (h : HasBareLines s) :
    Carries (Body.recast .returns) (readNodes outer nodes line s)
      (readNodes (outer.map (·.recast .returns)) (nodes.map (·.recast .returns)) line (withReturns s)) := by
  induction hn : s.length using Nat.strongRecOn generalizing s outer nodes line with
  | ind n ih =>
      subst hn
      rcases (skipGap_carries h).cases with ⟨r, hr, hr'⟩ | ⟨x, y, hx, hy⟩
      · have hsuffix := skipGap_suffix hr
        have hbare := h.of_suffix hsuffix
        have hbelow : CarriesBelow r.length := fun outer nodes line t ht hbare =>
          ih t.length (Nat.lt_of_lt_of_le ht hsuffix.length_le) outer nodes line hbare rfl
        obtain ⟨gap, hs⟩ := hsuffix
        have hs' : withReturns s = withReturns gap ++ withReturns r := by rw [← hs, withReturns_append]
        rw [readNodes_eq hs.symm hr, readNodes_eq hs' hr', endsBody_withReturns, newlines_withReturns,
          indentation_withReturns, trimEnd_withReturns rfl, pushGap_recast, pushGap_recast]
        split
        · next hends => exact resume_carries hbare hends hbelow
        · refine (readItem_carries (indentation gap) _ hbare).bind fun item hitem => ?_
          exact proceed_carries hbare (readItem_suffix hitem) hbelow
      · rw [readNodes_error hx, readNodes_error hy]
        exact .error x y

/-- A text is read with the carriage returns if and only if it is read without them, as the same tree but for them. -/
theorem read_carries {s : Text} (h : HasBareLines s) :
    Carries (Body.recast .returns) (Body.read s) (Body.read (withReturns s)) := readNodes_carries [] [] 1 h

mutual

theorem Node.render_returns : ∀ n : Node, (n.recast .returns).render = withReturns n.render
  | .gap text => by
      rw [Node.recast_gap, Node.render, Node.render]
      rfl
  | .attribute a => by
      rw [Node.recast_attribute, Node.render, Node.render, Attribute.render, Attribute.render]
      simp only [withReturns_append]
      rfl
  | .block head body closing => by
      rw [Node.recast_block, Node.render, Node.render, Body.render_returns body]
      simp only [withReturns_append]
      rfl

theorem Body.render_returns : ∀ body : List Node,
    Body.render (Body.recast .returns body) = withReturns (Body.render body)
  | [] => by rw [Body.recast_nil, Body.render_nil, withReturns_nil]
  | n :: ns => by
      rw [Body.recast_cons, Body.render_cons, Body.render_cons, Node.render_returns n, Body.render_returns ns,
        withReturns_append]

end

end JujuMigration
