import JujuMigration.Proofs.Config.Item
/-! Reading as a relation. `Reads line s nodes r` holds if a body read from line `line` on at the text `s` has these
nodes and ends in front of `r`, at the end of everything or at a closing brace. Its rules follow the tree, while
the reader keeps the open blocks on a stack; both give the same trees. -/

namespace JujuMigration

open Source

/-- The blanks that end a gap, which belong to the item behind it. -/
def indentation (gap : Text) : Text := gap.drop (Text.trimEnd isSpace gap).length

/-- A gap's node, if it has text. -/
def gapNodes (text : Text) : Body := if text.isEmpty then [] else [.gap text]

theorem pushGap_eq (text : Text) (nodes : List Node) : pushGap text nodes = (gapNodes text).reverse ++ nodes := by
  unfold pushGap gapNodes
  split <;> rfl

@[simp] theorem render_gapNodes (text : Text) : Body.render (gapNodes text) = text := by
  unfold gapNodes
  split
  · next h => simp_all
  · simp [Node.render]

theorem trimEnd_append_indentation (gap : Text) : Text.trimEnd isSpace gap ++ indentation gap = gap := by
  obtain ⟨b, hb, -⟩ := Text.trimEnd_append isSpace gap
  unfold indentation
  generalize Text.trimEnd isSpace gap = t at hb ⊢
  rw [hb, List.drop_left]

theorem trimEnd_append_indentation_append (gap t : Text) :
    Text.trimEnd isSpace gap ++ (indentation gap ++ t) = gap ++ t := by
  rw [← List.append_assoc, trimEnd_append_indentation]

theorem isSpace_of_mem_indentation {gap : Text} : ∀ c ∈ indentation gap, isSpace c = true := by
  obtain ⟨b, hb, hsp⟩ := Text.trimEnd_append isSpace gap
  unfold indentation
  generalize Text.trimEnd isSpace gap = t at hb ⊢
  rw [hb, List.drop_left]
  exact hsp

inductive Reads : Nat → Text → Body → Text → Prop
  | stop {line : Nat} {s gap r : Text} (hs : s = gap ++ r) (hgap : skipGap s = .ok r) (hr : endsBody r = true) :
      Reads line s (gapNodes (Text.trimEnd isSpace gap) ++ gapNodes (indentation gap)) r
  | field {line : Nat} {s gap behind r : Text} {a : Attribute} {nodes : Body}
      (hs : s = gap ++ (a.text ++ behind)) (hgap : skipGap s = .ok (a.text ++ behind))
      (hlead : a.lead = indentation gap) (hline : a.line = line + Text.newlines gap) (hfits : a.Fits behind)
      (h : Reads (a.line + Text.newlines a.text) behind nodes r) :
      Reads line s (gapNodes (Text.trimEnd isSpace gap) ++ .attribute a :: nodes) r
  | block {line : Nat} {s gap inner tail behind r : Text} {head : BlockHead} {body nodes : Body}
      (hs : s = gap ++ (head.header ++ inner)) (hgap : skipGap s = .ok (head.header ++ inner))
      (hlead : head.lead = indentation gap) (hline : head.line = line + Text.newlines gap) (hopens : head.Opens)
      (hbody : Reads (head.line + Text.newlines head.header) inner body ('}' :: (tail ++ behind)))
      (htail : skipLineTail (tail ++ behind) = .ok behind)
      (h : Reads (head.line + Text.newlines (head.header ++ Body.render body ++ '}' :: tail)) behind nodes r) :
      Reads line s (gapNodes (Text.trimEnd isSpace gap) ++ .block head body ('}' :: tail) :: nodes) r

variable {line : Nat} {s r : Text} {nodes : Body}

/-- A body ends at the end of everything or at a closing brace. -/
theorem Reads.endsBody (h : Reads line s nodes r) : endsBody r = true := by
  induction h with
  | stop _ _ hr => exact hr
  | field _ _ _ _ _ _ ih => exact ih
  | block _ _ _ _ _ _ _ _ _ ih => exact ih

/-- What has been read renders to the text that was read. -/
theorem Reads.render (h : Reads line s nodes r) : s = Body.render nodes ++ r := by
  induction h with
  | @stop _ _ gap _ hs =>
      rw [hs, Body.render_append, render_gapNodes, render_gapNodes, trimEnd_append_indentation]
  | @field _ _ gap _ _ a _ hs _ hlead _ _ _ ih =>
      rw [hs, ih]
      simp [Node.render, a.render_eq, hlead, trimEnd_append_indentation_append]
  | @block _ _ gap _ _ _ _ head _ _ hs _ hlead _ _ _ _ _ ih ih' =>
      rw [hs, ih, ih']
      simp [Node.render, hlead, trimEnd_append_indentation_append]

/-! ### The reader follows the relation -/

/-- What the reader does where a body ends, `nodes` being its nodes, newest first. -/
def resume (outer : List OpenBlock) (nodes : List Node) (line : Nat) (r : Text) : Except Fault Body :=
  match r, outer with
  | [], [] => .ok nodes.reverse
  | [], _ :: _ => .error ⟨[], .unexpectedEnd⟩
  | c :: r, [] => .error ⟨c :: r, .unexpectedBrace⟩
  | c :: r, block :: outer =>
    match skipLineTail r with
    | .error f => .error f
    | .ok behind =>
      let closing := Text.before behind (c :: r)
      readNodes outer (.block block.head nodes.reverse closing :: block.siblings) (line + Text.newlines closing) behind

/-- What the reader does where an item begins. -/
def proceed (outer : List OpenBlock) (nodes : List Node) (line : Nat) (t : Text) : Item → Except Fault Body
  | .attribute a behind => readNodes outer (.attribute a :: nodes) (line + Text.newlines (Text.before behind t)) behind
  | .opening head behind =>
    readNodes (⟨head, nodes⟩ :: outer) [] (line + Text.newlines (Text.before behind t)) behind

theorem readNodes_eq {outer : List OpenBlock} {gap : Text} (hs : s = gap ++ r) (h : skipGap s = .ok r) :
    readNodes outer nodes line s =
      if endsBody r then
        resume outer (pushGap (indentation gap) (pushGap (Text.trimEnd isSpace gap) nodes)) (line + Text.newlines gap) r
      else
        (readItem (indentation gap) (line + Text.newlines gap) r).bind
          (proceed outer (pushGap (Text.trimEnd isSpace gap) nodes) (line + Text.newlines gap) r) := by
  obtain rfl : Text.before r s = gap := by rw [hs, Text.before_append]
  rw [readNodes.eq_def]
  split
  · next h' => simp [h] at h'
  · next rest h' =>
      obtain rfl := Except.ok.inj (h.symm.trans h')
      simp only
      split
      · cases outer <;> rfl
      · next c u _ _ _ _ =>
          split
          · next hc =>
              subst hc
              rw [if_pos (show endsBody ('}' :: _) = true from rfl)]
              cases outer with
              | nil => rfl
              | cons b outer =>
                  simp only [resume]
                  split
                  · next h1 => rw [h1]
                  · next h1 =>
                      rw [h1]
                      rfl
          · next hc =>
              rw [if_neg (by simpa [endsBody] using hc)]
              split
              · next hi => rw [indentation, hi, Except.bind]
              · next item hi =>
                  refine Eq.trans ?_ (congrArg (Except.bind · _) hi).symm
                  cases item <;> rfl

/-- Where a body has been read, the reader resumes the block around it with the nodes of the body. -/
theorem Reads.readNodes_eq (h : Reads line s nodes r) (outer : List OpenBlock) (before : List Node) :
    readNodes outer before line s =
      resume outer (nodes.reverse ++ before) (line + Text.newlines (Body.render nodes)) r := by
  induction h generalizing outer before with
  | @stop _ _ gap _ hs hgap hr =>
      rw [JujuMigration.readNodes_eq hs hgap, if_pos hr, pushGap_eq, pushGap_eq]
      simp [trimEnd_append_indentation]
  | @field _ _ gap behind _ a _ hs hgap hlead hline hfits _ ih =>
      have hgoes : ¬Source.endsBody (a.text ++ behind) = true := by
        rw [endsBody_of_opensIdentifier hfits.opensIdentifier]
        exact Bool.false_ne_true
      rw [JujuMigration.readNodes_eq hs hgap, if_neg hgoes, ← hlead, ← hline, readItem_of_fits hfits, Except.bind,
        proceed, Text.before_append, ih, pushGap_eq]
      have hl : Text.newlines gap = Text.newlines (Text.trimEnd isSpace gap) + Text.newlines a.lead := by
        rw [hlead, ← newlines_append, trimEnd_append_indentation]
      congr 1
      · simp
      · simp only [hline, hl, Body.render_append, render_gapNodes, Body.render_cons, Node.render, a.render_eq,
          newlines_append]
        omega
  | @block _ _ gap inner tail behind _ head body _ hs hgap hlead hline hopens hbody htail _ ih ih' =>
      have hgoes : ¬Source.endsBody (head.header ++ inner) = true := by
        rw [endsBody_of_opensIdentifier (hopens.opensIdentifier _)]
        exact Bool.false_ne_true
      rw [JujuMigration.readNodes_eq hs hgap, if_neg hgoes, ← hlead, ← hline, hopens, Except.bind, proceed,
        Text.before_append, ih, resume, htail]
      have hl : Text.newlines gap = Text.newlines (Text.trimEnd isSpace gap) + Text.newlines head.lead := by
        rw [hlead, ← newlines_append, trimEnd_append_indentation]
      have hclosing : Text.before behind ('}' :: (tail ++ behind)) = '}' :: tail :=
        Text.before_append ('}' :: tail) behind
      simp only [hclosing, List.append_nil, List.reverse_reverse]
      have hline' : head.line + Text.newlines head.header + Text.newlines (Body.render body) +
          Text.newlines ('}' :: tail) = head.line + Text.newlines (head.header ++ Body.render body ++ '}' :: tail) := by
        simp only [newlines_append]
        omega
      rw [hline', ih']
      congr 1
      · simp [pushGap_eq]
      · simp only [hline, hl, Body.render_append, render_gapNodes, Body.render_cons, Node.render, newlines_append]
        omega

/-- What the reader accepts has been read by the rules. -/
theorem reads_of_readNodes {outer : List OpenBlock} {before : List Node} {line : Nat} {s : Text} {body : Body}
    (h : readNodes outer before line s = .ok body) : ∃ nodes r, Reads line s nodes r := by
  cases hgap : skipGap s with
  | error f =>
      rw [readNodes.eq_def] at h
      split at h
      · simp at h
      · next h' => simp [hgap] at h'
  | ok t =>
      have hs : s = Text.before t s ++ t := (Text.before_append_self (skipGap_suffix hgap)).symm
      generalize Text.before t s = gap at hs
      rw [readNodes_eq hs hgap] at h
      split at h
      · next he => exact ⟨_, t, .stop hs hgap he⟩
      · cases hi : readItem (indentation gap) (line + Text.newlines gap) t with
        | error f => simp [hi, Except.bind] at h
        | ok item =>
            rw [hi, Except.bind] at h
            have hlt := (readItem_suffix hi).2
            have hle := (skipGap_suffix hgap).length_le
            rcases item with ⟨a, behind⟩ | ⟨head, inner⟩
            · obtain ⟨hlead, hline, rfl, hfits⟩ := readItem_eq_attribute.1 hi
              rw [proceed, Text.before_append, ← hline] at h
              have : behind.length < s.length := Nat.lt_of_lt_of_le hlt hle
              obtain ⟨nodes, r, hr⟩ := reads_of_readNodes h
              exact ⟨_, r, .field hs hgap hlead hline hfits hr⟩
            · obtain ⟨hlead, hline, rfl, hopens⟩ := opens_of_readItem hi
              rw [proceed, Text.before_append, ← hline] at h
              have : inner.length < s.length := Nat.lt_of_lt_of_le hlt hle
              obtain ⟨body, r, hbody⟩ := reads_of_readNodes h
              rw [hbody.readNodes_eq] at h
              have hr := hbody.endsBody
              rcases endsBody_iff.1 hr with rfl | ⟨u, rfl⟩
              · simp [resume] at h
              · rw [resume] at h
                split at h
                · simp at h
                · next behind htail =>
                    obtain ⟨tail, rfl⟩ := skipLineTail_suffix htail
                    have hclosing : Text.before behind ('}' :: (tail ++ behind)) = '}' :: tail :=
                      Text.before_append ('}' :: tail) behind
                    have : behind.length < s.length := by
                      have := congrArg List.length hbody.render
                      simp only [List.length_append, List.length_cons] at this
                      omega
                    obtain ⟨nodes, r, hnodes⟩ := reads_of_readNodes h
                    rw [hclosing, Nat.add_assoc, Nat.add_assoc, ← newlines_append, ← newlines_append,
                      ← List.append_assoc] at hnodes
                    exact ⟨_, r, .block hs hgap hlead hline hopens hbody htail hnodes⟩
termination_by s.length

/-- The reader gives a tree exactly where the rules lead from the beginning of the text to its end. -/
theorem read_eq_ok {s : Text} {body : Body} : Body.read s = .ok body ↔ Reads 1 s body [] := by
  constructor
  · intro h
    obtain ⟨nodes, r, hr⟩ := reads_of_readNodes h
    rw [Body.read, hr.readNodes_eq] at h
    rcases endsBody_iff.1 hr.endsBody with rfl | ⟨u, rfl⟩
    · obtain rfl : nodes = body := by simpa [resume] using h
      exact hr
    · simp [resume] at h
  · intro h
    rw [Body.read, h.readNodes_eq]
    simp [resume]

end JujuMigration
