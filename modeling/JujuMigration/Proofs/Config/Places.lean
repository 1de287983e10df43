import JujuMigration.Proofs.Config.Fault
import JujuMigration.Proofs.Source.Position
import JujuMigration.Upgrade.Document
/-! Where nodes are. The line of an attribute or a block is kept while the reader goes over the text, and it is the line
of the place at which the tree renders the node's name, at whatever depth the node stands. -/

namespace JujuMigration

open Source

/-! ### Nodes and what is rendered in front of them -/

/-- The indentation of an attribute or a block. -/
def Node.lead : Node → Text
  | .gap _ => []
  | .attribute a => a.lead
  | .block head _ _ => head.lead

/-- The name of an attribute, or the kind of a block. -/
def Node.name : Node → Text
  | .gap _ => []
  | .attribute a => a.name
  | .block head _ _ => head.kind

def Node.line? : Node → Option Nat
  | .gap _ => none
  | .attribute a => some a.line
  | .block head _ _ => some head.line

/-- The node stands in the body, at any depth, and `front` is everything that the body renders in front of it. -/
inductive Body.Holds : Body → Node → Text → Prop
  | here {n : Node} {nodes : Body} : Holds (n :: nodes) n []
  | behind {m n : Node} {nodes : Body} {front : Text} (h : Holds nodes n front) :
      Holds (m :: nodes) n (m.render ++ front)
  | inside {head : BlockHead} {body nodes : Body} {closing front : Text} {n : Node} (h : Holds body n front) :
      Holds (.block head body closing :: nodes) n (head.lead ++ (head.header ++ front))

namespace Body

variable {n : Node} {nodes nodes' : Body} {front t : Text}

theorem Holds.render_prefix (h : Holds nodes n front) : front ++ n.render <+: render nodes := by
  induction h with
  | @here n nodes => exact ⟨render nodes, by simp⟩
  | @behind m n nodes front _ ih =>
      obtain ⟨r, hr⟩ := ih
      exact ⟨r, by rw [render_cons, ← hr]; simp⟩
  | @inside head body nodes closing front n _ ih =>
      obtain ⟨r, hr⟩ := ih
      exact ⟨r ++ (closing ++ render nodes), by rw [render_cons, Node.render, ← hr]; simp⟩

/-- A node of two bodies, one behind the other, stands in one of them. -/
theorem Holds.of_append (h : Holds (nodes ++ nodes') n front) :
    Holds nodes n front ∨ ∃ t, front = render nodes ++ t ∧ Holds nodes' n t := by
  induction nodes generalizing front with
  | nil => exact .inr ⟨front, rfl, h⟩
  | cons m nodes ih =>
      cases h with
      | here => exact .inl .here
      | behind h =>
          rcases ih h with hnodes | ⟨t, rfl, hnodes'⟩
          · exact .inl (.behind hnodes)
          · exact .inr ⟨t, by rw [render_cons, List.append_assoc], hnodes'⟩
      | inside h => exact .inl (.inside h)

theorem Holds.append (h : Holds nodes' n front) (nodes : Body) : Holds (nodes ++ nodes') n (render nodes ++ front) := by
  induction nodes with
  | nil => exact h
  | cons m nodes ih =>
      rw [render_cons, List.append_assoc]
      exact .behind ih

theorem exists_holds_attribute {a : Attribute} (h : a ∈ attributes nodes) :
    ∃ front, Holds nodes (.attribute a) front := by
  obtain ⟨before, after, rfl⟩ := List.append_of_mem (mem_attributes.1 h)
  exact ⟨_, Holds.here.append before⟩

theorem Holds.of_mem_blocks {b : Block} (h : Holds b.body n front) (hb : b ∈ blocks nodes) :
    ∃ front, Holds nodes n front := by
  obtain ⟨before, after, rfl⟩ := List.append_of_mem (mem_blocks.1 hb)
  exact ⟨_, (Holds.inside h).append before⟩

/-- A gap has no line. -/
theorem Holds.line?_of_gap (h : Holds (gapNodes t) n front) : n.line? = none := by
  unfold gapNodes at h
  split at h
  · cases h
  · cases h with
    | here => rfl
    | behind h => cases h

end Body

theorem newlines_gap (gap : Text) :
    Text.newlines gap = Text.newlines (Text.trimEnd isSpace gap) + Text.newlines (indentation gap) := by
  rw [← newlines_append, trimEnd_append_indentation]

/-! ### The lines of nodes -/

variable {line l : Nat} {s r front : Text} {nodes : Body} {n : Node}

/-- A node's line counts the line feeds in front of its name, and there the node begins with its name. -/
theorem Reads.line_of_holds (h : Reads line s nodes r) (hn : nodes.Holds n front) (hl : n.line? = some l) :
    l = line + Text.newlines (front ++ n.lead) ∧ n.lead ++ n.name <+: n.render := by
  have hgap {t : Text} {rest : Body} {front : Text} (h : Body.Holds (gapNodes t ++ rest) n front) :
      ∃ t', front = t ++ t' ∧ rest.Holds n t' := by
    rcases h.of_append with hgap | ⟨t', rfl, hrest⟩
    · rw [hgap.line?_of_gap] at hl
      cases hl
    · exact ⟨t', by rw [render_gapNodes], hrest⟩
  induction h generalizing front with
  | stop =>
      obtain ⟨t, -, hend⟩ := hgap hn
      rw [hend.line?_of_gap] at hl
      cases hl
  | @field line s gap behind r a nodes hs _ hlead hline hfits _ ih =>
      obtain ⟨t, rfl, hnode⟩ := hgap hn
      cases hnode with
      | here =>
          obtain rfl := Option.some.inj hl
          refine ⟨?_, a.sep ++ (a.expr ++ a.tail), by simp [Node.lead, Node.name, Node.render, Attribute.render]⟩
          rw [hline, Node.lead, hlead, List.append_nil, trimEnd_append_indentation]
      | behind hbehind =>
          obtain ⟨hcount, hname⟩ := ih hbehind
          refine ⟨?_, hname⟩
          rw [hcount, hline, Node.render, a.render_eq, hlead]
          simp only [newlines_append, newlines_gap gap]
          omega
  | @block line s gap inner tail behind r head body nodes hs _ hlead hline hopens _ _ _ ihbody ih =>
      obtain ⟨t, rfl, hnode⟩ := hgap hn
      cases hnode with
      | here =>
          obtain rfl := Option.some.inj hl
          obtain ⟨x, hx⟩ := hopens.kind_prefix
          refine ⟨?_, x ++ (Body.render body ++ '}' :: tail), ?_⟩
          · rw [hline, Node.lead, hlead, List.append_nil, trimEnd_append_indentation]
          · simp [Node.lead, Node.name, Node.render, ← hx]
      | behind hbehind =>
          obtain ⟨hcount, hname⟩ := ih hbehind
          refine ⟨?_, hname⟩
          rw [hcount, hline, Node.render, hlead]
          simp only [newlines_append, newlines_gap gap]
          omega
      | inside hinside =>
          obtain ⟨hcount, hname⟩ := ihbody hinside
          refine ⟨?_, hname⟩
          rw [hcount, hline, hlead]
          simp only [newlines_append, newlines_gap gap]
          omega

/-- The names of the nodes of a tree are where the tree renders them, and their lines are those of the text there. -/
theorem line_of_read (h : Body.read s = .ok nodes) (hn : nodes.Holds n front) (hl : n.line? = some l) :
    (front ++ n.lead) ++ n.name <+: s ∧ l = 1 + Text.newlines (front ++ n.lead) ∧
      l = (Position.ofOffset s (front ++ n.lead).length).line := by
  have hreads := read_eq_ok.1 h
  obtain ⟨hcount, hname⟩ := hreads.line_of_holds hn hl
  have hrender : s = Body.render nodes := hreads.render.trans (List.append_nil _)
  have hinside : (front ++ n.lead) ++ n.name <+: s := by
    rw [hrender, List.append_assoc]
    exact ((List.prefix_append_right_inj front).2 hname).trans hn.render_prefix
  refine ⟨hinside, hcount, ?_⟩
  obtain ⟨back, hback⟩ := hinside
  rw [← hback, List.append_assoc, Position.ofOffset_append, hcount]

/-- A refusal has the position of an offset at which the text bears it out. -/
theorem Document.readBody_error {file : Text} {e : ParseError} (h : Document.readBody file s = .error e) :
    ∃ f p, Body.read s = .error f ∧ f.IsIn s ∧ p ≤ s.length ∧ s.drop p = f.rest ∧
      e = ⟨file, some (Position.ofOffset s p), f.cause.message⟩ := by
  rw [Document.readBody] at h
  split at h
  · cases h
  · next f hread =>
      have hin := read_fault hread
      refine ⟨f, s.length - f.rest.length, hread, hin, Nat.sub_le _ _, ?_, (Except.error.inj h).symm⟩
      exact (List.suffix_iff_eq_drop.1 hin.suffix).symm

/-- Offsets have their own positions, in order; the nodes of a tree that is read have the lines of their names, and the
refusal of a text that is not read has the position of one of its offsets. -/
theorem places_in_text (file s : Text) :
    (∀ p ≤ s.length, Position.ofOffset s p = ⟨1 + Text.newlines (s.take p), 1 + Text.sinceLine (s.take p)⟩) ∧
      (∀ p q, p < q → q ≤ s.length → Position.ofOffset s p < Position.ofOffset s q ∧
        Position.ofOffset s p ≠ Position.ofOffset s q) ∧
      (∀ tree, Body.read s = .ok tree → ∀ n front l, Body.Holds tree n front → n.line? = some l →
        (front ++ n.lead) ++ n.name <+: s ∧ l = 1 + Text.newlines (front ++ n.lead) ∧
          l = (Position.ofOffset s (front ++ n.lead).length).line) ∧
      (∀ e, Document.readBody file s = .error e → ∃ f p, Body.read s = .error f ∧ f.IsIn s ∧ p ≤ s.length ∧
        s.drop p = f.rest ∧ e = ⟨file, some (Position.ofOffset s p), f.cause.message⟩) := by
  refine ⟨fun p hp => Position.ofOffset_eq hp, fun p q hpq hq => ?_, fun tree h n front l hn hl => ?_, fun e h => ?_⟩
  · have hlt := Position.ofOffset_lt hpq hq
    exact ⟨hlt, Position.ne_of_lt hlt⟩
  · exact line_of_read h hn hl
  · exact Document.readBody_error h

/-- An attribute over several lines with a heredoc in it, and a block behind a comment of two lines. -/
def placedSource : Text :=
  "# a\r\nb = f(\n<<X\n\x7d\nX\n)\nc \"d\" \x7b\r\n  /* e\n  */ g = 1 # h\n\x7d\n".toList

/-- A text that ends where a block is still open. -/
def openSource : Text := "a \x7b\n  b = 1\n".toList

theorem places_in_text_nested :
    Position.ofOffset placedSource 53 = ⟨10, 1⟩ ∧
      Position.ofOffset placedSource 4 < Position.ofOffset placedSource 5 ∧
      (∃ tree a front, Body.read placedSource = .ok tree ∧ Body.Holds tree (.attribute a) front ∧ a.name = ['g'] ∧
        a.line = 9 ∧ a.line = 1 + Text.newlines (front ++ a.lead)) ∧
      ∃ e f, Document.readBody [] openSource = .error e ∧ Body.read openSource = .error f ∧ f.IsIn openSource ∧
        e.place = some ⟨3, 1⟩ := by
  obtain ⟨hposition, horder, hlines, -⟩ := places_in_text [] placedSource
  obtain ⟨-, -, -, hrefused⟩ := places_in_text [] openSource
  refine ⟨(hposition 53 (by decide +kernel)).trans (by decide +kernel), (horder 4 5 (by decide) (by decide +kernel)).1,
    ?_, ?_⟩
  · have hnamed : (Body.read placedSource).toOption.bind (fun tree => (Body.blocks tree)[0]?.bind fun b =>
        (Body.attributes b.body)[0]?.map fun a => (a.name, a.line)) = some (['g'], 9) := by decide +kernel
    cases hread : Body.read placedSource with
    | error f =>
        rw [hread] at hnamed
        cases hnamed
    | ok tree =>
        rw [hread] at hnamed
        have hat : ((Body.blocks tree)[0]?.bind fun b =>
          (Body.attributes b.body)[0]?.map fun a => (a.name, a.line)) = some (['g'], 9) := hnamed
        obtain ⟨b, hb, ha⟩ := Option.bind_eq_some_iff.1 hat
        obtain ⟨a, ha, hvalues⟩ := Option.map_eq_some_iff.1 ha
        obtain ⟨hname, hline⟩ := Prod.mk.inj hvalues
        obtain ⟨inner, hinner⟩ := Body.exists_holds_attribute (List.mem_of_getElem? ha)
        obtain ⟨front, hfront⟩ := hinner.of_mem_blocks (List.mem_of_getElem? hb)
        exact ⟨tree, a, front, rfl, hfront, hname, hline, (hlines tree hread _ _ _ hfront rfl).2.1⟩
  · have hplace : (match Document.readBody [] openSource with | .ok _ => none | .error e => e.place) = some ⟨3, 1⟩ := by
      decide +kernel
    cases hread : Document.readBody [] openSource with
    | ok tree =>
        rw [hread] at hplace
        cases hplace
    | error e =>
        rw [hread] at hplace
        obtain ⟨f, p, hf, hin, -⟩ := hrefused e hread
        exact ⟨e, f, rfl, hf, hin, hplace⟩

end JujuMigration
