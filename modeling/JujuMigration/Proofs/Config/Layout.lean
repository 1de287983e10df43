import JujuMigration.Proofs.Config.Reading
/-! Layout. A tree is laid out if every piece of it is read as what it is, wherever the tree stands. A tree that has
been read is laid out, and a tree that is laid out is read from its own text again, but for line numbers and for gaps
that stand side by side. -/

namespace JujuMigration

open Source

/-! ### Trees up to lines and adjacent gaps -/

def joinGap (text : Text) : Body → Body
  | .gap t :: nodes => .gap (text ++ t) :: nodes
  | nodes => gapNodes text ++ nodes

mutual

def Node.canonical : Node → Node
  | .gap text => .gap text
  | .attribute a => .attribute { a with line := 0 }
  | .block head body closing => .block { head with line := 0 } (Body.canonical body) closing

/-- The tree with adjacent gaps joined and without line numbers. -/
def Body.canonical : List Node → Body
  | [] => []
  | .gap text :: nodes => joinGap text (Body.canonical nodes)
  | node :: nodes => node.canonical :: Body.canonical nodes

end

theorem gapNodes_of_ne_nil {t : Text} (h : t ≠ []) : gapNodes t = [.gap t] := by
  rw [gapNodes, if_neg (by simpa using h)]

theorem eq_gap_of_mem_gapNodes {t : Text} {n : Node} (h : n ∈ gapNodes t) : ∃ t, n = .gap t := by
  unfold gapNodes at h
  split at h
  · cases h
  · exact ⟨t, List.mem_singleton.1 h⟩

theorem joinGap_nil (nodes : Body) : joinGap [] nodes = nodes := by
  unfold joinGap
  split <;> rfl

theorem joinGap_joinGap (t u : Text) (nodes : Body) : joinGap t (joinGap u nodes) = joinGap (t ++ u) nodes := by
  by_cases hu : u = []
  · rw [hu, joinGap_nil, List.append_nil]
  · have htu : t ++ u ≠ [] := by simp [hu]
    rcases nodes with _ | ⟨_ | _ | _, nodes⟩
    · simp [joinGap, gapNodes_of_ne_nil hu, gapNodes_of_ne_nil htu]
    · simp [joinGap]
    · simp [joinGap, gapNodes_of_ne_nil hu, gapNodes_of_ne_nil htu]
    · simp [joinGap, gapNodes_of_ne_nil hu, gapNodes_of_ne_nil htu]

namespace Body

theorem canonical_gap (t : Text) (nodes : Body) : canonical (.gap t :: nodes) = joinGap t (canonical nodes) := by
  rw [canonical]

theorem canonical_attribute (a : Attribute) (nodes : Body) :
    canonical (.attribute a :: nodes) = .attribute { a with line := 0 } :: canonical nodes := by
  rw [canonical, Node.canonical]
  simp

theorem canonical_block (head : BlockHead) (body : Body) (closing : Text) (nodes : Body) :
    canonical (.block head body closing :: nodes) =
      .block { head with line := 0 } (canonical body) closing :: canonical nodes := by
  rw [canonical, Node.canonical]
  simp

theorem canonical_gapNodes (t : Text) (nodes : Body) :
    canonical (gapNodes t ++ nodes) = joinGap t (canonical nodes) := by
  by_cases ht : t = []
  · rw [ht, joinGap_nil]
    rfl
  · rw [gapNodes_of_ne_nil ht, List.singleton_append, canonical_gap]

/-- Gaps alone are one gap. -/
theorem canonical_of_gaps {nodes : Body} (h : ∀ n ∈ nodes, ∃ t, n = .gap t) :
    canonical nodes = joinGap (render nodes) [] := by
  induction nodes with
  | nil => simp [canonical, joinGap, gapNodes]
  | cons n ns ih =>
      obtain ⟨⟨t, rfl⟩, hns⟩ := List.forall_mem_cons.1 h
      rw [canonical_gap, ih hns, joinGap_joinGap, render_cons, Node.render]

end Body

/-! ### What is found in a canonical tree -/

/-- The block without line numbers and with adjacent gaps joined. -/
def Block.canonical (b : Block) : Block := ⟨{ b.head with line := 0 }, Body.canonical b.body, b.closing⟩

namespace Body

theorem filterMap_joinGap {α : Type} {f : Node → Option α} (hf : ∀ t, f (.gap t) = none) (t : Text) (nodes : Body) :
    (joinGap t nodes).filterMap f = nodes.filterMap f := by
  have hgaps (t : Text) : (gapNodes t).filterMap f = [] := by
    unfold gapNodes
    split <;> simp [hf]
  rcases nodes with _ | ⟨_ | _ | _, nodes⟩ <;> simp [joinGap, hgaps, hf]

theorem attributes_canonical (body : Body) :
    attributes (canonical body) = (attributes body).map ({ · with line := 0 }) := by
  induction body with
  | nil => rfl
  | cons n ns ih =>
      rcases n with t | a | ⟨head, inner, closing⟩
      · rw [canonical_gap, attributes, filterMap_joinGap fun _ => rfl]
        exact ih
      · rw [canonical_attribute]
        exact congrArg _ ih
      · rw [canonical_block]
        exact ih

theorem blocks_canonical (body : Body) : blocks (canonical body) = (blocks body).map Block.canonical := by
  induction body with
  | nil => rfl
  | cons n ns ih =>
      rcases n with t | a | ⟨head, inner, closing⟩
      · rw [canonical_gap, blocks, filterMap_joinGap fun _ => rfl]
        exact ih
      · rw [canonical_attribute]
        exact ih
      · rw [canonical_block]
        exact congrArg _ ih

theorem attribute?_canonical (body : Body) (name : Text) :
    attribute? (canonical body) name = (attribute? body name).map ({ · with line := 0 }) := by
  rw [attribute?, attributes_canonical, List.find?_map]
  rfl

theorem block?_canonical (body : Body) (kind : Text) :
    block? (canonical body) kind = (block? body kind).map Block.canonical := by
  rw [block?, blocks_canonical, List.find?_map]
  rfl

end Body

/-! ### Trees that are laid out -/

/-- Every piece of the body is read as what it is, if `stop` begins what stands behind the body. -/
inductive Laid : Option Char → Body → Prop
  | nil {stop : Option Char} : Laid stop []
  | finish {nodes : Body} (hgaps : ∀ n ∈ nodes, ∃ t, n = .gap t) (h : skipGap (Body.render nodes) = .ok []) :
      Laid none nodes
  | gap {stop : Option Char} {t : Text} {nodes : Body} (ht : IsGap t)
      (htrim : nodes ≠ [] → Text.trimEnd isSpace t = t) (h : Laid stop nodes) : Laid stop (.gap t :: nodes)
  | field {stop : Option Char} {a : Attribute} {nodes : Body} (hlead : ∀ c ∈ a.lead, isSpace c = true)
      (hfits : ∀ r, (nodes = [] → r.head? = stop) → a.Fits r) (h : Laid stop nodes) :
      Laid stop (.attribute a :: nodes)
  | block {stop : Option Char} {head : BlockHead} {body nodes : Body} {tail : Text}
      (hlead : ∀ c ∈ head.lead, isSpace c = true) (hopens : head.Opens) (hbody : Laid (some '}') body)
      (htail : ∀ r, (nodes = [] → r.head? = stop) → skipLineTail (tail ++ r) = .ok r) (h : Laid stop nodes) :
      Laid stop (.block head body ('}' :: tail) :: nodes)

theorem trimEnd_trimEnd (t : Text) : Text.trimEnd isSpace (Text.trimEnd isSpace t) = Text.trimEnd isSpace t :=
  Text.trimEnd_eq_self (Text.getLast?_trimEnd isSpace t)

theorem isGap_indentation (gap : Text) : IsGap (indentation gap) :=
  isGap_of_forall fun c hc => isGapChar_of_isSpace (isSpace_of_mem_indentation c hc)

theorem Laid.gapNodes {stop : Option Char} {t : Text} {nodes : Body} (ht : IsGap t)
    (htrim : nodes ≠ [] → Text.trimEnd isSpace t = t) (h : Laid stop nodes) :
    Laid stop (gapNodes t ++ nodes) := by
  by_cases hn : t = []
  · rw [hn]
    exact h
  · rw [gapNodes_of_ne_nil hn]
    exact .gap ht htrim h

theorem isGap_of_skipGap {s gap r : Text} (hs : s = gap ++ r) (h : skipGap s = .ok r) (hr : r ≠ []) :
    IsGap (Text.trimEnd isSpace gap) := by
  obtain ⟨g, hg, hgap⟩ := skipGap_local h hr
  rw [hs] at hg
  rwa [List.append_cancel_right hg]

theorem skipGap_of_endsBody {r : Text} (h : endsBody r = true) : skipGap r = .ok r := by
  rcases endsBody_iff.1 h with rfl | ⟨t, rfl⟩
  · rw [skipGap]
  · exact skipGap_self rfl rfl

theorem gapNodes_nil : gapNodes [] = [] := rfl

/-- Where a body ends there is nothing more to read. -/
theorem Reads.eq_nil {line : Nat} {s r : Text} {nodes : Body} (h : Reads line s nodes r)
    (hs : Source.endsBody s = true) :
    nodes = [] ∧ s = r := by
  have hself := skipGap_of_endsBody hs
  cases h with
  | stop hs' hgap =>
      obtain rfl := Except.ok.inj (hself.symm.trans hgap)
      obtain rfl := List.append_left_eq_self.1 hs'.symm
      exact ⟨rfl, rfl⟩
  | field _ hgap _ _ hfits =>
      rw [Except.ok.inj (hself.symm.trans hgap), endsBody_of_opensIdentifier hfits.opensIdentifier] at hs
      cases hs
  | block _ hgap _ _ hopens =>
      rw [Except.ok.inj (hself.symm.trans hgap), endsBody_of_opensIdentifier (hopens.opensIdentifier _)] at hs
      cases hs

/-- What stands behind an item may be exchanged unless the item ends no line and stands last. -/
theorem follows_of_reads {line : Nat} {behind r r' tail : Text} {nodes : Body} (h : Reads line behind nodes r)
    (ht : skipLineTail (tail ++ behind) = .ok behind) (hr' : nodes = [] → r'.head? = r.head?) :
    Follows tail behind r' := by
  obtain ⟨q, hq, hf, -⟩ := skipLineTail_local ht
  obtain rfl : q = tail := (List.append_cancel_right hq).symm
  refine hf.imp_right fun ⟨he, _⟩ => ⟨he, ?_⟩
  obtain ⟨hn, rfl⟩ := h.eq_nil he
  exact hr' hn

theorem skipLineTail_follows {tail r r' : Text} (h : skipLineTail (tail ++ r) = .ok r) (hr : Follows tail r r') :
    skipLineTail (tail ++ r') = .ok r' := by
  obtain ⟨q, hq, -, hl⟩ := skipLineTail_local h
  obtain rfl : q = tail := (List.append_cancel_right hq).symm
  exact hl r' hr

/-- What has been read is laid out. -/
theorem Reads.laid {line : Nat} {s r : Text} {nodes : Body} (h : Reads line s nodes r) : Laid r.head? nodes := by
  induction h with
  | @stop _ s gap r hs hgap hr =>
      rcases endsBody_iff.1 hr with rfl | ⟨t, rfl⟩
      · refine .finish (fun n hn => ?_) ?_
        · rcases List.mem_append.1 hn with hn | hn <;> exact eq_gap_of_mem_gapNodes hn
        · rw [List.append_nil] at hs
          rwa [Body.render_append, render_gapNodes, render_gapNodes, trimEnd_append_indentation, ← hs]
      · refine .gapNodes (isGap_of_skipGap hs hgap (List.cons_ne_nil _ _)) (fun _ => trimEnd_trimEnd gap) ?_
        rw [← List.append_nil (JujuMigration.gapNodes (indentation gap))]
        exact .gapNodes (isGap_indentation gap) (fun h => absurd rfl h) .nil
  | @field _ s gap behind r a nodes hs hgap hlead hline hfits h ih =>
      refine .gapNodes (isGap_of_skipGap hs hgap (ne_nil_of_opensIdentifier hfits.opensIdentifier))
        (fun _ => trimEnd_trimEnd gap) ?_
      refine .field (hlead ▸ isSpace_of_mem_indentation) (fun r' hr' => ?_) ih
      exact hfits.follows (follows_of_reads h hfits.tail hr')
  | @block _ s gap inner tail behind r head body nodes hs hgap hlead hline hopens hbody htail h ih ih' =>
      refine .gapNodes (isGap_of_skipGap hs hgap (ne_nil_of_opensIdentifier (hopens.opensIdentifier inner)))
        (fun _ => trimEnd_trimEnd gap) ?_
      refine .block (hlead ▸ isSpace_of_mem_indentation) hopens ih (fun r' hr' => ?_) ih'
      exact skipLineTail_follows htail (follows_of_reads h htail hr')

/-! ### Reading again -/

theorem fits_line {a : Attribute} {r : Text} (h : a.Fits r) (line : Nat) : ({ a with line := line }).Fits r :=
  { h with }

theorem indentation_of_forall {t : Text} (h : ∀ c ∈ t, isSpace c = true) : indentation t = t := by
  rw [indentation, Text.trimEnd_eq_nil.2 h]
  rfl

theorem indentation_append {t : Text} (ht : Text.trimEnd isSpace t = t) (gap : Text) :
    Text.trimEnd isSpace (t ++ gap) = t ++ Text.trimEnd isSpace gap ∧ indentation (t ++ gap) = indentation gap := by
  have htrim : Text.trimEnd isSpace (t ++ gap) = t ++ Text.trimEnd isSpace gap := by
    by_cases he : Text.trimEnd isSpace gap = []
    · rw [Text.trimEnd_append_of_forall (Text.trimEnd_eq_nil.1 he), ht, he, List.append_nil]
    · exact Text.trimEnd_append_of_ne_nil he t
  refine ⟨htrim, ?_⟩
  rw [indentation, htrim, List.length_append, ← List.drop_drop, List.drop_left, indentation]

theorem canonical_stop (gap : Text) :
    Body.canonical (gapNodes (Text.trimEnd isSpace gap) ++ gapNodes (indentation gap)) = joinGap gap [] := by
  rw [← List.append_nil (gapNodes (indentation gap)), Body.canonical_gapNodes, Body.canonical_gapNodes,
    joinGap_joinGap, trimEnd_append_indentation, Body.canonical]

theorem joinGap_ne_nil {t : Text} {n : Node} {nodes : Body} : joinGap t (n :: nodes) ≠ [] := by
  cases n <;> simp [joinGap]

/-- One body stands behind the other; a gap that ends the first and one that begins the second may be one gap. -/
inductive Joins (front back : Body) : Body → Prop
  | apart : Joins front back (front ++ back)
  | joined {before behind : Body} {t u : Text} (hf : front = before ++ [.gap t]) (hb : back = .gap u :: behind) :
      Joins front back (before ++ .gap (t ++ u) :: behind)

theorem joins_gapNodes (t u : Text) (nodes : Body) :
    Joins (gapNodes t) (gapNodes u ++ nodes) (gapNodes (t ++ u) ++ nodes) := by
  by_cases ht : t = []
  · rw [ht, gapNodes_nil]
    exact .apart
  · by_cases hu : u = []
    · rw [hu, gapNodes_nil, List.append_nil]
      exact .apart
    · rw [gapNodes_of_ne_nil ht, gapNodes_of_ne_nil hu, gapNodes_of_ne_nil (by simp [ht])]
      exact @Joins.joined _ _ [] nodes t u rfl rfl

theorem Joins.canonical {t : Text} {nodes ms : Body} (h : Joins (JujuMigration.gapNodes t) nodes ms) :
    Body.canonical ms = joinGap t (Body.canonical nodes) := by
  cases h with
  | apart => exact Body.canonical_gapNodes t nodes
  | @joined before behind t' u hf hb =>
      have ht : t ≠ [] := by
        rintro rfl
        simp [gapNodes_nil] at hf
      rw [gapNodes_of_ne_nil ht] at hf
      obtain ⟨rfl, hlast⟩ : [] = before ∧ [Node.gap t] = [Node.gap t'] := List.append_inj' hf rfl
      obtain rfl := Node.gap.inj (List.cons.inj hlast).1
      rw [hb, List.nil_append, Body.canonical_gap, Body.canonical_gap, joinGap_joinGap]

/-- A gap that ends in no blank may be set in front of what is read. -/
theorem Reads.prepend_trimmed {line : Nat} {t s r : Text} {nodes : Body} (ht : IsGap t)
    (htrim : Text.trimEnd isSpace t = t)
    (h : Reads (line + Text.newlines t) s nodes r) :
    ∃ ms, Reads line (t ++ s) ms r ∧ Joins (JujuMigration.gapNodes t) nodes ms := by
  cases h with
  | @stop _ _ gap _ hs hgap hr =>
      obtain ⟨h1, h2⟩ := indentation_append htrim gap
      refine ⟨_, @Reads.stop _ _ (t ++ gap) _ (by rw [hs, List.append_assoc]) ((ht s).trans hgap) hr, ?_⟩
      rw [h1, h2]
      exact joins_gapNodes _ _ _
  | @field _ _ gap behind _ a nodes hs hgap hlead hline hfits h =>
      obtain ⟨h1, h2⟩ := indentation_append htrim gap
      refine ⟨_, @Reads.field _ _ (t ++ gap) _ _ _ _ (by rw [hs, List.append_assoc]) ((ht s).trans hgap) (h2 ▸ hlead)
        ?_ hfits h, ?_⟩
      · rw [hline, newlines_append, Nat.add_assoc]
      · rw [h1]
        exact joins_gapNodes _ _ _
  | @block _ _ gap inner tail behind _ head body nodes hs hgap hlead hline hopens hbody htail h =>
      obtain ⟨h1, h2⟩ := indentation_append htrim gap
      refine ⟨_, @Reads.block _ _ (t ++ gap) _ _ _ _ _ _ _ (by rw [hs, List.append_assoc]) ((ht s).trans hgap)
        (h2 ▸ hlead) ?_ hopens hbody htail h, ?_⟩
      · rw [hline, newlines_append, Nat.add_assoc]
      · rw [h1]
        exact joins_gapNodes _ _ _

/-- A gap may be set in front of what is read. -/
theorem Reads.prepend_gap {line : Nat} {t s r : Text} {nodes : Body} (ht : IsGap t)
    (htrim : Body.canonical nodes ≠ [] → Text.trimEnd isSpace t = t)
    (h : Reads (line + Text.newlines t) s nodes r) :
    ∃ ms, Reads line (t ++ s) ms r ∧ Body.canonical ms = joinGap t (Body.canonical nodes) := by
  by_cases htrimmed : Text.trimEnd isSpace t = t
  · obtain ⟨ms, hms, hjoins⟩ := h.prepend_trimmed ht htrimmed
    exact ⟨ms, hms, hjoins.canonical⟩
  · have hnil : Body.canonical nodes = [] := by
      by_contra hne
      exact htrimmed (htrim hne)
    cases h with
    | @stop _ _ gap _ hs hgap hr =>
        refine ⟨_, @Reads.stop _ _ (t ++ gap) _ (by rw [hs, List.append_assoc]) ((ht s).trans hgap) hr, ?_⟩
        rw [canonical_stop, canonical_stop, joinGap_joinGap]
    | field =>
        rw [Body.canonical_gapNodes, Body.canonical_attribute] at hnil
        exact absurd hnil joinGap_ne_nil
    | block =>
        rw [Body.canonical_gapNodes, Body.canonical_block] at hnil
        exact absurd hnil joinGap_ne_nil

/-- A tree that is laid out is read from its own text. -/
theorem Laid.reads {stop : Option Char} {nodes : Body} (h : Laid stop nodes) {r : Text} (hr : r.head? = stop)
    (hend : endsBody r = true) (line : Nat) :
    ∃ ms, Reads line (Body.render nodes ++ r) ms r ∧ Body.canonical ms = Body.canonical nodes := by
  induction h generalizing r line with
  | nil =>
      exact ⟨_, @Reads.stop _ _ [] _ rfl (skipGap_of_endsBody hend) hend, rfl⟩
  | @finish nodes hgaps h =>
      obtain rfl : r = [] := List.head?_eq_none_iff.1 hr
      refine ⟨_, @Reads.stop _ _ (Body.render nodes) _ rfl (by rwa [List.append_nil]) hend, ?_⟩
      rw [canonical_stop, Body.canonical_of_gaps hgaps]
  | @gap stop t nodes ht htrim h ih =>
      obtain ⟨ms, hms, hc⟩ := ih hr hend (line + Text.newlines t)
      obtain ⟨ms', hms', hc'⟩ := hms.prepend_gap ht fun hne => htrim fun hn => hne (by rw [hc, hn]; rfl)
      refine ⟨ms', ?_, ?_⟩
      · simpa [Node.render] using hms'
      · rw [hc', hc, Body.canonical_gap]
  | @field stop a nodes hlead hfits h ih =>
      obtain ⟨ms, hms, hc⟩ := ih hr hend (line + Text.newlines a.lead + Text.newlines a.text)
      have hfit := hfits (Body.render nodes ++ r) fun hn => by rw [hn]; exact hr
      have hs : Body.render (.attribute a :: nodes) ++ r = a.lead ++ (a.text ++ (Body.render nodes ++ r)) := by
        simp [Node.render, a.render_eq]
      rw [hs]
      refine ⟨_, @Reads.field _ _ a.lead _ _ { a with line := line + Text.newlines a.lead } _ rfl ?_
        (indentation_of_forall hlead).symm rfl (fits_line hfit _) hms, ?_⟩
      · rw [isGap_of_forall fun c hc => isGapChar_of_isSpace (hlead c hc)]
        exact skipGap_of_opensIdentifier hfit.opensIdentifier
      · rw [Text.trimEnd_eq_nil.2 hlead, gapNodes_nil, List.nil_append, Body.canonical_attribute,
          Body.canonical_attribute, hc]
  | @block stop head body nodes tail hlead hopens hbody htail h ih ih' =>
      obtain ⟨bs, hbs, hcb⟩ := ih (r := '}' :: (tail ++ (Body.render nodes ++ r))) rfl rfl
        (line + Text.newlines head.lead + Text.newlines head.header)
      obtain ⟨ms, hms, hc⟩ := ih' hr hend
        (line + Text.newlines head.lead + Text.newlines (head.header ++ Body.render bs ++ '}' :: tail))
      have hs : Body.render (.block head body ('}' :: tail) :: nodes) ++ r =
          head.lead ++ (head.header ++ (Body.render body ++ '}' :: (tail ++ (Body.render nodes ++ r)))) := by
        simp [Node.render]
      rw [hs]
      refine ⟨_, @Reads.block _ _ head.lead _ _ _ _ { head with line := line + Text.newlines head.lead } _ _ rfl ?_
        (indentation_of_forall hlead).symm rfl hopens hbs (htail _ fun hn => by rw [hn]; exact hr) hms, ?_⟩
      · rw [isGap_of_forall fun c hc => isGapChar_of_isSpace (hlead c hc)]
        exact skipGap_of_opensIdentifier (hopens.opensIdentifier _)
      · rw [Text.trimEnd_eq_nil.2 hlead, gapNodes_nil, List.nil_append, Body.canonical_block, Body.canonical_block,
          hc, hcb]

end JujuMigration
