import JujuMigration.Proofs.Config.Lines
/-! Texts that are read one behind the other. Nothing that is read from a text whose last line is ended reaches into
what stands behind the text, so that a second text is read there as it is read alone, but for its line numbers. -/

namespace JujuMigration

open Source

/-! ### What stands behind -/

/-- A gap ends in front of an item or of the end of a body, whichever it is. -/
theorem skipGap_exchange {gap r r' : Text} (h : skipGap (gap ++ r) = .ok r) (hr : r ≠ []) (hr' : skipGap r' = .ok r') :
    skipGap (gap ++ r') = .ok r' := by
  rw [← trimEnd_append_indentation_append, isGap_of_skipGap rfl h hr, isGap_indentation, hr']

/-- A gap in front of an item is one in front of every item. -/
theorem skipGap_item {s gap item item' : Text} (hs : s = gap ++ item) (hgap : skipGap s = .ok item)
    (h : opensIdentifier item = true) (h' : opensIdentifier item' = true) : skipGap (gap ++ item') = .ok item' := by
  rw [hs] at hgap
  exact skipGap_exchange hgap (ne_nil_of_opensIdentifier h) (skipGap_of_opensIdentifier h')

/-- What has been read is read in front of everything that begins as what stood behind it. -/
theorem Reads.exchange {line : Nat} {s r : Text} {nodes : Body} (h : Reads line s nodes r) {r' : Text}
    (hr : r'.head? = r.head?) : Reads line (Body.render nodes ++ r') nodes r' := by
  induction h generalizing r' with
  | @stop line s gap r hs hgap hends =>
      have hends' : Source.endsBody r' = true := by rwa [Source.endsBody, hr]
      have htext :
          Body.render (gapNodes (Text.trimEnd isSpace gap) ++ gapNodes (indentation gap)) ++ r' = gap ++ r' := by
        rw [Body.render_append, render_gapNodes, render_gapNodes, trimEnd_append_indentation]
      rw [htext]
      refine .stop rfl ?_ hends'
      by_cases hnil : r = []
      · subst hnil
        obtain rfl : r' = [] := List.head?_eq_none_iff.1 hr
        rwa [← hs]
      · rw [hs] at hgap
        exact skipGap_exchange hgap hnil (skipGap_of_endsBody hends')
  | @field line s gap behind r a nodes hs hgap hlead hline hfits h ih =>
      have htext : Body.render (gapNodes (Text.trimEnd isSpace gap) ++ .attribute a :: nodes) ++ r' =
          gap ++ (a.text ++ (Body.render nodes ++ r')) := by
        simp [Node.render, a.render_eq, hlead, trimEnd_append_indentation_append]
      have hfits' : a.Fits (Body.render nodes ++ r') := by
        apply hfits.follows
        apply follows_of_reads h hfits.tail
        rintro rfl
        exact hr
      rw [htext]
      have hgap' := skipGap_item hs hgap hfits.opensIdentifier hfits'.opensIdentifier
      exact .field rfl hgap' hlead hline hfits' (ih hr)
  | @block line s gap inner tail behind r head body nodes hs hgap hlead hline hopens hbody htail h ih ih' =>
      have htext : Body.render (gapNodes (Text.trimEnd isSpace gap) ++ .block head body ('}' :: tail) :: nodes) ++ r' =
          gap ++ (head.header ++ (Body.render body ++ '}' :: (tail ++ (Body.render nodes ++ r')))) := by
        simp [Node.render, hlead, trimEnd_append_indentation_append]
      have htail' : skipLineTail (tail ++ (Body.render nodes ++ r')) = .ok (Body.render nodes ++ r') := by
        apply skipLineTail_follows htail
        apply follows_of_reads h htail
        rintro rfl
        exact hr
      rw [htext]
      have hopens' := hopens.opensIdentifier (Body.render body ++ '}' :: (tail ++ (Body.render nodes ++ r')))
      have hgap' := skipGap_item hs hgap (hopens.opensIdentifier inner) hopens'
      exact .block rfl hgap' hlead hline hopens (ih rfl) htail' (ih' hr)

/-! ### Ends of lines -/

/-- An attribute that is the last of everything ends its line itself. -/
theorem Attribute.Fits.getLast?_tail {a : Attribute} (h : a.Fits []) (hend : a.text.getLast? = some '\n') :
    a.tail.getLast? = some '\n' := by
  obtain ⟨b, stop, hb, -, hscan⟩ := h.stop
  rw [Attribute.text] at hend
  by_cases hnil : a.tail = []
  · rw [hnil, List.append_nil] at hb
    obtain ⟨rfl, rfl⟩ := List.append_eq_nil_iff.1 hb.symm
    rw [hnil, List.append_nil, List.append_nil] at hscan
    have hlast := (scanExpression_eq_ok.1 hscan).ends (List.append_nil _).symm
    rw [hnil, List.append_nil, ← List.append_assoc, List.getLast?_append_of_ne_nil _ h.nonempty] at hend
    exact absurd hend hlast
  · rwa [← List.append_assoc, ← List.append_assoc, List.getLast?_append_of_ne_nil _ hnil] at hend

/-- What ends its line may stand in front of more. -/
theorem follows_append {line : Nat} {tail behind : Text} {nodes : Body} (h : Reads line behind nodes [])
    (htail : skipLineTail (tail ++ behind) = .ok behind) (hend : behind = [] → tail.getLast? = some '\n') (b : Text) :
    Follows tail behind (behind ++ b) := by
  obtain ⟨q, hq, hf, -⟩ := skipLineTail_local htail
  obtain rfl : q = tail := (List.append_cancel_right hq).symm
  rcases hf with hline | ⟨hends, -⟩
  · exact .inl hline
  · exact .inl (hend (h.eq_nil hends).2)

theorem getLast?_behind {p behind : Text} (hend : (p ++ behind).getLast? = some '\n') :
    (behind ≠ [] → behind.getLast? = some '\n') ∧ (behind = [] → p.getLast? = some '\n') := by
  constructor
  · intro hne
    rwa [List.getLast?_append_of_ne_nil _ hne] at hend
  · rintro rfl
    rwa [List.append_nil] at hend

/-! ### One text behind the other -/

theorem Joins.prepend {front back nodes : Body} (h : Joins front back nodes) (p : Body) :
    Joins (p ++ front) back (p ++ nodes) := by
  cases h with
  | apart =>
      rw [← List.append_assoc]
      exact .apart
  | @joined before behind t u hf hb =>
      rw [← List.append_assoc]
      exact .joined (by rw [hf, List.append_assoc]) hb

/-- A text whose last line is ended, if it has one, is read in front of another as it is read alone. -/
theorem Reads.append {line : Nat} {s b : Text} {front back : Body} (h : Reads line s front [])
    (hend : s ≠ [] → s.getLast? = some '\n') (hb : Reads (line + Text.newlines s) b back []) :
    ∃ nodes, Reads line (s ++ b) nodes [] ∧ Joins front back nodes := by
  generalize hnil : ([] : Text) = r at h
  induction h with
  | @stop line s gap r hs hgap hends =>
      subst hnil
      obtain rfl : s = gap := by rw [hs, List.append_nil]
      by_cases hgapnil : s = []
      · subst hgapnil
        exact ⟨back, hb, .apart⟩
      · have hlast := hend hgapnil
        have htrim : Text.trimEnd isSpace s = s := Text.trimEnd_eq_self (by rw [hlast]; rfl)
        have hindent : indentation s = [] := by rw [indentation, htrim, List.drop_length]
        obtain ⟨nodes, hreads, hjoins⟩ := hb.prepend_trimmed (isGap_of_line_end hgap hlast) htrim
        rw [htrim, hindent, gapNodes_nil, List.append_nil]
        exact ⟨nodes, hreads, hjoins⟩
  | @field line s gap behind r a nodes hs hgap hlead hline hfits h ih =>
      subst hnil
      have hne : a.text ++ behind ≠ [] := ne_nil_of_opensIdentifier hfits.opensIdentifier
      have hlast : (a.text ++ behind).getLast? = some '\n' := by
        have hlast := hend (by simp [hs, hne])
        rwa [hs, List.getLast?_append_of_ne_nil _ hne] at hlast
      obtain ⟨hbehind, htext⟩ := getLast?_behind hlast
      have htail : behind = [] → a.tail.getLast? = some '\n' := by
        rintro rfl
        exact hfits.getLast?_tail (htext rfl)
      have hfits' := hfits.follows (follows_append h hfits.tail htail b)
      have hb' : Reads (a.line + Text.newlines a.text + Text.newlines behind) b back [] := by
        rw [hs, newlines_append, newlines_append] at hb
        rwa [hline, Nat.add_assoc, Nat.add_assoc]
      obtain ⟨nodes', hreads, hjoins⟩ := ih hbehind hb' rfl
      have hs' : s ++ b = gap ++ (a.text ++ (behind ++ b)) := by simp [hs]
      have hgap' := skipGap_item hs hgap hfits.opensIdentifier hfits'.opensIdentifier
      refine ⟨_, @Reads.field _ _ gap _ _ _ _ hs' ?_ hlead hline hfits' hreads,
        (hjoins.prepend [.attribute a]).prepend _⟩
      rw [hs']
      exact hgap'
  | @block line s gap inner tail behind r head body nodes hs hgap hlead hline hopens hbody htail h _ ih =>
      subst hnil
      have hinner : inner = Body.render body ++ '}' :: (tail ++ behind) := hbody.render
      have hlast : ('}' :: tail ++ behind).getLast? = some '\n' := by
        have hlast := hend (by simp [hs, hinner])
        rwa [hs, hinner, List.getLast?_append_of_ne_nil _ (by simp), List.getLast?_append_of_ne_nil _ (by simp),
          List.getLast?_append_of_ne_nil _ (by simp)] at hlast
      obtain ⟨hbehind, hclosing⟩ := getLast?_behind hlast
      have hline' : behind = [] → tail.getLast? = some '\n' := by
        intro hnil
        have hlast := hclosing hnil
        cases tail with
        | nil => exact absurd (Option.some.inj hlast) (by decide)
        | cons c tail => rwa [List.getLast?_cons_cons] at hlast
      have htail' := skipLineTail_follows htail (follows_append h htail hline' b)
      have hb' :
          Reads (head.line + Text.newlines (head.header ++ Body.render body ++ '}' :: tail) + Text.newlines behind)
            b back [] := by
        have hcount : line + Text.newlines s =
            head.line + Text.newlines (head.header ++ Body.render body ++ '}' :: tail) + Text.newlines behind := by
          rw [hs, hinner, hline, ← List.cons_append]
          simp only [newlines_append]
          omega
        rwa [hcount] at hb
      obtain ⟨nodes', hreads, hjoins⟩ := ih hbehind hb' rfl
      have hbody' :
          Reads (head.line + Text.newlines head.header) (inner ++ b) body ('}' :: (tail ++ (behind ++ b))) := by
        rw [show inner ++ b = Body.render body ++ '}' :: (tail ++ (behind ++ b)) by simp [hinner]]
        exact hbody.exchange rfl
      have hs' : s ++ b = gap ++ (head.header ++ (inner ++ b)) := by simp [hs]
      have hgap' := skipGap_item hs hgap (hopens.opensIdentifier inner) (hopens.opensIdentifier (inner ++ b))
      refine ⟨_, @Reads.block _ _ gap _ _ _ _ _ _ _ hs' ?_ hlead hline hopens hbody' htail' hreads,
        (hjoins.prepend [.block head body ('}' :: tail)]).prepend _⟩
      rw [hs']
      exact hgap'

/-- Two texts that are read, the first empty or with its last line ended, are read one behind the other: the nodes of
the second stand behind those of the first, further down by the lines of the first. -/
theorem read_append {a b : Text} {front back : Body} (ha : Body.read a = .ok front) (hb : Body.read b = .ok back)
    (hend : a ≠ [] → a.getLast? = some '\n') :
    ∃ nodes, Body.read (a ++ b) = .ok nodes ∧ Joins front (back.shift (Text.newlines a)) nodes := by
  obtain ⟨nodes, hreads, hjoins⟩ :=
    (read_eq_ok.1 ha).append hend ((read_eq_ok.1 hb).shift (Text.newlines a))
  exact ⟨nodes, read_eq_ok.2 hreads, hjoins⟩

end JujuMigration
