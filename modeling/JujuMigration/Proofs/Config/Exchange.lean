import JujuMigration.Proofs.Config.Comment
/-! Reading a text in which one comment is another. Wherever the reader comes upon the comment, it reads the same tree
with the other one, but for the piece that holds the comment and for line numbers. -/

namespace JujuMigration

open Source

variable {c c' q : Text}

/-! ### Bodies from any line on -/

theorem Attribute.Varies.moved {i j : Nat} {a a' : Attribute} (h : a.Varies c c' i j a') (line : Nat) :
    a.Varies c c' i j { a' with line := line } :=
  ⟨h.lead, h.name, h.sep, h.expr, h.tail⟩

theorem Attribute.Varies.refl (c c' : Text) (a : Attribute) : a.Varies c c' 0 0 a :=
  ⟨rfl, rfl, rfl, .same a.expr, .refl c c' a.tail⟩

theorem Body.varies_gapNodes {i k : Nat} {t t' : Text} {ns ns' : Body} (ht : Text.Varies c c' i t t')
    (h : Varies c c' k ns ns') : Varies c c' (i + k) (gapNodes t ++ ns) (gapNodes t' ++ ns') := by
  apply Varies.gaps (fun n hn => eq_gap_of_mem_gapNodes hn) (fun n hn => eq_gap_of_mem_gapNodes hn) _ rfl h
  rw [render_gapNodes, render_gapNodes]
  exact ht

/-- From every line on, what is read of the text varies from the body in `k` comments. -/
def ReadsVaried (c c' : Text) (k : Nat) (nodes : Body) (s r : Text) : Prop :=
  ∀ line, ∃ nodes', Reads line s nodes' r ∧ Body.Varies c c' k nodes nodes'

section

variable {m i j k k' line : Nat} {s r gap gap' : Text} {nodes : Body}

theorem ReadsVaried.field {behind' : Text} {a a' : Attribute} (h : ReadsVaried c c' k nodes behind' r)
    (ht : Text.Varies c c' m (Text.trimEnd isSpace gap) (Text.trimEnd isSpace gap'))
    (hgap : skipGap (gap' ++ (a'.text ++ behind')) = .ok (a'.text ++ behind')) (hlead : a'.lead = indentation gap')
    (hfits : a'.Fits behind') (ha : a.Varies c c' i j a') (hk : k' = m + (i + j + k)) :
    ReadsVaried c c' k' (gapNodes (Text.trimEnd isSpace gap) ++ .attribute a :: nodes) (gap' ++ (a'.text ++ behind'))
      r := by
  intro line
  obtain ⟨nodes', hnodes, hvaries⟩ := h (line + Text.newlines gap' + Text.newlines a'.text)
  have hread := @Reads.field _ _ _ _ _ { a' with line := line + Text.newlines gap' } _ rfl hgap hlead rfl
    (fits_line hfits _) hnodes
  rw [hk]
  exact ⟨_, hread, Body.varies_gapNodes ht (.field (ha.moved _) rfl hvaries)⟩

theorem ReadsVaried.block {inner' tail tail' behind' : Text} {head : BlockHead} {body : Body}
    (hbody : ReadsVaried c c' i body inner' ('}' :: (tail' ++ behind'))) (h : ReadsVaried c c' k nodes behind' r)
    (ht : Text.Varies c c' m (Text.trimEnd isSpace gap) (Text.trimEnd isSpace gap'))
    (hgap : skipGap (gap' ++ (head.header ++ inner')) = .ok (head.header ++ inner'))
    (hlead : head.lead = indentation gap') (hopens : head.Opens)
    (htail : skipLineTail (tail' ++ behind') = .ok behind') (hclosing : Text.Varies c c' j ('}' :: tail) ('}' :: tail'))
    (hk : k' = m + (i + j + k)) :
    ReadsVaried c c' k' (gapNodes (Text.trimEnd isSpace gap) ++ .block head body ('}' :: tail) :: nodes)
      (gap' ++ (head.header ++ inner')) r := by
  intro line
  obtain ⟨body', hbody', hinner⟩ := hbody (line + Text.newlines gap' + Text.newlines head.header)
  obtain ⟨nodes', hnodes, hvaries⟩ :=
    h (line + Text.newlines gap' + Text.newlines (head.header ++ Body.render body' ++ '}' :: tail'))
  have hread := @Reads.block _ _ _ _ _ _ _ { head with line := line + Text.newlines gap' } _ _ rfl hgap hlead rfl hopens
    hbody' htail hnodes
  rw [hk]
  exact ⟨_, hread, Body.varies_gapNodes ht (.block rfl hinner hclosing rfl hvaries)⟩

/-- A body reads the same from every line on, but for the numbers of its lines. -/
theorem Reads.readsVaried (h : Reads line s nodes r) (c c' : Text) : ReadsVaried c c' 0 nodes s r := by
  induction h with
  | @stop line s gap r hs hgap hr =>
      intro line'
      refine ⟨_, .stop hs hgap hr, ?_⟩
      have hindent := Body.varies_gapNodes (.refl c c' (indentation gap)) (@Body.Varies.nil c c')
      rw [List.append_nil] at hindent
      exact Body.varies_gapNodes (.refl c c' _) hindent
  | field hs hgap hlead hline hfits h ih =>
      subst hs
      exact ih.field (.refl c c' _) hgap hlead hfits (.refl c c' _) rfl
  | block hs hgap hlead hline hopens hbody htail h ih ih' =>
      subst hs
      exact ih.block ih' (.refl c c' _) hgap hlead hopens htail (.refl c c' _) rfl

/-- What ends a line in front of the comment ends it in front of the other one. -/
theorem follows_exchange {tail behind p : Text} (he : Exchanges c c' q) (hbehind : behind = p ++ (c ++ q))
    (htail : skipLineTail (tail ++ behind) = .ok behind) : Follows tail behind (p ++ (c' ++ q)) := by
  obtain ⟨w, hw, hf, -⟩ := skipLineTail_local htail
  obtain rfl : w = tail := (List.append_cancel_right hw).symm
  apply hf.imp_right
  rintro ⟨hends, -⟩
  refine ⟨hends, ?_⟩
  rw [hbehind]
  exact (he.style.alike p q q).symm.head?

/-! ### Bodies with another comment -/

/-- The comment stands in the body that is read from `s`, and with the other comment the body varies in this place. -/
def ExchangedIn (c c' q s : Text) (nodes : Body) (r : Text) : Prop :=
  ∃ p v, s = p ++ (c ++ q) ∧ q = v ++ r ∧ ReadsVaried c c' 1 nodes (p ++ (c' ++ q)) r

theorem exchangedIn_gap_stop (he : Exchanges c c' q) (hs : s = gap ++ r) (hgap : skipGap s = .ok r)
    (hr : endsBody r = true) (h : Skips isGapChar c q s) :
    ExchangedIn c c' q s (gapNodes (Text.trimEnd isSpace gap) ++ gapNodes (indentation gap)) r := by
  obtain ⟨u, v, rfl, rfl, hother⟩ := exchange_gap he hs hgap h
  refine ⟨u, v, by rw [hs]; simp, rfl, fun line => ?_⟩
  refine ⟨_, @Reads.stop _ _ (u ++ (c' ++ v)) _ (by simp) hother hr, ?_⟩
  have hgaps {t : Text} (n : Node) (hn : n ∈ gapNodes (Text.trimEnd isSpace t) ++ gapNodes (indentation t)) :
      ∃ t, n = .gap t := by
    rcases List.mem_append.1 hn with hn | hn <;> exact eq_gap_of_mem_gapNodes hn
  have htext : Text.Varies c c' 1
      (Body.render (gapNodes (Text.trimEnd isSpace (u ++ (c ++ v))) ++ gapNodes (indentation (u ++ (c ++ v)))))
      (Body.render (gapNodes (Text.trimEnd isSpace (u ++ (c' ++ v))) ++ gapNodes (indentation (u ++ (c' ++ v))))) := by
    rw [Body.render_append, Body.render_append, render_gapNodes, render_gapNodes, render_gapNodes, render_gapNodes,
      trimEnd_append_indentation, trimEnd_append_indentation]
    exact .one u v
  have hvaries := Body.Varies.gaps hgaps hgaps htext rfl (@Body.Varies.nil c c')
  rwa [List.append_nil, List.append_nil] at hvaries

/-! ### In front of an attribute, in it and behind it -/

section

variable {behind u v : Text} {a : Attribute}

/-- Where the comment is in an attribute, the attribute may be exchanged for one that varies. -/
theorem exchangedIn_attribute (a' : Attribute) (hs : s = gap ++ (a.text ++ behind))
    (hgap : skipGap s = .ok (a.text ++ behind)) (hlead : a.lead = indentation gap) (hfits : a.Fits behind)
    (hfits' : a'.Fits behind) (hvaries : a.Varies c c' i j a') (hcount : i + j = 1) (htext : a.text = u ++ (c ++ v))
    (htext' : a'.text = u ++ (c' ++ v)) (hq : q = v ++ behind) (h : Reads line behind nodes r) :
    ExchangedIn c c' q s (gapNodes (Text.trimEnd isSpace gap) ++ .attribute a :: nodes) r := by
  refine ⟨gap ++ u, v ++ Body.render nodes, ?_, ?_, ?_⟩
  · rw [hs, htext, hq]
    simp
  · rw [hq, List.append_assoc, ← h.render]
  · have hs' : gap ++ u ++ (c' ++ q) = gap ++ (a'.text ++ behind) := by
      rw [htext', hq]
      simp
    rw [hs']
    have hgap' := skipGap_item hs hgap hfits.opensIdentifier hfits'.opensIdentifier
    exact (h.readsVaried c c').field (.refl c c' _) hgap' (hvaries.lead.trans hlead) hfits' hvaries (by omega)

theorem exchangedIn_gap_field (he : Exchanges c c' q)
    (hs : s = gap ++ (a.text ++ behind)) (hgap : skipGap s = .ok (a.text ++ behind)) (hlead : a.lead = indentation gap)
    (hfits : a.Fits behind) (h : Reads line behind nodes r) (hm : Skips isGapChar c q s) :
    ExchangedIn c c' q s (gapNodes (Text.trimEnd isSpace gap) ++ .attribute a :: nodes) r := by
  obtain ⟨u, v, rfl, hq, hother⟩ := exchange_gap he hs hgap hm
  obtain ⟨hindent, htrim⟩ := exchange_indentation he hq hfits.opensIdentifier u
  refine ⟨u, v ++ (a.text ++ Body.render nodes), ?_, ?_, ?_⟩
  · rw [hs, hq]
    simp
  · rw [hq, h.render]
    simp
  · have hs' : u ++ (c' ++ q) = u ++ (c' ++ v) ++ (a.text ++ behind) := by
      rw [hq]
      simp
    rw [hs'] at hother ⊢
    exact (h.readsVaried c c').field htrim hother (hlead.trans hindent.symm) hfits (.refl c c' a) rfl

/-- Where the comment is behind an attribute, the attribute is read as before. -/
theorem exchangedIn_past_field (he : Exchanges c c' q)
    (hs : s = gap ++ (a.text ++ behind)) (hgap : skipGap s = .ok (a.text ++ behind)) (hlead : a.lead = indentation gap)
    (hfits : a.Fits behind) (hm : ExchangedIn c c' q behind nodes r) :
    ExchangedIn c c' q s (gapNodes (Text.trimEnd isSpace gap) ++ .attribute a :: nodes) r := by
  obtain ⟨p, v, hp, hq, hread⟩ := hm
  refine ⟨gap ++ (a.text ++ p), v, ?_, hq, ?_⟩
  · rw [hs, hp]
    simp
  · have hs' : gap ++ (a.text ++ p) ++ (c' ++ q) = gap ++ (a.text ++ (p ++ (c' ++ q))) := by simp
    have hfits' : a.Fits (p ++ (c' ++ q)) := hfits.follows (follows_exchange he hp hfits.tail)
    rw [hs']
    have hgap' := skipGap_item hs hgap hfits.opensIdentifier hfits'.opensIdentifier
    exact hread.field (.refl c c' _) hgap' hlead hfits' (.refl c c' a) rfl

theorem exchangedIn_field (he : Exchanges c c' q) (hs : s = gap ++ (a.text ++ behind))
    (hgap : skipGap s = .ok (a.text ++ behind)) (hlead : a.lead = indentation gap) (hfits : a.Fits behind)
    (h : Reads line behind nodes r)
    (hm : Skips isGapChar c q s ∨ Skips isSpace c q (a.tail ++ behind) ∨
      InBrackets c q [] (a.expr ++ (a.tail ++ behind))) :
    ExchangedIn c c' q s (gapNodes (Text.trimEnd isSpace gap) ++ .attribute a :: nodes) r := by
  rcases hm with hm | hm | hm
  · exact exchangedIn_gap_field he hs hgap hlead hfits h hm
  · obtain ⟨u, v, htail, hq, hother⟩ := exchange_tail he hfits.tail hm
    have hl : Alike (a.tail ++ behind) (u ++ (c' ++ v) ++ behind) := by
      rw [htail, List.append_assoc, List.append_assoc, List.append_assoc, List.append_assoc]
      exact he.style.alike u _ _
    have hvaries : a.Varies c c' 0 1 { a with tail := u ++ (c' ++ v) } :=
      ⟨rfl, rfl, rfl, .same a.expr, htail ▸ .one u v⟩
    apply exchangedIn_attribute (u := a.name ++ (a.sep ++ (a.expr ++ u))) (v := v) _ hs hgap hlead hfits
      (hfits.of_alike hl hother) hvaries rfl _ _ hq h
    · rw [Attribute.text, htail]
      simp
    · simp [Attribute.text]
  · obtain ⟨u, v, d, hexpr, hq, hd, hord, hfits'⟩ := hfits.exchange he hm
    have hvaries : a.Varies c c' 1 0 { a with expr := u ++ (c' ++ v) } :=
      ⟨rfl, rfl, rfl, hexpr ▸ .inside u hd hord, .refl c c' a.tail⟩
    apply exchangedIn_attribute (u := a.name ++ (a.sep ++ u)) (v := v ++ a.tail) _ hs hgap hlead hfits hfits'
      hvaries rfl
      _ _ _ h
    · rw [Attribute.text, hexpr]
      simp
    · simp [Attribute.text]
    · rw [hq]
      simp

end

/-! ### In front of a block, in it and behind it -/

section

variable {inner tail behind : Text} {head : BlockHead} {body : Body}

theorem exchangedIn_gap_block (he : Exchanges c c' q) (hs : s = gap ++ (head.header ++ inner))
    (hgap : skipGap s = .ok (head.header ++ inner)) (hlead : head.lead = indentation gap) (hopens : head.Opens)
    (hbody : Reads (head.line + Text.newlines head.header) inner body ('}' :: (tail ++ behind)))
    (htail : skipLineTail (tail ++ behind) = .ok behind) (h : Reads line behind nodes r) (hm : Skips isGapChar c q s) :
    ExchangedIn c c' q s (gapNodes (Text.trimEnd isSpace gap) ++ .block head body ('}' :: tail) :: nodes) r := by
  obtain ⟨u, v, rfl, hq, hother⟩ := exchange_gap he hs hgap hm
  obtain ⟨hindent, htrim⟩ := exchange_indentation he hq (hopens.opensIdentifier inner) u
  refine ⟨u, v ++ (head.header ++ (Body.render body ++ '}' :: (tail ++ Body.render nodes))), ?_, ?_, ?_⟩
  · rw [hs, hq]
    simp
  · rw [hq, hbody.render, h.render]
    simp
  · have hs' : u ++ (c' ++ q) = u ++ (c' ++ v) ++ (head.header ++ inner) := by
      rw [hq]
      simp
    rw [hs'] at hother ⊢
    exact (hbody.readsVaried c c').block (h.readsVaried c c') htrim hother (hlead.trans hindent.symm) hopens htail
      (.refl c c' _) rfl

/-- Where the comment is behind the head of a block, the body and what is behind it may be exchanged for others. -/
theorem exchangedIn_past_head {tail' behind' u v : Text} (hs : s = gap ++ (head.header ++ inner))
    (hgap : skipGap s = .ok (head.header ++ inner)) (hlead : head.lead = indentation gap) (hopens : head.Opens)
    (hbody : ReadsVaried c c' i body (u ++ (c' ++ q)) ('}' :: (tail' ++ behind')))
    (htail : skipLineTail (tail' ++ behind') = .ok behind') (hclosing : Text.Varies c c' j ('}' :: tail) ('}' :: tail'))
    (h : ReadsVaried c c' k nodes behind' r) (hcount : i + j + k = 1) (hinner : inner = u ++ (c ++ q))
    (hq : q = v ++ r) :
    ExchangedIn c c' q s (gapNodes (Text.trimEnd isSpace gap) ++ .block head body ('}' :: tail) :: nodes) r := by
  refine ⟨gap ++ (head.header ++ u), v, ?_, hq, ?_⟩
  · rw [hs, hinner]
    simp
  · have hs' : gap ++ (head.header ++ u) ++ (c' ++ q) = gap ++ (head.header ++ (u ++ (c' ++ q))) := by simp
    rw [hs']
    have hgap' := skipGap_item hs hgap (hopens.opensIdentifier inner) (hopens.opensIdentifier (u ++ (c' ++ q)))
    exact hbody.block h (.refl c c' _) hgap' hlead hopens htail hclosing (by omega)

/-- Where the comment is behind the brace that closes a block, the body in front of it is read as before. -/
theorem exchangedIn_past_body (he : Exchanges c c' q) (hs : s = gap ++ (head.header ++ inner))
    (hgap : skipGap s = .ok (head.header ++ inner)) (hlead : head.lead = indentation gap) (hopens : head.Opens)
    (hbody : Reads (head.line + Text.newlines head.header) inner body ('}' :: (tail ++ behind)))
    (htail : skipLineTail (tail ++ behind) = .ok behind) (h : Reads line behind nodes r)
    (hm : Skips isSpace c q (tail ++ behind) ∨ ExchangedIn c c' q behind nodes r) :
    ExchangedIn c c' q s (gapNodes (Text.trimEnd isSpace gap) ++ .block head body ('}' :: tail) :: nodes) r := by
  have rebody {x tail' behind' : Text} (hx : x = Body.render body ++ '}' :: (tail' ++ behind')) :
      ReadsVaried c c' 0 body x ('}' :: (tail' ++ behind')) := by
    rw [hx]
    have hagain : Reads _ (Body.render body ++ '}' :: (tail' ++ behind')) body ('}' :: (tail' ++ behind')) :=
      hbody.exchange rfl
    exact hagain.readsVaried c c'
  rcases hm with hm | ⟨p, v, hp, hq, hread⟩
  · obtain ⟨u, v, rfl, hq, hother⟩ := exchange_tail he htail hm
    apply exchangedIn_past_head (u := Body.render body ++ '}' :: u) (v := v ++ Body.render nodes) hs hgap hlead hopens
      (rebody _) hother (.cons '}' (.one u v)) (h.readsVaried c c') rfl
    · rw [hbody.render, hq]
      simp
    · rw [hq, h.render]
      simp
    · rw [hq]
      simp
  · have htail' := skipLineTail_follows htail (follows_exchange he hp htail)
    apply exchangedIn_past_head (u := Body.render body ++ '}' :: (tail ++ p)) (v := v) hs hgap hlead hopens (rebody _)
      htail' (.refl c c' _) hread rfl
    · rw [hbody.render, hp]
      simp
    · exact hq
    · simp

end

/-- With the other comment the reader reads the same, if it comes upon the comment in the body. -/
theorem Reads.exchange_comment (h : Reads line s nodes r) (he : Exchanges c c' q) (hm : Meets c q s) :
    ExchangedIn c c' q s nodes r ∨ ∃ t, r = '}' :: t ∧ MeetsBehind c q t := by
  induction h with
  | stop hs hgap hr => exact (hm.of_stop hgap hr).imp_left (exchangedIn_gap_stop he hs hgap hr)
  | field hs hgap hlead hline hfits h ih =>
      rcases hm.of_field hgap hfits with hm | hm | hm | hm
      · exact .inl (exchangedIn_field he hs hgap hlead hfits h (.inl hm))
      · exact .inl (exchangedIn_field he hs hgap hlead hfits h (.inr (.inl hm)))
      · exact .inl (exchangedIn_field he hs hgap hlead hfits h (.inr (.inr hm)))
      · exact (ih hm).imp_left (exchangedIn_past_field he hs hgap hlead hfits)
  | @block _ _ _ _ tail _ _ _ _ nodes hs hgap hlead hline hopens hbody htail h ih ih' =>
      rcases hm.of_head hgap hopens with hm | hm
      · exact .inl (exchangedIn_gap_block he hs hgap hlead hopens hbody htail h hm)
      · -- The comment is in the body of the block, or behind the brace that closes it.
        rcases ih hm with ⟨p, v, hp, hq, hread⟩ | ⟨t, ht, hm⟩
        · left
          apply exchangedIn_past_head (v := v ++ '}' :: (tail ++ Body.render nodes)) hs hgap hlead hopens hread htail
            (.refl c c' _)
            (h.readsVaried c c') rfl hp
          rw [hq, h.render]
          simp
        · obtain rfl := (List.cons.inj ht).2
          rcases hm with hm | ⟨behind, hbehind, hm⟩
          · exact .inl (exchangedIn_past_body he hs hgap hlead hopens hbody htail h (.inl hm))
          · obtain rfl := Except.ok.inj (htail.symm.trans hbehind)
            refine (ih' hm).imp_left fun hm => ?_
            exact exchangedIn_past_body he hs hgap hlead hopens hbody htail h (.inr hm)

end

/-- A text that is read is read with another comment in place of one that the reader comes upon, and the trees vary in
this place. -/
theorem read_exchange_comment {s : Text} {body : Body} (h : Body.read s = .ok body) (he : Exchanges c c' q)
    (hm : Meets c q s) :
    ∃ p, s = p ++ (c ++ q) ∧ ∃ body', Body.read (p ++ (c' ++ q)) = .ok body' ∧ Body.Varies c c' 1 body body' := by
  rcases (read_eq_ok.1 h).exchange_comment he hm with ⟨p, v, hp, -, hread⟩ | ⟨t, ht, -⟩
  · obtain ⟨body', hbody', hvaries⟩ := hread 1
    exact ⟨p, hp, body', read_eq_ok.2 hbody', hvaries⟩
  · cases ht

end JujuMigration
