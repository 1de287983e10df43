import JujuMigration.Proofs.Config.Reading
/-! Where reading fails. Every fault lies in the text that was read, at its end at the latest, and the text from there
on bears out what the message says. Each scanner passes the faults of the scanners it calls on, and keeps of the text
that it takes a place at most: the opening of what it has not seen the end of. -/

namespace JujuMigration

namespace Source

/-- What the text from the place of a fault on must be for the cause to be true. -/
def Cause.IsSeen : Cause → Text → Prop
  | .unterminatedComment, t => opensBlockComment t = true
  | .notEndOfLine c, t => t.head? = some c
  | .notIdentifier c, t => t.head? = c ∧ opensIdentifier t = false
  | .unterminatedString, t => t.head? = some '"'
  | .malformedHeredoc, t => opensHeredoc t = false
  | .unclosedHeredoc marker, t => ∃ body, heredocMarker? t = some (marker, body)
  | .unbalanced c, t => t.head? = some c ∧ isCloser c = true
  | .mismatched c, t => t.head? = some c ∧ isCloser c = true
  | .unexpectedEnd, t => t = []
  | .unexpectedBrace, t => t.head? = some '}'
  | .missingExpression _, t => lacksExpression t = true
  | .notLabel _, t => t.head? ≠ some '"' ∧ t.head? ≠ some '{' ∧ opensIdentifier t = false
  | .unterminatedInterpolation, _ => True
  | .unclosedBracket, _ => True

/-- The fault lies in the text, and its cause is seen there. -/
structure Fault.IsIn (f : Fault) (s : Text) : Prop where
  suffix : f.rest <:+ s
  seen : f.cause.IsSeen f.rest

variable {s t : Text} {f : Fault}

theorem Fault.IsIn.mono (h : f.IsIn t) (ht : t <:+ s) : f.IsIn s := ⟨h.suffix.trans ht, h.seen⟩

/-! ### Comments, gaps and the ends of lines -/

theorem skipComment_fault (h : skipComment s = .error f) : f.IsIn s := by
  unfold skipComment at h
  split at h
  · next hblock =>
      unfold skipBlockComment at h
      split at h
      · cases h
      · obtain rfl := Except.error.inj h
        exact ⟨List.suffix_refl s, hblock⟩
  · cases h

theorem skipGap_fault (h : skipGap s = .error f) : f.IsIn s := by
  fun_induction skipGap s with
  | case1 => cases h
  | case2 c t hc ih => exact (ih h).mono (List.suffix_cons c t)
  | case3 c t _ _ rest hk _ ih => exact (ih h).mono (skipComment_suffix hk)
  | case4 c t _ _ g hk =>
      obtain rfl := Except.error.inj h
      exact skipComment_fault hk
  | case5 => cases h

theorem skipLineTail_fault (h : skipLineTail s = .error f) : f.IsIn s := by
  fun_induction skipLineTail s with
  | case1 | case2 | case3 | case4 => cases h
  | case5 s c t hs _ _ _ _ rest hk _ _ ih =>
      exact (ih h).mono ((skipComment_suffix hk).trans (hs ▸ skipSpaces_suffix s))
  | case6 s c t hs _ _ _ _ g hk =>
      obtain rfl := Except.error.inj h
      exact (skipComment_fault hk).mono (hs ▸ skipSpaces_suffix s)
  | case7 s c t hs =>
      obtain rfl := Except.error.inj h
      exact ⟨hs ▸ skipSpaces_suffix s, rfl⟩

/-! ### Templates and heredocs -/

/-- The scan of a template fails with the fault of a frame that is not closed, one of those that are open from the start
or one that is opened in the text. -/
theorem scanFrame_error {P : Fault → Prop} {frame : Frame} {outer : List Frame} (hs : s <:+ t)
    (hquote : ∀ q, '"' :: q <:+ t → P (Frame.quoted ('"' :: q)).fault) (hhole : ∀ q, q <:+ t → P (Frame.hole q 0).fault)
    (hopen : ∀ g ∈ frame :: outer, P g.fault) (h : scanFrame frame outer s = .error f) : P f := by
  have hcons {c : Char} {r : Text} (h : c :: r <:+ t) : r <:+ t := (List.suffix_cons c r).trans h
  fun_induction scanFrame frame outer s with
  | case1 frame =>
      obtain rfl := Except.error.inj h
      exact hopen frame List.mem_cons_self
  | case2 s | case6 s =>
      obtain rfl := Except.error.inj h
      exact hopen (.quoted s) List.mem_cons_self
  | case3 s outer c q ih => exact ih (hcons (hcons hs)) hopen h
  | case4 | case15 => cases h
  | case5 s q frame outer _ ih => exact ih (hcons hs) (fun g hg => hopen g (List.mem_cons_of_mem _ hg)) h
  | case7 s outer c _ _ _ _ q ih =>
      have hq := hcons (hcons hs)
      exact ih hq (List.forall_mem_cons.2 ⟨hhole q hq, hopen⟩) h
  | case8 s outer c q _ _ _ _ _ ih => exact ih (hcons (hcons (hcons hs))) hopen h
  | case9 s outer c _ _ _ _ d q _ _ ih => exact ih (hcons hs) hopen h
  | case10 s outer c _ _ _ _ q _ _ ih => exact ih (hcons hs) hopen h
  | case11 s outer c q _ _ _ _ ih => exact ih (hcons hs) hopen h
  | case12 s n outer q ih => exact ih (hcons hs) (List.forall_mem_cons.2 ⟨hquote q hs, hopen⟩) h
  | case13 s n outer q _ ih =>
      obtain ⟨hfirst, houter⟩ := List.forall_mem_cons.1 hopen
      exact ih (hcons hs) (List.forall_mem_cons.2 ⟨hfirst, houter⟩) h
  | case14 s q n outer _ _ ih =>
      obtain ⟨hfirst, houter⟩ := List.forall_mem_cons.1 hopen
      exact ih (hcons hs) (List.forall_mem_cons.2 ⟨hfirst, houter⟩) h
  | case16 s q frame outer _ _ ih => exact ih (hcons hs) (fun g hg => hopen g (List.mem_cons_of_mem _ hg)) h
  | case17 s n outer c q _ _ _ ih => exact ih (hcons hs) hopen h

theorem scanFrame_fault {frame : Frame} {outer : List Frame} (hs : s <:+ t)
    (hopen : ∀ g ∈ frame :: outer, g.fault.IsIn t) (h : scanFrame frame outer s = .error f) : f.IsIn t :=
  scanFrame_error (P := (Fault.IsIn · t)) hs (fun _ hq => ⟨hq, rfl⟩) (fun _ hq => ⟨hq, trivial⟩) hopen h

theorem scanString_fault (hs : s.head? = some '"') (h : scanString s = .error f) : f.IsIn s := by
  have hopen : (Frame.quoted s).fault.IsIn s := ⟨List.suffix_refl s, hs⟩
  exact scanFrame_fault (List.drop_suffix 1 s) (List.forall_mem_cons.2 ⟨hopen, List.forall_mem_nil _⟩) h

theorem scanHeredoc_fault (h : scanHeredoc s = .error f) : f.IsIn s := by
  unfold scanHeredoc at h
  split at h
  · next hnone =>
      obtain rfl := Except.error.inj h
      exact ⟨List.suffix_refl s, by simp [Cause.IsSeen, opensHeredoc, hnone]⟩
  · next marker body hmarker =>
      split at h
      · obtain rfl := Except.error.inj h
        exact ⟨List.suffix_refl s, body, hmarker⟩
      · cases h

/-! ### Expressions -/

theorem scanBracketed_fault {start : Text} {awaited : List Char} (hstart : start <:+ t) (hs : s <:+ t)
    (h : scanBracketed start awaited s = .error f) : f.IsIn t := by
  fun_induction scanBracketed start awaited s with
  | case1 | case10 | case12 | case15 => cases h
  | case2 =>
      obtain rfl := Except.error.inj h
      exact ⟨hstart, trivial⟩
  | case3 awaited q rest hscan _ ih => exact ih ((scanString_suffix hscan).trans hs) h
  | case4 awaited q g hscan =>
      obtain rfl := Except.error.inj h
      exact (scanString_fault rfl hscan).mono hs
  | case5 awaited c q _ _ rest hscan _ ih => exact ih ((scanHeredoc_suffix hscan).1.trans hs) h
  | case6 awaited c q _ _ g hscan =>
      obtain rfl := Except.error.inj h
      exact (scanHeredoc_fault hscan).mono hs
  | case7 awaited c q _ _ closing _ ih => exact ih ((List.suffix_cons c q).trans hs) h
  | case8 q closing outer _ _ _ _ ih => exact ih ((List.suffix_cons closing q).trans hs) h
  | case9 c q _ _ hcloser =>
      obtain rfl := Except.error.inj h
      exact ⟨hs, rfl, hcloser⟩
  | case11 c q _ _ hcloser =>
      obtain rfl := Except.error.inj h
      exact ⟨hs, rfl, hcloser⟩
  | case13 awaited c q _ _ _ _ _ rest hskip _ _ ih => exact ih ((skipComment_suffix hskip).trans hs) h
  | case14 awaited c q _ _ _ _ _ g hskip =>
      obtain rfl := Except.error.inj h
      exact (skipComment_fault hskip).mono hs
  | case16 awaited c q _ _ _ _ _ _ ih => exact ih ((List.suffix_cons c q).trans hs) h

theorem scanExpression_fault (h : scanExpression s = .error f) : f.IsIn s :=
  scanBracketed_fault (List.suffix_refl s) (List.suffix_refl s) h

/-! ### Names -/

theorem readIdentifier_fault (h : readIdentifier s = .error f) : f.IsIn s := by
  unfold readIdentifier at h
  split at h
  · cases h
  · next ho =>
      obtain rfl := Except.error.inj h
      exact ⟨List.suffix_refl s, rfl, Bool.eq_false_iff.2 ho⟩

theorem readLabel_fault (h : readLabel s = .error f) : f.IsIn s := by
  unfold readLabel at h
  split at h
  · next r =>
      cases hscan : scanString ('"' :: r) with
      | error g =>
          rw [hscan] at h
          obtain rfl := Except.error.inj h
          exact scanString_fault rfl hscan
      | ok rest =>
          rw [hscan] at h
          cases h
  · exact readIdentifier_fault h

end Source

open Source

variable {s : Text} {f : Fault}

/-! ### Items -/

theorem readLabels_fault {kind : Text} {done : List Text} (h : readLabels kind done s = .error f) : f.IsIn s := by
  fun_induction readLabels kind done s with
  | case1 => cases h
  | case2 done s _ _ label rest hlabel _ _ ih =>
      exact (ih h).mono ((skipSpaces_suffix rest).trans (readLabel_suffix hlabel).1)
  | case3 done s _ _ g hlabel =>
      obtain rfl := Except.error.inj h
      exact readLabel_fault hlabel
  | case4 done s hbrace hlabel =>
      obtain rfl := Except.error.inj h
      obtain ⟨hquote, hname⟩ := not_or.1 hlabel
      refine ⟨List.suffix_refl s, hquote, fun hhead => ?_, Bool.eq_false_iff.2 hname⟩
      obtain ⟨r, rfl⟩ := List.head?_eq_some_iff.1 hhead
      exact hbrace r rfl

theorem readAttribute_fault {lead name afterName : Text} {line : Nat}
    (h : readAttribute lead line name afterName s = .error f) : f.IsIn s := by
  have hvalue : skipSpaces (s.drop 1) <:+ s := (skipSpaces_suffix _).trans (List.drop_suffix 1 s)
  unfold readAttribute at h
  simp only [bind, Except.bind] at h
  split at h
  · next hlacks =>
      obtain rfl := Except.error.inj h
      exact ⟨hvalue, hlacks⟩
  · split at h
    · next g hscan =>
        obtain rfl := Except.error.inj h
        exact (scanExpression_fault hscan).mono hvalue
    · next stop _ =>
        split at h
        · next g htail =>
            obtain rfl := Except.error.inj h
            exact (skipLineTail_fault htail).mono ((List.drop_suffix _ _).trans hvalue)
        · cases h

theorem readItem_fault {lead : Text} {line : Nat} (h : readItem lead line s = .error f) : f.IsIn s := by
  unfold readItem at h
  simp only [bind, Except.bind] at h
  split at h
  · next g hname =>
      obtain rfl := Except.error.inj h
      exact readIdentifier_fault hname
  · next named hname =>
      obtain ⟨name, afterName⟩ := named
      have hcursor : skipSpaces afterName <:+ s := (skipSpaces_suffix _).trans (readIdentifier_suffix hname).1
      dsimp only at h
      split at h
      · exact (readAttribute_fault h).mono hcursor
      · split at h
        · next g hlabels =>
            obtain rfl := Except.error.inj h
            exact (readLabels_fault hlabels).mono hcursor
        · cases h

/-! ### Bodies -/

theorem readNodes_fault {outer : List OpenBlock} {nodes : List Node} {line : Nat} {s : Text}
    (h : readNodes outer nodes line s = .error f) : f.IsIn s := by
  cases hgap : skipGap s with
  | error g =>
      rw [readNodes.eq_def] at h
      split at h
      · next g' hfault =>
          obtain rfl := Except.error.inj h
          exact skipGap_fault hfault
      · next hok => cases hgap.symm.trans hok
  | ok t =>
      have ht : t <:+ s := skipGap_suffix hgap
      rw [readNodes_eq (Text.before_append_self ht).symm hgap] at h
      split at h
      · next hends =>
          rcases endsBody_iff.1 hends with rfl | ⟨r, rfl⟩
          · cases outer with
            | nil => cases h
            | cons block outer =>
                obtain rfl := Except.error.inj h
                exact ⟨List.nil_suffix, rfl⟩
          · have hr : r <:+ s := (List.suffix_cons '}' r).trans ht
            cases outer with
            | nil =>
                obtain rfl := Except.error.inj h
                exact ⟨ht, rfl⟩
            | cons block outer =>
                rw [resume] at h
                split at h
                · next g htail =>
                    obtain rfl := Except.error.inj h
                    exact (skipLineTail_fault htail).mono hr
                · next behind htail =>
                    have hbehind := skipLineTail_suffix htail
                    have : behind.length < s.length :=
                      Nat.lt_of_lt_of_le (Nat.lt_succ_of_le hbehind.length_le) ht.length_le
                    exact (readNodes_fault h).mono (hbehind.trans hr)
      · cases hitem : readItem (indentation (Text.before t s)) (line + Text.newlines (Text.before t s)) t with
        | error g =>
            rw [hitem] at h
            obtain rfl := Except.error.inj h
            exact (readItem_fault hitem).mono ht
        | ok item =>
            rw [hitem] at h
            obtain ⟨hrest, hlt⟩ := readItem_suffix hitem
            have hlt : item.rest.length < s.length := Nat.lt_of_lt_of_le hlt ht.length_le
            rcases item with ⟨a, behind⟩ | ⟨head, behind⟩
            · exact (readNodes_fault h).mono (hrest.trans ht)
            · exact (readNodes_fault h).mono (hrest.trans ht)
termination_by s.length

/-- A text that cannot be read has a fault at a place of its own. -/
theorem read_fault (h : Body.read s = .error f) : f.IsIn s := readNodes_fault h

end JujuMigration
