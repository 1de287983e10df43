import JujuMigration.Config.Reader
import JujuMigration.Proofs.Source.Gap
/-! Items. What the reader takes for an attribute is described by its parts alone, so that an attribute can be looked
at again after a part has changed; the head of a block is read in front of every text. -/

namespace JujuMigration

open Source

/-! ### Attributes -/

/-- Blanks around an equals sign. -/
def IsSeparator (s : Text) : Prop :=
  ∃ a b, s = a ++ '=' :: b ∧ (∀ c ∈ a, isSpace c = true) ∧ ∀ c ∈ b, isSpace c = true

namespace Attribute

/-- The attribute without its indentation. -/
def text (a : Attribute) : Text := a.name ++ (a.sep ++ (a.expr ++ a.tail))

theorem render_eq (a : Attribute) : a.render = a.lead ++ a.text := by simp [render, text]

/-- The attribute's parts are what the reader finds in its text in front of `r`. -/
structure Fits (a : Attribute) (r : Text) : Prop where
  name : IsIdentifier a.name
  sep : IsSeparator a.sep
  /-- The equals sign does not become half of a comparison. -/
  value : a.sep.getLast? = some '=' → a.expr.head? ≠ some '='
  nonempty : a.expr ≠ []
  start : a.expr.head?.any isSpace = false
  trimmed : Text.trimEnd isSpace a.expr = a.expr
  expr : stopsExpression (a.expr ++ (a.tail ++ r)) = false
  stop : ∃ b stop, a.tail ++ r = b ++ stop ∧ (∀ c ∈ b, isSpace c = true) ∧
    scanExpression (a.expr ++ (a.tail ++ r)) = .ok stop
  tail : skipLineTail (a.tail ++ r) = .ok r

variable {a : Attribute} {r r' : Text}

/-- What stands behind the expression may be exchanged for a text like it that ends the line as well. -/
theorem Fits.of_alike (h : a.Fits r) {tail : Text} (hl : Alike (a.tail ++ r) (tail ++ r'))
    (htail : skipLineTail (tail ++ r') = .ok r') : ({ a with tail := tail }).Fits r' := by
  obtain ⟨b, stop, hb, hsp, hscan⟩ := h.stop
  obtain ⟨stop', hb', hl'⟩ := (hb ▸ hl).of_append fun c hc => (isSpace_ne (hsp c hc)).1
  obtain ⟨p, hp, hscan'⟩ := scanExpression_local hscan
  obtain rfl : p = a.expr ++ b := by
    rw [hb, ← List.append_assoc] at hp
    exact (List.append_cancel_right hp).symm
  refine { h with expr := ?_, stop := ⟨b, stop', hb', hsp, ?_⟩, tail := htail }
  · show stopsExpression (a.expr ++ (tail ++ r')) = false
    rw [← (hl.append a.expr).stopsExpression, h.expr]
  · show scanExpression (a.expr ++ (tail ++ r')) = .ok stop'
    rw [hb', ← List.append_assoc]
    exact hscan' stop' hl'

/-- An attribute that fits in one place fits in every place that ends its line as well. -/
theorem Fits.follows (h : a.Fits r) (hr : Follows a.tail r r') : a.Fits r' := by
  obtain ⟨q, hq, -, htail⟩ := skipLineTail_local h.tail
  obtain rfl : q = a.tail := (List.append_cancel_right hq).symm
  exact h.of_alike hr.alike (htail r' hr)

/-- What stands behind an attribute that ends no line ends a body. -/
theorem Fits.ends (h : a.Fits r) : a.tail.getLast? = some '\n' ∨ endsBody r = true := by
  obtain ⟨q, hq, hf, -⟩ := skipLineTail_local h.tail
  obtain rfl : q = a.tail := (List.append_cancel_right hq).symm
  exact hf.imp_right And.left

/-- The parts fit if a scan of the expression leads from the one to the other. -/
theorem fits_of_scan {name u v expr tail b stop lead : Text} {line : Nat} (hn : IsIdentifier name)
    (hu : ∀ c ∈ u, isSpace c = true) (hv : ∀ c ∈ v, isSpace c = true) (htl : tail ++ r = b ++ stop)
    (hb : ∀ c ∈ b, isSpace c = true) (he : (v ++ (expr ++ (b ++ stop))).head? ≠ some '=')
    (hs : (expr ++ (b ++ stop)).head?.any isSpace = false) (hx : stopsExpression (expr ++ (b ++ stop)) = false)
    (ht : Text.trimEnd isSpace expr = expr) (hscan : scanExpression (expr ++ (b ++ stop)) = .ok stop)
    (htail : skipLineTail (tail ++ r) = .ok r) :
    Fits ⟨lead, name, u ++ '=' :: v, expr, tail, line⟩ r := by
  have hne : expr ≠ [] := by
    rintro rfl
    cases b with
    | nil => exact absurd (scanExpression_eq_ok.1 hscan).stops (by simpa using hx)
    | cons c b => exact absurd (hb c List.mem_cons_self) (by simpa using hs)
  obtain ⟨c, q, rfl⟩ := List.exists_cons_of_ne_nil hne
  refine ⟨hn, ⟨u, v, rfl, hu, hv⟩, fun hl => ?_, hne, hs, ht, htl ▸ hx, ⟨b, stop, htl, hb, htl ▸ hscan⟩, htail⟩
  cases v with
  | nil => exact he
  | cons d v =>
      rw [List.getLast?_append_of_ne_nil _ (List.cons_ne_nil _ _), List.getLast?_cons_cons] at hl
      exact absurd (hv _ (List.mem_of_getLast? hl)) (by decide)

theorem lacksExpression_eq (s : Text) : lacksExpression s = stopsExpression s := by
  rw [lacksExpression, stopsExpression]
  congr 2
  funext c
  rw [Bool.or_comm (c == '\n')]

end Attribute

theorem isSeparator_head? {s : Text} (h : IsSeparator s) (r : Text) : (s ++ r).head?.any isIdentChar = false := by
  obtain ⟨a, b, rfl, ha, -⟩ := h
  cases a with
  | nil => rfl
  | cons c a =>
      have hc := ha c List.mem_cons_self
      rcases (by simpa [isSpace] using hc : c = ' ' ∨ c = '\t') with rfl | rfl <;> rfl

theorem skipSpaces_of_forall {b r : Text} (hb : ∀ c ∈ b, isSpace c = true) (hr : r.head?.any isSpace = false) :
    skipSpaces (b ++ r) = r := by
  rw [skipSpaces, List.dropWhile_append_of_pos hb]
  cases r with
  | nil => rfl
  | cons c r =>
      have hc : isSpace c = false := hr
      simp [hc]

section

variable {lead name afterName eq s : Text} {line : Nat} {item : Item}

theorem readAttribute_eq_ok : readAttribute lead line name afterName eq = .ok item ↔
    ∃ value expr stop behind, value = skipSpaces (eq.drop 1) ∧ lacksExpression value = false ∧
      scanExpression value = .ok stop ∧ expr = Text.trimEnd isSpace (Text.before stop value) ∧
      skipLineTail (value.drop expr.length) = .ok behind ∧
      item = .attribute ⟨lead, name, Text.before value afterName, expr,
        Text.before behind (value.drop expr.length), line⟩ behind := by
  simp only [exists_and_left, exists_eq_left, readAttribute, bind, Except.bind]
  generalize skipSpaces (eq.drop 1) = value
  cases lacksExpression value with
  | true => simp
  | false =>
      cases scanExpression value with
      | error f => simp
      | ok stop =>
          simp only [Bool.false_eq_true, if_false, true_and, Except.ok.injEq, exists_eq_left']
          cases htail : skipLineTail (value.drop (Text.trimEnd isSpace (Text.before stop value)).length) with
          | error f => simp [htail]
          | ok behind => simp [htail, eq_comm]

theorem readItem_eq_ok : readItem lead line s = .ok item ↔
    ∃ name afterName, readIdentifier s = .ok (name, afterName) ∧
      (opensValue (skipSpaces afterName) = true ∧
          readAttribute lead line name afterName (skipSpaces afterName) = .ok item ∨
        opensValue (skipSpaces afterName) = false ∧ ∃ labels rest,
          readLabels name [] (skipSpaces afterName) = .ok (labels, rest) ∧
          item = .opening ⟨lead, name, labels, Text.before rest s, line⟩ rest) := by
  simp only [readItem, bind, Except.bind]
  cases readIdentifier s with
  | error f => simp
  | ok p =>
      obtain ⟨name, afterName⟩ := p
      simp only [Except.ok.injEq, Prod.mk.injEq, and_assoc, exists_and_left, exists_eq_left']
      cases opensValue (skipSpaces afterName) with
      | true => simp
      | false =>
          cases readLabels name [] (skipSpaces afterName) with
          | error f => simp
          | ok q =>
              obtain ⟨labels, rest⟩ := q
              simp only [Except.ok.injEq, Prod.mk.injEq, and_assoc, exists_and_left, exists_eq_left']
              simp [eq_comm]

end

/-- An attribute that fits is read, whatever indentation and line it is read with. -/
theorem readItem_of_fits {a : Attribute} {r : Text} (h : a.Fits r) (lead : Text) (line : Nat) :
    readItem lead line (a.text ++ r) = .ok (.attribute { a with lead := lead, line := line } r) := by
  obtain ⟨b, stop, hb, hsp, hscan⟩ := h.stop
  obtain ⟨u, v, huv, hu, hv⟩ := h.sep
  have hval : (a.expr ++ (a.tail ++ r)).head? = a.expr.head? := by
    obtain ⟨c, t, ht⟩ := List.exists_cons_of_ne_nil h.nonempty
    rw [ht]
    rfl
  have hs : a.text ++ r = a.name ++ (a.sep ++ (a.expr ++ (a.tail ++ r))) := by simp [Attribute.text]
  have hcursor : skipSpaces (a.sep ++ (a.expr ++ (a.tail ++ r))) = '=' :: (v ++ (a.expr ++ (a.tail ++ r))) := by
    rw [huv, List.append_assoc]
    exact skipSpaces_of_forall hu rfl
  have hopens : opensValue ('=' :: (v ++ (a.expr ++ (a.tail ++ r)))) = true := by
    cases v with
    | nil =>
        have he : a.expr.head? ≠ some '=' := h.value (by rw [huv]; simp)
        rw [opensValue, List.nil_append, hval]
        simpa using he
    | cons c v =>
        have hc : c ≠ '=' := fun hc => absurd (hv c List.mem_cons_self) (by rw [hc]; decide)
        simpa [opensValue] using hc
  have hvalue : skipSpaces (v ++ (a.expr ++ (a.tail ++ r))) = a.expr ++ (a.tail ++ r) :=
    skipSpaces_of_forall hv (by rw [hval]; exact h.start)
  have hname := readIdentifier_of_isIdentifier h.name (isSeparator_head? h.sep (a.expr ++ (a.tail ++ r)))
  have hexpr : Text.trimEnd isSpace (Text.before stop (a.expr ++ (a.tail ++ r))) = a.expr := by
    rw [hb, ← List.append_assoc, Text.before_append, Text.trimEnd_append_of_forall hsp, h.trimmed]
  rw [hs]
  refine readItem_eq_ok.2 ⟨_, _, hname, .inl ⟨by rw [hcursor, hopens], ?_⟩⟩
  rw [hcursor]
  refine readAttribute_eq_ok.2 ⟨_, _, stop, r, hvalue.symm, ?_, hscan, hexpr.symm, ?_, ?_⟩
  · rw [Attribute.lacksExpression_eq, h.expr]
  · rw [List.drop_left, h.tail]
  · rw [List.drop_left, Text.before_append, Text.before_append]

theorem opensValue_iff {s : Text} : opensValue s = true ↔ ∃ r, s = '=' :: r ∧ r.head? ≠ some '=' := by
  unfold opensValue
  split <;> simp_all

/-- What the reader takes for an attribute are the parts of the text, and they fit. -/
theorem fits_of_readAttribute {lead afterName name : Text} {line : Nat} {r : Text} {a : Attribute}
    (hn : IsIdentifier name) (ho : opensValue (skipSpaces afterName) = true)
    (h : readAttribute lead line name afterName (skipSpaces afterName) = .ok (.attribute a r)) :
    a.lead = lead ∧ a.line = line ∧ name ++ afterName = a.text ++ r ∧ a.Fits r := by
  obtain ⟨t, ht, hne⟩ := opensValue_iff.1 ho
  rw [ht] at h
  have hafter : afterName = afterName.takeWhile isSpace ++ '=' :: t := by
    rw [← ht]
    exact List.takeWhile_append_dropWhile.symm
  have htval : t = t.takeWhile isSpace ++ skipSpaces t := List.takeWhile_append_dropWhile.symm
  have hstart : (skipSpaces t).head?.any isSpace = false := by
    have h := List.head?_dropWhile_not isSpace t
    rw [skipSpaces]
    cases hd : (t.dropWhile isSpace).head? with
    | none => rfl
    | some c => simpa [hd] using h
  obtain ⟨value, expr, stop, behind, hval, hlacks, hscan, hexpr, htail, hitem⟩ := readAttribute_eq_ok.1 h
  obtain ⟨rfl, rfl⟩ := Item.attribute.inj hitem
  rw [List.drop_one, List.tail_cons] at hval
  rw [← hval] at htval hstart
  generalize hu : afterName.takeWhile isSpace = u at hafter
  generalize hv : t.takeWhile isSpace = v at htval
  obtain ⟨b, hb, hsp⟩ := Text.trimEnd_append isSpace (Text.before stop value)
  have hvalue : Text.before stop value ++ stop = value := Text.before_append_self (scanExpression_suffix hscan)
  have htrim := Text.getLast?_trimEnd isSpace (Text.before stop value)
  rw [← hexpr] at hb htrim
  clear hexpr hval
  obtain rfl : value = expr ++ (b ++ stop) := by rw [← hvalue, hb, List.append_assoc]
  rw [List.drop_left] at htail ⊢
  have htl := Text.before_append_self (skipLineTail_suffix htail)
  generalize Text.before r (b ++ stop) = tail at htl ⊢
  have hsep : Text.before (expr ++ (b ++ stop)) afterName = u ++ '=' :: v := by
    have hassoc : u ++ '=' :: (v ++ (expr ++ (b ++ stop))) = (u ++ '=' :: v) ++ (expr ++ (b ++ stop)) := by
      simp
    rw [hafter, htval, hassoc, Text.before_append]
  rw [hsep]
  refine ⟨rfl, rfl, by simp [Attribute.text, hafter, htval, htl], ?_⟩
  have hsp' (c : Char) (hc : c ∈ u ∨ c ∈ v) : isSpace c = true := by
    rcases hc with hc | hc
    · exact List.mem_takeWhile_imp (hu ▸ hc)
    · exact List.mem_takeWhile_imp (hv ▸ hc)
  refine Attribute.fits_of_scan hn (fun c hc => hsp' c (.inl hc)) (fun c hc => hsp' c (.inr hc)) htl hsp
    ?_ ?_ ?_ (Text.trimEnd_eq_self htrim) hscan (htl ▸ htail)
  · exact htval ▸ hne
  · exact hstart
  · simpa [← Attribute.lacksExpression_eq] using hlacks

/-- The reader gives an attribute exactly where one stands that fits. -/
theorem readItem_eq_attribute {lead s r : Text} {line : Nat} {a : Attribute} :
    readItem lead line s = .ok (.attribute a r) ↔ a.lead = lead ∧ a.line = line ∧ s = a.text ++ r ∧ a.Fits r := by
  constructor
  · intro h
    obtain ⟨name, afterName, hname, ⟨ho, h⟩ | ⟨-, labels, rest, -, h⟩⟩ := readItem_eq_ok.1 h
    · rw [(readIdentifier_append hname).1]
      exact fits_of_readAttribute (isIdentifier_of_readIdentifier hname) ho h
    · cases h
  · rintro ⟨rfl, rfl, rfl, h⟩
    exact readItem_of_fits h a.lead a.line

/-! ### Heads of blocks -/

theorem readLabels_label {kind : Text} {done : List Text} {s label rest : Text} (hb : s.head? ≠ some '{')
    (hs : s.head? = some '"' ∨ opensIdentifier s = true) (hl : readLabel s = .ok (label, rest)) :
    readLabels kind done s = readLabels kind (done ++ [label]) (skipSpaces rest) := by
  rw [readLabels.eq_def]
  split
  · exact absurd rfl hb
  · rw [if_pos hs]
    split
    · next h =>
        obtain ⟨rfl, rfl⟩ := Prod.mk.inj (Except.ok.inj (hl.symm.trans h))
        rfl
    · next h => simp [hl] at h

/-- The labels of a block end at its brace, whatever is behind it. -/
theorem readLabels_append {kind : Text} {done labels : List Text} {s r : Text}
    (h : readLabels kind done s = .ok (labels, r)) :
    ∃ p, s = p ++ r ∧ p ≠ [] ∧ ∀ r', readLabels kind done (p ++ r') = .ok (labels, r') := by
  fun_induction readLabels kind done s with
  | case1 done t =>
      obtain ⟨rfl, rfl⟩ := Prod.mk.inj (Except.ok.inj h)
      exact ⟨['{'], rfl, by simp, fun r' => by rw [List.singleton_append, readLabels]⟩
  | case2 done s hb hs label rest hl _ _ ih =>
      obtain ⟨q, hq, hqne, ih⟩ := ih h
      obtain ⟨p, rfl, hpne, hp⟩ := readLabel_append hl
      obtain ⟨c, p, rfl⟩ := List.exists_cons_of_ne_nil hpne
      have hrest : rest = rest.takeWhile isSpace ++ (q ++ r) := by
        rw [← hq]
        exact List.takeWhile_append_dropWhile.symm
      refine ⟨c :: p ++ (rest.takeWhile isSpace ++ q), by rw [List.append_assoc, List.append_assoc, ← hrest],
        by simp, fun r' => ?_⟩
      have hq' : (q ++ r').head? = (q ++ r).head? := by
        obtain ⟨d, q, rfl⟩ := List.exists_cons_of_ne_nil hqne
        rfl
      have hsp : skipSpaces (rest.takeWhile isSpace ++ (q ++ r')) = q ++ r' :=
        skipSpaces_append (hq'.trans (by rw [hq]))
      have hd : (rest.takeWhile isSpace ++ (q ++ r')).head? = rest.head? := by
        conv => rhs; rw [hrest]
        cases rest.takeWhile isSpace with
        | nil => exact hq'
        | cons => rfl
      have hlabel := hp _ hd
      rw [List.append_assoc, List.append_assoc]
      refine (readLabels_label (fun h => hb (p ++ rest) ?_) ?_ hlabel).trans (by rw [hsp, ih r'])
      · rw [← Option.some.inj h]
        rfl
      · exact hs
  | case3 => simp at h
  | case4 => simp at h

theorem opensValue_of_readLabels {kind : Text} {labels : List Text} {s r : Text}
    (h : readLabels kind [] s = .ok (labels, r)) : opensValue s = false := by
  refine Bool.eq_false_iff.2 fun ho => ?_
  obtain ⟨t, rfl, -⟩ := opensValue_iff.1 ho
  rw [readLabels.eq_def] at h
  split at h
  · next he => exact absurd (List.cons.inj he).1 (by decide)
  · rw [if_neg (by simp [opensIdentifier, isIdentStart])] at h
    simp at h

namespace BlockHead

/-- The head of a block is what the reader finds in its text, whatever the text is read in front of. -/
def Opens (head : BlockHead) : Prop :=
  ∀ lead line r, readItem lead line (head.header ++ r) = .ok (.opening { head with lead := lead, line := line } r)

end BlockHead

theorem opens_of_readItem {lead s r : Text} {line : Nat} {head : BlockHead}
    (h : readItem lead line s = .ok (.opening head r)) :
    head.lead = lead ∧ head.line = line ∧ s = head.header ++ r ∧ head.Opens := by
  obtain ⟨name, afterName, hname, ⟨-, h⟩ | ⟨-, labels, rest, hlabels, h⟩⟩ := readItem_eq_ok.1 h
  · obtain ⟨_, _, _, _, -, -, -, -, -, h⟩ := readAttribute_eq_ok.1 h
    cases h
  · obtain ⟨rfl, rfl⟩ := Item.opening.inj h
    obtain ⟨rfl, -, hname⟩ := readIdentifier_append hname
    obtain ⟨p, hp, hne, hlabels⟩ := readLabels_append hlabels
    have hafter : afterName = afterName.takeWhile isSpace ++ (p ++ r) := by rw [← hp, takeWhile_append_skipSpaces]
    generalize hb : afterName.takeWhile isSpace = b at hafter
    have hheader : Text.before r (name ++ afterName) = name ++ (b ++ p) := by
      rw [hafter, ← List.append_assoc b, ← List.append_assoc, Text.before_append]
    rw [hheader]
    refine ⟨rfl, rfl, by rw [hafter]; simp, fun lead' line' r' => ?_⟩
    have hcursor : (p ++ r').head? = (skipSpaces afterName).head? := by
      obtain ⟨c, q, rfl⟩ := List.exists_cons_of_ne_nil hne
      rw [hp]
      rfl
    have hskip : skipSpaces (b ++ (p ++ r')) = p ++ r' := by
      rw [← hb]
      exact skipSpaces_append hcursor
    have hbehind : (b ++ (p ++ r')).head? = afterName.head? := by
      rw [hafter]
      cases b with
      | nil => rw [List.nil_append, List.nil_append, hcursor, hp]
      | cons => rfl
    have hs : name ++ (b ++ p) ++ r' = name ++ (b ++ (p ++ r')) := by simp
    refine readItem_eq_ok.2 ⟨name, b ++ (p ++ r'), by rw [hs, hname _ hbehind], .inr ⟨?_, labels, r', ?_, ?_⟩⟩
    · rw [hskip, opensValue_of_readLabels (hlabels r')]
    · rw [hskip, hlabels r']
    · rw [Text.before_append]

/-- The head of a block is its kind with its labels behind it. -/
theorem readLabels_of_opens {head : BlockHead} (h : head.Opens) (r : Text) :
    ∃ x, readIdentifier (head.header ++ r) = .ok (head.kind, x) ∧
      readLabels head.kind [] (skipSpaces x) = .ok (head.labels, r) := by
  obtain ⟨name, x, hname, ⟨-, h⟩ | ⟨-, labels, rest, hlabels, h⟩⟩ := readItem_eq_ok.1 (h [] 0 r)
  · obtain ⟨_, _, _, _, -, -, -, -, -, h⟩ := readAttribute_eq_ok.1 h
    cases h
  · obtain ⟨hhead, rfl⟩ := Item.opening.inj h
    obtain ⟨-, rfl, rfl, -⟩ := BlockHead.mk.inj hhead
    exact ⟨x, hname, hlabels⟩

theorem BlockHead.Opens.kind_prefix {head : BlockHead} (h : head.Opens) : head.kind <+: head.header := by
  obtain ⟨x, hkind, -⟩ := readLabels_of_opens h []
  rw [List.append_nil] at hkind
  exact ⟨x, (readIdentifier_append hkind).1.symm⟩

/-! ### Where an item begins -/

theorem opensIdentifier_of_readItem {lead s : Text} {line : Nat} {item : Item} (h : readItem lead line s = .ok item) :
    opensIdentifier s = true := by
  obtain ⟨name, afterName, hname, -⟩ := readItem_eq_ok.1 h
  unfold readIdentifier at hname
  split at hname
  · assumption
  · cases hname

theorem Attribute.Fits.opensIdentifier {a : Attribute} {r : Text} (h : a.Fits r) :
    opensIdentifier (a.text ++ r) = true :=
  opensIdentifier_of_readItem (readItem_of_fits h [] 0)

theorem BlockHead.Opens.opensIdentifier {head : BlockHead} (h : head.Opens) (r : Text) :
    opensIdentifier (head.header ++ r) = true :=
  opensIdentifier_of_readItem (h [] 0 r)

theorem isIdentStart_cases {s : Text} (h : opensIdentifier s = true) :
    ∃ c t, s = c :: t ∧ c ≠ '}' ∧ isGapChar c = false ∧ opensComment s = false := by
  cases s with
  | nil => cases h
  | cons c t =>
      have hc : isIdentStart c = true := h
      have hne (d : Char) (hd : isIdentStart d = false) : c ≠ d := fun he => by rw [he, hd] at hc; cases hc
      refine ⟨c, t, rfl, hne '}' (by decide), ?_, ?_⟩
      · simp [isGapChar, isSpace, hne ' ' (by decide), hne '\t' (by decide), hne '\r' (by decide),
          hne '\n' (by decide)]
      · refine Bool.eq_false_iff.2 fun ho => ?_
        rcases head?_of_opensComment ho with hd | hd
        · exact hne '#' (by decide) (Option.some.inj hd)
        · exact hne '/' (by decide) (Option.some.inj hd)

theorem ne_nil_of_opensIdentifier {s : Text} (h : opensIdentifier s = true) : s ≠ [] := by
  rintro rfl
  cases h

theorem endsBody_of_opensIdentifier {s : Text} (h : opensIdentifier s = true) : endsBody s = false := by
  obtain ⟨c, t, rfl, hc, -, -⟩ := isIdentStart_cases h
  simpa [endsBody] using hc

theorem skipGap_of_opensIdentifier {s : Text} (h : opensIdentifier s = true) : skipGap s = .ok s := by
  obtain ⟨c, t, rfl, -, hg, ho⟩ := isIdentStart_cases h
  exact skipGap_self hg ho

end JujuMigration
