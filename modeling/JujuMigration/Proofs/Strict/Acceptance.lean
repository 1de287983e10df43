import JujuMigration.Proofs.Config.Names
import JujuMigration.Proofs.Strict.Index
import JujuMigration.Proofs.Strict.Operands
/-! What the strict reading accepts. It accepts a text whose tree has expressions that it reads and that have values,
verbatim labels, and in no body a name twice, if every carriage return of the text ends a line. -/

namespace JujuMigration.Strict

open Source Text

/-- The strict reading accepts the text. -/
def Accepts (text : Text) : Prop := ∃ entries, blockIndex text = .ok entries

/-! ### Labels -/

section

variable {mode : Mode} {last s t r rest : Text}

/-- The labels that the tree has read are read, if they are verbatim. -/
theorem exists_parseLabels (whole : Text) {kind : Text} {done labels : List Text}
    (h : readLabels kind done t = .ok (labels, rest)) (hverbatim : ∀ l ∈ labels, IsVerbatim l)
    (hmode : mode.EndsLabel) (hs : skipSpaces s = t) {n : Nat} (hn : (source s).length + 2 ≤ n)
    (before : List Expr) (last : Text) :
    ∃ x, parseLabels whole n before (Cursor.at mode last (source s)) = .ok x := by
  fun_induction readLabels kind done t generalizing s mode last n before with
  | case1 done r =>
      have hskip : skipSpaces (source s) = '{' :: source r := by
        rw [skipSpaces_source, hs, source_cons_of_ne (by decide)]
      obtain ⟨n, rfl⟩ : ∃ m, n = m + 1 := ⟨n - 1, by omega⟩
      rw [Cursor.at_label hmode hskip (by decide) (wordAt_leftBrace hmode), parseLabels]
      exact ⟨_, rfl⟩
  | case2 done t hb ht label behind hl _ _ ih =>
      obtain ⟨more, rfl, -⟩ := parseLabels_of_readLabels (s := behind) whole h
      have hlabel : IsVerbatim label := hverbatim label (by simp)
      have hpos : 0 < (source s).length := by simp [source]
      obtain ⟨n, rfl⟩ : ∃ m, n = m + 3 := ⟨n - 3, by omega⟩
      have hlt {word : Lexeme} (hw : (Cursor.at mode last (source s)).word = some word) :
          (Cursor.at mode last (source s)).rest.length < (source s).length :=
        Nat.lt_of_lt_of_le (Cursor.at_consumes _ _ _ word hw) (Cursor.at_start_le ..)
      rcases at_nextLabel ht hl hlabel hmode hs last with hat | ⟨-, hat⟩
      · rw [hat] at hlt ⊢
        have hlt := hlt rfl
        simp only [List.length_append, List.length_cons] at hlt
        rw [parseLabels]
        simp only [Cursor.advance, bind, Except.bind, parseTemplate_verbatim hlabel n (source t) (source behind)]
        exact ih h .quote rfl (by omega) _ _
      · rw [hat] at hlt ⊢
        have hlt : (source behind).length < (source s).length := hlt rfl
        rw [parseLabels]
        exact ih h .name rfl (by omega) _ _
  | case3 => cases h
  | case4 => cases h

end

/-! ### Expressions -/

def Expr.hasValue (e : Expr) : Bool := e.value.toOption.isSome

/-- The text is an expression of its own, and has a value. -/
def isValued (s : Text) : Bool :=
  decide (IsWhole s) && (parseExpr (8 * s.length + 3) (Cursor.at .start [] s)).toOption.any (·.1.hasValue)

/-- The text is a heredoc that its whole marker closes, and has a value, in front of the end of its line. -/
def isValuedHeredoc (expr tail : Text) : Bool :=
  isHeredoc expr tail && (Expr.heredoc (isTrimmed (source expr)) (source expr)).hasValue

theorem Expr.exists_value {e : Expr} (h : e.hasValue = true) : ∃ v, e.value = .ok v := by
  unfold Expr.hasValue at h
  cases hv : e.value with
  | error d =>
      rw [hv] at h
      cases h
  | ok v => exact ⟨v, rfl⟩

end JujuMigration.Strict

namespace JujuMigration

open Source Text

/-- The kinds of the blocks, in their order. -/
def Body.kinds (body : Body) : List Text := (blocks body).map (·.head.kind)

/-- No name stands twice, and no attribute has the name of a block. -/
def Body.IsDistinct (body : Body) : Prop := (names body).Nodup ∧ ∀ kind ∈ kinds body, kind ∉ names body

instance (body : Body) : Decidable (Body.IsDistinct body) := inferInstanceAs (Decidable (_ ∧ _))

/-- The strict grammar reads the expression of the attribute, up to the tail, and it has a value. -/
def Attribute.isReadable (a : Attribute) : Bool :=
  Strict.isReference a.expr || Strict.isQuoted a.expr || Strict.isValued (withoutReturns a.expr) ||
    Strict.isValuedHeredoc a.expr a.tail

namespace Strict

section

variable {a : Attribute} {expr tail behind r : Text}

theorem head?_of_isHeredoc (h : isHeredoc expr tail = true) : expr.head? = some '<' := by
  rw [isHeredoc, Bool.and_eq_true, Option.any_eq_true] at h
  obtain ⟨-, body, hbody, -⟩ := h
  refine head?_source ?_ (by decide)
  rcases Option.or_eq_some_iff.1 hbody with h | ⟨-, h⟩ <;> rw [after?_eq_some h] <;> rfl

theorem head?_of_isWhole (h : IsWhole (withoutReturns expr)) : expr.head? ≠ some '>' := by
  intro hexpr
  obtain ⟨q, rfl⟩ := List.head?_eq_some_iff.1 hexpr
  obtain ⟨-, x, hx, -⟩ := h
  have hnone : (Cursor.at .start [] ('>' :: withoutReturns q)).word = none :=
    congrArg Cursor.word (Cursor.at_of_none (by simp) rfl (skipSpaces_self rfl) rfl)
  rw [withoutReturns_cons fun hc => by cases hc] at hx
  exact parseExpr_of_none hnone _ x hx

/-- A readable expression does not make an arrow of an equals sign in front of it. -/
theorem head?_of_isReadable (h : a.isReadable = true) : a.expr.head? ≠ some '>' := by
  rw [Attribute.isReadable, Bool.or_eq_true, Bool.or_eq_true, Bool.or_eq_true] at h
  rcases h with ((h | h) | h) | h
  · obtain ⟨name, names, hname, -, hexpr⟩ := exists_dotted h
    obtain ⟨c, q, rfl⟩ := List.exists_cons_of_ne_nil hname.ne_nil
    rw [hexpr]
    intro hhead
    cases hhead
    cases hname.1
  · obtain ⟨t, hexpr, -⟩ := exists_verbatim h
    rw [hexpr]
    simp
  · rw [isValued, Bool.and_eq_true, decide_eq_true_eq] at h
    exact head?_of_isWhole h.1
  · rw [isValuedHeredoc, Bool.and_eq_true] at h
    rw [head?_of_isHeredoc h.1]
    decide

theorem hasValue_attributeOf {e : Expr} (h : e.hasValue = true) (name : Text) :
    (Expr.attributeOf e name).hasValue = true := by
  obtain ⟨v, hv⟩ := Expr.exists_value h
  rw [Expr.hasValue, Expr.value, hv]
  rfl

theorem hasValue_dotted (names : List Text) {e : Expr} (h : e.hasValue = true) :
    (names.foldl .attributeOf e).hasValue = true := by
  induction names generalizing e with
  | nil => exact h
  | cons name names ih => exact ih (hasValue_attributeOf h name)

/-- An expression that is readable is read, up to what the tree has behind it. -/
theorem exists_readsTo (h : a.isReadable = true) (hfits : a.Fits behind) (hgap : skipGap behind = .ok r)
    (hr : endsBody r = true ∨ opensIdentifier r = true) :
    ∃ e, e.hasValue = true ∧ ReadsTo a.expr (a.tail ++ behind) e := by
  rw [Attribute.isReadable, Bool.or_eq_true, Bool.or_eq_true, Bool.or_eq_true] at h
  rcases h with ((h | h) | h) | h
  · obtain ⟨name, names, hname, hnames, hexpr⟩ := exists_dotted h
    rw [hexpr]
    exact ⟨_, hasValue_dotted names rfl, readsTo_dotted hname hnames hfits.tail⟩
  · obtain ⟨t, hexpr, hverbatim, hline⟩ := exists_verbatim h
    rw [hexpr]
    obtain ⟨v, hv, -⟩ := (says_verbatimParts hverbatim).value
    exact ⟨_, by rw [Expr.hasValue, hv]; rfl, readsTo_quoted hverbatim hline hfits.tail⟩
  · rw [isValued, Bool.and_eq_true, decide_eq_true_eq, any_toOption_iff] at h
    obtain ⟨hwhole, ⟨e, c⟩, hread, hvalue⟩ := h
    obtain ⟨e', c', hread', hreads⟩ := hwhole.readsTo (stops_tail hfits.tail hgap hr)
    obtain rfl : e = e' := (Prod.mk.inj (Except.ok.inj (hread.symm.trans hread'))).1
    exact ⟨e, hvalue, hreads⟩
  · rw [isValuedHeredoc, Bool.and_eq_true] at h
    exact ⟨_, h.2, readsTo_heredoc h.1 hfits.tail hgap hr⟩

end

/-! ### Members -/

def Member.name? : Member → Option Text
  | .attribute name _ => some name
  | .block _ _ => none

def Member.kind? : Member → Option Text
  | .attribute _ _ => none
  | .block kind _ => some kind

/-- Members can be collected if no name stands twice and no attribute has the name of a block. -/
theorem exists_collect {ms : List Member} {names : List Text} {done : Entries}
    (hnodup : (ms.filterMap Member.name?).Nodup)
    (hkinds : ∀ kind ∈ ms.filterMap Member.kind?, kind ∉ names ∧ kind ∉ ms.filterMap Member.name?)
    (hfresh : ∀ name ∈ ms.filterMap Member.name?, lookup name done = none) :
    ∃ entries, collect names done ms = .ok entries := by
  induction ms generalizing names done with
  | nil => exact ⟨done, rfl⟩
  | cons m ms ih =>
      cases m with
      | «attribute» name v =>
          obtain ⟨hname, hnodup⟩ := List.nodup_cons.1 (show (name :: ms.filterMap Member.name?).Nodup from hnodup)
          obtain ⟨hnone, hfresh⟩ := List.forall_mem_cons.1 (show ∀ n ∈ name :: ms.filterMap Member.name?, _ from hfresh)
          have hadd : addAttribute name v done = .ok (done ++ [(name, v)]) := by
            rw [addAttribute, hnone]
            rfl
          have hkinds' : ∀ kind ∈ ms.filterMap Member.kind?,
              kind ∉ name :: names ∧ kind ∉ ms.filterMap Member.name? := fun kind hkind => by
            obtain ⟨hnames, hother⟩ := hkinds kind hkind
            obtain ⟨hne, hother⟩ := List.ne_and_not_mem_of_not_mem_cons
              (show kind ∉ name :: ms.filterMap Member.name? from hother)
            exact ⟨List.not_mem_cons_of_ne_of_not_mem hne hnames, hother⟩
          have hfresh' : ∀ n ∈ ms.filterMap Member.name?, lookup n (done ++ [(name, v)]) = none := fun n hn => by
            rw [lookup_eq_none]
            intro entry hentry
            rcases List.mem_append.1 hentry with hentry | hentry
            · exact lookup_eq_none.1 (hfresh n hn) entry hentry
            · rw [List.mem_singleton.1 hentry]
              rintro rfl
              exact hname hn
          rw [collect, hadd]
          exact ih hnodup hkinds' hfresh'
      | block kind v =>
          obtain ⟨⟨hnames, hkind⟩, hkinds⟩ :=
            List.forall_mem_cons.1 (show ∀ k ∈ kind :: ms.filterMap Member.kind?, _ from hkinds)
          obtain ⟨value, hadd⟩ : ∃ value, addBlock names kind v done = .ok (setEntry kind value done) := by
            rw [addBlock, if_neg (by simpa using hnames)]
            split <;> exact ⟨_, rfl⟩
          have hfresh' : ∀ n ∈ ms.filterMap Member.name?, lookup n (setEntry kind value done) = none := fun n hn => by
            have hne : n ≠ kind := fun he => hkind (he ▸ hn)
            rw [lookup_setEntry_of_ne hne]
            exact hfresh n hn
          rw [collect, hadd]
          exact ih hnodup hkinds hfresh'

/-- The members have the names and the kinds of the nodes. -/
structure Summarizes (ms : List Member) (nodes : Body) : Prop where
  names : ms.filterMap Member.name? = Body.names nodes
  kinds : ms.filterMap Member.kind? = Body.kinds nodes

theorem Summarizes.exists_collect {ms : List Member} {nodes : Body} (h : Summarizes ms nodes)
    (hdistinct : Body.IsDistinct nodes) : ∃ entries, collect [] [] ms = .ok entries := by
  refine Strict.exists_collect (h.names ▸ hdistinct.1) (fun kind hkind => ⟨List.not_mem_nil, ?_⟩) fun _ _ => rfl
  rw [h.kinds] at hkind
  exact h.names ▸ hdistinct.2 kind hkind

end Strict

/-! ### Bodies -/

mutual

/-- Every expression is readable and every label verbatim, in no block a name stands twice, and in the gaps every
carriage return ends a line. -/
def Node.isPlain : Node → Bool
  | .gap t => decide (EndsLines t)
  | .attribute a => a.isReadable
  | .block head body _ =>
    head.labels.all (fun l => decide (IsVerbatim l)) && decide (Body.IsDistinct body) && Body.isPlain body

def Body.isPlain : List Node → Bool
  | [] => true
  | node :: nodes => node.isPlain && Body.isPlain nodes

end

namespace Body

variable {nodes body : Body} {t : Text} {node : Node}

theorem isPlain_gapNodes : isPlain (gapNodes t ++ nodes) = (decide (EndsLines t) && isPlain nodes) := by
  unfold gapNodes
  split
  · next h =>
      obtain rfl := List.isEmpty_iff.1 h
      rfl
  · rfl

theorem names_canonical (body : Body) : names (canonical body) = names body := by
  rw [names, attributes_canonical, List.map_map]
  rfl

theorem kinds_canonical (body : Body) : kinds (canonical body) = kinds body := by
  rw [kinds, blocks_canonical, List.map_map]
  rfl

theorem isDistinct_canonical : IsDistinct (canonical body) ↔ IsDistinct body := by
  rw [IsDistinct, IsDistinct, names_canonical, kinds_canonical]

theorem isPlain_joinGap (ht : EndsLines t) (h : isPlain nodes = true) : isPlain (joinGap t nodes) = true := by
  unfold joinGap
  split
  · next u nodes =>
      rw [isPlain, Node.isPlain, Bool.and_eq_true, decide_eq_true_eq] at h ⊢
      exact ⟨ht.append h.1, h.2⟩
  · rw [isPlain_gapNodes, Bool.and_eq_true, decide_eq_true_eq]
    exact ⟨ht, h⟩

end Body

mutual

theorem Node.isPlain_canonical : ∀ {node : Node}, node.isPlain = true → node.canonical.isPlain = true
  | .gap _, h => h
  | .attribute _, h => h
  | .block head body closing, h => by
      rw [Node.isPlain, Bool.and_eq_true, Bool.and_eq_true, decide_eq_true_eq] at h
      rw [Node.canonical, Node.isPlain, Bool.and_eq_true, Bool.and_eq_true, decide_eq_true_eq]
      exact ⟨⟨h.1.1, Body.isDistinct_canonical.2 h.1.2⟩, Body.isPlain_canonical h.2⟩

/-- To join gaps and to leave out lines keeps a tree plain. -/
theorem Body.isPlain_canonical : ∀ {nodes : List Node}, Body.isPlain nodes = true →
    Body.isPlain (Body.canonical nodes) = true
  | [], h => h
  | .gap t :: nodes, h => by
      rw [Body.isPlain, Node.isPlain, Bool.and_eq_true, decide_eq_true_eq] at h
      rw [Body.canonical_gap]
      exact Body.isPlain_joinGap h.1 (Body.isPlain_canonical h.2)
  | .attribute a :: nodes, h => by
      rw [Body.isPlain, Bool.and_eq_true] at h
      rw [Body.canonical_attribute, Body.isPlain, Bool.and_eq_true]
      exact ⟨h.1, Body.isPlain_canonical h.2⟩
  | .block head body closing :: nodes, h => by
      rw [Body.isPlain, Bool.and_eq_true] at h
      rw [Body.canonical_block, ← Node.canonical, Body.isPlain, Bool.and_eq_true]
      exact ⟨Node.isPlain_canonical h.1, Body.isPlain_canonical h.2⟩

end

theorem Body.isPlain_field {t : Text} {a : Attribute} {nodes : Body} :
    isPlain (canonical (gapNodes t ++ .attribute a :: nodes)) =
      (decide (EndsLines t) && (a.isReadable && isPlain (canonical nodes))) := by
  rw [canonical_gapNodes, canonical_attribute]
  exact isPlain_gapNodes

theorem Body.isPlain_block {t : Text} {head : BlockHead} {body nodes : Body} {closing : Text} :
    isPlain (canonical (gapNodes t ++ .block head body closing :: nodes)) =
      (decide (EndsLines t) && ((head.labels.all (fun l => decide (IsVerbatim l)) &&
        decide (IsDistinct (canonical body)) && isPlain (canonical body)) && isPlain (canonical nodes))) := by
  rw [canonical_gapNodes, canonical_block]
  exact isPlain_gapNodes

theorem Body.isPlain_stop {gap : Text} :
    isPlain (canonical (gapNodes (trimEnd isSpace gap) ++ gapNodes (indentation gap))) = decide (EndsLines gap) := by
  rw [canonical_stop]
  exact isPlain_gapNodes.trans (Bool.and_true _)

theorem Body.names_gapNodes (t : Text) (nodes : Body) : Body.names (gapNodes t ++ nodes) = Body.names nodes := by
  unfold gapNodes
  split <;> rfl

theorem Body.kinds_gapNodes (t : Text) (nodes : Body) : Body.kinds (gapNodes t ++ nodes) = Body.kinds nodes := by
  unfold gapNodes
  split <;> rfl

namespace Strict

section

variable {whole s r name x behind inner t : Text} {n : Nat} {c next : Cursor} {item : Item} {m : Member} {node : Node}
  {nodes : Body}

/-- From the cursor on the strict grammar reads a body up to `r`, and the members that it has have the names and the
kinds of the nodes. -/
def Takes (whole : Text) (n : Nat) (c : Cursor) (nodes : Body) (r : Text) : Prop :=
  ∀ done, ∃ items c' ms, parseBody whole n done c = .ok (done ++ items, c') ∧ c'.Same (settled (source r)) ∧
    members items = .ok ms ∧ Summarizes ms nodes

theorem takes_stop (hn : 0 < n) (hc : c.skipNewlines.Same (settled (source r))) (hr : endsBody r = true)
    (hnames : Body.names nodes = []) (hkinds : Body.kinds nodes = []) : Takes whole n c nodes r := by
  intro done
  obtain ⟨n, rfl⟩ : ∃ m, n = m + 1 := ⟨n - 1, by omega⟩
  refine ⟨[], c.skipNewlines, [], ?_, hc, by rw [members], ⟨hnames.symm, hkinds.symm⟩⟩
  have hword (name : Text) : c.skipNewlines.word ≠ some (.name name) := fun hw => by
    have hw := hc.word.symm.trans hw
    rcases endsBody_iff.1 hr with rfl | ⟨u, rfl⟩
    · cases settled_end.1.symm.trans hw
    · rw [settled_brace] at hw
      cases hw
  rw [parseBody, List.append_nil]
  dsimp only
  split
  · next name hw => exact absurd hw (hword name)
  · rfl

theorem takes_item (hc : c.skipNewlines.Same (settled (source s))) (hs : readIdentifier s = .ok (name, x))
    (hitem : parseItem whole n name (source s) (Cursor.at .afterName (source s) (source x)) = .ok (item, next))
    (hm : item.member = .ok m) (hnames : Body.names (node :: nodes) = (Member.name? m).toList ++ Body.names nodes)
    (hkinds : Body.kinds (node :: nodes) = (Member.kind? m).toList ++ Body.kinds nodes)
    (h : Takes whole n next nodes r) : Takes whole (n + 1) c (gapNodes t ++ node :: nodes) r := by
  intro done
  obtain ⟨items, c', ms, hbody, hsame, hms, hsummary⟩ := h (done ++ [item])
  rw [settled_name hs] at hc
  refine ⟨item :: items, c', m :: ms, ?_, hsame, ?_, ?_, ?_⟩
  · rw [parseBody, List.append_cons, ← hbody]
    dsimp only
    rw [hc.word, hc.advance, hc.start]
    dsimp only [Cursor.advance]
    rw [hitem]
    rfl
  · rw [members, hm, hms]
    rfl
  · rw [Body.names_gapNodes, hnames, List.filterMap_cons, ← hsummary.names]
    cases Member.name? m <;> rfl
  · rw [Body.kinds_gapNodes, hkinds, List.filterMap_cons, ← hsummary.kinds]
    cases Member.kind? m <;> rfl

/-- The strict grammar takes an attribute with a readable expression. -/
theorem exists_parseItem_attribute {a : Attribute} (h : a.isReadable = true) (hfits : a.Fits behind)
    (hgap : skipGap behind = .ok r) (hr : endsBody r = true ∨ opensIdentifier r = true)
    (hn : 8 * (source (a.sep ++ (a.expr ++ (a.tail ++ behind)))).length ≤ n) (start last : Text) :
    ∃ e, e.hasValue = true ∧ ∃ c, parseItem whole (n + 1) a.name start
        (Cursor.at .afterName last (source (a.sep ++ (a.expr ++ (a.tail ++ behind))))) = .ok (.attribute a.name e, c) ∧
      c.skipNewlines.Same (settled (source (a.tail ++ behind))) := by
  rcases at_separator hfits last with ⟨-, harrow⟩ | ⟨start', rest, hat, hvalue⟩
  · exact absurd harrow (head?_of_isReadable h)
  · obtain ⟨e, hvalued, hreads⟩ := exists_readsTo h hfits hgap hr
    obtain ⟨c, hread, hsettles⟩ := hreads start'
    have hle := (source_suffix a.sep (a.expr ++ (a.tail ++ behind))).length_le
    refine ⟨e, hvalued, c, ?_, hsettles⟩
    rw [hat, parseItem, Cursor.isAt, if_pos (decide_eq_true rfl), Cursor.advance, hvalue, hread n (by omega)]
    rfl

/-- The strict grammar takes a block with verbatim labels, if it takes the body up to a brace. -/
theorem exists_parseItem_block {kind : Text} {labels : List Text} {body : Body}
    (h : readLabels kind [] (skipSpaces s) = .ok (labels, inner)) (hverbatim : ∀ l ∈ labels, IsVerbatim l)
    (hdistinct : Body.IsDistinct body) (hn : (source s).length + 2 ≤ n)
    (hbody : ∀ last, Takes whole n (Cursor.at .start last (source inner)) body ('}' :: r)) (start last : Text) :
    ∃ item last', parseItem whole (n + 1) kind start (Cursor.at .afterName last (source s)) =
        .ok (item, Cursor.at .start last' (source r)) ∧ ∃ v, item.member = .ok (.block kind v) := by
  have hword : (Cursor.at .afterName last (source s)).isAt .equals = false := isAt_equals_of_readLabels h
  obtain ⟨⟨texts, c⟩, hparse⟩ := exists_parseLabels whole h hverbatim .name rfl hn [] last
  obtain ⟨more, hmore, hlabels⟩ := parseLabels_of_readLabels (s := s) whole h
  obtain rfl : labels = more := by simpa using hmore
  obtain ⟨_, rfl, hsays, hbrace, hinner⟩ := hlabels hverbatim .name rfl hparse
  have hexpect : c.skipNewlines.expect .leftBrace .start = .ok (Cursor.at .start c.start (source inner)) := by
    rw [Cursor.skipNewlines_of_word (by simp [hbrace]), Cursor.expect, if_pos hbrace, Cursor.advance, hinner]
  obtain ⟨items, close, ms, hitems, hclose, hms, hsummary⟩ := hbody c.start []
  rw [settled_brace] at hclose
  have hend : close.expect .rightBrace .start = .ok (Cursor.at .start close.start (source r)) := by
    rw [Cursor.expect, if_pos hclose.word, Cursor.advance, hclose.rest]
  obtain ⟨entries, hentries⟩ := hsummary.exists_collect hdistinct
  refine ⟨.block kind texts (lineOf whole start) (lineOf whole close.start) items, close.start, ?_, ?_⟩
  · rw [List.nil_append] at hitems
    rw [parseItem, hword, hparse]
    simp only [bind, Except.bind, Bool.false_eq_true, if_false, hexpect, hitems, hend]
  · rw [Item.member, labelTexts_eq hsays, hms]
    simp only [bind, Except.bind, hentries]
    exact ⟨_, rfl⟩

theorem length_source_lt (h : readIdentifier s = .ok (name, x)) : (source x).length < (source s).length := by
  obtain ⟨hs, hne, -⟩ := readIdentifier_append (readIdentifier_source h)
  have := List.length_pos_iff.2 hne
  rw [hs, List.length_append]
  omega

theorem endsLines_gap {gap : Text} (h : EndsLines (trimEnd isSpace gap)) : EndsLines gap := by
  rw [← trimEnd_append_indentation gap]
  have hspaces : '\r' ∉ indentation gap := fun hmem => by cases isSpace_of_mem_indentation _ hmem
  refine h.append ?_
  rwa [EndsLines, withoutReturns, replaceAll_of_not_mem hspaces]

/-- The strict grammar takes a body whose tree is plain. -/
theorem takes_body {line : Nat} (h : Reads line s nodes r) (hplain : Body.isPlain (Body.canonical nodes) = true)
    (hc : c.Reaches s) (hn : 8 * (source s).length ≤ n) : Takes whole n c nodes r := by
  have shorter {t u : Text} (hu : u <:+ t) : (source u).length ≤ (source t).length := by
    obtain ⟨p, rfl⟩ := hu
    exact (source_suffix p u).length_le
  induction h generalizing n c with
  | @stop line s gap r hs hgap hr =>
      rw [Body.isPlain_stop, decide_eq_true_eq] at hplain
      have hsame := (hc r hgap (.inl hr)).resolve_right fun hstuck => not_halts hplain r (hs ▸ hstuck.2)
      have hpos : 0 < (source s).length := by simp [source]
      have hempty : gapNodes (trimEnd isSpace gap) ++ gapNodes (indentation gap) =
          gapNodes (trimEnd isSpace gap) ++ (gapNodes (indentation gap) ++ []) := by rw [List.append_nil]
      refine takes_stop (by omega) hsame hr ?_ ?_
      · rw [hempty, Body.names_gapNodes, Body.names_gapNodes]
        rfl
      · rw [hempty, Body.kinds_gapNodes, Body.kinds_gapNodes]
        rfl
  | @field line s gap behind r a nodes hs hgap hlead hline hfits hreads ih =>
      rw [Body.isPlain_field, Bool.and_eq_true, Bool.and_eq_true, decide_eq_true_eq] at hplain
      obtain ⟨hlines, hreadable, hnodes⟩ := hplain
      have hsame := (hc _ hgap (.inr hfits.opensIdentifier)).resolve_right fun hstuck =>
        not_halts (endsLines_gap hlines) _ (hs ▸ hstuck.2)
      have hname := readIdentifier_of_fits hfits
      have hlt := length_source_lt hname
      have hle := shorter (show a.text ++ behind <:+ s from ⟨gap, hs.symm⟩)
      have hrest := shorter (show behind <:+ a.sep ++ (a.expr ++ (a.tail ++ behind)) from
        ⟨a.sep ++ (a.expr ++ a.tail), by simp⟩)
      obtain ⟨n, rfl⟩ : ∃ m, n = m + 2 := ⟨n - 2, by omega⟩
      obtain ⟨t, hnext, ht⟩ := hreads.exists_gap
      obtain ⟨e, hvalue, next, hitem, hsettles⟩ := exists_parseItem_attribute hreadable hfits hnext ht (n := n)
        (by omega) (source (a.text ++ behind)) (source (a.text ++ behind))
      obtain ⟨v, hv⟩ := Expr.exists_value hvalue
      have hmember : (Item.attribute a.name e).member = .ok (.attribute a.name v.wrap) := by
        rw [Item.member, hv]
        rfl
      refine takes_item hsame hname hitem hmember rfl rfl ?_
      exact ih hnodes (reaches_of_tail hsettles hfits.tail) (by omega)
  | @block line s gap inner tail behind r head body nodes hs hgap hlead hline hopens hbody htail hreads ih ih' =>
      simp only [Body.isPlain_block, Bool.and_eq_true, decide_eq_true_eq, Body.isDistinct_canonical] at hplain
      obtain ⟨hlines, ⟨⟨hverbatim, hdistinct⟩, hinside⟩, hnodes⟩ := hplain
      have hsame := (hc _ hgap (.inr (hopens.opensIdentifier inner))).resolve_right fun hstuck =>
        not_halts (endsLines_gap hlines) _ (hs ▸ hstuck.2)
      obtain ⟨x, hname, hlabels⟩ := readLabels_of_opens hopens inner
      have hinner : inner <:+ x := by
        obtain ⟨p, hp, -⟩ := readLabels_append hlabels
        exact (hp ▸ List.suffix_append p inner).trans (skipSpaces_suffix x)
      have hbehind : behind <:+ inner := ⟨Body.render body ++ '}' :: tail, by rw [hbody.render]; simp⟩
      have hlt := length_source_lt hname
      have hle := shorter (show head.header ++ inner <:+ s from ⟨gap, hs.symm⟩)
      have hle' := shorter hinner
      have hle'' := shorter hbehind
      obtain ⟨n, rfl⟩ : ∃ m, n = m + 2 := ⟨n - 2, by omega⟩
      obtain ⟨item, last, hitem, v, hmember⟩ := exists_parseItem_block hlabels (by simpa using hverbatim) hdistinct
        (n := n) (by omega) (fun last => ih hinside (reaches_at .start) (by omega))
        (source (head.header ++ inner)) (source (head.header ++ inner))
      refine takes_item hsame hname hitem hmember rfl rfl ?_
      exact ih' hnodes (reaches_at_tail .start htail) (by omega)

/-- The strict reading accepts a text whose tree is plain, if no name stands twice outside of the blocks either. -/
theorem accepts_of_isPlain {text : Text} {body : Body} (hbody : Body.read text = .ok body)
    (hplain : Body.isPlain (Body.canonical body) = true) (hdistinct : Body.IsDistinct body) : Accepts text := by
  obtain ⟨items, c, ms, hitems, hend, hms, hsummary⟩ := takes_body (read_eq_ok.1 hbody) hplain (reaches_at .start)
    (Nat.le_add_right (8 * (source text).length) 16) []
  obtain ⟨entries, hentries⟩ := hsummary.exists_collect hdistinct
  have hparse : parse (source text) = .ok items := by
    rw [parse, hitems]
    simp only [bind, Except.bind]
    rw [if_pos]
    · rfl
    · rw [hend.word, hend.start, settled_end.1, settled_end.2]
      rfl
  refine ⟨firsts (topLines entries), ?_⟩
  unfold blockIndex
  simp only
  rw [show Text.replaceAll ['\r', '\n'] ['\n'] text ++ ['\n'] = source text from rfl, hparse]
  simp only [hms, bind, Except.bind, hentries]

end

end Strict
end JujuMigration
