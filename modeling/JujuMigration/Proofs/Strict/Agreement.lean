import JujuMigration.Proofs.Config.Reading
import JujuMigration.Proofs.Source.Position
import JujuMigration.Proofs.Strict.Labels
/-! Both readings of a text. The strict grammar and the reader of the tree go through a text side by side: where they
end every expression alike they come upon the same items, and each block begins on the same line for both. -/

namespace JujuMigration

open Source Text

namespace Strict

/-- An expression that the strict grammar reads from the text of `expr` in front of `rest` ends where `rest` begins. -/
def EndsAt (expr rest : Text) : Prop := ∀ (n : Nat) (last : Text) (e : Expr) (c : Cursor),
  parseExpr n (Cursor.at .start last (source (expr ++ rest))) = .ok (e, c) → c.skipNewlines.Same (settled (source rest))

end Strict

mutual

/-- In front of `after`, both readings end the expressions of the node alike and take its labels as they are written. -/
def Node.IsShared (after : Text) : Node → Prop
  | .gap _ => True
  | .attribute a => Strict.EndsAt a.expr (a.tail ++ after)
  | .block head body closing => (∀ l ∈ head.labels, IsVerbatim l) ∧ Body.IsShared (closing ++ after) body

def Body.IsShared (after : Text) : List Node → Prop
  | [] => True
  | node :: nodes => node.IsShared (Body.render nodes ++ after) ∧ Body.IsShared after nodes

end

theorem Body.isShared_gapNodes {after t : Text} {nodes : Body} :
    Body.IsShared after (gapNodes t ++ nodes) ↔ Body.IsShared after nodes := by
  unfold gapNodes
  split
  · rfl
  · simp [Body.IsShared, Node.IsShared]

namespace Strict

/-- The items are the attributes and blocks of the tree, and every block is on the line that the tree has for it. -/
inductive Agrees : List Item → Body → Prop
  | stop : Agrees [] []
  | gap {items : List Item} {nodes : Body} (t : Text) (h : Agrees items nodes) : Agrees items (.gap t :: nodes)
  | field {items : List Item} {nodes : Body} {a : Attribute} {e : Expr} (hname : IsIdentifier a.name)
      (h : Agrees items nodes) : Agrees (.attribute a.name e :: items) (.attribute a :: nodes)
  | block {items inner : List Item} {nodes body : Body} {head : BlockHead} {labels : List Expr} {endLine : Nat}
      {closing : Text} (hkind : IsIdentifier head.kind) (hlabels : List.Forall₂ Says labels head.labels)
      (hbody : Agrees inner body) (h : Agrees items nodes) :
      Agrees (.block head.kind labels head.line endLine inner :: items) (.block head body closing :: nodes)

theorem Agrees.gapNodes {items : List Item} {nodes : Body} (t : Text) (h : Agrees items nodes) :
    Agrees items (gapNodes t ++ nodes) := by
  unfold JujuMigration.gapNodes
  split
  · exact h
  · exact .gap t h

/-! ### Where the cursor stands -/

section

variable {mode : Mode} {s r behind last : Text} {c : Cursor}

theorem settled_name {name : Text} (h : readIdentifier s = .ok (name, r)) :
    settled (source s) = ⟨some (.name name), source s, source r, []⟩ := by
  rw [settled, Cursor.at_name .afterNewline (readIdentifier_source h), Cursor.skipNewlines_of_word (by simp)]

theorem settled_brace (s : Text) : settled (source ('}' :: s)) = ⟨some .rightBrace, '}' :: source s, source s, []⟩ := by
  rw [source_cons_of_ne (by decide), settled, Cursor.at_brace .afterNewline, Cursor.skipNewlines_of_word (by simp)]

theorem settled_end : (settled (source [])).word = none ∧ (settled (source [])).start = [] := ⟨rfl, rfl⟩

/-- Behind line ends the cursor stands at what is behind the gap of the text, unless a carriage return stops it. -/
def Cursor.Reaches (c : Cursor) (s : Text) : Prop := ∀ r, skipGap s = .ok r →
  endsBody r = true ∨ opensIdentifier r = true →
    c.skipNewlines.Same (settled (source r)) ∨ c.skipNewlines.IsStuck ∧ Halts s r

theorem reaches_at (hmode : mode.IsFresh) : (Cursor.at mode last (source s)).Reaches s :=
  fun _ h hr => skipNewlines_at_gap hmode h hr

theorem reaches_of_same (h : c.skipNewlines.Same (settled (source s))) : c.Reaches s :=
  fun _ hgap hr => (skipNewlines_at_gap .afterNewline hgap hr).imp h.trans fun hs => ⟨h.isStuck hs.1, hs.2⟩

theorem reaches_of_tail (h : c.skipNewlines.Same (settled (source s))) (htail : skipLineTail s = .ok behind) :
    c.Reaches behind :=
  reaches_of_same (h.trans (skipNewlines_at_tail .afterNewline htail))

theorem reaches_at_tail (hmode : mode.IsFresh) (htail : skipLineTail s = .ok behind) :
    (Cursor.at mode last (source s)).Reaches behind :=
  reaches_of_same (skipNewlines_at_tail hmode htail)

end

/-! ### Items -/

section

variable {whole start last behind s inner : Text} {a : Attribute} {n : Nat} {item : Item} {c : Cursor}

theorem at_arrow {s r : Text} (h : skipSpaces s = '=' :: '>' :: r) :
    Cursor.at .afterName last s = ⟨some .arrow, '=' :: '>' :: r, r, last⟩ := by
  have hequals : equals? s = none := by simp [equals?, h]
  simp only [Cursor.at, Mode.afterName, Mode.allowsEquals, if_true, hequals, h]
  rfl

theorem at_equals {s r : Text} (h : skipSpaces s = '=' :: r) (he : r.head? ≠ some '=') (ha : r.head? ≠ some '>') :
    Cursor.at .afterName last s = ⟨some .equals, s, r, last⟩ := by
  have hequals : equals? s = some r := by simp [equals?, h, he, ha]
  simp only [Cursor.at, Mode.afterName, Mode.allowsEquals, if_true, hequals]

theorem skipNewlines_fails {word : Lexeme} (h : c.word = some word) (hn : word ≠ .newline) (hb : word ≠ .leftBrace)
    (mode : Mode) : c.skipNewlines.expect .leftBrace mode = c.fail := by
  have hword (w : Lexeme) (hw : word ≠ w) : c.word ≠ some w := fun hc => hw (Option.some.inj (h.symm.trans hc))
  rw [Cursor.skipNewlines_of_word (hword _ hn), Cursor.expect, if_neg (hword _ hb)]

/-- An item that goes on with an arrow is none for the strict grammar. -/
theorem parseItem_arrow {kind : Text} (h : c.word = some .arrow) (item : Item) (c' : Cursor) :
    parseItem whole n kind start c ≠ .ok (item, c') := by
  intro hp
  cases n with
  | zero => cases hp
  | succ n =>
      rw [parseItem, Cursor.isAt, h] at hp
      cases n with
      | zero => cases hp
      | succ n =>
          rw [parseLabels, h] at hp
          simp only [bind, Except.bind, skipNewlines_fails h (by simp) (by simp)] at hp
          cases hp

/-- Behind the name of an attribute the strict grammar comes upon the equals sign, or takes it for part of an arrow. -/
theorem at_separator (h : a.Fits behind) (last : Text) :
    (Cursor.at .afterName last (source (a.sep ++ (a.expr ++ (a.tail ++ behind))))).word = some .arrow ∧
        a.expr.head? = some '>' ∨
      ∃ start last', Cursor.at .afterName last (source (a.sep ++ (a.expr ++ (a.tail ++ behind)))) =
          ⟨some .equals, start, last', last⟩ ∧
        Cursor.at .start start last' = Cursor.at .start start (source (a.expr ++ (a.tail ++ behind))) := by
  obtain ⟨u, v, hsep, hu, hv⟩ := h.sep
  obtain ⟨d, q, hexpr⟩ := List.exists_cons_of_ne_nil h.nonempty
  generalize a.tail ++ behind = rest
  have hd : isSpace d = false := by simpa [hexpr] using h.start
  have hskip : skipSpaces (a.sep ++ (a.expr ++ rest)) = '=' :: (v ++ (a.expr ++ rest)) := by
    rw [hsep, List.append_assoc]
    exact skipSpaces_of_forall hu rfl
  have hvalue : skipSpaces (v ++ (a.expr ++ rest)) = a.expr ++ rest :=
    skipSpaces_of_forall hv (by simpa [hexpr] using hd)
  have hsource : skipSpaces (source (a.sep ++ (a.expr ++ rest))) = '=' :: source (v ++ (a.expr ++ rest)) := by
    rw [skipSpaces_source, hskip, source_cons_of_ne (by decide)]
  have begins {c : Char} (hc : isSpace c = false) (hline : c ≠ '\n')
      (he : (source (v ++ (a.expr ++ rest))).head? = some c) : v = [] ∧ a.expr.head? = some c := by
    have he := head?_source he hline
    cases v with
    | nil => exact ⟨rfl, by simpa [hexpr] using he⟩
    | cons x v => exact absurd (hv x List.mem_cons_self) (by rw [Option.some.inj he, hc]; simp)
  have hequals : (source (v ++ (a.expr ++ rest))).head? ≠ some '=' := fun he => by
    obtain ⟨rfl, hfirst⟩ := begins rfl (by decide) he
    exact h.value (by simp [hsep]) hfirst
  by_cases harrow : (source (v ++ (a.expr ++ rest))).head? = some '>'
  · obtain ⟨x, hx⟩ := List.head?_eq_some_iff.1 harrow
    rw [hx] at hsource
    exact .inl ⟨congrArg Cursor.word (at_arrow hsource), (begins rfl (by decide) harrow).2⟩
  · refine .inr ⟨_, _, at_equals hsource hequals harrow, ?_⟩
    rw [← Cursor.at_source_skipSpaces .start, hvalue]

/-- The strict grammar takes for an attribute what the tree does, if both end its expression alike. -/
theorem parseItem_attribute (h : a.Fits behind) (hends : EndsAt a.expr (a.tail ++ behind))
    (hp : parseItem whole n a.name start
      (Cursor.at .afterName last (source (a.sep ++ (a.expr ++ (a.tail ++ behind))))) = .ok (item, c)) :
    ∃ e, item = .attribute a.name e ∧ c.skipNewlines.Same (settled (source (a.tail ++ behind))) := by
  rcases at_separator h last with ⟨harrow, -⟩ | ⟨start, rest, hat, hvalue⟩
  · exact absurd hp (parseItem_arrow harrow item c)
  · rw [hat] at hp
    cases n with
    | zero => cases hp
    | succ n =>
        rw [parseItem, Cursor.isAt, if_pos (decide_eq_true rfl), Cursor.advance, hvalue] at hp
        simp only [bind, Except.bind] at hp
        split at hp
        · cases hp
        · next x hx =>
            obtain ⟨rfl, rfl⟩ := Prod.mk.inj (Except.ok.inj hp)
            exact ⟨_, rfl, hends _ _ _ _ hx⟩

theorem isAt_equals_of_readLabels {kind : Text} {labels : List Text}
    (h : readLabels kind [] (skipSpaces s) = .ok (labels, inner)) :
    (Cursor.at .afterName last (source s)).isAt .equals = false := by
  have hskip := skipSpaces_source s
  rw [readLabels.eq_def] at h
  split at h
  · next r hs =>
      rw [hs, source_cons_of_ne (by decide)] at hskip
      rw [Cursor.at_label .name hskip (by decide) (wordAt_leftBrace .name)]
      rfl
  · split at h
    · next hs =>
        rcases hs with hs | hs
        · obtain ⟨u, hu⟩ := List.head?_eq_some_iff.1 hs
          rw [hu, source_cons_of_ne (by decide)] at hskip
          rw [Cursor.at_label .name hskip (by decide) (wordAt_quote .name)]
          rfl
        · obtain ⟨name, x, hx⟩ := exists_readIdentifier hs
          have hsource : readIdentifier (skipSpaces (source s)) = .ok (name, source x) :=
            hskip ▸ readIdentifier_source hx
          rw [Cursor.at_nextName .name hsource]
          rfl
    · cases h

/-- The strict grammar takes for a block what the tree does, as far as its brace. -/
theorem parseItem_block {kind : Text} {labels : List Text}
    (h : readLabels kind [] (skipSpaces s) = .ok (labels, inner)) (hverbatim : ∀ l ∈ labels, IsVerbatim l)
    (hp : parseItem whole n kind start (Cursor.at .afterName last (source s)) = .ok (item, c)) :
    ∃ m texts body close last, List.Forall₂ Says texts labels ∧
      parseBody whole m [] (Cursor.at .start last (source inner)) = .ok (body, close) ∧
      close.word = some .rightBrace ∧ c = close.advance .start ∧
      item = .block kind texts (lineOf whole start) (lineOf whole close.start) body := by
  have hword : (Cursor.at .afterName last (source s)).isAt .equals = false := isAt_equals_of_readLabels h
  cases n with
  | zero => cases hp
  | succ n =>
      rw [parseItem, hword] at hp
      simp only [bind, Except.bind, Bool.false_eq_true, if_false] at hp
      split at hp
      · cases hp
      · next x hx =>
          obtain ⟨more, hmore, hlabels⟩ := parseLabels_of_readLabels whole h
          obtain rfl : labels = more := by simpa using hmore
          obtain ⟨texts, htexts, htold, hbrace, hinner⟩ := hlabels hverbatim .name rfl hx
          have hexpect : x.2.skipNewlines.expect .leftBrace .start =
              .ok (Cursor.at .start x.2.start (source inner)) := by
            have hnewline : x.2.word ≠ some .newline := by rw [hbrace]; simp
            rw [Cursor.skipNewlines_of_word hnewline, Cursor.expect, if_pos hbrace, Cursor.advance, hinner]
          rw [hexpect] at hp
          simp only at hp
          split at hp
          · cases hp
          · next y hy =>
              rw [Cursor.expect] at hp
              by_cases hclose : y.2.word = some .rightBrace
              · rw [if_pos hclose] at hp
                obtain ⟨rfl, rfl⟩ := Prod.mk.inj (Except.ok.inj hp)
                exact ⟨n, x.1, y.1, y.2, x.2.start, htexts ▸ htold, hy, hclose, rfl, rfl⟩
              · rw [if_neg hclose] at hp
                cases hp

end

/-! ### Bodies -/

theorem newlines_withoutReturns (s : Text) : newlines (withoutReturns s) = newlines s := by
  induction s with
  | nil => rfl
  | cons c s ih =>
      by_cases h : c = '\r' ∧ s.head? = some '\n'
      · obtain ⟨rfl, hs⟩ := h
        obtain ⟨t, rfl⟩ := List.head?_eq_some_iff.1 hs
        exact ih
      · rw [withoutReturns_cons fun hc hs => h ⟨hc, hs⟩, newlines, List.count_cons, newlines, List.count_cons]
        exact congrArg (· + _) ih

/-- The text is the end of a file, behind as many line feeds as bring it to the line. -/
def Placed (file : Text) (line : Nat) (s : Text) : Prop := ∃ front, file = front ++ s ∧ line = 1 + newlines front

theorem placed_self (file : Text) : Placed file 1 file := ⟨[], rfl, rfl⟩

theorem Placed.behind {file p s : Text} {line : Nat} (h : Placed file line (p ++ s)) :
    Placed file (line + newlines p) s := by
  obtain ⟨front, rfl, rfl⟩ := h
  exact ⟨front ++ p, (List.append_assoc ..).symm, by rw [newlines_append, Nat.add_assoc]⟩

/-- A place is on the same line for the strict grammar as for the tree. -/
theorem Placed.lineOf_source {file s : Text} {line : Nat} (h : Placed file line s) (hs : s.head? ≠ some '\n') :
    lineOf (source file) (source s) = line := by
  obtain ⟨front, rfl, rfl⟩ := h
  rw [lineOf, source_append front hs, Position.ofRest_append, newlines_withoutReturns]

/-- A body begins with a name and goes on behind its item, or it ends. -/
theorem parseBody_cases {whole : Text} {n : Nat} {done items : List Item} {c c' : Cursor}
    (h : parseBody whole n done c = .ok (items, c')) :
    (∃ t m item next, c.skipNewlines.word = some (.name t) ∧
      parseItem whole m t c.skipNewlines.start (c.skipNewlines.advance .afterName) = .ok (item, next) ∧
      parseBody whole m (done ++ [item]) next = .ok (items, c')) ∨
    (∀ t, c.skipNewlines.word ≠ some (.name t)) ∧ items = done ∧ c' = c.skipNewlines := by
  cases n with
  | zero => cases h
  | succ n =>
      rw [parseBody] at h
      simp only [bind, Except.bind] at h
      split at h
      · next t ht =>
          split at h
          · cases h
          · next x hx => exact .inl ⟨t, n, x.1, x.2, ht, hx, h⟩
      · next ht =>
          obtain ⟨rfl, rfl⟩ := Prod.mk.inj (Except.ok.inj h)
          exact .inr ⟨ht, rfl, rfl⟩

theorem parseBody_stuck {whole : Text} {n : Nat} {done items : List Item} {c c' : Cursor}
    (h : parseBody whole n done c = .ok (items, c')) (hc : c.skipNewlines.IsStuck) : c'.IsStuck := by
  rcases parseBody_cases h with ⟨t, m, item, next, hword, -, -⟩ | ⟨-, -, rfl⟩
  · cases hc.1.symm.trans hword
  · exact hc

/-- Where the tree has an item, the strict grammar reads one from behind the same name on. -/
theorem parseBody_name {whole : Text} {n : Nat} {done items : List Item} {c c' : Cursor} {s name x : Text}
    (h : parseBody whole n done c = .ok (items, c')) (hc : c.skipNewlines.Same (settled (source s)))
    (hs : readIdentifier s = .ok (name, x)) : ∃ m item next,
      parseItem whole m name (source s) (Cursor.at .afterName (source s) (source x)) = .ok (item, next) ∧
      parseBody whole m (done ++ [item]) next = .ok (items, c') := by
  rw [settled_name hs] at hc
  rcases parseBody_cases h with ⟨t, m, item, next, hword, hitem, hnext⟩ | ⟨hword, -⟩
  · obtain rfl := Lexeme.name.inj (Option.some.inj (hc.word.symm.trans hword))
    rw [hc.advance, hc.start] at hitem
    exact ⟨m, item, next, hitem, hnext⟩
  · exact absurd hc.word (hword name)

theorem readIdentifier_of_fits {a : Attribute} {r : Text} (h : a.Fits r) :
    readIdentifier (a.text ++ r) = .ok (a.name, a.sep ++ (a.expr ++ (a.tail ++ r))) := by
  have htext : a.text ++ r = a.name ++ (a.sep ++ (a.expr ++ (a.tail ++ r))) := by simp [Attribute.text]
  rw [htext]
  exact readIdentifier_of_isIdentifier h.name (isSeparator_head? h.sep _)

/-- Behind the items `done` a body is read as the tree has it, unless a carriage return stops it. -/
def ReadAs (r : Text) (nodes : Body) (done items : List Item) (c : Cursor) : Prop :=
  c.IsStuck ∨ c.Same (settled (source r)) ∧ ∃ new, items = done ++ new ∧ Agrees new nodes

theorem ReadAs.prepend {r : Text} {nodes : Body} {node : Node} {done items : List Item} {item : Item} {c : Cursor}
    (h : ReadAs r nodes (done ++ [item]) items c) (t : Text)
    (hnode : ∀ {new}, Agrees new nodes → Agrees (item :: new) (node :: nodes)) :
    ReadAs r (gapNodes t ++ node :: nodes) done items c :=
  h.imp_right fun ⟨hc, new, hitems, hnew⟩ =>
    ⟨hc, item :: new, hitems.trans (List.append_cons ..).symm, .gapNodes t (hnode hnew)⟩

theorem readAs_stop {whole s gap r : Text} {n : Nat} {done items : List Item} {c c' : Cursor} (hc : c.Reaches s)
    (hgap : skipGap s = .ok r) (hr : endsBody r = true) (hp : parseBody whole n done c = .ok (items, c')) :
    ReadAs r (gapNodes (trimEnd isSpace gap) ++ gapNodes (indentation gap)) done items c' := by
  rcases hc r hgap (.inl hr) with hsame | ⟨hstuck, -⟩
  · rcases parseBody_cases hp with ⟨t, m, item, next, hword, -, -⟩ | ⟨-, rfl, rfl⟩
    · rcases endsBody_iff.1 hr with rfl | ⟨u, rfl⟩
      · cases settled_end.1.symm.trans (hsame.word.symm.trans hword)
      · rw [settled_brace] at hsame
        cases hsame.word.symm.trans hword
    · have hgaps : Agrees [] (gapNodes (trimEnd isSpace gap) ++ (gapNodes (indentation gap) ++ [])) :=
        .gapNodes _ (.gapNodes _ .stop)
      rw [List.append_nil] at hgaps
      exact .inr ⟨hsame, [], (List.append_nil _).symm, hgaps⟩
  · exact .inl (parseBody_stuck hp hstuck)

theorem head?_header {head : BlockHead} (h : head.Opens) (r : Text) :
    (head.header ++ r).head? ≠ some '\n' := fun hr => by
  have ho := h.opensIdentifier r
  rw [Source.opensIdentifier, hr] at ho
  cases ho

/-- The strict grammar reads a body that the tree has read, item by item. -/
theorem parseBody_agrees {file s r : Text} {line : Nat} {nodes : Body} (h : Reads line s nodes r)
    (hshared : Body.IsShared r nodes) (hplaced : Placed file line s) {n : Nat} {done items : List Item}
    {c c' : Cursor} (hc : c.Reaches s) (hp : parseBody (source file) n done c = .ok (items, c')) :
    ReadAs r nodes done items c' := by
  -- Behind an item the cursor may still be in front of its line end, so it need only reach what the next gap leads to.
  induction h generalizing n done items c c' with
  | stop hs hgap hr => exact readAs_stop hc hgap hr hp
  | @field line s gap behind r a nodes hs hgap hlead hline hfits hreads ih =>
      rcases hc _ hgap (.inr hfits.opensIdentifier) with hsame | ⟨hstuck, -⟩
      · obtain ⟨m, item, next, hitem, hnext⟩ := parseBody_name hp hsame (readIdentifier_of_fits hfits)
        rw [Body.isShared_gapNodes] at hshared
        obtain ⟨hends, hnodes⟩ := hshared
        rw [Node.IsShared, ← hreads.render] at hends
        obtain ⟨e, rfl, hnewlines⟩ := parseItem_attribute hfits hends hitem
        rw [hs] at hplaced
        have hbehind : Placed file (a.line + newlines a.text) behind := hline ▸ hplaced.behind.behind
        exact (ih hnodes hbehind (reaches_of_tail hnewlines hfits.tail) hnext).prepend _ (.field hfits.name)
      · exact .inl (parseBody_stuck hp hstuck)
  | @block line s gap inner tail behind r head body nodes hs hgap hlead hline hopens hbody htail hreads ih ih' =>
      rcases hc _ hgap (.inr (hopens.opensIdentifier inner)) with hsame | ⟨hstuck, -⟩
      · obtain ⟨x, hname, hlabels⟩ := readLabels_of_opens hopens inner
        obtain ⟨m, item, next, hitem, hnext⟩ := parseBody_name hp hsame hname
        rw [Body.isShared_gapNodes] at hshared
        obtain ⟨hhead, hnodes⟩ := hshared
        rw [Node.IsShared, List.cons_append, ← hreads.render] at hhead
        obtain ⟨m', texts, inside, close, last, htexts, hinside, hclose, rfl, rfl⟩ :=
          parseItem_block hlabels hhead.1 hitem
        rw [hs] at hplaced
        have hhere : Placed file head.line (head.header ++ inner) := hline ▸ hplaced.behind
        rcases ih hhead.2 hhere.behind (reaches_at .start) hinside with hstuck | ⟨hend, inside, rfl, hagrees⟩
        · cases hstuck.1.symm.trans hclose
        rw [settled_brace] at hend
        have hbehind : (close.advance .start).Reaches behind := by
          rw [Cursor.advance, hend.rest]
          exact reaches_at_tail .start htail
        have hthere : Placed file (head.line + newlines (head.header ++ Body.render body ++ '}' :: tail)) behind := by
          refine Placed.behind ?_
          rw [hbody.render] at hhere
          simpa using hhere
        rw [hhere.lineOf_source (head?_header hopens inner)] at hnext
        exact (ih' hnodes hthere hbehind hnext).prepend _
          (.block (isIdentifier_of_readIdentifier hname) htexts hagrees)
      · exact .inl (parseBody_stuck hp hstuck)

/-- Where both readings accept a text and end its expressions alike, they agree on its items and on their lines. -/
theorem parse_agrees {t : Text} {body : Body} {items : List Item} (hbody : Body.read t = .ok body)
    (hshared : Body.IsShared [] body) (h : parse (source t) = .ok items) : Agrees items body := by
  rw [parse] at h
  simp only [bind, Except.bind] at h
  split at h
  · cases h
  · next x hx =>
      rcases parseBody_agrees (read_eq_ok.1 hbody) hshared (placed_self t) (reaches_at .start) hx with
        hstuck | ⟨-, new, hnew, hagrees⟩
      · rw [if_neg (by simp [hstuck.1, hstuck.2])] at h
        cases h
      · split at h
        · obtain rfl := Except.ok.inj h
          rwa [hnew]
        · cases h

end Strict
end JujuMigration
