import Mathlib.Data.List.Nodup
import JujuMigration.Proofs.Strict.Agreement
/-! The index of blocks. Of a text that both readings take for the same items the index has every block of the tree
under its address, on the line that the tree has for it, provided that no two blocks have one address and no label
is the key under which a line is noted. -/

namespace JujuMigration.Strict

open Source Text

/-! ### Entries -/

section

variable {entries : Entries} {key k : Text} {value v : Value}

theorem lookup_cons (entry : Text × Value) (entries : Entries) :
    lookup key (entry :: entries) = if entry.1 = key then some entry.2 else lookup key entries := by
  rw [lookup, List.find?_cons]
  split <;> simp_all [lookup]

theorem lookup_eq_none : lookup key entries = none ↔ ∀ entry ∈ entries, entry.1 ≠ key := by
  simp [lookup]

theorem mem_of_lookup (h : lookup key entries = some v) : (key, v) ∈ entries := by
  rw [lookup, Option.map_eq_some_iff] at h
  obtain ⟨⟨k, w⟩, hfind, rfl⟩ := h
  obtain rfl : k = key := by simpa using List.find?_some hfind
  exact List.mem_of_find?_eq_some hfind

/-- A key is looked up where it stands if all its entries are the same. -/
theorem lookup_of_forall (hmem : (key, v) ∈ entries) (hall : ∀ w, (key, w) ∈ entries → w = v) :
    lookup key entries = some v := by
  cases h : lookup key entries with
  | none => exact absurd rfl (lookup_eq_none.1 h _ hmem)
  | some w => rw [hall w (mem_of_lookup h)]

theorem lookup_filter (h : k ≠ key) : lookup k (entries.filter (·.1 ≠ key)) = lookup k entries := by
  induction entries with
  | nil => rfl
  | cons entry entries ih =>
      by_cases he : entry.1 = key
      · rw [List.filter_cons_of_neg (by simpa using he), ih, lookup_cons, if_neg]
        rintro rfl
        exact h he
      · rw [List.filter_cons_of_pos (by simpa using he), lookup_cons, lookup_cons, ih]

/-- To leave out repetitions leaves what is looked up. -/
theorem lookup_firsts (key : Text) (entries : Entries) : lookup key (firsts entries) = lookup key entries := by
  induction entries with
  | nil => rfl
  | cons entry entries ih =>
      obtain ⟨k, v⟩ := entry
      rw [firsts, lookup_cons, lookup_cons]
      split
      · rfl
      · next h => rw [lookup_filter (Ne.symm h), ih]

theorem lookup_setEntry_self : lookup key (setEntry key value entries) = some value := by
  induction entries with
  | nil => simp [setEntry, lookup_cons]
  | cons entry entries ih =>
      rw [setEntry]
      split
      · simp [lookup_cons]
      · next h => rw [lookup_cons, if_neg h, ih]

theorem lookup_setEntry_of_ne (h : k ≠ key) : lookup k (setEntry key value entries) = lookup k entries := by
  induction entries with
  | nil => simp [setEntry, Ne.symm h, lookup]
  | cons entry entries ih =>
      rw [setEntry]
      split
      · next he => rw [lookup_cons, lookup_cons, if_neg (Ne.symm h), if_neg (he ▸ Ne.symm h)]
      · rw [lookup_cons, lookup_cons, ih]

theorem mem_setEntry (h : (k, v) ∈ setEntry key value entries) : (k = key ∧ v = value) ∨ (k, v) ∈ entries := by
  induction entries with
  | nil => simpa [setEntry] using h
  | cons entry entries ih =>
      rw [setEntry] at h
      split at h <;> grind

/-- Only the entry that was looked up loses its place. -/
theorem mem_setEntry_of_mem (h : (k, v) ∈ entries) :
    (k, v) ∈ setEntry key value entries ∨ k = key ∧ lookup key entries = some v := by
  induction entries with
  | nil => cases h
  | cons entry entries ih =>
      rw [setEntry, lookup_cons]
      split <;> grind

theorem mem_setEntry_self (key : Text) (value : Value) (entries : Entries) :
    (key, value) ∈ setEntry key value entries := mem_of_lookup lookup_setEntry_self

end

/-! ### Addresses -/

section

variable {address : Text} {v : Value}

mutual

/-- An address below a value goes on behind the value's own, if it does, with a dot. -/
theorem Value.address_of_mem_lines : ∀ (v : Value) (address : Text), ∀ entry ∈ v.lines address,
    ∃ p, entry.1 = address ++ p ∧ (p = [] ∨ p.head? = some '.')
  | .object entries, address, entry, h => by
      rw [Value.lines] at h
      split at h
      · obtain rfl := List.mem_singleton.1 h
        exact ⟨[], by simp, .inl rfl⟩
      · obtain ⟨p, hp, hdot⟩ := address_of_mem_entryLines entries address entry h
        exact ⟨p, hp, .inr hdot⟩
  | .null, _, _, h | .bool _, _, _, h | .int _, _, _, h | .number _, _, _, h | .text _, _, _, h
  | .list _, _, _, h => by simp [Value.lines] at h

theorem address_of_mem_entryLines : ∀ (entries : List (Text × Value)) (address : Text),
    ∀ entry ∈ entryLines address entries, ∃ p, entry.1 = address ++ p ∧ p.head? = some '.'
  | [], _, _, h => by simp [entryLines] at h
  | (label, v) :: rest, address, entry, h => by
      rw [entryLines, List.mem_append] at h
      rcases h with h | h
      · obtain ⟨p, hp, -⟩ := Value.address_of_mem_lines v _ entry h
        exact ⟨'.' :: unpaired label ++ p, by simpa using hp, rfl⟩
      · exact address_of_mem_entryLines rest address entry h

end

theorem mem_topLines {entries : Entries} {entry : Text × Value} : entry ∈ topLines entries ↔
    ∃ kind vs v, (kind, .list vs) ∈ entries ∧ v ∈ vs ∧ entry ∈ v.lines kind := by
  fun_induction topLines entries with
  | case1 => simp
  | case2 kind blocks rest ih => simp [ih, or_and_right, exists_or]
  | case3 entry' rest hne ih =>
      rw [ih]
      constructor
      · rintro ⟨kind, vs, v, hmem, hv⟩
        exact ⟨kind, vs, v, List.mem_cons_of_mem _ hmem, hv⟩
      · rintro ⟨kind, vs, v, hmem, hv⟩
        rcases List.mem_cons.1 hmem with rfl | hmem
        · exact absurd rfl (hne kind vs)
        · exact ⟨kind, vs, v, hmem, hv⟩

theorem unpaired_of_isVerbatim {t : Text} (h : IsVerbatim t) : unpaired t = t := by
  have hquoted : unquoted? t = none := by
    rw [unquoted?, if_neg]
    exact fun hq => (h _ (List.mem_of_head? hq.1)).1 rfl
  rw [unpaired, hquoted]
  split <;> rfl

theorem join_cons {ts : List Text} (h : ts ≠ []) (sep t : Text) :
    Text.join sep (t :: ts) = t ++ sep ++ Text.join sep ts := by
  rw [Text.join]
  exact h

theorem join_concat {ts : List Text} (h : ts ≠ []) (sep t : Text) :
    Text.join sep (ts ++ [t]) = Text.join sep ts ++ sep ++ t := by
  induction ts with
  | nil => exact absurd rfl h
  | cons u ts ih =>
      by_cases hts : ts = []
      · subst hts
        rfl
      · rw [List.cons_append, join_cons (by simp), ih hts, join_cons hts]
        simp

/-- A block notes one line, under its kind and its labels. -/
theorem lines_underLabels (names : List Text) {labels : List Text} {marked : Entries} {line : Value}
    (hnames : names ≠ [])
    (hverbatim : ∀ l ∈ labels, IsVerbatim l) (hkey : startKey ∉ labels) (hline : lookup startKey marked = some line) :
    (Value.object (underLabels labels marked)).lines (Text.join ['.'] names) =
      [(Text.join ['.'] (names ++ labels), line)] := by
  induction labels generalizing names with
  | nil => rw [underLabels, Value.lines, hline, List.append_nil]
  | cons l labels ih =>
      obtain ⟨hl, hverbatim⟩ := List.forall_mem_cons.1 hverbatim
      obtain ⟨hne, hkey⟩ := not_or.1 (List.mem_cons.not.1 hkey)
      have hnone : lookup startKey [(l, .object (underLabels labels marked))] = none := by
        rw [lookup_eq_none]
        simpa using Ne.symm hne
      have hjoin : Text.join ['.'] names ++ '.' :: l = Text.join ['.'] (names ++ [l]) := by
        rw [join_concat hnames]
        simp
      rw [underLabels, Value.lines, hnone, entryLines, entryLines, unpaired_of_isVerbatim hl, hjoin,
        ih _ (by simp) hverbatim hkey, List.append_nil, List.append_assoc]
      rfl

end

/-! ### What a body is collected into -/

/-- The entries hold the blocks of the members in `seen`, by their kinds, and no attribute has the name of a kind;
`names` are those of the attributes. -/
structure Gathers (seen : List Member) (names : List Text) (done : Entries) : Prop where
  blocks : ∀ kind v, .block kind v ∈ seen → ∃ vs, (kind, .list vs) ∈ done ∧ v ∈ vs
  origin : ∀ kind vs v, (kind, .list vs) ∈ done → v ∈ vs →
    (∃ w, .attribute kind w ∈ seen) ∨ .block kind v ∈ seen
  named : ∀ name v, .attribute name v ∈ seen → name ∈ names
  apart : ∀ name v w, .attribute name v ∈ seen → .block name w ∉ seen

theorem gathers_nil : Gathers [] [] [] := ⟨by simp, by simp, by simp, by simp⟩

section

variable {seen members : List Member} {names : List Text} {done entries : Entries} {name kind : Text} {v : Value}

theorem Gathers.addAttribute (h : Gathers seen names done) (ha : addAttribute name v done = .ok entries) :
    Gathers (seen ++ [.attribute name v]) (name :: names) entries := by
  unfold Strict.addAttribute at ha
  split at ha
  · cases ha
  · next hsome =>
      obtain rfl := Except.ok.inj ha
      -- A block of that kind would have left an entry under the name.
      have hnone : ∀ w, (name, w) ∉ done := fun w hw => by
        rw [Bool.not_eq_true, Option.isSome_eq_false_iff, Option.isNone_iff_eq_none] at hsome
        exact lookup_eq_none.1 hsome _ hw rfl
      obtain ⟨hblocks, horigin, hnamed, hapart⟩ := h
      constructor
      case blocks | origin | named | apart => grind

/-- The blocks of the kind so far may be none; the new one comes behind them. -/
theorem Gathers.setBlocks (h : Gathers seen names done) (vs : List Value) (hnames : kind ∉ names)
    (hvs : ∀ ws, lookup kind done = some (.list ws) → vs = ws)
    (hseen : ∀ w ∈ vs, .block kind w ∈ seen) :
    Gathers (seen ++ [.block kind v]) names (setEntry kind (.list (vs ++ [v])) done) := by
  obtain ⟨hblocks, horigin, hnamed, hapart⟩ := h
  constructor
  case blocks => grind [mem_setEntry_of_mem, mem_setEntry_self]
  case origin => grind [mem_setEntry]
  case named | apart => grind

theorem Gathers.addBlock (h : Gathers seen names done) (ha : addBlock names kind v done = .ok entries) :
    Gathers (seen ++ [.block kind v]) names entries := by
  unfold Strict.addBlock at ha
  split at ha
  · cases ha
  · next hnames =>
      have hnames : kind ∉ names := by simpa using hnames
      split at ha
      · next vs hvs =>
          obtain rfl := Except.ok.inj ha
          refine h.setBlocks vs hnames (fun ws hws => by simpa using hvs.symm.trans hws) fun w hw => ?_
          rcases h.origin kind vs w (mem_of_lookup hvs) hw with ⟨u, hu⟩ | hw
          · exact absurd (h.named kind u hu) hnames
          · exact hw
      · next hvs =>
          obtain rfl := Except.ok.inj ha
          exact h.setBlocks [] hnames (fun ws hws => absurd hws (hvs ws)) (by simp)

theorem Gathers.collect (h : Gathers seen names done) (hc : collect names done members = .ok entries) :
    ∃ names, Gathers (seen ++ members) names entries := by
  induction members generalizing seen names done with
  | nil =>
      obtain rfl := Except.ok.inj hc
      exact ⟨names, by rwa [List.append_nil]⟩
  | cons m members ih =>
      cases m with
      | «attribute» name v =>
          rw [Strict.collect] at hc
          simp only [bind, Except.bind] at hc
          split at hc
          · cases hc
          · next hadd => simpa using ih (h.addAttribute hadd) hc
      | block kind v =>
          rw [Strict.collect] at hc
          simp only [bind, Except.bind] at hc
          split at hc
          · cases hc
          · next hadd => simpa using ih (h.addBlock hadd) hc

end

/-! ### The blocks of a tree -/

/-- The value of a block has the block's line noted below its labels. -/
structure Marks (b : Block) (v : Value) : Prop where
  kind : IsIdentifier b.head.kind
  labels : ∀ l ∈ b.labels, IsVerbatim l
  line : ∃ marked, v = .object (underLabels b.labels marked) ∧ lookup startKey marked = some (.int b.head.line)

theorem Says.isVerbatim {e : Expr} {t : Text} (h : Says e t) : IsVerbatim t := by
  cases h with
  | name h | quoted h => exact h
  | empty => simp [IsVerbatim]

theorem isVerbatim_of_says {labels : List Expr} {texts : List Text} (h : List.Forall₂ Says labels texts) :
    ∀ t ∈ texts, IsVerbatim t := by
  induction h with
  | nil => simp
  | cons h _ ih => exact List.forall_mem_cons.2 ⟨h.isVerbatim, ih⟩

section

variable {items : List Item} {ms : List Member} {nodes : Body} {m : Member}

theorem members_cons {i : Item} (h : members (i :: items) = .ok ms) :
    ∃ m rest, i.member = .ok m ∧ members items = .ok rest ∧ ms = m :: rest := by
  rw [members] at h
  simp only [bind, Except.bind] at h
  split at h
  · cases h
  · next m hm =>
      split at h
      · cases h
      · next rest hrest => exact ⟨m, rest, hm, hrest, (Except.ok.inj h).symm⟩

theorem member_attribute {name : Text} {e : Expr} (h : (Item.attribute name e).member = .ok m) :
    ∃ v, m = .attribute name v := by
  rw [Item.member] at h
  simp only [bind, Except.bind] at h
  split at h
  · cases h
  · exact ⟨_, (Except.ok.inj h).symm⟩

/-- The line of a block is noted where its labels lead to. -/
theorem member_block {b : Block} {labels : List Expr} {inner : List Item} {endLine : Nat}
    (hkind : IsIdentifier b.head.kind) (hlabels : List.Forall₂ Says labels b.labels)
    (h : (Item.block b.head.kind labels b.head.line endLine inner).member = .ok m) :
    ∃ v, m = .block b.head.kind v ∧ Marks b v := by
  rw [Item.member, labelTexts_eq hlabels] at h
  simp only [bind, Except.bind] at h
  split at h
  · cases h
  · split at h
    · cases h
    · obtain rfl := Except.ok.inj h
      refine ⟨_, rfl, hkind, isVerbatim_of_says hlabels, _, rfl, ?_⟩
      rw [lookup_setEntry_of_ne (by decide), lookup_setEntry_self]

/-- The members are attributes and the blocks `bs`. -/
structure Stems (bs : List Block) (ms : List Member) : Prop where
  names : ∀ name v, .attribute name v ∈ ms → IsIdentifier name
  blocks : ∀ kind v, .block kind v ∈ ms → ∃ b ∈ bs, b.head.kind = kind ∧ Marks b v
  all : ∀ b ∈ bs, ∃ v, .block b.head.kind v ∈ ms ∧ Marks b v

theorem Agrees.stems (h : Agrees items nodes) (hms : members items = .ok ms) : Stems (Body.blocks nodes) ms := by
  induction h generalizing ms with
  | stop =>
      obtain rfl : [] = ms := by simpa [members] using hms
      exact ⟨by simp, by simp, by simp [Body.blocks]⟩
  | gap t _ ih => exact ih hms
  | @field items nodes a e hname _ ih =>
      obtain ⟨m, rest, hm, hrest, rfl⟩ := members_cons hms
      obtain ⟨v, rfl⟩ := member_attribute hm
      obtain ⟨hnames, hblocks, hall⟩ := ih hrest
      have hnodes : Body.blocks (.attribute a :: nodes) = Body.blocks nodes := rfl
      rw [hnodes]
      constructor
      case names | blocks | all => grind
  | @block items inner nodes body head labels endLine closing hkind hlabels _ _ _ ih =>
      obtain ⟨m, rest, hm, hrest, rfl⟩ := members_cons hms
      obtain ⟨v, rfl, hmarks⟩ := member_block (b := ⟨head, body, closing⟩) hkind hlabels hm
      obtain ⟨hnames, hblocks, hall⟩ := ih hrest
      have hnodes : Body.blocks (.block head body closing :: nodes) = ⟨head, body, closing⟩ :: Body.blocks nodes := rfl
      rw [hnodes]
      constructor
      case names | blocks | all => grind

end

/-! ### The index -/

theorem Marks.lines {b : Block} {v : Value} (h : Marks b v) (hkey : startKey ∉ b.labels) :
    v.lines b.head.kind = [(b.address, .int b.head.line)] := by
  obtain ⟨marked, rfl, hline⟩ := h.line
  exact lines_underLabels [b.head.kind] (by simp) h.labels hkey hline

/-- A name is all of an address up to the first dot. -/
theorem eq_of_append_dotted {s t p q : Text} (hs : IsIdentifier s) (ht : IsIdentifier t)
    (hp : p = [] ∨ p.head? = some '.') (hq : q = [] ∨ q.head? = some '.') (h : s ++ p = t ++ q) : s = t := by
  have front {s p : Text} (hs : IsIdentifier s) (hp : p = [] ∨ p.head? = some '.') :
      (s ++ p).takeWhile (· ≠ '.') = s := by
    rw [List.takeWhile_append_of_pos]
    · rcases hp with rfl | hp
      · simp
      · obtain ⟨r, rfl⟩ := List.head?_eq_some_iff.1 hp
        simp
    · intro c hc
      have hne : c ≠ '.' := fun he => absurd (hs.2 c hc) (by rw [he]; decide)
      simpa using hne
  rw [← front hs hp, h, front ht hq]

theorem address_eq (b : Block) : ∃ p, b.address = b.head.kind ++ p ∧ (p = [] ∨ p.head? = some '.') := by
  rw [Block.address]
  cases b.head.labels with
  | nil => exact ⟨[], (List.append_nil _).symm, .inl rfl⟩
  | cons l labels =>
      refine ⟨'.' :: Text.join ['.'] (l :: labels), ?_, .inr rfl⟩
      rw [join_cons (by simp), List.append_assoc]
      rfl

/-- Blocks with different addresses are noted on their own lines, each under its address. -/
theorem lookup_topLines {bs : List Block} {ms : List Member} {entries : Entries} (hstems : Stems bs ms)
    (hc : collect [] [] ms = .ok entries) (hdistinct : (bs.map Block.address).Nodup)
    (hkeys : ∀ b ∈ bs, startKey ∉ b.labels) {b : Block} (hb : b ∈ bs) :
    lookup b.address (topLines entries) = some (.int b.head.line) := by
  obtain ⟨names, hgathers⟩ := gathers_nil.collect hc
  rw [List.nil_append] at hgathers
  obtain ⟨v, hv, hmarks⟩ := hstems.all b hb
  apply lookup_of_forall
  · obtain ⟨vs, hvs, hmem⟩ := hgathers.blocks _ _ hv
    refine mem_topLines.2 ⟨_, vs, v, hvs, hmem, ?_⟩
    rw [hmarks.lines (hkeys b hb)]
    exact List.mem_singleton.2 rfl
  · intro w hw
    obtain ⟨kind, vs, u, hvs, hu, hentry⟩ := mem_topLines.1 hw
    obtain ⟨p, hp, hdot⟩ := Value.address_of_mem_lines u kind _ hentry
    obtain ⟨q, hq, hdot'⟩ := address_eq b
    have same (hkind : IsIdentifier kind) : kind = b.head.kind :=
      eq_of_append_dotted hkind hmarks.kind hdot hdot' (hp.symm.trans hq)
    rcases hgathers.origin kind vs u hvs hu with ⟨x, hx⟩ | hu
    · have hkind := same (hstems.names kind x hx)
      exact absurd hv (hgathers.apart _ x v (hkind ▸ hx))
    · obtain ⟨b', hb', rfl, hmarks'⟩ := hstems.blocks kind u hu
      rw [hmarks'.lines (hkeys b' hb'), List.mem_singleton, Prod.mk.injEq] at hentry
      obtain rfl : b = b' := List.inj_on_of_nodup_map hdistinct hb hb' hentry.1
      exact hentry.2

/-- The index of a text has every block of its tree on the tree's line. -/
theorem lookup_blockIndex {t : Text} {body : Body} {entries : Entries} (hbody : Body.read t = .ok body)
    (hshared : Body.IsShared [] body) (hdistinct : ((Body.blocks body).map Block.address).Nodup)
    (hkeys : ∀ b ∈ Body.blocks body, startKey ∉ b.labels) (h : blockIndex t = .ok entries) {b : Block}
    (hb : b ∈ Body.blocks body) : lookup b.address entries = some (.int b.head.line) := by
  unfold blockIndex at h
  simp only at h
  split at h
  · cases h
  · next items hitems =>
      split at h
      · cases h
      · next done hdone =>
          obtain rfl := Except.ok.inj h
          rw [lookup_firsts]
          simp only [bind, Except.bind] at hdone
          split at hdone
          · cases hdone
          · next ms hms =>
              have hagrees := parse_agrees hbody hshared hitems
              exact lookup_topLines (hagrees.stems hms) hdone hdistinct hkeys hb

end JujuMigration.Strict
