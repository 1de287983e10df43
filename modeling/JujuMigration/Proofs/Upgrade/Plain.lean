import JujuMigration.Proofs.Strict.Acceptance
import JujuMigration.Proofs.Upgrade.Merge
import JujuMigration.Proofs.Upgrade.Migration
/-! Plain trees stay plain. What the strict reading asks of a tree it finds in the upgraded one too, if whatever an
attribute is given is readable, and if no block stands inside another under a name that the rules touch. -/

namespace JujuMigration

open Body

/-- The upgrade of the block gives an attribute only what both readings read in its place, and no block inside has a
name that it touches. -/
structure Block.UpgradesPlainly (b : Block) : Prop where
  merges : b.MergesWell
  readable : ∀ a value, Receives b.head b.body a value → ({ a with expr := value } : Attribute).isReadable = true
  apart : ∀ kind ∈ kinds b.body, kind ∉ touchedNames b.head

/-- The strict reading accepts the tree, and finds nothing to refuse in what the upgrade of a block gives. -/
structure Body.UpgradesPlainly (body : Body) : Prop where
  plain : isPlain body = true
  distinct : IsDistinct body
  blocks : ∀ b ∈ blocks body, b.UpgradesPlainly

namespace Body

variable {body body' : Body} {names : List Text} {head : BlockHead}

/-! ### Edited bodies -/

theorem isPlain_iff : isPlain body = true ↔ ∀ n ∈ body, n.isPlain = true := by
  induction body with
  | nil => simp [isPlain]
  | cons n ns ih => rw [isPlain, Bool.and_eq_true, ih, List.forall_mem_cons]

theorem isPlain_of_mem_blocks (h : isPlain body = true) {b : Block} (hb : b ∈ blocks body) :
    isPlain b.body = true ∧ IsDistinct b.body := by
  have hplain := isPlain_iff.1 h _ (mem_blocks.1 hb)
  rw [Block.toNode, Node.isPlain, Bool.and_eq_true, Bool.and_eq_true, decide_eq_true_eq] at hplain
  exact ⟨hplain.2, hplain.1.2⟩

theorem all_of_isPlain (h : isPlain body = true) : body.All (·.isReadable = true) :=
  fun _ ha => isPlain_iff.1 h _ ha

/-- An edited body is plain if its attributes are readable. -/
theorem isPlain_edited (he : Edited names body body') (h : isPlain body = true)
    (ha : body'.All (·.isReadable = true)) : isPlain body' = true := by
  induction he with
  | nil => exact h
  | same n _ ih =>
      rw [isPlain, Bool.and_eq_true] at h ⊢
      exact ⟨h.1, ih h.2 fun b hb => ha b (List.mem_cons_of_mem _ hb)⟩
  | changed _ _ _ _ _ _ ih =>
      rw [isPlain, Bool.and_eq_true] at h ⊢
      exact ⟨ha _ List.mem_cons_self, ih h.2 fun b hb => ha b (List.mem_cons_of_mem _ hb)⟩
  | dropped _ _ ih =>
      rw [isPlain, Bool.and_eq_true] at h
      exact ih h.2 ha

theorem kinds_edited (he : Edited names body body') : kinds body' = kinds body := by
  rw [kinds, kinds, blocks_edited he]

/-- A name that comes to stand in an edited body is one of those listed. -/
theorem mem_names_edited (he : Edited names body body') {name : Text} (h : name ∈ Body.names body') :
    name ∈ Body.names body ∨ name ∈ names := by
  by_cases hn : name ∈ names
  · exact .inr hn
  · rw [mem_names, has, attribute?_edited he hn] at h
    exact .inl (mem_names.2 h)

theorem isDistinct_edited (he : Edited names body body') (h : IsDistinct body) (hnames : (Body.names body').Nodup)
    (hapart : ∀ kind ∈ kinds body, kind ∉ names) : IsDistinct body' := by
  refine ⟨hnames, fun kind hkind hmem => ?_⟩
  rw [kinds_edited he] at hkind
  rcases mem_names_edited he hmem with hmem | hmem
  · exact h.2 kind hkind hmem
  · exact hapart kind hkind hmem

theorem isDistinct_assign {name value : Text} :
    IsDistinct (modifyFirst name ({ · with expr := value }) body) ↔ IsDistinct body := by
  have hnames : Body.names (modifyFirst name ({ · with expr := value }) body) = Body.names body := by
    apply names_modifyFirst
    exact fun _ => rfl
  rw [IsDistinct, IsDistinct, kinds_edited (edited_assign name value body), hnames]

/-! ### Upgraded bodies -/

/-- The body of a block may be exchanged for another with the names of its attributes and the kinds of its blocks. -/
theorem isDistinct_exchange {front back inner inner' : Body} {closing : Text} :
    IsDistinct (front ++ .block head inner' closing :: back) ↔
      IsDistinct (front ++ .block head inner closing :: back) := by
  have hnames : Body.names (front ++ .block head inner' closing :: back) =
      Body.names (front ++ .block head inner closing :: back) := by
    rw [names_append, names_append]
    rfl
  have hkinds : kinds (front ++ .block head inner' closing :: back) =
      kinds (front ++ .block head inner closing :: back) := by
    rw [kinds, kinds, blocks_append, blocks_append, List.map_append, List.map_append]
    rfl
  rw [IsDistinct, IsDistinct, hnames, hkinds]

theorem isDistinct_upgrade (h : IsDistinct body) (hapart : ∀ kind ∈ kinds body, kind ∉ touchedNames head) :
    IsDistinct (upgrade head body).1 := by
  have hnames := nodup_upgrade head h.1
  have hframed := framed_upgrade head body []
  generalize (upgrade head body).1 = body' at hnames hframed
  cases hframed with
  | same => exact h
  | fields _ hedited => exact isDistinct_edited hedited h hnames hapart
  | provider => exact isDistinct_exchange.1 h

theorem isPlain_exchange {front back inner inner' : Body} {closing : Text}
    (h : isPlain (front ++ .block head inner closing :: back) = true)
    (hinner : isPlain inner = true → IsDistinct inner → isPlain inner' = true ∧ IsDistinct inner') :
    isPlain (front ++ .block head inner' closing :: back) = true := by
  rw [isPlain_iff, List.forall_mem_append, List.forall_mem_cons] at h ⊢
  obtain ⟨hfront, hblock, hback⟩ := h
  refine ⟨hfront, ?_, hback⟩
  rw [Node.isPlain, Bool.and_eq_true, Bool.and_eq_true, decide_eq_true_eq] at hblock ⊢
  obtain ⟨hplain, hdistinct⟩ := hinner hblock.2 hblock.1.2
  exact ⟨⟨hblock.1.1, hdistinct⟩, hplain⟩

theorem isPlain_rewriteProvider? (h : isPlain body = true) (hkind : String.ofList head.kind = "terraform")
    (hm : ∀ a value, Receives head body a value → ({ a with expr := value } : Attribute).isReadable = true) :
    isPlain (orUnchanged body (rewriteProvider? body)).1 = true := by
  cases hr : rewriteProvider? body with
  | none => exact h
  | some p =>
      obtain ⟨providers, a, hp, ha, hv, hb⟩ := rewriteProvider?_eq_some hr
      have hreadable := hm a _ (.moved (.constraint hkind hp ha hv))
      obtain ⟨before, behind, rfl, -, -, hc⟩ := block?_eq_some hp
      rw [orUnchanged, hb, hc]
      refine isPlain_exchange h fun hinner hdistinct => ⟨?_, isDistinct_assign.2 hdistinct⟩
      exact isPlain_edited (edited_assign _ _ _) hinner ((all_of_isPlain hinner).modifyFirst ha hreadable)

theorem isPlain_upgrade (h : isPlain body = true)
    (hm : ∀ a value, Receives head body a value → ({ a with expr := value } : Attribute).isReadable = true) :
    isPlain (upgrade head body).1 = true := by
  have hall := all_of_isPlain h
  -- A rename keeps the expression and the tail, and they alone decide whether an attribute is readable.
  have hrenamed {a : Attribute} {old new : Text} (_ : IsIdentifier new) (ha : a.isReadable = true) :
      (a.renamed old new a.expr).isReadable = true := ha
  unfold upgrade
  split
  · next type label _ hkind hlabels =>
      exact isPlain_edited (edited_upgradeResource type label body) h
        (all_upgradeResource hrenamed hm hall hkind hlabels)
  · next type label _ hkind hlabels =>
      exact isPlain_edited (edited_upgradeDataSource type label body) h
        (all_upgradeDataSource hrenamed hm hall hkind hlabels)
  · next label _ hkind _ =>
      exact isPlain_edited (edited_orUnchanged fun _ _ hr => edited_rewriteOutput? hr) h
        (all_rewriteOutput? hm hall hkind label)
  · exact h
  · next hkind => exact isPlain_rewriteProvider? h hkind hm
  · exact h

end Body

/-! ### References -/

/-- The rewriting of a name with attributes behind it gives such a name. -/
theorem Strict.isReference_upgraded {expr value : Text} (h : isReference expr = true)
    (hu : Reference.upgraded? expr = some value) : isReference value = true := by
  obtain ⟨t, ht, -, rfl⟩ := Reference.upgraded?_eq_some hu
  obtain ⟨front, behind, hexpr, hfront, -⟩ := Reference.trim_blanks expr
  obtain rfl : front = [] := by
    obtain ⟨name, names, hname, -, rfl⟩ := exists_dotted h
    obtain ⟨c, q, rfl⟩ := List.exists_cons_of_ne_nil hname.ne_nil
    cases front with
    | nil => rfl
    | cons d front =>
        rw [List.cons_append, List.cons_append] at hexpr
        obtain ⟨rfl, -⟩ := List.cons.inj hexpr
        exact absurd (hfront c List.mem_cons_self) (by rw [Reference.isBlank_of_opensName hname.1]; decide)
  rw [hexpr, ht, List.nil_append, Reference.nameEnding_eq, List.append_assoc, List.cons_append,
    isReference_append, Bool.and_eq_true] at h
  rw [Reference.uuidEnding_eq, isReference_append, h.1]
  decide

/-- If the references in a plain block are names with attributes behind them, only what is taken over matters. -/
theorem Block.UpgradesPlainly.of_isReference {b : Block} (hmerges : b.MergesWell) (hplain : Body.isPlain b.body = true)
    (hreferences : ∀ a ∈ attributes b.body, (Reference.upgraded? a.expr).isSome → Strict.isReference a.expr = true)
    (htakes : ∀ a value, TakesOver b.head b.body a value → ({ a with expr := value } : Attribute).isReadable = true)
    (hapart : ∀ kind ∈ kinds b.body, kind ∉ touchedNames b.head) : b.UpgradesPlainly := by
  refine ⟨hmerges, fun a value hr => ?_, hapart⟩
  refine hr.preserves (all_of_isPlain hplain) (fun a ha value hu => ?_) htakes
  have hreference := hreferences a (mem_attributes.2 ha) (by rw [hu]; rfl)
  rw [Attribute.isReadable, Strict.isReference_upgraded hreference hu]
  rfl

/-! ### Upgraded trees -/

section

variable {nodes : Body}

theorem names_upgradeNodes (d : Document) (nodes : Body) : names (d.upgradeNodes nodes).1 = names nodes := by
  induction nodes with
  | nil => rfl
  | cons n ns ih =>
      rw [upgradeNodes_cons]
      rcases n with _ | a | _
      · exact ih
      · exact congrArg (a.name :: ·) ih
      · exact ih

theorem kinds_upgradeNodes (d : Document) (nodes : Body) : kinds (d.upgradeNodes nodes).1 = kinds nodes := by
  induction nodes with
  | nil => rfl
  | cons n ns ih =>
      rw [upgradeNodes_cons]
      rcases n with _ | _ | ⟨head, _, _⟩
      · exact ih
      · exact ih
      · exact congrArg (head.kind :: ·) ih

/-- An upgraded tree is plain. -/
theorem Body.UpgradesPlainly.plain_upgradeNodes (d : Document) (h : nodes.UpgradesPlainly) :
    isPlain (d.upgradeNodes nodes).1 = true ∧ IsDistinct (d.upgradeNodes nodes).1 := by
  obtain ⟨hplain, hdistinct, hblocks⟩ := h
  refine ⟨?_, ?_⟩
  · clear hdistinct
    induction nodes with
    | nil => rfl
    | cons n ns ih =>
        rw [isPlain, Bool.and_eq_true] at hplain
        rw [upgradeNodes_cons, isPlain, Bool.and_eq_true]
        obtain ⟨hnode, hrest⟩ := hplain
        rcases n with t | a | ⟨head, body, closing⟩
        · exact ⟨hnode, ih hrest hblocks⟩
        · exact ⟨hnode, ih hrest hblocks⟩
        · obtain ⟨hblock, hblocks⟩ := List.forall_mem_cons.1
            (show ∀ b ∈ ⟨head, body, closing⟩ :: Body.blocks ns, b.UpgradesPlainly from hblocks)
          refine ⟨?_, ih hrest hblocks⟩
          rw [Node.isPlain, Bool.and_eq_true, Bool.and_eq_true, decide_eq_true_eq] at hnode
          have hupgraded : (d.upgradeNode (.block head body closing)).1 =
              .block head (upgrade head body).1 closing := rfl
          rw [hupgraded, Node.isPlain, Bool.and_eq_true, Bool.and_eq_true, decide_eq_true_eq]
          exact ⟨⟨hnode.1.1, isDistinct_upgrade hnode.1.2 hblock.apart⟩, isPlain_upgrade hnode.2 hblock.readable⟩
  · rwa [IsDistinct, names_upgradeNodes, kinds_upgradeNodes]

end

end JujuMigration
