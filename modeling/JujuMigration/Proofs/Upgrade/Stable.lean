import JujuMigration.Proofs.Upgrade.Plain
import JujuMigration.Proofs.Upgrade.Truth
/-! Upgrading an upgraded file. The second upgrade leaves the bytes alone and reports nothing if and only if both
readings accept the text and every block in it is settled. The tree reading accepts it, and with the same tree,
whenever each attribute that takes over an expression is read back with it; and the blocks are settled if no name
stands twice. The strict reading accepts the text if the tree before was plain and upgrades plainly. An attribute with a
comment behind it that takes over a heredoc is not read back, and such a file is refused; so is one in which the strict
reading finds a name twice where the tree has it once. -/

namespace JujuMigration

open Source

/-- Upgrading the bytes under this name changes nothing and reports no change. -/
def IsStable (file : Text) (content : Bytes) : Prop :=
  ∃ again, upgradeFile file content = .ok again ∧ again.content = content ∧ again.record.wasUpgraded = false ∧
    again.record.changes = []

/-! ### Upgraded trees -/

variable {nodes : Body} {file text : Text}

theorem blocks_upgradeNodes (d : Document) (nodes : Body) :
    Body.blocks (d.upgradeNodes nodes).1 = (Body.blocks nodes).map (·.upgrade.1) := by
  induction nodes with
  | nil => rfl
  | cons n ns ih =>
      rcases n with _ | _ | ⟨head, body, closing⟩
      · exact ih
      · exact ih
      · exact congrArg _ ih

/-- A file's upgrade records no change if and only if every block is settled. -/
theorem changes_upgradeNodes (d : Document) (nodes : Body) :
    (d.upgradeNodes nodes).2.changes = [] ↔ ∀ b ∈ Body.blocks nodes, Body.Settled b.head b.body := by
  induction nodes with
  | nil => exact iff_of_true rfl fun b hb => nomatch hb
  | cons n ns ih =>
      have happend : (d.upgradeNodes (n :: ns)).2.changes =
          (d.upgradeNode n).2.changes ++ (d.upgradeNodes ns).2.changes := rfl
      rw [happend, List.append_eq_nil_iff, ih]
      rcases n with _ | _ | ⟨head, body, closing⟩
      · exact and_iff_right rfl
      · exact and_iff_right rfl
      · have hblocks : Body.blocks (.block head body closing :: ns) = ⟨head, body, closing⟩ :: Body.blocks ns := rfl
        rw [hblocks, List.forall_mem_cons, Body.settled_iff]
        rfl

theorem settled_of_canonical {ms : Body} (h : Body.canonical ms = Body.canonical nodes) :
    (∀ b ∈ Body.blocks ms, Body.Settled b.head b.body) ↔ ∀ b ∈ Body.blocks nodes, Body.Settled b.head b.body := by
  have hcanonical (body : Body) : (∀ b ∈ Body.blocks (Body.canonical body), Body.Settled b.head b.body) ↔
      ∀ b ∈ Body.blocks body, Body.Settled b.head b.body := by
    rw [Body.blocks_canonical, List.forall_mem_map]
    exact forall₂_congr fun b _ => Body.settled_canonical b.head b.body
  rw [← hcanonical ms, h, hcanonical]

theorem head?_append_eq {t u v : Text} (h : u.head? = v.head?) : (t ++ u).head? = (t ++ v).head? := by
  rw [List.head?_append, List.head?_append, h]

/-- An upgraded text begins with the same character. -/
theorem head?_render_upgradeNodes (d : Document) {stop : Option Char} (h : Laid stop nodes) :
    (Body.render (d.upgradeNodes nodes).1).head? = (Body.render nodes).head? := by
  induction h with
  | nil => rfl
  | finish hgaps => rw [upgradeNodes_of_gaps d hgaps]
  | gap _ _ _ ih =>
      rw [upgradeNodes_cons, Body.render_cons, Body.render_cons]
      exact head?_append_eq ih
  | field _ _ _ ih =>
      rw [upgradeNodes_cons, Body.render_cons, Body.render_cons]
      exact head?_append_eq ih
  | @block _ head body nodes tail _ hopens _ _ _ _ _ =>
      have hheader : head.header ≠ [] := fun hn => by
        have hopens := hopens.opensIdentifier []
        rw [hn] at hopens
        cases hopens
      have hfirst (inner ns : Body) : (Body.render (.block head inner ('}' :: tail) :: ns)).head? =
          (head.lead ++ head.header).head? := by
        rw [Body.render_cons, Node.render, List.append_assoc, List.append_assoc, List.head?_append_of_ne_nil]
        simp [hheader]
      rw [hfirst]
      exact hfirst _ _

/-! ### The second upgrade -/

/-- A text that begins as the text behind a mark does is what stands behind the mark. -/
theorem splitMark_upgraded {s : Text} (h : text.head? = (Document.splitMark s).2.head?) :
    Document.splitMark ((Document.splitMark s).1 ++ text) = ((Document.splitMark s).1, text) := by
  cases s with
  | nil =>
      obtain rfl := List.head?_eq_none_iff.1 h
      rfl
  | cons c r =>
      by_cases hc : c = Document.byteOrderMark
      · simp [Document.splitMark, hc]
      · simp only [Document.splitMark, if_neg hc] at h ⊢
        obtain ⟨t, rfl⟩ := List.head?_eq_some_iff.1 h
        simp [hc]

theorem isStable_iff {mark : Text} (hsplit : Document.splitMark (mark ++ text) = (mark, text)) :
    IsStable file (Utf8.encode (mark ++ text)) ↔ Strict.Accepts text ∧
      ∃ body, Body.read text = .ok body ∧ ∀ b ∈ Body.blocks body, Body.Settled b.head b.body := by
  have hread (d : Document) : Document.read file (Utf8.encode (mark ++ text)) = .ok d ↔
      d.mark = mark ∧ Strict.blockIndex text = .ok d.lines ∧ Body.read text = .ok d.body ∧ d.file = file := by
    rw [Document.read_eq_ok, Utf8.decode_encode]
    simp [hsplit]
  constructor
  · rintro ⟨again, hagain, -, -, hchanges⟩
    obtain ⟨d, hd, rfl⟩ := upgradeFile_eq_ok.1 hagain
    obtain ⟨-, hlines, hbody, -⟩ := (hread d).1 hd
    exact ⟨⟨d.lines, hlines⟩, d.body, hbody, (changes_upgradeNodes d d.body).1 hchanges⟩
  · rintro ⟨⟨lines, hlines⟩, body, hbody, hsettled⟩
    have hd := (hread ⟨file, mark, body, lines⟩).2 ⟨rfl, hlines, hbody, rfl⟩
    refine ⟨_, upgradeFile_eq_ok.2 ⟨_, hd, rfl⟩, ?_⟩
    have hrender := Document.render_of_read hd
    have hnone := (changes_upgradeNodes ⟨file, mark, body, lines⟩ body).2 hsettled
    have hsame : (Document.upgradeNodes ⟨file, mark, body, lines⟩ body).1 = body := by
      cases Document.truthful_upgradeNodes ⟨file, mark, body, lines⟩ (Document.blocks_sound hd) with
      | unchanged hb _ => exact hb
      | changed _ hc => exact absurd hnone hc
    refine ⟨?_, ?_, hnone⟩
    · rw [← hrender]
      exact congrArg (fun nodes => Utf8.encode (mark ++ Body.render nodes)) hsame
    · rw [Document.wasUpgraded_upgrade]
      exact congrArg (fun changes => !changes.isEmpty) hnone

theorem Document.rereads_upgrade {d : Document} (hlaid : Laid none d.body)
    (hmerges : ∀ b ∈ Body.blocks d.body, b.MergesWell) : (d.upgradeNodes d.body).1.Rereads := by
  refine Body.rereads_of_laid (hlaid.upgradeNodes d fun b hb => ?_)
  exact Body.laid_upgrade b.head (hlaid.of_mem_blocks hb) fun a value ht =>
    Attribute.readsBack_iff.1 (hmerges b hb a value ht)

theorem settled_upgradeNodes {d : Document} {ms : Body}
    (h : Body.canonical ms = Body.canonical (d.upgradeNodes nodes).1) :
    (∀ b ∈ Body.blocks ms, Body.Settled b.head b.body) ↔
      ∀ b ∈ Body.blocks nodes, Body.Settled b.head b.upgrade.1.body := by
  rw [settled_of_canonical h, blocks_upgradeNodes, List.forall_mem_map]
  rfl

/-- Both readings accept what the upgrade of a plain tree gives, and find nothing more to change in it. -/
theorem Body.UpgradesPlainly.accepted {d : Document} (h : d.body.UpgradesPlainly) (hlaid : Laid none d.body) :
    Strict.Accepts (Body.render (d.upgradeNodes d.body).1) ∧ ∃ body,
      Body.read (Body.render (d.upgradeNodes d.body).1) = .ok body ∧
        ∀ b ∈ Body.blocks body, Body.Settled b.head b.body := by
  obtain ⟨ms, hms, hc⟩ := Document.rereads_upgrade hlaid fun b hb => (h.blocks b hb).merges
  obtain ⟨hplain, hdistinct⟩ := h.plain_upgradeNodes d
  have hsame : Body.IsDistinct ms := by rwa [← Body.isDistinct_canonical, hc, Body.isDistinct_canonical]
  refine ⟨?_, ms, hms, ?_⟩
  · exact Strict.accepts_of_isPlain hms (hc ▸ Body.isPlain_canonical hplain) hsame
  · rw [settled_upgradeNodes hc]
    exact fun b hb => Body.settled_upgrade b.head (Body.isPlain_of_mem_blocks h.plain hb).2.1

/-- What a second upgrade does, by the first. The bytes stay and nothing is reported if and only if both readings accept
the text and no rule finds anything to change in it. If whatever takes over an expression is read back with it, the tree
that is read is the upgraded one; and that is settled if in no block a name stands twice. All of it holds if the tree
before is plain and its blocks upgrade plainly. -/
theorem upgradeFile_stable_iff {source : Bytes} {up : Upgraded} (h : upgradeFile file source = .ok up) :
    ∃ d text, Document.read file source = .ok d ∧ up.content = Utf8.encode (d.mark ++ text) ∧
      (IsStable file up.content ↔ Strict.Accepts text ∧
        ∃ body, Body.read text = .ok body ∧ ∀ b ∈ Body.blocks body, Body.Settled b.head b.body) ∧
      ((∀ b ∈ Body.blocks d.body, b.MergesWell) → (IsStable file up.content ↔ Strict.Accepts text ∧
        ∀ b ∈ Body.blocks d.body, Body.Settled b.head b.upgrade.1.body)) ∧
      ((∀ b ∈ Body.blocks d.body, (Body.names b.body).Nodup) →
        ∀ b ∈ Body.blocks d.body, Body.Settled b.head b.upgrade.1.body) ∧
      (d.body.UpgradesPlainly → IsStable file up.content) := by
  obtain ⟨d, hd, rfl⟩ := upgradeFile_eq_ok.1 h
  obtain ⟨s, -, hmark, -, hbody, -⟩ := Document.read_eq_ok.1 hd
  have hreads := JujuMigration.read_eq_ok.1 hbody
  have hlaid := hreads.laid
  have hsplit : Document.splitMark (d.mark ++ Body.render (d.upgradeNodes d.body).1) =
      (d.mark, Body.render (d.upgradeNodes d.body).1) := by
    rw [hmark]
    refine splitMark_upgraded ?_
    rw [head?_render_upgradeNodes d hlaid, hreads.render, List.append_nil]
  have hstable : IsStable file d.upgrade.content ↔ _ := isStable_iff hsplit
  refine ⟨d, Body.render (d.upgradeNodes d.body).1, hd, rfl, hstable, fun hmerges => ?_, fun hnames b hb => ?_,
    fun hplain => hstable.2 (hplain.accepted hlaid)⟩
  · obtain ⟨ms, hms, hc⟩ := Document.rereads_upgrade hlaid hmerges
    refine hstable.trans (and_congr_right fun _ => ?_)
    rw [hms, ← settled_upgradeNodes hc]
    simp
  · exact Body.settled_upgrade b.head (hnames b hb)

/-- A machine with two attributes on one line. The tree has one, which nothing is merged into, but the strict reading
has both, and after the renaming they have one name. -/
def joinedSource : Bytes :=
  Utf8.encode "resource \"juju_machine\" \"m\" \x7b\n  series = \"jammy\" base = \"x\"\n\x7d\n".toList

example : (upgradeFile [] joinedSource).toOption.map (fun up => (upgradeFile [] up.content).toOption.isSome) =
    some false := by decide +kernel

/-- A machine whose `base` stands in front of a comment and takes over a quoted text. -/
def mergingSource : Bytes :=
  Utf8.encode "resource \"juju_machine\" \"m\" \x7b\n  base = \"x\" # c\n  series = \"jammy\"\n\x7d\n".toList

def mergingHead : BlockHead :=
  ⟨[], "resource".toList, ["juju_machine".toList, "m".toList], "resource \"juju_machine\" \"m\" \x7b".toList, 1⟩

def mergingBase : Attribute := ⟨"  ".toList, "base".toList, " = ".toList, "\"x\"".toList, " # c\n".toList, 2⟩

def mergingSeries : Attribute := ⟨"  ".toList, "series".toList, " = ".toList, "\"jammy\"".toList, "\n".toList, 3⟩

theorem upgradesPlainly_merging {b : Block} (hplain : Body.isPlain b.body = true) (hhead : b.head = mergingHead)
    (hattributes : Body.attributes b.body = [mergingBase, mergingSeries]) (hkinds : Body.kinds b.body = []) :
    b.UpgradesPlainly := by
  have hkind : String.ofList b.head.kind = "resource" := by rw [hhead]; decide
  have habsent : Body.attribute? b.body FieldRename.modelToUuid.source = none := by
    rw [Body.attribute?, hattributes]
    decide
  have htakes {a : Attribute} {value : Text} (ht : Body.TakesOver b.head b.body a value) :
      { a with expr := value } = { mergingBase with expr := mergingSeries.expr } := by
    cases ht with
    | @renamed type label labels r a' _ expr hrule hlabels ha =>
        rcases hrule with ⟨-, hr⟩ | ⟨hdata, -⟩
        · obtain rfl := Body.resourceRename?_eq_some hr
          cases ha.symm.trans habsent
        · rw [hkind] at hdata
          exact absurd hdata (by decide)
    | @retired type label new labels f a' _ _ hlabels hf hfate ha hb =>
        obtain ⟨rfl, rfl⟩ := Body.eq_seriesToBase hf hfate
        rw [Body.attribute?, hattributes] at ha hb
        obtain rfl : mergingSeries = a' := Option.some.inj ha
        obtain rfl : mergingBase = a := Option.some.inj hb
        rfl
    | constraint hterraform =>
        rw [hkind] at hterraform
        exact absurd hterraform (by decide)
  refine .of_isReference (fun a value ht => ?_) hplain ?_ (fun a value ht => ?_) fun kind hmem => ?_
  · rw [htakes ht]
    decide +kernel
  · rw [hattributes]
    decide +kernel
  · rw [htakes ht]
    decide +kernel
  · rw [hkinds] at hmem
    cases hmem

theorem upgradeFile_stable_iff_merging :
    ∃ up, upgradeFile [] mergingSource = .ok up ∧ up.record.wasUpgraded = true ∧ IsStable [] up.content := by
  have hupgraded : (upgradeFile [] mergingSource).toOption.map (·.record.wasUpgraded) = some true := by decide +kernel
  have hread : (Document.read [] mergingSource).toOption.all (fun d =>
      Body.isPlain d.body && decide (Body.IsDistinct d.body) && (Body.blocks d.body).all fun b =>
        decide (b.head = mergingHead ∧ Body.attributes b.body = [mergingBase, mergingSeries] ∧
          Body.kinds b.body = [])) = true := by
    decide +kernel
  cases h : upgradeFile [] mergingSource with
  | error e =>
      rw [h] at hupgraded
      cases hupgraded
  | ok up =>
      rw [h] at hupgraded
      obtain ⟨d, text, hd, -, -, -, -, hstable⟩ := upgradeFile_stable_iff h
      rw [hd] at hread
      simp only [Except.toOption, Option.all_some, Bool.and_eq_true, decide_eq_true_eq, List.all_eq_true] at hread
      obtain ⟨⟨hplain, hdistinct⟩, hblocks⟩ := hread
      refine ⟨up, rfl, Option.some.inj hupgraded, hstable ⟨hplain, hdistinct, fun b hb => ?_⟩⟩
      obtain ⟨hhead, hattributes, hkinds⟩ := hblocks b hb
      exact upgradesPlainly_merging (Body.isPlain_of_mem_blocks hplain hb).1 hhead hattributes hkinds

/-- A machine whose `base` stands in front of a comment and takes over a heredoc, whose end the comment hides. -/
def heredocSource : Bytes :=
  Utf8.encode
    "resource \"juju_machine\" \"m\" \x7b\n  base = \"x\" # c\n  series = <<EOT\njammy\nEOT\n\x7d\n".toList

theorem upgradeFile_heredoc_not_stable : ∃ up, upgradeFile [] heredocSource = .ok up ∧ ¬IsStable [] up.content := by
  have hrefused : (upgradeFile [] heredocSource).toOption.map
      (fun up => (upgradeFile [] up.content).toOption.isSome) = some false := by decide +kernel
  cases h : upgradeFile [] heredocSource with
  | error e =>
      rw [h] at hrefused
      cases hrefused
  | ok up =>
      rw [h] at hrefused
      refine ⟨up, rfl, ?_⟩
      rintro ⟨again, hagain, -⟩
      have hnone : (upgradeFile [] up.content).toOption.isSome = false := Option.some.inj hrefused
      rw [hagain] at hnone
      cases hnone

end JujuMigration
