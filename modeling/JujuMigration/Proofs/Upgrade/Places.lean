import JujuMigration.Proofs.Config.Places
import JujuMigration.Proofs.Strict.Index
import JujuMigration.Proofs.Strict.Operands
import JujuMigration.Proofs.Upgrade.Truth
/-! Where advice points. A file is read twice, and advice takes the line of a block from the index of the one reading by
the address of the other. It points at the block that raised it where the readings end every expression alike and
every label is verbatim; a label with quotes of its own loses them in the index, and a block that is called so without
them takes its line. -/

namespace JujuMigration

open Source

/-! ### The line of a block in the tree -/

/-- A block's line counts the line feeds in front of its kind. -/
theorem Reads.line_eq {line : Nat} {s r : Text} {nodes : Body} (h : Reads line s nodes r) {front back : Body}
    {b : Block} (hb : nodes = front ++ b.toNode :: back) :
    b.head.line = line + Text.newlines (Body.render front ++ b.head.lead) := by
  have hholds : nodes.Holds b.toNode (Body.render front) := by
    rw [hb, ← List.append_nil (Body.render front)]
    exact Body.Holds.here.append front
  exact (h.line_of_holds hholds rfl).1

namespace Document

variable {file : Text} {source : Bytes} {d : Document}

/-- Advice is given block by block. -/
theorem advice_eq (d : Document) (nodes : Body) : (d.upgradeNodes nodes).2.advice =
    (Body.blocks nodes).flatMap fun b => b.upgrade.2.concerns.map fun c => ⟨d.file, d.lineOf b, c⟩ := by
  induction nodes with
  | nil => rfl
  | cons n ns ih =>
      rcases n with text | a | ⟨head, body, closing⟩
      · exact ih
      · exact ih
      · exact congrArg (_ ++ ·) ih

/-- Where the readings of a file end its expressions alike and read its labels alike, each block is indexed on its own
line, and so each piece of advice has the line of the block that it is about. -/
theorem points_at_blocks (h : Document.read file source = .ok d)
    (hdistinct : ((Body.blocks d.body).map Block.address).Nodup) (hshared : Body.IsShared [] d.body)
    (hkeys : ∀ b ∈ Body.blocks d.body, Strict.startKey ∉ b.labels) :
    (∀ b ∈ Body.blocks d.body,
      Strict.lookup b.address d.lines = some (.int b.head.line) ∧ d.lineOf b = .int b.head.line) ∧
    (∀ front b back, d.body = front ++ Block.toNode b :: back →
      b.head.line = 1 + Text.newlines (Body.render front ++ b.head.lead)) ∧
    d.upgrade.record.advice =
      (Body.blocks d.body).flatMap fun b => b.upgrade.2.concerns.map fun c => ⟨d.file, .int b.head.line, c⟩ := by
  obtain ⟨text, -, -, hindex, hbody, -⟩ := read_eq_ok.1 h
  have hlookup : ∀ b ∈ Body.blocks d.body, Strict.lookup b.address d.lines = some (.int b.head.line) :=
    fun b hb => Strict.lookup_blockIndex hbody hshared hdistinct hkeys hindex hb
  have hline : ∀ b ∈ Body.blocks d.body, d.lineOf b = .int b.head.line := fun b hb => by
    rw [lineOf, hlookup b hb, Option.getD_some]
  refine ⟨fun b hb => ⟨hlookup b hb, hline b hb⟩, fun front b back hb => ?_, ?_⟩
  · exact (JujuMigration.read_eq_ok.1 hbody).line_eq hb
  · have hadvice : d.upgrade.record.advice = (d.upgradeNodes d.body).2.advice := rfl
    rw [hadvice, advice_eq]
    refine List.flatMap_congr fun b hb => ?_
    rw [hline b hb]

/-- A file of two blocks whose lines end as on other systems, with comments between them and a block in the second. -/
def returnsSource : Bytes :=
  Utf8.encode ("# models\r\nvariable \"model\" \x7b\r\n  type = string\r\n\x7d\r\n/* two\r\nlines */ ".toList ++
    "data juju_model \"m\" \x7b\r\n  owner \x7b\r\n    name = var.model # c\r\n  \x7d\r\n\x7d\r\n".toList)

theorem points_at_blocks_returns : ∃ d, Document.read [] returnsSource = .ok d ∧
    (Body.blocks d.body).map (fun b => (b.address, b.head.line)) =
      [("variable.model".toList, 2), ("data.juju_model.m".toList, 6)] ∧
    (∀ b ∈ Body.blocks d.body, d.lineOf b = .int b.head.line) ∧
    d.upgrade.record.advice.map (fun a => a.line.display) = [['2'], ['6']] := by
  have hread : (Document.read [] returnsSource).toOption.map (fun d => (Body.isSimple d.body,
      (Body.blocks d.body).map (fun b => (b.address, b.head.line)),
      (Body.blocks d.body).all fun b => Strict.startKey ∉ b.labels,
      d.upgrade.record.advice.map fun a => a.line.display)) =
      some (true, [("variable.model".toList, 2), ("data.juju_model.m".toList, 6)], true, [['2'], ['6']]) := by
    decide +kernel
  cases h : Document.read [] returnsSource with
  | error e =>
      rw [h] at hread
      cases hread
  | ok d =>
      rw [h] at hread
      obtain ⟨hsimple, hrest⟩ := Prod.mk.inj (Option.some.inj hread)
      obtain ⟨hblocks, hrest⟩ := Prod.mk.inj hrest
      obtain ⟨hkeys, hadvice⟩ := Prod.mk.inj hrest
      obtain ⟨text, -, -, -, hbody, -⟩ := read_eq_ok.1 h
      have hdistinct : ((Body.blocks d.body).map Block.address).Nodup := by
        have haddresses := congrArg (List.map Prod.fst) hblocks
        rw [List.map_map] at haddresses
        exact haddresses ▸ by decide
      have hkeys : ∀ b ∈ Body.blocks d.body, Strict.startKey ∉ b.labels := fun b hb => by
        simpa using List.all_eq_true.1 hkeys b hb
      have hpoints := points_at_blocks h hdistinct ((JujuMigration.read_eq_ok.1 hbody).isShared hsimple) hkeys
      exact ⟨d, rfl, hblocks, fun b hb => (hpoints.1 b hb).2, hadvice⟩

/-- A label that is called with quotes of its own, and one that is called so without them. -/
def quotesSource : Bytes := Utf8.encode "variable \"\\\"model\\\"\" \x7b\x7d\nvariable \"model\" \x7b\x7d\n".toList

theorem points_elsewhere : ∃ d, Document.read [] quotesSource = .ok d ∧
    ((Body.blocks d.body).map Block.address).Nodup ∧ (∃ b ∈ Body.blocks d.body, d.lineOf b ≠ .int b.head.line) ∧
    (Body.blocks d.body).map (fun b => b.head.line) = [1, 2] ∧
    d.upgrade.record.advice.map (fun a => a.line.display) = [['1'], ['1']] := by
  have hread : (Document.read [] quotesSource).toOption.map (fun d =>
      ((Body.blocks d.body).map (fun b => (b.address, b.head.line, (d.lineOf b).display)),
        d.upgrade.record.advice.map (fun a => a.line.display))) =
      some ([("variable.\"model\"".toList, 1, ['1']), ("variable.model".toList, 2, ['1'])], [['1'], ['1']]) := by
    decide +kernel
  cases h : Document.read [] quotesSource with
  | error e =>
      rw [h] at hread
      cases hread
  | ok d =>
      rw [h] at hread
      obtain ⟨hblocks, hadvice⟩ := Prod.mk.inj (Option.some.inj hread)
      have haddresses := congrArg (List.map Prod.fst) hblocks
      have hlines := congrArg (List.map fun x => x.2.1) hblocks
      rw [List.map_map] at haddresses hlines
      have hdistinct : ((Body.blocks d.body).map Block.address).Nodup := haddresses ▸ by decide
      refine ⟨d, rfl, hdistinct, ?_, hlines, hadvice⟩
      have hmem : ("variable.model".toList, 2, ['1']) ∈
          (Body.blocks d.body).map (fun b => (b.address, b.head.line, (d.lineOf b).display)) := by
        rw [hblocks]
        decide
      obtain ⟨b, hb, hblock⟩ := List.mem_map.1 hmem
      obtain ⟨-, hline⟩ := Prod.mk.inj hblock
      obtain ⟨hown, hshown⟩ := Prod.mk.inj hline
      refine ⟨b, hb, fun heq => ?_⟩
      rw [heq, hown] at hshown
      cases hshown

end Document
end JujuMigration
