import Mathlib.Data.List.Forall2
import JujuMigration.Proofs.Config.LineEnds
import JujuMigration.Proofs.Rules.LineEnds
import JujuMigration.Proofs.Upgrade.Concat
/-! Line ends in an upgrade. A rule takes a carriage return in front of a line feed for one of the blanks around it;
so a file whose lines end in both is upgraded as it would be if they ended in line feeds alone, keeps its line ends,
and has notes that differ in no more than the line ends of what they quote. -/

namespace JujuMigration

open Text Source

theorem unseen_returns : Recasting.returns.Unseen where
  keeps _ hword _ := withReturns_eq_iff hword
  separator := realignSeparator_withReturns
  kind := Reference.kind_withReturns
  referent := Reference.referent_withReturns
  upgraded := Reference.upgraded?_withReturns
  occurs := VersionConstraint.occursIn_withReturns
  replaced := VersionConstraint.replaceZero_withReturns
  hint := contains_withReturns (by decide) (by decide)
  description := plainDescription_withReturns
  hintInAnyCase t := by
    rw [Recasting.returns, map_toLower_withReturns, contains_withReturns (by decide) (by decide)]

/-! ### Notes -/

theorem toList_ofList_withReturns (t : Text) :
    (String.ofList (withReturns t)).toList = withReturns (String.ofList t).toList := by
  rw [String.toList_ofList, String.toList_ofList]

theorem toList_dotted_withReturns (type name : Text) :
    (dotted (withReturns type) (withReturns name)).toList = withReturns (dotted type name).toList := by
  rw [dotted, dotted, String.toList_ofList, String.toList_ofList, withReturns_append, withReturns_cons (by decide)]

theorem Referent.newline_notMem_description (r : Referent) : '\n' ∉ r.description.toList := by
  cases r <;> decide +kernel

namespace Change

theorem address_withReturns (c : Change) : (c.mapTexts withReturns).address = withReturns c.address := by
  have hdot (type name : Text) : withReturns (type ++ '.' :: name) = withReturns type ++ '.' :: withReturns name := by
    rw [withReturns_append, withReturns_cons (by decide)]
  cases c with
  | output name referent =>
      show "output.".toList ++ withReturns name = withReturns ("output.".toList ++ name)
      rw [withReturns_append, withReturns_of_not_mem (s := "output.".toList) (by decide)]
  | provider => exact (withReturns_of_not_mem (by decide +kernel)).symm
  | _ => exact (hdot _ _).symm

theorem message_withReturns (c : Change) : (c.mapTexts withReturns).message.toList = withReturns c.message.toList := by
  have hsame (r : FieldRename) : withReturns r.source = withReturns r.target ↔ r.source = r.target :=
    withReturns_injective.eq_iff
  have hword (r : Referent) := withReturns_of_not_mem r.newline_notMem_description
  cases c
  all_goals
    unfold mapTexts message
    simp only [FieldRename.mapTexts, hsame, apply_ite String.toList, apply_ite withReturns, toString,
      String.toList_append, withReturns_append, toList_ofList_withReturns, toList_dotted_withReturns, hword]
    -- What is left are the words of the message itself, and none of them holds a line feed.
    simp (disch := decide +kernel) only [withReturns_of_not_mem]

/-- The second change is told of as the first is, but for carriage returns in front of line feeds. -/
structure SameButReturns (c c' : Change) : Prop where
  address : withoutReturns c'.address = c.address
  message : withoutReturns c'.message.toList = c.message.toList

theorem sameButReturns_mapTexts (c : Change) : c.SameButReturns (c.mapTexts withReturns) where
  address := by rw [address_withReturns, withoutReturns_withReturns]
  message := by rw [message_withReturns, withoutReturns_withReturns]

end Change

namespace Concern

theorem message_withReturns (c : Concern) : (c.mapTexts withReturns).message.toList = withReturns c.message.toList := by
  cases c
  all_goals
    unfold mapTexts message
    simp only [toString, String.toList_append, withReturns_append, toList_ofList_withReturns, toList_dotted_withReturns]
    simp (disch := decide +kernel) only [withReturns_of_not_mem]

theorem description_mapTexts (f : Text → Text) (c : Concern) : (c.mapTexts f).description = c.description.map f := by
  cases c <;> rfl

end Concern

namespace Advice

/-- The second piece of advice is about the same line of the same file as the first, in the same words but for
carriage returns in front of line feeds. -/
structure SameButReturns (a a' : Advice) : Prop where
  file : a'.file = a.file
  line : a'.line = a.line
  message : withoutReturns a'.concern.message.toList = a.concern.message.toList
  description : a'.concern.description.map withoutReturns = a.concern.description

/-- The advice with carriage returns in what it quotes. -/
def withReturns (a : Advice) : Advice := { a with concern := a.concern.mapTexts Text.withReturns }

theorem sameButReturns_withReturns (a : Advice) : a.SameButReturns a.withReturns where
  file := rfl
  line := rfl
  message := by rw [withReturns, Concern.message_withReturns, withoutReturns_withReturns]
  description := by
    rw [withReturns, Concern.description_mapTexts, Option.map_map,
      show withoutReturns ∘ Text.withReturns = id from funext withoutReturns_withReturns, Option.map_id_apply]

end Advice

/-! ### Files -/

theorem Document.upgradeNodes_returns (file : Text) (body : Body) :
    (unindexed file (body.recast .returns)).upgradeNodes (body.recast .returns) =
      (((unindexed file body).upgradeNodes body).1.recast .returns,
        { ((unindexed file body).upgradeNodes body).2 with
          changes := ((unindexed file body).upgradeNodes body).2.changes.map (Change.mapTexts withReturns)
          advice := ((unindexed file body).upgradeNodes body).2.advice.map Advice.withReturns }) := by
  rw [upgradeNodes_unindexed file (body.recast .returns) body]
  exact upgradeNodes_recast unseen_returns (fun _ _ => rfl) body body

/-- A text without carriage returns, and without a backslash in front of a line feed, is read if and only if it is
read with a carriage return in front of each line feed; and it is then upgraded to the same text but for these. -/
theorem upgrade_withReturns {s : Text} (hreturns : '\r' ∉ s) (hescapes : ¬['\\', '\n'] <:+: s) :
    ((∃ body, Body.read s = .ok body) ↔ ∃ body, Body.read (withReturns s) = .ok body) ∧
      ∀ body body', Body.read s = .ok body → Body.read (withReturns s) = .ok body' →
        ∀ file, let up (body : Body) := (Document.unindexed file body).upgrade
          (∃ text, (up body).content = Utf8.encode text ∧ (up body').content = Utf8.encode (withReturns text)) ∧
          (up body').record.wasUpgraded = (up body).record.wasUpgraded ∧
          List.Forall₂ Change.SameButReturns (up body).record.changes (up body').record.changes ∧
          List.Forall₂ Advice.SameButReturns (up body).record.advice (up body').record.advice := by
  rcases (read_carries ⟨hreturns, hescapes⟩).cases with ⟨body, hread, hread'⟩ | ⟨x, y, hread, hread'⟩
  · refine ⟨⟨fun _ => ⟨_, hread'⟩, fun _ => ⟨body, hread⟩⟩, ?_⟩
    intro _ _ hbody hbody' file
    cases hread.symm.trans hbody
    cases hread'.symm.trans hbody'
    have hcontent (body : Body) : (Document.unindexed file body).upgrade.content =
        Utf8.encode (Body.render ((Document.unindexed file body).upgradeNodes body).1) := rfl
    have hrecord (body : Body) : (Document.unindexed file body).upgrade.record =
        ((Document.unindexed file body).upgradeNodes body).2 := rfl
    simp only [hcontent, hrecord, Document.upgradeNodes_returns, Body.render_returns]
    refine ⟨⟨_, rfl, rfl⟩, ?_, ?_, ?_⟩
    · trivial
    · rw [List.forall₂_map_right_iff, List.forall₂_same]
      exact fun c _ => c.sameButReturns_mapTexts
    · rw [List.forall₂_map_right_iff, List.forall₂_same]
      exact fun a _ => a.sameButReturns_withReturns
  · refine ⟨⟨?_, ?_⟩, ?_⟩
    · rintro ⟨body, hbody⟩
      cases hread.symm.trans hbody
    · rintro ⟨body, hbody⟩
      cases hread'.symm.trans hbody
    · intro body body' hbody
      cases hread.symm.trans hbody

/-- A resource under a comment, with a template and a heredoc that span lines, and a variable whose description does. -/
def multilineSource : Text :=
  ["# one", "", "resource \"juju_application\" \"app\" \x7b", "  model = juju_model.m.name # old", "  name = \"$\x7b",
    "    local.n", "  \x7d\"", "  config = <<-EOT", "    a", "  EOT", "  series = \"jammy\"", "\x7d",
    "variable \"model\" \x7b", "  description = <<EOT", "the", "model", "EOT", "\x7d"].flatMap fun line =>
      line.toList ++ ['\n']

theorem upgrade_withReturns_multiline :
    ∃ body body', Body.read multilineSource = .ok body ∧ Body.read (withReturns multilineSource) = .ok body' ∧
      let up (body : Body) := (Document.unindexed [] body).upgrade
      (up body).record.changes.length = 2 ∧ (up body).record.advice.length = 1 ∧
        (∃ text, (up body).content = Utf8.encode text ∧ (up body').content = Utf8.encode (withReturns text)) ∧
        List.Forall₂ Change.SameButReturns (up body).record.changes (up body').record.changes ∧
        List.Forall₂ Advice.SameButReturns (up body).record.advice (up body').record.advice := by
  have hcounts : (Body.read multilineSource).toOption.map (fun body =>
      ((Document.unindexed [] body).upgrade.record.changes.length,
        (Document.unindexed [] body).upgrade.record.advice.length)) = some (2, 1) := by decide +kernel
  obtain ⟨hiff, hup⟩ := upgrade_withReturns (s := multilineSource) (by decide +kernel) (by decide +kernel)
  cases hread : Body.read multilineSource with
  | error f =>
      rw [hread] at hcounts
      cases hcounts
  | ok body =>
      obtain ⟨body', hread'⟩ := hiff.1 ⟨body, hread⟩
      obtain ⟨hcontent, -, hchanges, hadvice⟩ := hup body body' hread hread' []
      rw [hread] at hcounts
      obtain ⟨hn, hm⟩ := Prod.mk.inj (Option.some.inj hcounts)
      exact ⟨body, body', rfl, hread', hn, hm, hcontent, hchanges, hadvice⟩

end JujuMigration
