import JujuMigration.Proofs.Run.Ending
import JujuMigration.Proofs.Run.Reports
/-! Dry runs as previews. A dry run always gives a report. The real run finds the same in the same file, and where it
writes, what can then be read is the text that the preview has shown. But the real run may end without a report, where
the backup is to have a name that cannot be looked up. -/

namespace JujuMigration

open Store Process

/-- What a report has found out about a file, be the file written or not. -/
structure Findings where
  path : Path
  upgraded : Bool
  warnings : Int
  changes : List Change
  advice : List Advice
  error : Option String
  source : Option Text
  upgradedText : Option Text

namespace Report

def error? : Report → Option String
  | failed _ _ message => some message
  | processed _ => none

def source? : Report → Option Text
  | failed .. => none
  | processed p => some p.source

def upgradedText? : Report → Option Text
  | failed .. => none
  | processed p => p.upgraded

def findings (r : Report) : Findings where
  path := r.path
  upgraded := r.outcome.upgraded
  warnings := r.outcome.warnings
  changes := r.record.changes
  advice := r.record.advice
  error := r.error?
  source := r.source?
  upgradedText := r.upgradedText?

/-- The report as a dry run would have given it. -/
def asPreview : Report → Report
  | failed path why message => failed path why message
  | processed p => processed { p with dryRun := true, backup := .none, writing := .none }

theorem findings_asPreview (r : Report) : r.asPreview.findings = r.findings := by
  cases r <;> rfl

end Report

namespace Process

variable {settings : Settings} {s s' s₁ : Store} {p : Path} {mode : FileMode} {source : Bytes} {up : Upgraded}
  {backup : Backup}

theorem textOf_encode (text : Text) : textOf (Utf8.encode text) = text := by
  rw [textOf, Utf8.decode_encode]
  rfl

/-- What is written is text. -/
theorem Upgrades.exists_text (h : Upgrades s p mode source up) : ∃ text, up.content = Utf8.encode text := by
  obtain ⟨d, -, rfl⟩ := upgradeFile_eq_ok.1 h.upgrade
  exact ⟨_, rfl⟩

/-- A file that has been replaced can be read again, and has the new content. -/
theorem BackedUp.read_replace (hbacked : BackedUp settings s p mode source backup s₁)
    (hup : Upgrades s p mode source up) (hrecord : up.record.wasUpgraded = true) (hdry : settings.dryRun = false)
    (hfree : s.IsFree (temporaryPath p)) (hdone : (replace s₁ p up.content mode).2 = .done) :
    (replace s₁ p up.content mode).1.read p = .ok up.content := by
  obtain ⟨-, -, -, -, mode', source', up', q, hup', -, -, -, hplace, hentry, -⟩ :=
    ending_replaced hup hrecord hdry hbacked hfree hdone
  obtain ⟨rfl, rfl, rfl⟩ := hup.unique hup'
  have htarget := place_toTarget_of_entry hplace fun target hlink => by simp [wayAt?_link.1 hlink] at hentry
  refine Store.read_eq_ok.2 ⟨mode, stat_eq_ok.2 ⟨q, htarget, hentry⟩, ?_⟩
  rw [allows, hbacked.user_replace up.content]
  exact (readFile_eq_ok.1 hup.read).2

end Process

variable {settings : Settings} {s s' : Store} {p : Path} {report : Report}

/-- A dry run changes nothing, and its report is any other run's as a preview. -/
theorem processFile_preview (settings : Settings) (s : Store) (p : Path) :
    ∃ preview, processFile { settings with dryRun := true } s p = .ok (preview, s) ∧
      ∀ report s', processFile settings s p = .ok (report, s') → preview = report.asPreview := by
  unfold processFile
  split
  · exact ⟨_, rfl, by rintro _ _ ⟨⟩; rfl⟩
  · exact ⟨_, rfl, by rintro _ _ ⟨⟩; rfl⟩
  · next mode source _ =>
      split
      · exact ⟨_, rfl, by rintro _ _ ⟨⟩; rfl⟩
      · next up _ =>
          dsimp only
          split
          · refine ⟨_, rfl, fun report s' h => ?_⟩
            cases hstore : Process.store settings s p mode up.content with
            | error e =>
                rw [hstore] at h
                cases h
            | ok stored =>
                rw [hstore] at h
                cases h
                rfl
          · exact ⟨_, rfl, by rintro _ _ ⟨⟩; rfl⟩

/-- The preview of a file that can be read depends on what is read alone. -/
theorem processFile_dry_congr {x : FileMode × Bytes} (hread : readFile s p = .ok x) (hread' : readFile s' p = .ok x)
    (backup : Bool) : ∃ preview, processFile { dryRun := true, backup := backup } s p = .ok (preview, s) ∧
      processFile { dryRun := true, backup := backup } s' p = .ok (preview, s') := by
  unfold processFile
  rw [hread, hread']
  dsimp only
  split
  · exact ⟨_, rfl, rfl⟩
  · split
    · exact ⟨_, rfl, rfl⟩
    · exact ⟨_, rfl, rfl⟩

/-- What an ordinary user is shown of a file that this user can read, the superuser who has given everything away would
have been shown as well. -/
theorem preview_before_changeOwner {x : FileMode × Bytes} (h : s.changeOwner = .ok s') (hread : readFile s' p = .ok x)
    (backup : Bool) : ∃ preview, processFile { dryRun := true, backup := backup } s p = .ok (preview, s) ∧
      processFile { dryRun := true, backup := backup } s' p = .ok (preview, s') := by
  have hprivileges := privileges_of_changeOwner h
  obtain ⟨hstat, hmode⟩ := readFile_eq_ok.1 hread
  exact processFile_dry_congr (readFile_eq_ok.2 ⟨hprivileges.stat_eq hstat, hprivileges.allows hmode⟩) hread backup

/-- What has been written can be read, and is the upgraded text of the report. -/
theorem read_of_written (hfree : s.IsFree (temporaryPath p)) (h : processFile settings s p = .ok (report, s'))
    (hwritten : report.outcome.written = true) :
    ∃ text, report.upgradedText? = some text ∧ s'.read p = .ok (Utf8.encode text) := by
  have hprocessing := processing settings s p
  rw [h] at hprocessing
  cases hprocessing with
  | unread => simp [Report.outcome] at hwritten
  | unchanged => simp [Report.outcome, upgradeReport] at hwritten
  | @stored mode source up _ backup _ hup hrecord hstoring =>
      cases hstoring with
      | dry => simp [Report.outcome, upgradeReport] at hwritten
      | @replaced _ s₁ hdry hbacked =>
          have hdone : (replace s₁ p up.content mode).2 = .done := of_decide_eq_true hwritten
          obtain ⟨text, htext⟩ := hup.exists_text
          have hread := hbacked.read_replace hup hrecord hdry hfree hdone
          refine ⟨text, ?_, by rw [hread, htext]⟩
          rw [Report.upgradedText?, upgradeReport, hrecord, if_pos rfl, htext, textOf_encode]

/-- A dry run gives a report and changes nothing. The real run gives none if and only if the file is to have a backup
whose name cannot be looked up. If it gives one, that is the preview but for what was written and backed up, with the
same findings; and if it has written the file, where nothing stood at the temporary path, the bytes that can then be
read are those of the upgraded text in the preview. -/
theorem preview_faithful (backup : Bool) (s : Store) (p : Path) :
    ∃ preview, processFile { dryRun := true, backup := backup } s p = .ok (preview, s) ∧
      (∀ e, processFile { dryRun := false, backup := backup } s p = .error e ↔
        Nameless { dryRun := false, backup := backup } s p e) ∧
      ∀ report s', processFile { dryRun := false, backup := backup } s p = .ok (report, s') →
        preview = report.asPreview ∧ preview.findings = report.findings ∧
          (s.IsFree (temporaryPath p) → report.outcome.written = true →
            ∃ text, preview.findings.upgradedText = some text ∧ s'.read p = .ok (Utf8.encode text)) := by
  obtain ⟨preview, hpreview, hreal⟩ := processFile_preview { dryRun := false, backup := backup } s p
  refine ⟨preview, hpreview, fun e => processFile_eq_error, fun report s' h => ?_⟩
  obtain rfl := hreal report s' h
  refine ⟨rfl, report.findings_asPreview, fun hfree hwritten => ?_⟩
  rw [report.findings_asPreview]
  exact read_of_written hfree h hwritten

/-- A link to a file is previewed, and then replaced by a file with the text of the preview. -/
theorem preview_faithful_alias : ∃ preview report s' text,
    processFile { dryRun := true, backup := true } aliasStore (Path.literal "a.tf".toList) = .ok (preview, aliasStore) ∧
      processFile { dryRun := false, backup := true } aliasStore (Path.literal "a.tf".toList) = .ok (report, s') ∧
      report.outcome.written = true ∧ preview = report.asPreview ∧ preview.findings.upgradedText = some text ∧
      s'.read (Path.literal "a.tf".toList) = .ok (Utf8.encode text) := by
  have hdone : (processFile { dryRun := false, backup := true } aliasStore (Path.literal "a.tf".toList)).toOption.map
      (fun done => done.1.outcome.written) = some true := by decide +kernel
  obtain ⟨report, s', h, hwritten⟩ := exists_report hdone
  obtain ⟨preview, hpreview, -, hreal⟩ := preview_faithful true aliasStore (Path.literal "a.tf".toList)
  obtain ⟨hsame, -, hread⟩ := hreal report s' h
  obtain ⟨text, htext, hbytes⟩ := hread (by decide +kernel) hwritten
  exact ⟨preview, report, s', text, hpreview, h, hwritten, hsame, htext, hbytes⟩

/-- The preview shows an upgrade, but the real run ends without a report. -/
theorem preview_without_report :
    (∃ preview, processFile { dryRun := true, backup := true } longNameStore ⟨false, [longName]⟩ =
      .ok (preview, longNameStore) ∧ preview.status = .preview) ∧
    processFile { dryRun := false, backup := true } longNameStore ⟨false, [longName]⟩ =
      .error ⟨.nameTooLong, backupPath ⟨false, [longName]⟩ 0⟩ := by
  have hstatus : (processFile { dryRun := true, backup := true } longNameStore ⟨false, [longName]⟩).toOption.map
      (fun done => done.1.status) = some .preview := by decide +kernel
  obtain ⟨preview, hpreview, -⟩ := processFile_preview { backup := true } longNameStore ⟨false, [longName]⟩
  refine ⟨⟨preview, hpreview, ?_⟩, processFile_eq_error.2 nameless_longName⟩
  have hsome : (processFile { dryRun := true, backup := true } longNameStore ⟨false, [longName]⟩).toOption =
      some (preview, longNameStore) := congrArg Except.toOption hpreview
  rw [hsome] at hstatus
  exact Option.some.inj hstatus

end JujuMigration
