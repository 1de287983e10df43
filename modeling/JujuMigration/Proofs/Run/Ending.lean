import JujuMigration.Proofs.Run.Process
/-! How the processing of a file can end, and that the report says which it was. If nothing stands at the temporary
path, a report that speaks of an error, of no upgrade or of a dry run belongs to a store that is as it was; one that
speaks of an upgrade, to a store with the new file in the target's place; and one that speaks of a failed write, to a
store with a new backup at most. -/

namespace JujuMigration

open Store Process

/-- The five ways in which processing a file can end. -/
inductive Ending
  | unread
  | unchanged
  | previewed
  | replaced
  | unwritten
  deriving DecidableEq, Repr

/-- The ending that a status stands for. -/
def Status.ending : Status → Ending
  | parseError | ioError | engineError => .unread
  | review | unchanged => .unchanged
  | preview => .previewed
  | upgraded => .replaced
  | writeError => .unwritten

/-- A call on a file has ended in this way: what the report says, and what has become of the store. -/
def Ending.Holds (settings : Settings) (s : Store) (p : Path) (report : Report) (s' : Store) : Ending → Prop
  | unread => (report.status = .parseError ∨ report.status = .ioError ∨ report.status = .engineError) ∧
      report.outcome.success = false ∧ report.outcome.upgraded = false ∧ report.record.changes = [] ∧ s' = s ∧
      ∃ why message, NoUpgrade s p why message ∧ report = .failed p why message
  | unchanged => report.status = (if report.record.advice = [] then .unchanged else .review) ∧
      report.outcome.success = true ∧ report.outcome.upgraded = false ∧ s' = s ∧
      ∃ mode source up, Upgrades s p mode source up ∧ report.record = up.record
  | previewed => report.status = .preview ∧ settings.dryRun = true ∧ report.outcome.upgraded = true ∧
      report.outcome.written = false ∧ s' = s ∧
      ∃ mode source up, Upgrades s p mode source up ∧ report.record = up.record
  | replaced => report.status = .upgraded ∧ settings.dryRun = false ∧ report.outcome.upgraded = true ∧
      report.outcome.written = true ∧ ∃ mode source up q, Upgrades s p mode source up ∧ report.record = up.record ∧
        up.content ≠ source ∧ s.place .entry p = .ok q ∧ s'.place .entry p = .ok q ∧
        s'.entry? q = some (.file mode up.content) ∧ s'.IsFree (temporaryPath p)
  | unwritten => report.status = .writeError ∧ settings.dryRun = false ∧ report.outcome.upgraded = true ∧
      report.outcome.success = false ∧ report.outcome.written = false ∧ s'.user = s.user ∧
      ∃ mode source up, Upgrades s p mode source up ∧ report.record = up.record ∧ ∀ q, s'.entry? q ≠ s.entry? q →
        ∃ b, report.backup = .created b ∧ s.place .writing b = .ok q ∧ s.entry? q = none ∧
          s'.entry? q = some (.file mode source)

variable {settings : Settings} {s s' : Store} {p : Path} {report : Report} {e : Ending}

/-- An ending is told by the status of the report. -/
theorem Ending.Holds.eq_ending (h : e.Holds settings s p report s') : e = report.status.ending := by
  cases e with
  | unread => rcases h.1 with hs | hs | hs <;> rw [hs] <;> rfl
  | unchanged =>
      rw [h.1]
      split <;> rfl
  | previewed | replaced | unwritten => rw [h.1]; rfl

/-- The bytes of an upgraded file are not those that were read. -/
theorem content_ne_of_wasUpgraded {file : Text} {source : Bytes} {up : Upgraded} (h : upgradeFile file source = .ok up)
    (hrecord : up.record.wasUpgraded = true) : up.content ≠ source := by
  obtain ⟨d, hd, rfl⟩ := upgradeFile_eq_ok.1 h
  have hchanges : (d.upgradeNodes d.body).2.changes ≠ [] := by
    rintro hc
    have hflag : d.upgrade.record.wasUpgraded = !(d.upgradeNodes d.body).2.changes.isEmpty := d.wasUpgraded_upgrade
    rw [hflag, hc] at hrecord
    cases hrecord
  cases d.truthful_upgradeNodes (Document.blocks_sound hd) with
  | unchanged _ hc => exact absurd hc hchanges
  | changed hb =>
      intro he
      have htext := congrArg Utf8.decode (he.trans (Document.render_of_read hd).symm)
      simp only [Document.upgrade, Document.render, Utf8.decode_encode, Except.ok.injEq,
        List.append_cancel_left_eq] at htext
      exact hb.ne htext.symm

section

variable {mode : FileMode} {source : Bytes} {up : Upgraded} {s₁ : Store} {backup : Backup}

theorem ending_unchanged (hup : Upgrades s p mode source up) (hrecord : up.record.wasUpgraded = false) :
    Ending.unchanged.Holds settings s p (.processed (upgradeReport settings p source up .none .none)) s := by
  refine ⟨?_, rfl, hrecord, rfl, mode, source, up, hup, rfl⟩
  show (if up.record.wasUpgraded then _ else if up.record.warnings = 0 then Status.unchanged else .review) = _
  rw [hrecord, if_neg Bool.false_ne_true, Record.warnings]
  simp only [List.length_eq_zero_iff]
  rfl

theorem ending_previewed (hup : Upgrades s p mode source up) (hrecord : up.record.wasUpgraded = true)
    (hdry : settings.dryRun = true) :
    Ending.previewed.Holds settings s p (.processed (upgradeReport settings p source up .none .none)) s := by
  refine ⟨?_, hdry, hrecord, rfl, rfl, mode, source, up, hup, rfl⟩
  show (if up.record.wasUpgraded then if settings.dryRun then Status.preview else .upgraded else _) = _
  rw [hrecord, hdry, if_pos rfl, if_pos rfl]

/-- The file is replaced, and nothing is left at the temporary path. -/
theorem ending_replaced (hup : Upgrades s p mode source up) (hrecord : up.record.wasUpgraded = true)
    (hdry : settings.dryRun = false)
    (hbacked : BackedUp settings s p mode source backup s₁) (hfree : s.IsFree (temporaryPath p))
    (hdone : (replace s₁ p up.content mode).2 = .done) : Ending.replaced.Holds settings s p
      (.processed (upgradeReport settings p source up backup .done)) (replace s₁ p up.content mode).1 := by
  have hstat := hup.stat
  have hways := hbacked.sameWays
  obtain ⟨x, q, hx, hq, hentry⟩ := replace_done (hbacked.ownsTemporary hfree) hdone
  have hx := hways.place_iff.1 hx
  have hq := hways.place_iff.1 hq
  have hx' := hbacked.place_replace hfree hstat up.content hx fun he => absurd rfl he
  have hq' := hbacked.place_replace hfree hstat up.content hq fun he => absurd rfl he
  refine ⟨?_, hdry, hrecord, rfl, mode, source, up, q, hup, rfl, content_ne_of_wasUpgraded hup.upgrade hrecord, hq, hq',
    by rw [hentry, if_pos rfl], fun r hr => ?_⟩
  · show (if up.record.wasUpgraded then if settings.dryRun then Status.preview else .upgraded else _) = _
    rw [hrecord, hdry]
    rfl
  · obtain rfl : x = r := Except.ok.inj (hx'.symm.trans hr)
    rw [hentry, if_neg (temporary_ne hx hq), if_pos rfl]

/-- The file could not be written, and the store has a new backup at most. -/
theorem ending_unwritten (hup : Upgrades s p mode source up) (hrecord : up.record.wasUpgraded = true)
    (hdry : settings.dryRun = false)
    (hbacked : BackedUp settings s p mode source backup s₁) (hfree : s.IsFree (temporaryPath p)) {reason : String}
    (hfailed : (replace s₁ p up.content mode).2 = .failed reason) : Ending.unwritten.Holds settings s p
      (.processed (upgradeReport settings p source up backup (.failed reason))) (replace s₁ p up.content mode).1 := by
  refine ⟨rfl, hdry, hrecord, rfl, rfl, hbacked.user_replace up.content, mode, source, up, hup, rfl, fun q hq => ?_⟩
  rcases hbacked.entry_replace hfree up.content q with hsame | hnew | ⟨hdone, -⟩
  · exact absurd hsame hq
  · exact hnew
  · rw [hfailed] at hdone
    cases hdone

end

/-- If nothing stands at the temporary path, then processing a file, where it gives a report at all, ends in exactly one
of the five ways. The warnings are as many as the pieces of advice, and what is written is a success. -/
theorem processFile_ends (hfree : s.IsFree (temporaryPath p)) (h : processFile settings s p = .ok (report, s')) :
    (∃! e : Ending, e.Holds settings s p report s') ∧
      report.outcome.warnings = report.record.advice.length ∧
      (report.outcome.written = true → report.outcome.success = true) := by
  refine ⟨?_, ?_, ?_⟩
  · suffices hends : ∃ e : Ending, e.Holds settings s p report s' by
      obtain ⟨e, he⟩ := hends
      exact ⟨e, he, fun e' he' => he'.eq_ending.trans he.eq_ending.symm⟩
    have hprocessing := processing settings s p
    rw [h] at hprocessing
    cases hprocessing with
    | @unread why message hnone =>
        refine ⟨.unread, ?_, rfl, rfl, rfl, rfl, why, message, hnone, rfl⟩
        cases why <;> simp [Report.status, Failure.status]
    | unchanged hup hrecord => exact ⟨_, ending_unchanged hup hrecord⟩
    | @stored mode source up s' backup writing hup hrecord hstoring =>
        cases hstoring with
        | dry hdry => exact ⟨_, ending_previewed hup hrecord hdry⟩
        | @replaced _ s₁ hdry hbacked =>
            rcases replace_outcome s₁ p up.content mode with hdone | ⟨reason, hfailed⟩
            · rw [hdone]
              exact ⟨_, ending_replaced hup hrecord hdry hbacked hfree hdone⟩
            · rw [hfailed]
              exact ⟨_, ending_unwritten hup hrecord hdry hbacked hfree hfailed⟩
  · cases report <;> rfl
  · cases report with
    | failed => nofun
    | processed p =>
        intro hwritten
        have hdone : p.writing = .done := by simpa [Report.outcome] using hwritten
        show p.succeeded = true
        rw [Processed.succeeded, hdone]

/-- A file to upgrade, and a link to it. -/
def aliasStore : Store where
  entries :=
    [([], .directory 0o755), (["d".toList], .directory 0o755),
      (["d".toList, "m.tf".toList], .file 0o640 staleSource), (["a.tf".toList], .link "d/m.tf".toList)]
  user := { home := [] }

/-- The link is backed up and replaced. -/
theorem processFile_ends_alias : ∃ report s',
    processFile { backup := true } aliasStore (Path.literal "a.tf".toList) = .ok (report, s') ∧
      Ending.replaced.Holds { backup := true } aliasStore (Path.literal "a.tf".toList) report s' := by
  have hstatus : (processFile { backup := true } aliasStore (Path.literal "a.tf".toList)).toOption.map
      (fun done => done.1.status) = some .upgraded := by decide +kernel
  obtain ⟨report, s', h, hstatus⟩ := exists_report hstatus
  obtain ⟨⟨e, he, -⟩, -⟩ := processFile_ends (by decide +kernel) h
  refine ⟨report, s', h, ?_⟩
  rwa [he.eq_ending, show report.status = .upgraded from hstatus] at he

end JujuMigration
