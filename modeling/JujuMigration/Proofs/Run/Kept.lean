import JujuMigration.Proofs.Run.Process
/-! Backups last. A backup that a call reports is under the first of its names that led to nothing, with content and
mode of the target, and it stays there as it is through any number of further calls, on whatever files but itself. -/

namespace JujuMigration

open Store Process

variable {settings : Settings} {s s' s₁ : Store} {p b : Path} {q : Place} {mode : FileMode} {source : Bytes}
  {later : List Path}

/-- A path leads to a place, where there is a file with this mode and content. -/
structure Keeps (s : Store) (b : Path) (q : Place) (mode : FileMode) (source : Bytes) : Prop where
  place : s.place .target b = .ok q
  entry : s.entry? q = some (.file mode source)

theorem Keeps.stat (h : Keeps s b q mode source) : s.stat b = .ok (.file mode source) :=
  stat_eq_ok.2 ⟨q, h.place, h.entry⟩

/-- A call on a file leaves a backup alone: the file is not the backup, nor a link to it if the backup is found
through a link itself, and nothing stands at the temporary path. -/
structure Spares (b : Path) (q : Place) (s : Store) (p : Path) : Prop where
  free : s.IsFree (temporaryPath p)
  ne : s.place .entry p ≠ .ok q
  link : s.place .target p = .ok q → s.place .entry b = .ok q

instance (b : Path) (q : Place) (s : Store) (p : Path) : Decidable (Spares b q s p) :=
  decidable_of_iff (s.IsFree (temporaryPath p) ∧ s.place .entry p ≠ .ok q ∧
      (s.place .target p = .ok q → s.place .entry b = .ok q))
    ⟨fun h => ⟨h.1, h.2.1, h.2.2⟩, fun h => ⟨h.free, h.ne, h.link⟩⟩

/-- What a call has backed up is kept when the file is replaced, unless the backup has been written to the temporary
path. -/
theorem Process.BackedUp.keeps (h : BackedUp settings s p mode source (.created b) s₁)
    (hfree : s.IsFree (temporaryPath p))
    (hstat : s.stat p = .ok (.file mode source)) (content : Bytes) (hplace : s.place .writing b = .ok q)
    (htemporary : s.place .entry (temporaryPath p) ≠ .ok q) : Keeps (replace s₁ p content mode).1 b q mode source := by
  have howns := h.ownsTemporary hfree
  have hways := h.sameWays
  obtain ⟨habsent, hmade⟩ : s.entry? q = none ∧ s₁.entry? q = some (.file mode source) := by
    cases h with
    | created _ _ _ hplace' hadds =>
        obtain rfl := Except.ok.inj (hplace'.symm.trans hplace)
        exact ⟨hadds.absent, by rw [hadds.entry, if_pos rfl]⟩
  constructor
  · refine h.place_replace hfree hstat content (place_toTarget hplace nofun) fun _ ht => ?_
    obtain ⟨t, ht', hentry⟩ := stat_eq_ok.1 hstat
    obtain rfl : q = t := Except.ok.inj (ht.symm.trans ht')
    simp [habsent] at hentry
  by_cases hdone : (replace s₁ p content mode).2 = .done
  · obtain ⟨x, t, hx, ht, hentry⟩ := replace_done howns hdone
    have hqt : q ≠ t := by
      rintro rfl
      exact entry?_ne_none_of_stat hstat (hways.place_iff.1 ht) habsent
    have hqx : q ≠ x := by
      rintro rfl
      exact htemporary (hways.place_iff.1 hx)
    rw [hentry, if_neg hqt, if_neg hqx, hmade]
  · rcases replace_failed howns hdone q with hsame | ⟨hx, -⟩
    · rw [hsame, hmade]
    · exact absurd (hways.place_iff.1 hx) htemporary

/-- A call that leaves a backup alone keeps it. -/
theorem Keeps.call (h : Keeps s b q mode source) (hs : Spares b q s p) :
    Keeps (afterCall settings s p) b q mode source := by
  have hprocessing := processing settings s p
  unfold afterCall
  generalize processFile settings s p = result at hprocessing ⊢
  cases hprocessing with
  | unread | unchanged | escaped => exact h
  | @stored mode' source' up _ _ _ hup _ hstoring =>
      cases hstoring with
      | dry => exact h
      | @replaced _ s₁ _ hbacked =>
          have hstat := hup.stat
          have hentry : Store.entry? (replace s₁ p up.content mode').1 q = some (.file mode source) := by
            rcases hbacked.entry_replace hs.free up.content q with hsame | ⟨-, -, -, habsent, -⟩ | ⟨-, hq, -⟩
            · rw [hsame, h.entry]
            · simp [h.entry] at habsent
            · exact absurd hq hs.ne
          refine ⟨?_, hentry⟩
          by_cases ht : s.place .target p = .ok q
          -- The file is a link to the backup, whose own place is no link.
          · have hb := hbacked.place_replace hs.free hstat up.content (hs.link ht) fun he => absurd rfl he
            refine place_toTarget_of_entry hb fun target hlink => ?_
            rw [wayAt?_eq_none.2 (.inr ⟨mode, source, hentry⟩)] at hlink
            cases hlink
          · exact hbacked.place_replace hs.free hstat up.content h.place fun _ ht' => absurd ht' ht

/-- Calls that leave a backup alone keep it. -/
theorem Keeps.calls (h : Keeps s b q mode source) (hs : AtEachTurn settings (Spares b q) s later) :
    Keeps (afterCalls settings s later) b q mode source := by
  induction later generalizing s with
  | nil => exact h
  | cons p later ih => exact ih (h.call hs.1) hs.2

/-- A backup of a file has been made between two stores: its path led to nothing, now it leads to a file with content
and mode of the target, and so it does through whatever calls that leave it alone. A path that was a link to the
temporary path is excepted from this. -/
structure IsBackup (settings : Settings) (s : Store) (p b : Path) (s' : Store) (q : Place) (mode : FileMode)
    (source : Bytes) : Prop where
  free : s.exists? b = .ok false
  place : s.place .writing b = .ok q
  absent : s.entry? q = none
  stat : s.stat p = .ok (.file mode source)
  made : s.IsFree b ∨ s.place .entry (temporaryPath p) ≠ .ok q → s'.stat b = .ok (.file mode source)
  kept : s.IsFree b ∨ s.place .entry (temporaryPath p) ≠ .ok q → ∀ later, AtEachTurn settings (Spares b q) s' later →
    (afterCalls settings s' later).stat b = .ok (.file mode source)

/-- The search for a backup's name ends. If a file has then been written, and nothing stood at the temporary path, the
report says that the copy was refused, or it names a backup of the file. -/
theorem backup_kept (settings : Settings) (s : Store) (p : Path) : ∃ n ≤ s.entries.length,
    SearchEnds s p n ∧ (∀ bound > n, freeBackupPath s p bound 0 = searchResult s (backupPath p n)) ∧
      ∀ report s', settings.backup = true → s.IsFree (temporaryPath p) →
        processFile settings s p = .ok (report, s') → report.outcome.written = true →
        (∃ refused message, s.copy p (backupPath p n) = .error refused ∧ report.backup = .failed message) ∨
          report.backup = .created (backupPath p n) ∧
            ∃ q mode source, IsBackup settings s p (backupPath p n) s' q mode source := by
  obtain ⟨n, hn, hends, hsearch⟩ := search_ends s p
  refine ⟨n, hn, hends, hsearch, fun report s' hsettings hfree h hwritten => ?_⟩
  have hprocessing := processing settings s p
  rw [h] at hprocessing
  cases hprocessing with
  | unread => simp [Report.outcome] at hwritten
  | unchanged => simp [Report.outcome, upgradeReport] at hwritten
  | @stored mode source up _ backup _ hup _ hstoring =>
      cases hstoring with
      | dry => simp [Report.outcome, upgradeReport] at hwritten
      | @replaced _ s₁ _ hbacked =>
          have hstat := hup.stat
          cases hbacked with
          | off hoff => simp [hsettings] at hoff
          | failed _ hends' _ hcopy message =>
              obtain rfl := hends'.unique hends
              exact .inl ⟨_, message, hcopy, rfl⟩
          | @created m q _ hsettings hends' hnone hplace hadds =>
              obtain rfl := hends'.unique hends
              have hbacked := BackedUp.created hsettings hends hnone hplace hadds
              have hkeeps (hlink : s.IsFree (backupPath p m) ∨ s.place .entry (temporaryPath p) ≠ .ok q) :
                  Keeps (replace s₁ p up.content mode).1 (backupPath p m) q mode source := by
                refine hbacked.keeps hfree hstat up.content hplace ?_
                rcases hlink with hnolink | hne
                · exact temporary_ne_backup (place_entry_of_isFree hnolink (place_toTarget hplace nofun))
                · exact hne
              exact .inr ⟨rfl, q, mode, source, hnone, hplace, hadds.absent, hstat, fun hlink => (hkeeps hlink).stat,
                fun hlink later hspares => ((hkeeps hlink).calls hspares).stat⟩

/-- Two files to upgrade, and an older backup of the first. -/
def backedStore : Store where
  entries :=
    [([], .directory 0o755), (["a.tf".toList], .file 0o640 staleSource), (["b.tf".toList], .file 0o644 staleSource),
      (["a.tf.tfupgrade.backup".toList], .file 0o600 [])]
  user := { home := [] }

/-- The new backup, under the second name, is there after calls on the other file and on the same one. -/
theorem backup_kept_numbered : ∃ report s',
    processFile { backup := true } backedStore (Path.literal "a.tf".toList) = .ok (report, s') ∧
      (afterCalls { backup := true } s' [Path.literal "b.tf".toList, Path.literal "a.tf".toList]).stat
        (backupPath (Path.literal "a.tf".toList) 1) = .ok (.file 0o640 staleSource) := by
  have hdone : (processFile { backup := true } backedStore (Path.literal "a.tf".toList)).toOption.map (fun done =>
      (done.1.outcome.written, done.1.backup)) =
        some (true, .created (backupPath (Path.literal "a.tf".toList) 1)) := by decide +kernel
  have hspares : AtEachTurn { backup := true }
      (Spares (backupPath (Path.literal "a.tf".toList) 1) ["a.tf-1.tfupgrade.backup".toList])
        (afterCall { backup := true } backedStore (Path.literal "a.tf".toList))
      [Path.literal "b.tf".toList, Path.literal "a.tf".toList] := by decide +kernel
  obtain ⟨report, s', h, hdone⟩ := exists_report hdone
  obtain ⟨hwritten, hcreated⟩ := Prod.mk.inj hdone
  unfold afterCall at hspares
  rw [h] at hspares
  refine ⟨report, s', h, ?_⟩
  obtain ⟨n, -, -, -, hkept⟩ := backup_kept { backup := true } backedStore (Path.literal "a.tf".toList)
  rcases hkept report s' rfl (by decide +kernel) h hwritten with ⟨-, message, -, hfailed⟩ | ⟨hname, q, mode, source, hb⟩
  · exact absurd (hcreated.symm.trans hfailed) nofun
  · rw [Backup.created.inj (hname.symm.trans hcreated)] at hb
    have hplace : backedStore.place .writing (backupPath (Path.literal "a.tf".toList) 1) =
        .ok ["a.tf-1.tfupgrade.backup".toList] := by decide +kernel
    have hstat : backedStore.stat (Path.literal "a.tf".toList) = .ok (.file 0o640 staleSource) := by decide +kernel
    obtain rfl := Except.ok.inj (hplace.symm.trans hb.place)
    rw [hstat.symm.trans hb.stat]
    exact hb.kept (.inl (by decide +kernel)) _ hspares

/-- A file to upgrade, and a link in the place of its backup. -/
def danglingStore (target : Text) : Store where
  entries :=
    [([], .directory 0o755), (["a.tf".toList], .file 0o644 staleSource),
      (["a.tf.tfupgrade.backup".toList], .link target)]
  user := { home := [] }

/-- A file is written without a backup where the copy is refused; a backup may be written through a link, and is lost if
the link leads to the temporary path; and a backup may be the target of a call itself. -/
theorem backup_not_kept :
    (∃ report s', processFile { backup := true } (danglingStore "missing/a".toList) (Path.literal "a.tf".toList) =
        .ok (report, s') ∧
      report.outcome.written = true ∧ ∀ b, report.backup ≠ .created b) ∧
    (∃ report s', processFile { backup := true } (danglingStore "a.tf.tfupgrade.tmp".toList)
        (Path.literal "a.tf".toList) = .ok (report, s') ∧
      report.backup = .created (backupPath (Path.literal "a.tf".toList) 0) ∧
      ¬(danglingStore "a.tf.tfupgrade.tmp".toList).IsFree (backupPath (Path.literal "a.tf".toList) 0) ∧
      s'.stat (backupPath (Path.literal "a.tf".toList) 0) = .error .notFound) ∧
    (afterCall { backup := true } backedStore (Path.literal "b.tf".toList)).stat
        (backupPath (Path.literal "b.tf".toList) 0) = .ok (.file 0o644 staleSource) ∧
      (afterCalls { backup := true } backedStore
        [Path.literal "b.tf".toList, backupPath (Path.literal "b.tf".toList) 0]).stat
          (backupPath (Path.literal "b.tf".toList) 0) ≠ .ok (.file 0o644 staleSource) := by
  refine ⟨?_, ?_, by decide +kernel, by decide +kernel⟩
  · have hdone : (processFile { backup := true } (danglingStore "missing/a".toList)
        (Path.literal "a.tf".toList)).toOption.map (fun done => (done.1.outcome.written, done.1.backup)) =
          some (true, .failed "Backup failed: [Errno 2] No such file or directory: 'a.tf.tfupgrade.backup'") := by
      decide +kernel
    obtain ⟨report, s', h, hdone⟩ := exists_report hdone
    obtain ⟨hwritten, hfailed⟩ := Prod.mk.inj hdone
    exact ⟨report, s', h, hwritten, fun b hb => absurd (hfailed.symm.trans hb) nofun⟩
  · have hdone : (processFile { backup := true } (danglingStore "a.tf.tfupgrade.tmp".toList)
        (Path.literal "a.tf".toList)).toOption.map (fun done =>
          (done.1.backup, done.2.stat (backupPath (Path.literal "a.tf".toList) 0))) =
            some (.created (backupPath (Path.literal "a.tf".toList) 0), .error .notFound) := by
      decide +kernel
    obtain ⟨report, s', h, hdone⟩ := exists_report hdone
    obtain ⟨hcreated, hstat⟩ := Prod.mk.inj hdone
    exact ⟨report, s', h, hcreated, by decide +kernel, hstat⟩

end JujuMigration
