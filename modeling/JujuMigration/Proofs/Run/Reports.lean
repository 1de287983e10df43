import JujuMigration.Proofs.Run.Process
/-! Runs. A run takes the files of its target in order and reports on each of them, whatever fails with one; only where
the lookup of a name for a backup is refused does it stop, with the files in front processed and the others as they
were. -/

namespace JujuMigration

open Store Process

variable {settings : Settings} {s s' : Store} {p : Path} {e : Escape} {report : Report} {files before after : List Path}

/-! ### One file -/

/-- An upgraded file is to be backed up, and the search for the backup's name ends at one whose lookup is refused. -/
structure Nameless (settings : Settings) (s : Store) (p : Path) (e : Escape) : Prop where
  backup : settings.backup = true
  stores : settings.dryRun = false
  upgrades : ∃ mode source up, Upgrades s p mode source up ∧ up.record.wasUpgraded = true
  refused : ∃ n, SearchEnds s p n ∧ e.path = backupPath p n ∧ s.exists? (backupPath p n) = .error e.refusal

theorem Nameless.refusal (h : Nameless settings s p e) : e.refusal = .nameTooLong ∨ e.refusal = .denied := by
  obtain ⟨n, -, -, hrefused⟩ := h.refused
  exact refusal_of_exists? hrefused

/-- What escapes from the processing of a file is the refusal of a name for its backup. -/
theorem processFile_eq_error : processFile settings s p = .error e ↔ Nameless settings s p e := by
  have hprocessing := processing settings s p
  generalize processFile settings s p = result at hprocessing ⊢
  constructor
  · rintro rfl
    cases hprocessing with
    | escaped hup hrecord hstoring =>
        cases hstoring with
        | escaped hdry hsettings hends hrefused =>
            exact ⟨hsettings, hdry, ⟨_, _, _, hup, hrecord⟩, _, hends, rfl, hrefused⟩
  · rintro ⟨hsettings, hdry, ⟨mode, source, up, hup, hrecord⟩, n, hends, hpath, hrefused⟩
    cases hprocessing with
    | unread hnone => exact absurd hup hnone.not_upgrades
    | unchanged hup' hrecord' =>
        obtain ⟨rfl, rfl, rfl⟩ := hup.unique hup'
        simp [hrecord] at hrecord'
    | stored _ _ hstoring =>
        cases hstoring with
        | dry hdry' => simp [hdry] at hdry'
        | replaced _ hbacked =>
            cases hbacked with
            | off hoff => simp [hsettings] at hoff
            | failed _ hends' hfree | created _ hends' hfree =>
                obtain rfl := hends.unique hends'
                simp [hfree] at hrefused
    | escaped _ _ hstoring =>
        cases hstoring with
        | escaped _ _ hends' hrefused' =>
            obtain rfl := hends.unique hends'
            obtain rfl := Except.error.inj (hrefused.symm.trans hrefused')
            rw [← hpath]

theorem path_of_processFile (h : processFile settings s p = .ok (report, s')) : report.path = p := by
  have hprocessing := processing settings s p
  rw [h] at hprocessing
  cases hprocessing with
  | unread | unchanged | stored => rfl

/-! ### A directory of files -/

theorem discover_flat {directory : Path} {q : Place} {mode : FileMode} {entries : List (Text × Entry)}
    (hplace : s.place .target directory = .ok q) (hentry : s.entry? q = some (.directory mode))
    (hread : s.allows mode .read = true)
    (hnamed : s.entries.filterMap (fun (place, e) => (childName? q place).map (·, e)) = entries)
    (hsorted : entries.Pairwise fun a b => Text.sortsUpTo a.1 b.1 = true)
    (hflat : entries.filter Discovery.isEntered = []) :
    discover s directory = .ok ((entries.filter fun e =>
      !Discovery.leadsToDirectory s directory e && Discovery.isWanted directory e.1).map
        fun e => directory.child e.1) := by
  have hstat : s.stat directory = .ok (.directory mode) := stat_eq_ok.2 ⟨q, hplace, hentry⟩
  have hlist : s.list directory = .ok entries := by
    simp only [list, hplace, hentry, hread, children, hnamed, List.mergeSort_of_pairwise hsorted, bind, Except.bind,
      if_true]
  rw [discover, hstat]
  simp only [Discovery.depth, Discovery.filesBelow, hlist, hflat]
  exact congrArg Except.ok (List.append_nil _)

/-! ### Many files -/

/-- Each file's backup, if it is to have one, has a name that can be looked up when it is the file's turn. -/
def AllNamed (settings : Settings) : Store → List Path → Prop :=
  AtEachTurn settings fun s p => ∀ e, ¬Nameless settings s p e

/-- A file that can be given a name for its backup is reported on, and the others are processed behind it. -/
theorem processFiles_cons (hp : ∀ e, ¬Nameless settings s p e) (files : List Path) : ∃ report, report.path = p ∧
    processFiles settings s (p :: files) =
      ((processFiles settings (afterCall settings s p) files).1.map (report :: ·),
        (processFiles settings (afterCall settings s p) files).2) := by
  cases hdone : processFile settings s p with
  | error e => exact absurd (processFile_eq_error.1 hdone) (hp e)
  | ok done =>
      refine ⟨done.1, path_of_processFile hdone, ?_⟩
      simp only [processFiles, afterCall, hdone]

theorem processFiles_of_allNamed (h : AllNamed settings s files) : ∃ reports,
    processFiles settings s files = (.ok reports, afterCalls settings s files) ∧ reports.map Report.path = files := by
  induction files generalizing s with
  | nil => exact ⟨[], rfl, rfl⟩
  | cons p files ih =>
      obtain ⟨reports, hreports, hpaths⟩ := ih h.2
      obtain ⟨report, hpath, hcons⟩ := processFiles_cons h.1 files
      refine ⟨report :: reports, ?_, by rw [List.map_cons, hpath, hpaths]⟩
      rw [hcons, hreports]
      rfl

/-- Files are processed up to the first that is refused a name for its backup. -/
theorem processFiles_of_nameless (hbefore : AllNamed settings s before)
    (h : Nameless settings (afterCalls settings s before) p e) :
    processFiles settings s (before ++ p :: after) = (.error e, afterCalls settings s before) := by
  induction before generalizing s with
  | nil =>
      have hp : processFile settings s p = .error e := processFile_eq_error.2 h
      simp only [List.nil_append, processFiles, hp]
      rfl
  | cons p' before ih =>
      obtain ⟨report, -, hcons⟩ := processFiles_cons hbefore.1 (before ++ p :: after)
      rw [List.cons_append, hcons, ih hbefore.2 h]
      rfl

/-- All files can be processed, or there is a first that is refused a name for its backup. -/
theorem allNamed_or_nameless (settings : Settings) (s : Store) (files : List Path) : AllNamed settings s files ∨
    ∃ before p after e, files = before ++ p :: after ∧ AllNamed settings s before ∧
      Nameless settings (afterCalls settings s before) p e := by
  induction files generalizing s with
  | nil => exact .inl trivial
  | cons p files ih =>
      by_cases hp : ∃ e, Nameless settings s p e
      · obtain ⟨e, he⟩ := hp
        exact .inr ⟨[], p, files, e, rfl, trivial, he⟩
      rcases ih (afterCall settings s p) with hfiles | ⟨before, p', after, e, rfl, hbefore, he⟩
      · exact .inl ⟨not_exists.1 hp, hfiles⟩
      · exact .inr ⟨p :: before, p', after, e, rfl, ⟨not_exists.1 hp, hbefore⟩, he⟩

/-- Without backups, or in a dry run, nothing makes a run stop. -/
theorem allNamed_of_settings (h : settings.backup = false ∨ settings.dryRun = true) : AllNamed settings s files := by
  induction files generalizing s with
  | nil => trivial
  | cons p files ih =>
      refine ⟨fun e he => ?_, ih⟩
      rcases h with h | h
      · simp [he.backup] at h
      · simp [he.stores] at h

theorem run_of_discover (settings : Settings) {target : Path} (h : discover s target = .ok files) :
    run settings s target =
      ((processFiles settings s files).1.mapError .escape, (processFiles settings s files).2) := by
  rw [run, h]

theorem run_eq_ok {target : Path} {reports : List Report} (hfiles : discover s target = .ok files) :
    run settings s target = (.ok reports, s') ↔ processFiles settings s files = (.ok reports, s') := by
  rw [run_of_discover settings hfiles]
  obtain ⟨result, t⟩ := processFiles settings s files
  cases result with
  | error e => exact iff_of_false nofun nofun
  | ok reports' => exact ⟨fun h => by cases h; rfl, fun h => by cases h; rfl⟩

/-- A run whose target is refused changes nothing. One that has found its files reports on each of them, in order, if
and only if each can be given a name for its backup. Otherwise it ends with the refusal of the first that cannot, since
the name is too long or must not be looked up, with the files in front of that one processed and no others. -/
theorem run_reports (settings : Settings) (s : Store) (target : Path) :
    (∀ e, discover s target = .error e → run settings s target = (.error (.discovery e), s)) ∧
      ∀ files, discover s target = .ok files →
        (AllNamed settings s files ↔ ∃ reports s', run settings s target = (.ok reports, s')) ∧
        (∀ reports s', run settings s target = (.ok reports, s') →
          reports.map Report.path = files ∧ s' = afterCalls settings s files) ∧
        ∀ e s', run settings s target = (.error e, s') → ∃ before p after escape,
          files = before ++ p :: after ∧ AllNamed settings s before ∧
            Nameless settings (afterCalls settings s before) p escape ∧
            (escape.refusal = .nameTooLong ∨ escape.refusal = .denied) ∧ e = .escape escape ∧
            s' = afterCalls settings s before := by
  refine ⟨fun e he => by rw [run, he], fun files hfiles => ?_⟩
  rw [run_of_discover settings hfiles]
  rcases allNamed_or_nameless settings s files with hall | ⟨before, p, after, escape, rfl, hbefore, hescape⟩
  · obtain ⟨reports, hreports, hpaths⟩ := processFiles_of_allNamed hall
    rw [hreports]
    refine ⟨iff_of_true hall ⟨reports, _, rfl⟩, ?_, ?_⟩
    · rintro reports' s' ⟨⟩
      exact ⟨hpaths, rfl⟩
    · rintro e s' ⟨⟩
  · rw [processFiles_of_nameless hbefore hescape]
    refine ⟨iff_of_false (fun hall => ?_) ?_, ?_, ?_⟩
    · obtain ⟨reports, hreports, -⟩ := processFiles_of_allNamed hall
      rw [processFiles_of_nameless hbefore hescape] at hreports
      cases hreports
    · rintro ⟨reports, s', ⟨⟩⟩
    · rintro reports s' ⟨⟩
    · rintro e s' ⟨⟩
      exact ⟨before, p, after, escape, rfl, hbefore, hescape, hescape.refusal, rfl, rfl⟩

/-- A file that cannot be parsed, and one to upgrade. -/
def brokenStore : Store where
  entries :=
    [([], .directory 0o755), (["a.tf".toList], .file 0o644 (Utf8.encode "\x7d".toList)),
      (["b.tf".toList], .file 0o644 staleSource)]
  user := { home := [] }

/-- A failure does not stop the run. -/
theorem run_reports_broken : ∃ reports s', run { backup := true } brokenStore ⟨false, []⟩ = (.ok reports, s') ∧
    reports.map Report.status = [.parseError, .upgraded] ∧
    reports.map Report.path = [⟨false, ["a.tf".toList]⟩, ⟨false, ["b.tf".toList]⟩] := by
  have hdiscover : discover brokenStore ⟨false, []⟩ =
      .ok [⟨false, ["a.tf".toList]⟩, ⟨false, ["b.tf".toList]⟩] :=
    (discover_flat (q := []) (by decide +kernel) rfl rfl rfl (by decide +kernel) (by decide +kernel)).trans
      (by decide +kernel)
  have hstatus : (processFiles { backup := true } brokenStore
      [⟨false, ["a.tf".toList]⟩, ⟨false, ["b.tf".toList]⟩]).1.toOption.map (List.map Report.status) =
        some [.parseError, .upgraded] := by decide +kernel
  have hrun := run_of_discover { backup := true } hdiscover
  cases hreports : (processFiles { backup := true } brokenStore
      [⟨false, ["a.tf".toList]⟩, ⟨false, ["b.tf".toList]⟩]).1 with
  | error e =>
      rw [hreports] at hstatus
      cases hstatus
  | ok reports =>
      rw [hreports] at hstatus hrun
      obtain ⟨-, hpaths, -⟩ := (run_reports _ _ _).2 _ hdiscover
      exact ⟨reports, _, hrun, Option.some.inj hstatus, (hpaths reports _ hrun).1⟩

/-- A name that has no room for a backup's ending. -/
def longName : Text := List.replicate 236 'a' ++ ".tf".toList

/-- Two files to upgrade, the first of which has the long name. -/
def longNameStore : Store where
  entries :=
    [([], .directory 0o755), ([longName], .file 0o644 staleSource), (["b.tf".toList], .file 0o644 staleSource)]
  user := { home := [] }

theorem discover_longName :
    discover longNameStore ⟨false, []⟩ = .ok [⟨false, [longName]⟩, ⟨false, ["b.tf".toList]⟩] :=
  (discover_flat (q := []) (by decide +kernel) rfl rfl rfl (by decide +kernel) (by decide +kernel)).trans
    (by decide +kernel)

theorem nameless_longName :
    Nameless { backup := true } longNameStore ⟨false, [longName]⟩ ⟨.nameTooLong, backupPath ⟨false, [longName]⟩ 0⟩ := by
  have hstop : (match processFile { backup := true } longNameStore ⟨false, [longName]⟩ with
      | .error e => some e
      | .ok _ => none) = some ⟨.nameTooLong, backupPath ⟨false, [longName]⟩ 0⟩ := by decide +kernel
  rw [← processFile_eq_error]
  split at hstop
  · next h => rw [h, Option.some.inj hstop]
  · cases hstop

/-- The run stops at the first file, and the other one is not even read. -/
theorem run_stops_at_long_name :
    discover longNameStore ⟨false, []⟩ = .ok [⟨false, [longName]⟩, ⟨false, ["b.tf".toList]⟩] ∧
      run { backup := true } longNameStore ⟨false, []⟩ =
        (.error (.escape ⟨.nameTooLong, backupPath ⟨false, [longName]⟩ 0⟩), longNameStore) := by
  have hstop := processFile_eq_error.2 nameless_longName
  refine ⟨discover_longName, ?_⟩
  rw [run_of_discover _ discover_longName, processFiles, hstop]
  rfl

end JujuMigration
