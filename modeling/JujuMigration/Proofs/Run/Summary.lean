import JujuMigration.Proofs.Run.Ending
import JujuMigration.Proofs.Run.Isolated
/-! What the summary of a run counts. In a tree without links, where nothing has the name of a temporary file, a file is
counted as written if and only if a run that is not dry has changed its bytes. Each report is counted in one of three
ways: as written, as an error, or as having nothing to write; and an error in writing is that of an upgraded file. -/

namespace JujuMigration

open Store Process

/-- The bytes of the file that a path leads to. -/
def Store.bytes? (s : Store) (p : Path) : Option Bytes :=
  match s.stat p with
  | .ok (.file _ content) => some content
  | _ => none

/-- Nothing has the name of a temporary file. -/
def Store.HasNoTemporaries (s : Store) : Prop :=
  ∀ x ∈ s.entries, ∀ name ∈ x.1.getLast?, ¬temporaryEnding <:+ name

/-- How many of the files have other bytes in the second store. -/
def changedFiles (s s' : Store) (files : List Path) : Nat := files.countP fun p => s'.bytes? p ≠ s.bytes? p

/-- What a report adds to the counters, for a file whose bytes have changed or not. -/
structure Counted (changed : Bool) (report : Report) : Prop where
  written : report.outcome.written = changed
  upgraded : report.outcome.upgraded.toNat = changed.toNat + (decide (report.status = .writeError)).toNat
  once : changed.toNat + (!report.outcome.success).toNat +
    (decide (report.status = .review ∨ report.status = .unchanged)).toNat = 1

variable {settings : Settings} {s s' s₁ : Store} {p target : Path} {mode : FileMode} {source content : Bytes}
  {up : Upgraded} {backup : Backup} {report : Report} {files : List Path} {reports : List Report}

/-! ### One file -/

theorem bytes?_of_stat (h : s.stat p = .ok (.file mode content)) : s.bytes? p = some content := by
  rw [bytes?, h]

theorem Store.HasNoTemporaries.isFree (h : s.HasNoTemporaries) (p : Path) : s.IsFree (temporaryPath p) := by
  intro q hq
  by_contra hne
  obtain ⟨e, he⟩ := Option.ne_none_iff_exists'.1 hne
  obtain ⟨d, -, rfl⟩ := temporary_place hq
  exact h _ (mem_of_lookup he) _ List.getLast?_concat (List.suffix_append _ _)

theorem Store.IsPlain.place_entry {q : Place} (hs : s.IsPlain) (h : s.place .target p = .ok q) :
    s.place .entry p = .ok q := by
  obtain ⟨r, hr⟩ := exists_place_entry h
  obtain rfl := Except.ok.inj
    ((place_toTarget_of_entry hr fun target hlink => hs r target (wayAt?_link.1 hlink)).symm.trans h)
  exact hr

/-- The file's bytes are those written, which are others. -/
theorem bytes?_replaced (hup : Upgrades s p mode source up) (hrecord : up.record.wasUpgraded = true)
    (hdry : settings.dryRun = false) (hbacked : BackedUp settings s p mode source backup s₁)
    (hfree : s.IsFree (temporaryPath p)) (hdone : (replace s₁ p up.content mode).2 = .done) :
    (replace s₁ p up.content mode).1.bytes? p ≠ s.bytes? p := by
  obtain ⟨-, -, -, -, mode', source', up', q, hup', -, hne, -, hplace, hentry, -⟩ :=
    ending_replaced hup hrecord hdry hbacked hfree hdone
  obtain ⟨rfl, rfl, rfl⟩ := hup.unique hup'
  have htarget := place_toTarget_of_entry hplace fun target hlink => by
    rw [wayAt?_eq_none.2 (.inr ⟨_, _, hentry⟩)] at hlink
    cases hlink
  rw [bytes?_of_stat (stat_eq_ok.2 ⟨q, htarget, hentry⟩), bytes?_of_stat hup.stat]
  exact fun h => hne (Option.some.inj h)

/-- The file's bytes are as they were. -/
theorem bytes?_unwritten (hs : s.IsPlain) (hup : Upgrades s p mode source up) (hrecord : up.record.wasUpgraded = true)
    (hdry : settings.dryRun = false) (hbacked : BackedUp settings s p mode source backup s₁)
    (hfree : s.IsFree (temporaryPath p)) {reason : String}
    (hfailed : (replace s₁ p up.content mode).2 = .failed reason) :
    (replace s₁ p up.content mode).1.bytes? p = s.bytes? p := by
  obtain ⟨-, -, -, -, -, -, mode', source', up', -, -, hchanges⟩ :=
    ending_unwritten hup hrecord hdry hbacked hfree hfailed
  obtain ⟨q, hq, hentry⟩ := stat_eq_ok.1 hup.stat
  have hplace := hbacked.place_replace hfree hup.stat up.content hq fun _ _ => hs.place_entry hq
  have hsame : Store.entry? (replace s₁ p up.content mode).1 q = s.entry? q := by
    by_contra hne
    obtain ⟨b, -, -, habsent, -⟩ := hchanges q hne
    rw [hentry] at habsent
    cases habsent
  rw [bytes?_of_stat hup.stat, bytes?_of_stat (stat_eq_ok.2 ⟨q, hplace, hsame.trans hentry⟩)]

/-- In a run that is not dry the report on a file tells whether its bytes have changed. -/
theorem counted (hs : s.IsPlain) (hfree : s.IsFree (temporaryPath p)) (hdry : settings.dryRun = false)
    (h : processFile settings s p = .ok (report, s')) : Counted (decide (s'.bytes? p ≠ s.bytes? p)) report := by
  have hprocessing := processing settings s p
  rw [h] at hprocessing
  cases hprocessing with
  | @unread why message hnone =>
      rw [decide_eq_false (not_not_intro rfl)]
      cases why <;> exact ⟨rfl, rfl, rfl⟩
  | @unchanged mode source up hup hrecord =>
      have hholds : Ending.unchanged.Holds settings s p _ s := ending_unchanged hup hrecord
      obtain ⟨hstatus, hsuccess, hupgraded, -⟩ := hholds
      rw [decide_eq_false (not_not_intro rfl)]
      refine ⟨rfl, ?_, ?_⟩
      · rw [hupgraded, hstatus]
        split <;> rfl
      · rw [hsuccess, hstatus]
        split <;> rfl
  | @stored mode source up s' backup writing hup hrecord hstoring =>
      cases hstoring with
      | dry hwasDry =>
          rw [hdry] at hwasDry
          cases hwasDry
      | @replaced _ s₁ _ hbacked =>
          rcases replace_outcome s₁ p up.content mode with hdone | ⟨reason, hfailed⟩
          · obtain ⟨hstatus, -, hupgraded, hwritten, -⟩ := ending_replaced hup hrecord hdry hbacked hfree hdone
            rw [decide_eq_true (bytes?_replaced hup hrecord hdry hbacked hfree hdone), hdone]
            exact ⟨hwritten, by rw [hupgraded, hstatus]; rfl, by rw [hstatus]; rfl⟩
          · obtain ⟨hstatus, -, hupgraded, hsuccess, hwritten, -⟩ :=
              ending_unwritten hup hrecord hdry hbacked hfree hfailed
            rw [decide_eq_false (not_not_intro (bytes?_unwritten hs hup hrecord hdry hbacked hfree hfailed)), hfailed]
            exact ⟨hwritten, by rw [hupgraded, hstatus]; rfl, by rw [hsuccess, hstatus]; rfl⟩

/-! ### Counters of a run -/

/-- The counters count what the reports add to them. -/
theorem counters (h : List.Forall₂ (fun p report => Counted (decide (s'.bytes? p ≠ s.bytes? p)) report) files reports) :
    (reports.map Report.outcome).countP Outcome.written = changedFiles s s' files ∧
      (reports.map Report.outcome).countP Outcome.upgraded =
        changedFiles s s' files + reports.countP (·.status = .writeError) ∧
      reports.length = changedFiles s s' files + (reports.map Report.outcome).countP (fun o => !o.success) +
        reports.countP fun r => r.status = .review ∨ r.status = .unchanged := by
  have hcons {α : Type} (f : α → Bool) (x : α) (xs : List α) : (x :: xs).countP f = xs.countP f + (f x).toNat := by
    rw [List.countP_cons]
    cases f x <;> rfl
  induction h with
  | nil => exact ⟨rfl, rfl, rfl⟩
  | @cons p report files reports hp _ ih =>
      obtain ⟨hwritten, hupgraded, honce⟩ := hp
      rw [changedFiles] at ih ⊢
      simp only [List.map_cons, hcons, List.length_cons, hwritten, hupgraded]
      omega

/-- Behind a run in a tree each file is as the call on it has left it. -/
theorem bytes?_afterCalls (settings : Settings) (hs : s.IsTree) (h : discover s target = .ok files) (hp : p ∈ files) :
    (afterCalls settings s files).bytes? p = (afterCall settings s p).bytes? p := by
  rcases discover_sits hs h with rfl | ⟨spots, hsits, hnodup⟩
  · rw [List.mem_singleton.1 hp]
    rfl
  · have happart := apart_of_sits hs.isPlain hsits hnodup
    have hagree := (happart.calls settings hs.isPlain fun p _ => .refl _ hs.isPlain).1 p hp
    have htarget := (happart.surrounds p hp).target
    have hkept := (afterCall_alike settings (.refl _ hs.isPlain) (happart.surrounds p hp)).kept'
    rw [bytes?, stat_alike hagree (htarget.mono hkept.sameDirectories), bytes?]

theorem reportOf_eq_ok : reportOf settings s p = .ok report ↔ ∃ s', processFile settings s p = .ok (report, s') := by
  rw [reportOf]
  cases processFile settings s p with
  | error e => exact iff_of_false (fun h => by cases h) (by rintro ⟨s', h⟩; cases h)
  | ok done =>
      constructor
      · rintro ⟨⟩
        exact ⟨done.2, rfl⟩
      · rintro ⟨s', ⟨⟩⟩
        rfl

/-- A run that gives reports gives those that its files would have had alone. -/
theorem run_files (hs : s.IsTree) (hfiles : discover s target = .ok files)
    (hrun : run settings s target = (.ok reports, s')) : s' = afterCalls settings s files ∧
      List.Forall₂ (fun p report => reportOf settings s p = .ok report) files reports := by
  have hindependent := (independent_of_discover settings hs hfiles (List.Perm.refl files)).1
  rw [run_of_discover settings hfiles] at hrun
  by_cases hall : ∀ p ∈ files, ∀ e, ¬Nameless settings s p e
  · obtain ⟨reports, hreports, halone⟩ := hindependent.processFiles_eq hall
    rw [hreports] at hrun
    cases hrun
    exact ⟨rfl, halone⟩
  · obtain ⟨before, p, after, e, -, -, -, hstop⟩ := hindependent.processFiles_stops hall
    rw [hstop] at hrun
    cases hrun

/-- What is written to disk is what has changed there; what is upgraded is that and what could not be written; and each
file has changed, is an error, or was left alone. -/
theorem summary_counts (hs : s.IsTree) (hnone : s.HasNoTemporaries) (hdry : settings.dryRun = false)
    (hrun : run settings s target = (.ok reports, s')) (timestamp : Text) : ∃ files, discover s target = .ok files ∧
      (Summary.ofReports timestamp reports).writtenToDisk = changedFiles s s' files ∧
      (Summary.ofReports timestamp reports).upgraded =
        changedFiles s s' files + reports.countP (·.status = .writeError) ∧
      (Summary.ofReports timestamp reports).totalFiles = changedFiles s s' files +
        (Summary.ofReports timestamp reports).errors +
          reports.countP fun r => r.status = .review ∨ r.status = .unchanged := by
  cases hfiles : discover s target with
  | error e =>
      rw [run, hfiles] at hrun
      cases hrun
  | ok files =>
      refine ⟨files, rfl, ?_⟩
      obtain ⟨rfl, hreports⟩ := run_files hs hfiles hrun
      have hcounted : List.Forall₂ (fun p report =>
          Counted (decide ((afterCalls settings s files).bytes? p ≠ s.bytes? p)) report) files reports := by
        refine ((List.forall₂_and_left (p := (· ∈ files)) _ _).2 ⟨fun _ => id, hreports⟩).imp ?_
        rintro p report ⟨hp, hreport⟩
        rw [bytes?_afterCalls settings hs hfiles hp]
        obtain ⟨s'', hdone⟩ := reportOf_eq_ok.1 hreport
        rw [afterCall, hdone]
        exact counted hs.isPlain (hnone.isFree p) hdry hdone
      obtain ⟨hwritten, hupgraded, htotal⟩ := counters hcounted
      simp only [Summary.ofReports, Summary.ofOutcomes, List.length_map]
      omega

/-- A file that cannot be parsed, one to upgrade, one with nothing to upgrade, and one to upgrade in a directory that
nothing can be written to. -/
def guardedStore : Store where
  entries :=
    [([], .directory 0o755), (["a.tf".toList], .file 0o644 (Utf8.encode "\x7d".toList)),
      (["b.tf".toList], .file 0o644 staleSource), (["c.tf".toList], .file 0o644 []), (["d".toList], .directory 0o555),
      (["d".toList, "e.tf".toList], .file 0o644 staleSource)]
  user := { home := [] }

theorem isTree_guardedStore : guardedStore.IsTree where
  distinct := by decide
  names := by decide
  links := by simp [guardedStore]

theorem hasNoTemporaries_guardedStore : guardedStore.HasNoTemporaries := by
  unfold Store.HasNoTemporaries
  decide +kernel

theorem discover_guardedStore : discover guardedStore ⟨false, []⟩ = .ok [⟨false, ["a.tf".toList]⟩,
    ⟨false, ["b.tf".toList]⟩, ⟨false, ["c.tf".toList]⟩, ⟨false, ["d".toList, "e.tf".toList]⟩] := by
  have hroot : guardedStore.list ⟨false, []⟩ = .ok [("a.tf".toList, .file 0o644 (Utf8.encode "\x7d".toList)),
      ("b.tf".toList, .file 0o644 staleSource), ("c.tf".toList, .file 0o644 []), ("d".toList, .directory 0o555)] :=
    isTree_guardedStore.isLawful.list_eq (d := []) (by decide +kernel) rfl (by decide) (by decide) (by decide +kernel)
  have hinner : guardedStore.list ⟨false, ["d".toList]⟩ = .ok [("e.tf".toList, .file 0o644 staleSource)] :=
    isTree_guardedStore.isLawful.list_eq (d := ["d".toList]) (by decide +kernel) rfl (by decide) (by decide)
      (by decide +kernel)
  have hstat : guardedStore.stat ⟨false, []⟩ = .ok (.directory 0o755) := by decide +kernel
  exact discover_entering (x := ("d".toList, .directory 0o555)) hstat hroot (by decide) hinner (by decide)
    (by decide)

theorem run_guardedStore : ∃ reports s', run {} guardedStore ⟨false, []⟩ = (.ok reports, s') ∧
    reports.map Report.status = [.parseError, .upgraded, .unchanged, .writeError] ∧
      reports.map Report.outcome = [⟨false, false, false, 0⟩, ⟨true, true, true, 0⟩, ⟨false, false, true, 0⟩,
        ⟨true, false, false, 0⟩] := by
  rw [run_of_discover {} discover_guardedStore]
  have hreports : (processFiles {} guardedStore [⟨false, ["a.tf".toList]⟩, ⟨false, ["b.tf".toList]⟩,
      ⟨false, ["c.tf".toList]⟩, ⟨false, ["d".toList, "e.tf".toList]⟩]).1.toOption.map
        (fun reports => (reports.map Report.status, reports.map Report.outcome)) =
      some ([.parseError, .upgraded, .unchanged, .writeError], [⟨false, false, false, 0⟩, ⟨true, true, true, 0⟩,
        ⟨false, false, true, 0⟩, ⟨true, false, false, 0⟩]) := by decide +kernel
  generalize processFiles {} guardedStore _ = result at hreports ⊢
  obtain ⟨e | reports, s'⟩ := result
  · cases hreports
  · obtain ⟨hstatus, houtcome⟩ := Prod.mk.inj (Option.some.inj hreports)
    exact ⟨reports, s', rfl, hstatus, houtcome⟩

/-- One file is written. The one that could not be counts as upgraded all the same, and as an error. -/
theorem summary_counts_guarded : ∃ reports s' files, run {} guardedStore ⟨false, []⟩ = (.ok reports, s') ∧
    discover guardedStore ⟨false, []⟩ = .ok files ∧ changedFiles guardedStore s' files = 1 ∧
      (Summary.ofReports [] reports).upgraded = changedFiles guardedStore s' files + 1 := by
  obtain ⟨reports, s', hrun, hstatus, houtcome⟩ := run_guardedStore
  obtain ⟨files, hfiles, hwritten, hupgraded, -⟩ :=
    summary_counts isTree_guardedStore hasNoTemporaries_guardedStore rfl hrun []
  rw [Summary.ofReports, houtcome] at hwritten
  refine ⟨reports, s', files, hrun, hfiles, Int.ofNat.inj hwritten.symm, hupgraded.trans ?_⟩
  have hunwritten : reports.countP (·.status = .writeError) = (reports.map Report.status).countP (· = .writeError) := by
    rw [List.countP_map]
    rfl
  rw [hunwritten, hstatus]
  rfl

/-- What is upgraded is not always written. -/
theorem upgraded_ne_written : guardedStore.IsTree ∧ guardedStore.HasNoTemporaries ∧ ∃ reports s',
    run {} guardedStore ⟨false, []⟩ = (.ok reports, s') ∧
      (Summary.ofReports [] reports).upgraded ≠ (Summary.ofReports [] reports).writtenToDisk := by
  obtain ⟨reports, s', hrun, -, houtcome⟩ := run_guardedStore
  refine ⟨isTree_guardedStore, hasNoTemporaries_guardedStore, reports, s', hrun, ?_⟩
  rw [Summary.ofReports, houtcome]
  decide

end JujuMigration
