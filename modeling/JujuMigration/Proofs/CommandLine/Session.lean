import JujuMigration.CommandLine.Session
import JujuMigration.Proofs.Console.Messages
import JujuMigration.Proofs.Run.Reports
/-! The command is a run that is shown. It ends with status 1 if and only if the files cannot be found, and then it has
changed nothing; and with status 0 if and only if there are none, or the run gives reports, what they advise can be
printed, and the report file that is asked for is written. Then the store is the one behind the run, with that file. -/

namespace JujuMigration.CommandLine

open Messages Store

/-- What the reports advise can be printed. -/
def CanShow (reports : List Report) : Prop := ∀ report ∈ reports, ∀ a ∈ report.view.advice, (warning a).IsShown

/-- Why the files cannot be found, as it is printed. -/
def discoveryLine (e : DiscoveryError) : Piece := line s!"[bold red]Error:[/bold red] {e.message}"

/-- What is said of a report file. -/
def writtenPanel (name : Text) : Piece := .panel ("Report written to ".toList ++ name)

/-- What is done behind a run: nothing, or its report file is written and the writing is shown. -/
inductive Concluded (o : Options) (timestamp : Text) (reports : List Report) (s : Store) : Store → Prop
  | silent (hreport : filled? o.report = none) : Concluded o timestamp reports s s
  | written {name : Text} {s' : Store} (hreport : filled? o.report = some name)
      (hwrite : s.write (Path.literal name)
        (Utf8.encode (ReportFile.ofRun reports (Summary.ofReports timestamp reports))) = .ok s')
      (hpanel : (writtenPanel name).IsShown) : Concluded o timestamp reports s s'

/-- How a session ends behind a run with these reports and this store: concluded, or with an error and at most the
report file written. -/
inductive Concludes (o : Options) (timestamp : Text) (reports : List Report) (s : Store) (x : Session) : Prop
  | concluded (h : Concluded o timestamp reports s x.store) (hending : x.ending = .status 0)
  | broken (hnone : ∀ t, ¬Concluded o timestamp reports s t) (hending : ∀ code, x.ending ≠ .status code)
      (hstore : x.store = s ∨ ∃ name content, filled? o.report = some name ∧
        s.write (Path.literal name) content = .ok x.store)

variable {o : Options} {timestamp : Text} {arguments : List Text} {s s' t : Store} {pieces : List Piece}
  {next : Session}
  {files : List Path} {reports done : List Report} {report : Report} {code : Nat}

/-! ### Printing -/

theorem printing_of_shown (s : Store) (next : Session) (h : ∀ p ∈ pieces, p.IsShown) :
    (printing pieces s next).ending = next.ending ∧ (printing pieces s next).store = next.store := by
  have hnone := printPieces_eq_none.2 h
  unfold printing
  split
  · exact ⟨rfl, rfl⟩
  · next hprint =>
      rw [hprint] at hnone
      cases hnone

theorem printing_of_not_shown (s : Store) (next : Session) (h : ¬∀ p ∈ pieces, p.IsShown) :
    (∃ e, (printing pieces s next).ending = .markup e) ∧ (printing pieces s next).store = s := by
  have hsome := mt printPieces_eq_none.1 h
  unfold printing
  split
  · next hprint =>
      rw [hprint] at hsome
      exact absurd rfl hsome
  · exact ⟨⟨_, rfl⟩, rfl⟩

/-- A report without an error shows its warnings. -/
theorem mem_fileReport {r : ReportView} {a : AdviceView} (herror : r.error = none) (ha : a ∈ r.advice) :
    warning a ∈ fileReport r := by
  have hmem : warning a ∈ r.advice.flatMap advice := List.mem_flatMap.2 ⟨a, ha, List.mem_cons_self⟩
  unfold fileReport
  rw [herror]
  simp only [filled?, Option.filter_none, List.mem_cons, List.mem_append]
  exact .inr (.inl (.inl (.inl (.inr hmem))))

/-- Of the pieces about a file only the warnings need not be printable. -/
theorem isShown_reportPieces :
    (∀ p ∈ reportPieces o report, p.IsShown) ↔ ∀ a ∈ report.view.advice, (warning a).IsShown := by
  unfold reportPieces
  rw [List.forall_mem_append]
  constructor
  · rintro ⟨hreport, -⟩ a ha
    refine hreport _ (mem_fileReport ?_ ha)
    cases report with
    | failed => cases ha
    | processed => rfl
  · intro h
    refine ⟨isShown_fileReport _ h, ?_⟩
    split
    · split
      · split
        · exact List.forall_mem_singleton.2 (isShown_difference _ _ _)
        · exact List.forall_mem_nil _
      · exact List.forall_mem_nil _
    · exact List.forall_mem_nil _

/-- Locations without an opening bracket can be told from the messages behind them. -/
theorem canShow_of_locations (h : ∀ report ∈ reports, ∀ a ∈ report.view.advice, '[' ∉ a.location) : CanShow reports :=
  fun report hreport a ha => isShown_warning a (h report hreport a ha)

theorem isShown_panel {name : Text} (h : Markup.IsPlain name) : (writtenPanel name).IsShown := by
  have hshows := passes_plain (isPlain_append (by decide : Markup.IsPlain "Report written to ".toList) h) [] .nil
  rw [List.append_nil] at hshows
  obtain ⟨shown, hrender⟩ := exists_render hshows
  rw [writtenPanel, Piece.IsShown, Piece.lines, hrender]
  rfl

/-! ### Files and reports -/

theorem of_processFiles_cons {settings : Settings} {p : Path} {s₁ : Store}
    (hp : processFile settings s p = .ok (report, s₁)) (h : processFiles settings s (p :: files) = (.ok reports, s')) :
    ∃ rest, processFiles settings s₁ files = (.ok rest, s') ∧ reports = report :: rest := by
  rw [processFiles, hp] at h
  dsimp only at h
  cases hrest : processFiles settings s₁ files with
  | mk result s₂ =>
      rw [hrest] at h
      cases result with
      | error e => cases h
      | ok rest =>
          cases h
          exact ⟨rest, rfl, rfl⟩

/-- Showing each report as soon as its file is done comes to what the run over the files comes to, or stops on the
way. -/
theorem processShowing_cases (o : Options) (next : List Report → Store → Session) (done : List Report) (s : Store)
    (files : List Path) :
    (∃ reports s', processFiles (settings o) s files = (.ok reports, s') ∧ CanShow reports ∧
      (processShowing o next done s files).ending = (next (done ++ reports) s').ending ∧
        (processShowing o next done s files).store = (next (done ++ reports) s').store) ∨
      (∀ reports s', processFiles (settings o) s files = (.ok reports, s') → ¬CanShow reports) ∧
        (∀ code, (processShowing o next done s files).ending ≠ .status code) ∧
          ∃ before after, files = before ++ after ∧
            (processShowing o next done s files).store = afterCalls (settings o) s before := by
  induction files generalizing done s with
  | nil => exact .inl ⟨[], s, rfl, List.forall_mem_nil _, by rw [List.append_nil]; rfl, by rw [List.append_nil]; rfl⟩
  | cons p files ih =>
      rw [processShowing]
      cases hp : processFile (settings o) s p with
      | error e =>
          refine .inr ⟨fun reports s' hrun => ?_, fun code h => (by cases h), [], p :: files, rfl, rfl⟩
          rw [processFiles, hp] at hrun
          cases hrun
      | ok result =>
          obtain ⟨report, s₁⟩ := result
          dsimp only
          have hcall : afterCall (settings o) s p = s₁ := by rw [afterCall, hp]
          by_cases hshown : ∀ q ∈ reportPieces o report, q.IsShown
          · obtain ⟨hending, hstore⟩ :=
              printing_of_shown s₁ (processShowing o next (done ++ [report]) s₁ files) hshown
            rw [hending, hstore]
            rcases ih (done ++ [report]) s₁ with ⟨reports, s', hrun, hall, hend, hst⟩ |
              ⟨hnone, hend, before, after, rfl, hst⟩
            · rw [List.append_assoc, List.singleton_append] at hend hst
              refine .inl ⟨report :: reports, s', ?_, ?_, hend, hst⟩
              · rw [processFiles, hp]
                dsimp only
                rw [hrun]
                rfl
              · exact List.forall_mem_cons.2 ⟨isShown_reportPieces.1 hshown, hall⟩
            · refine .inr ⟨fun reports s' hrun hall => ?_, hend, p :: before, after, rfl, ?_⟩
              · obtain ⟨rest, hrest, rfl⟩ := of_processFiles_cons hp hrun
                exact hnone rest s' hrest (List.forall_mem_cons.1 hall).2
              · rw [hst, afterCalls, afterCalls, List.foldl_cons, hcall]
          · obtain ⟨⟨e, hending⟩, hstore⟩ :=
              printing_of_not_shown s₁ (processShowing o next (done ++ [report]) s₁ files) hshown
            rw [hending, hstore]
            refine .inr ⟨fun reports s' hrun hall => ?_, fun code h => (by cases h), [p], files, rfl, hcall.symm⟩
            obtain ⟨rest, -, rfl⟩ := of_processFiles_cons hp hrun
            exact hshown (isShown_reportPieces.2 (List.forall_mem_cons.1 hall).1)

/-! ### The end of a run -/

theorem concludes_printing (h : ∀ p ∈ pieces, p.IsShown) (hnext : Concludes o timestamp reports s next) :
    Concludes o timestamp reports s (printing pieces s next) := by
  obtain ⟨hending, hstore⟩ := printing_of_shown s next h
  cases hnext with
  | concluded hdone hend => exact .concluded (by rwa [hstore]) (hending.trans hend)
  | broken hnone hend hst => exact .broken hnone (by rwa [hending]) (by rwa [hstore])

theorem concludes (o : Options) (timestamp : Text) (reports : List Report) (s : Store) :
    Concludes o timestamp reports s (conclude o timestamp reports s) := by
  unfold conclude
  refine concludes_printing (isShown_summary timestamp reports) ?_
  split
  · next hreport => exact .concluded (.silent hreport) rfl
  · next name hreport =>
      -- Another store can be the one behind a conclusion only if it is the one with this report file.
      have hwritten {t : Store} (ht : Concluded o timestamp reports s t) : (writtenPanel name).IsShown ∧
          s.write (Path.literal name)
            (Utf8.encode (ReportFile.ofRun reports (Summary.ofReports timestamp reports))) = .ok t := by
        cases ht with
        | silent hsilent => cases hreport.symm.trans hsilent
        | written hreport' hwrite hpanel =>
            obtain rfl := Option.some.inj (hreport.symm.trans hreport')
            exact ⟨hpanel, hwrite⟩
      split
      · next r hwrite =>
          refine .broken (fun t ht => ?_) nofun (.inl rfl)
          cases hwrite.symm.trans (hwritten ht).2
      · next s' hwrite =>
          by_cases hpanel : ∀ p ∈ [writtenPanel name], p.IsShown
          · obtain ⟨hending, hstore⟩ := printing_of_shown s' ⟨.status 0, [], s'⟩ hpanel
            refine .concluded ?_ hending
            rw [writtenPanel] at hstore
            rw [hstore]
            exact .written hreport hwrite (List.forall_mem_singleton.1 hpanel)
          · obtain ⟨⟨e, hending⟩, hstore⟩ := printing_of_not_shown s' ⟨.status 0, [], s'⟩ hpanel
            refine .broken (fun t ht => hpanel (List.forall_mem_singleton.2 (hwritten ht).1)) ?_ (.inr ?_)
            · rw [writtenPanel] at hending
              rw [hending]
              nofun
            · rw [writtenPanel] at hstore
              rw [hstore]
              exact ⟨name, _, hreport, hwrite⟩

theorem store_of_processFiles {settings : Settings} (h : processFiles settings s files = (.ok reports, s')) :
    s' = afterCalls settings s files := by
  induction files generalizing s reports with
  | nil =>
      cases h
      rfl
  | cons p files ih =>
      cases hp : processFile settings s p with
      | error e =>
          rw [processFiles, hp] at h
          cases h
      | ok result =>
          obtain ⟨rest, hrest, -⟩ := of_processFiles_cons hp h
          rw [ih hrest, afterCalls, afterCalls, List.foldl_cons, afterCall, hp]

theorem Concluded.unique (h : Concluded o timestamp reports s t) (h' : Concluded o timestamp reports s s') :
    t = s' := by
  cases h with
  | silent hreport =>
      cases h' with
      | silent => rfl
      | written hreport' => cases hreport.symm.trans hreport'
  | written hreport hwrite =>
      cases h' with
      | silent hreport' => cases hreport.symm.trans hreport'
      | written hreport' hwrite' =>
          obtain rfl := Option.some.inj (hreport.symm.trans hreport')
          exact Except.ok.inj (hwrite.symm.trans hwrite')

theorem Concluded.store_eq (h : Concluded o timestamp reports s t) : t = s ∨ ∃ name content,
    filled? o.report = some name ∧ s.write (Path.literal name) content = .ok t := by
  cases h with
  | silent => exact .inl rfl
  | written hreport hwrite => exact .inr ⟨_, _, hreport, hwrite⟩

/-- What the command comes to where the files cannot be found. -/
theorem runOptions_of_error {e : DiscoveryError} (h : discover s (Path.ofText o.path) = .error e) :
    (runOptions o timestamp s).store = s ∧ ∀ code, (runOptions o timestamp s).ending = .status code ↔
      code = 1 ∧ e.isMalformed = false ∧ (discoveryLine e).IsShown := by
  rw [runOptions, h]
  dsimp only
  cases hmalformed : e.isMalformed with
  | true => exact ⟨rfl, fun code => iff_of_false nofun nofun⟩
  | false =>
      rw [if_neg Bool.false_ne_true]
      by_cases hshown : ∀ p ∈ [discoveryLine e], p.IsShown
      · obtain ⟨hending, hstore⟩ := printing_of_shown s ⟨.status 1, [], s⟩ hshown
        rw [discoveryLine] at hending hstore
        refine ⟨hstore, fun code => ?_⟩
        rw [hending]
        exact ⟨fun h => ⟨(Ending.status.inj h).symm, rfl, List.forall_mem_singleton.1 hshown⟩, fun h => by rw [h.1]⟩
      · obtain ⟨⟨error, hending⟩, hstore⟩ := printing_of_not_shown s ⟨.status 1, [], s⟩ hshown
        rw [discoveryLine] at hending hstore
        refine ⟨hstore, fun code => ?_⟩
        rw [hending]
        exact iff_of_false nofun fun h => hshown (List.forall_mem_singleton.2 h.2.2)

/-- What it comes to where there are none. -/
theorem runOptions_of_none (o : Options) (timestamp : Text) (h : discover s (Path.ofText o.path) = .ok []) :
    (runOptions o timestamp s).ending = .status 0 ∧ (runOptions o timestamp s).store = s := by
  rw [runOptions, h]
  exact printing_of_shown s ⟨.status 0, [], s⟩
    (List.forall_mem_singleton.2 (isShown_passing (passes_plain (by decide))))

/-- What it comes to where there are some. -/
theorem runOptions_of_files (timestamp : Text) (hfiles : discover s (Path.ofText o.path) = .ok files)
    (hne : files ≠ []) :
    (∀ code t, (runOptions o timestamp s).ending = .status code ∧ (runOptions o timestamp s).store = t ↔ code = 0 ∧
      ∃ reports s', processFiles (settings o) s files = (.ok reports, s') ∧ CanShow reports ∧
        Concluded o timestamp reports s' t) ∧
      ∃ before after, files = before ++ after ∧
        ((runOptions o timestamp s).store = afterCalls (settings o) s before ∨
          after = [] ∧ ∃ name content, filled? o.report = some name ∧
            (afterCalls (settings o) s before).write (Path.literal name) content =
              .ok (runOptions o timestamp s).store) := by
  obtain ⟨hending, hstore⟩ := printing_of_shown s (processShowing o (conclude o timestamp) [] s files)
    (isShown_discovery (files.map Path.toText))
  have hsession : runOptions o timestamp s = printing (discovery (files.map Path.toText)) s
      (processShowing o (conclude o timestamp) [] s files) := by
    rw [runOptions, hfiles]
    cases files with
    | nil => exact absurd rfl hne
    | cons => rfl
  rw [hsession, hending, hstore]
  rcases processShowing_cases o (conclude o timestamp) [] s files with
    ⟨reports, s', hrun, hall, hend, hst⟩ | ⟨hnone, hend, before, after, hsplit, hst⟩
  · rw [hend, hst, List.nil_append]
    have honly {reports' : List Report} {s'' : Store}
        (h : processFiles (settings o) s files = (.ok reports', s'')) : reports = reports' ∧ s' = s'' := by
      obtain ⟨hreports, hstores⟩ := Prod.mk.inj (hrun.symm.trans h)
      exact ⟨Except.ok.inj hreports, hstores⟩
    have hbehind := store_of_processFiles hrun
    cases concludes o timestamp reports s' with
    | concluded hdone hstatus =>
        refine ⟨fun code t => ⟨?_, ?_⟩, ?_⟩
        · rintro ⟨hcode, rfl⟩
          exact ⟨Ending.status.inj (hcode.symm.trans hstatus), reports, s', hrun, hall, hdone⟩
        · rintro ⟨rfl, reports', s'', hrun', -, hdone'⟩
          obtain ⟨rfl, rfl⟩ := honly hrun'
          exact ⟨hstatus, hdone.unique hdone'⟩
        · refine ⟨files, [], (List.append_nil files).symm, ?_⟩
          rw [← hbehind]
          exact hdone.store_eq.imp_right fun h => ⟨rfl, h⟩
    | broken hnone hnot hstored =>
        refine ⟨fun code t => iff_of_false (fun h => hnot code h.1) ?_, files, [], (List.append_nil files).symm, ?_⟩
        · rintro ⟨-, reports', s'', hrun', -, hdone⟩
          obtain ⟨rfl, rfl⟩ := honly hrun'
          exact hnone t hdone
        · rw [← hbehind]
          exact hstored.imp_right fun h => ⟨rfl, h⟩
  · rw [hst]
    refine ⟨fun code t => iff_of_false (fun h => hend code h.1) ?_, before, after, hsplit, .inl rfl⟩
    rintro ⟨-, reports, s', hrun, hall, -⟩
    exact hnone reports s' hrun hall

/-- The command is a run. Where the files cannot be found it ends with status 1, if that can be said, and nothing has
changed. Where they are found it ends with status 0, and no other, if and only if there are none, or the run gives
reports that can be shown and is concluded. Otherwise files have been processed up to one of them, and at most a
report file has been written behind them all. -/
theorem execute_is_run (harguments : parse arguments = .run o) (timestamp : Text) (s : Store) :
    (∀ e, discover s (Path.ofText o.path) = .error e → (execute timestamp arguments s).store = s ∧
      ∀ code, (execute timestamp arguments s).ending = .status code ↔
        code = 1 ∧ e.isMalformed = false ∧ (discoveryLine e).IsShown) ∧
    ∀ files, discover s (Path.ofText o.path) = .ok files →
      (∀ code t, (execute timestamp arguments s).ending = .status code ∧ (execute timestamp arguments s).store = t ↔
        code = 0 ∧ (files = [] ∧ t = s ∨ files ≠ [] ∧ ∃ reports s',
          run (settings o) s (Path.ofText o.path) = (.ok reports, s') ∧ CanShow reports ∧
            Concluded o timestamp reports s' t)) ∧
      ∃ before after, files = before ++ after ∧
        ((execute timestamp arguments s).store = afterCalls (settings o) s before ∨
          after = [] ∧ ∃ name content, filled? o.report = some name ∧
            (afterCalls (settings o) s before).write (Path.literal name) content =
              .ok (execute timestamp arguments s).store) := by
  have hexecute : execute timestamp arguments s = runOptions o timestamp s := by rw [execute, harguments]
  rw [hexecute]
  refine ⟨fun e he => runOptions_of_error he, fun files hfiles => ?_⟩
  by_cases hne : files = []
  · subst hne
    obtain ⟨hending, hstore⟩ := runOptions_of_none o timestamp hfiles
    rw [hending, hstore]
    refine ⟨fun code t => ⟨?_, ?_⟩, [], [], rfl, .inl rfl⟩
    · rintro ⟨hcode, rfl⟩
      exact ⟨(Ending.status.inj hcode).symm, .inl ⟨rfl, rfl⟩⟩
    · rintro ⟨rfl, ⟨-, rfl⟩ | ⟨hne, -⟩⟩
      · exact ⟨rfl, rfl⟩
      · exact absurd rfl hne
  · obtain ⟨hends, hstored⟩ := runOptions_of_files timestamp hfiles hne
    refine ⟨fun code t => (hends code t).trans (and_congr_right fun _ => ?_), hstored⟩
    simp only [hne, false_and, false_or, ne_eq, not_false_eq_true, true_and, run_eq_ok hfiles]

/-- A variable that is named as a model is. -/
def variableStore : Store where
  entries :=
    [([], .directory 0o755), (["a.tf".toList], .file 0o644 (Utf8.encode "variable \"model\" \x7b\x7d\n".toList))]
  user := { home := [] }

def reportArguments : List Text := ["a.tf", "--report", "r.yaml"].map String.toList

/-- The run has something to advise, and the report file is written behind it. -/
theorem execute_is_run_reported : ∃ reports s', run {} variableStore (Path.ofText "a.tf".toList) = (.ok reports, s') ∧
    reports.map Report.status = [.review] ∧ (execute [] reportArguments variableStore).ending = .status 0 ∧
      s'.write (Path.literal "r.yaml".toList)
        (Utf8.encode (ReportFile.ofRun reports (Summary.ofReports [] reports))) =
          .ok (execute [] reportArguments variableStore).store := by
  have harguments : parse reportArguments = .run { path := "a.tf".toList, report := some "r.yaml".toList } := by
    decide +kernel
  have hdiscover : discover variableStore (Path.ofText "a.tf".toList) = .ok [Path.ofText "a.tf".toList] := by
    decide +kernel
  have hfacts : (processFiles {} variableStore [Path.ofText "a.tf".toList]).1.toOption.map (fun reports =>
      (reports.map Report.status, reports.all fun report => report.view.advice.all fun a => '[' ∉ a.location,
        ((processFiles {} variableStore [Path.ofText "a.tf".toList]).2.write (Path.literal "r.yaml".toList)
          (Utf8.encode (ReportFile.ofRun reports (Summary.ofReports [] reports)))).isOk)) =
      some ([.review], true, true) := by
    decide +kernel
  generalize hprocess : processFiles {} variableStore [Path.ofText "a.tf".toList] = done at hfacts
  obtain ⟨result, s'⟩ := done
  cases result with
  | error e => cases hfacts
  | ok reports =>
      obtain ⟨hstatus, hfacts⟩ := Prod.mk.inj (Option.some.inj hfacts)
      obtain ⟨hlocations, hwrite⟩ := Prod.mk.inj hfacts
      simp only [List.all_eq_true, decide_eq_true_eq] at hlocations
      have hrun : run {} variableStore (Path.ofText "a.tf".toList) = (.ok reports, s') :=
        (run_eq_ok hdiscover).2 hprocess
      cases hwritten : s'.write (Path.literal "r.yaml".toList)
          (Utf8.encode (ReportFile.ofRun reports (Summary.ofReports [] reports))) with
      | error r =>
          rw [hwritten] at hwrite
          cases hwrite
      | ok t =>
          obtain ⟨-, hfiles⟩ := execute_is_run harguments [] variableStore
          obtain ⟨hending, hstore⟩ :=
            ((hfiles _ hdiscover).1 0 t).2 ⟨rfl, .inr ⟨List.cons_ne_nil _ _, reports, s', hrun,
              canShow_of_locations hlocations, .written rfl hwritten (isShown_panel (by decide))⟩⟩
          exact ⟨reports, s', hrun, hstatus, hending, by rw [hstore, hwritten]⟩

/-- A directory with nothing in it. -/
def emptyStore : Store where
  entries := [([], .directory 0o755), (["d".toList], .directory 0o755)]
  user := { home := [] }

/-- Where there are no files the report file that is asked for is not written, and nothing is said of it. -/
theorem execute_writes_no_report :
    parse (["d", "--report", "r.yaml"].map String.toList) =
        .run { path := "d".toList, report := some "r.yaml".toList } ∧
      (execute [] (["d", "--report", "r.yaml"].map String.toList) emptyStore).ending = .status 0 ∧
      Store.entry? (execute [] (["d", "--report", "r.yaml"].map String.toList) emptyStore).store ["r.yaml".toList] =
          none := by
  have harguments : parse (["d", "--report", "r.yaml"].map String.toList) =
      .run { path := "d".toList, report := some "r.yaml".toList } := by decide +kernel
  have hdiscover : discover emptyStore (Path.ofText "d".toList) = .ok [] := by decide +kernel
  obtain ⟨hending, hstore⟩ := runOptions_of_none { path := "d".toList, report := some "r.yaml".toList } [] hdiscover
  have hexecute : execute [] (["d", "--report", "r.yaml"].map String.toList) emptyStore =
      runOptions { path := "d".toList, report := some "r.yaml".toList } [] emptyStore := by
    rw [execute, harguments]
  rw [hexecute, hending, hstore]
  exact ⟨harguments, rfl, by decide⟩

end JujuMigration.CommandLine
