import JujuMigration.Proofs.CommandLine.Session
import JujuMigration.Proofs.Run.Order
/-! Where files are listed: on the screen, where they are announced, reported on one after the other and counted in a
table, and in the report file. Every list has them in the order in which they are found. -/

namespace JujuMigration

open Store

/-- The file that an item of a report file is about. -/
def Yaml.filePath? : Yaml → Option Text
  | .map ((key, .text path) :: _) => if key = "file_path".toList then some path else none
  | _ => none

theorem Report.filePath?_yaml (r : Report) : r.yaml.filePath? = some r.path.toText := by
  cases r <;> rfl

namespace CommandLine

open Messages

variable {o : Options} {timestamp : Text} {s : Store} {pieces behind : List Piece} {next : Session} {files : List Path}
  {reports : List Report}

theorem printPieces_append (pieces behind : List Piece) : printPieces (pieces ++ behind) =
    match printPieces pieces with
    | (text, none) => (text ++ (printPieces behind).1, (printPieces behind).2)
    | (text, some e) => (text, some e) := by
  induction pieces with
  | nil => rfl
  | cons p pieces ih =>
      rw [List.cons_append, printPieces, printPieces]
      cases p.lines with
      | error e => rfl
      | ok ls =>
          rw [ih]
          rcases printPieces pieces with ⟨text, none | e⟩
          · simp only [List.append_assoc]
          · rfl

theorem output_printing (h : next.output = (printPieces behind).1) :
    (printing pieces s next).output = (printPieces (pieces ++ behind)).1 := by
  rw [printing, printPieces_append]
  rcases printPieces pieces with ⟨text, none | e⟩
  · exact congrArg (text ++ ·) h
  · rfl

/-- What is printed behind all the reports: the summary, with a row for each, and that their file was written, if it
was. -/
def IsEnd (timestamp : Text) (reports : List Report) (pieces : List Piece) : Prop :=
  ∃ behind, pieces = summary (reports.map Report.view) (Summary.ofReports timestamp reports) ++ behind ∧
    (behind = [] ∨ ∃ name, behind = [writtenPanel name])

/-- What is printed of files behind the reports that are done: reports on them in the same order as far as they go, and
behind the last of them the end. -/
def FollowFiles (o : Options) (timestamp : Text) (done : List Report) (files : List Path) (pieces : List Piece) :
    Prop :=
  ∃ reports behind, pieces = reports.flatMap (reportPieces o) ++ behind ∧ reports.map Report.path <+: files ∧
    (behind = [] ∨ reports.map Report.path = files ∧ IsEnd timestamp (done ++ reports) behind)

theorem output_conclude (o : Options) (timestamp : Text) (reports : List Report) (s : Store) :
    ∃ pieces, IsEnd timestamp reports pieces ∧ (conclude o timestamp reports s).output = (printPieces pieces).1 := by
  unfold conclude
  dsimp only
  split
  · exact ⟨_, ⟨[], rfl, .inl rfl⟩, output_printing rfl⟩
  · next name _ =>
      split
      · exact ⟨_, ⟨[], rfl, .inl rfl⟩, output_printing rfl⟩
      · exact ⟨_, ⟨[writtenPanel name], rfl, .inr ⟨name, rfl⟩⟩, output_printing (output_printing rfl)⟩

theorem output_processShowing (o : Options) (timestamp : Text) (done : List Report) (s : Store) (files : List Path) :
    ∃ pieces, FollowFiles o timestamp done files pieces ∧
      (processShowing o (conclude o timestamp) done s files).output = (printPieces pieces).1 := by
  induction files generalizing done s with
  | nil =>
      obtain ⟨pieces, hend, houtput⟩ := output_conclude o timestamp done s
      refine ⟨pieces, ⟨[], pieces, rfl, List.nil_prefix, .inr ⟨rfl, ?_⟩⟩, houtput⟩
      rwa [List.append_nil]
  | cons p files ih =>
      rw [processShowing]
      cases hp : processFile (settings o) s p with
      | error e => exact ⟨[], ⟨[], [], rfl, List.nil_prefix, .inl rfl⟩, rfl⟩
      | ok result =>
          obtain ⟨report, s'⟩ := result
          obtain ⟨_, ⟨reports, behind, rfl, hpaths, hbehind⟩, houtput⟩ := ih (done ++ [report]) s'
          have hpath := path_of_processFile hp
          refine ⟨_, ⟨report :: reports, behind, ?_, ?_, ?_⟩, output_printing houtput⟩
          · rw [List.flatMap_cons, List.append_assoc]
          · rw [List.map_cons, hpath]
            exact (List.prefix_cons_inj p).2 hpaths
          · rcases hbehind with rfl | ⟨hall, hend⟩
            · exact .inl rfl
            · rw [List.append_assoc] at hend
              exact .inr ⟨by rw [List.map_cons, hpath, hall], hend⟩

/-- What is printed lists the files in their order. -/
def ListsFiles (o : Options) (timestamp : Text) (files : List Path) (output : Text) : Prop :=
  ∃ pieces, FollowFiles o timestamp [] files pieces ∧
    output = (printPieces (discovery (files.map Path.toText) ++ pieces)).1

theorem listsFiles_runOptions (timestamp : Text) (h : discover s (Path.ofText o.path) = .ok files) (hne : files ≠ []) :
    ListsFiles o timestamp files (runOptions o timestamp s).output := by
  obtain ⟨pieces, hpieces, houtput⟩ := output_processShowing o timestamp [] s files
  refine ⟨pieces, hpieces, ?_⟩
  rw [runOptions, h]
  cases files with
  | nil => exact absurd rfl hne
  | cons => exact output_printing houtput

end CommandLine

open CommandLine in
/-- The files found below a directory are in the order of a walk: that of their paths if and only if no file has a name
behind that of a directory beside it below which a file is found. Reports, report files and the screen list them in the
order in which they are found, and that is the same in whatever order the store lists its entries. -/
theorem discover_in_order {s : Store} {target : Path} {files : List Path} {mode : FileMode} (hs : s.IsLawful)
    (hdirectory : s.stat target = .ok (.directory mode)) (h : discover s target = .ok files) :
    (∃ names : List (List Text), files = names.map target.below ∧ names.Pairwise WalksBefore ∧
      (files.Pairwise (fun p q => p.parts < q.parts) ↔ ∀ above name sub rest, above ++ [name] ∈ names →
        above ++ sub :: rest ∈ names → rest ≠ [] → name ≤ sub)) ∧
      ∀ s', SameEntries s s' → discover s' target = .ok files ∧
        (∀ settings reports t, run settings s' target = (.ok reports, t) → reports.map Report.path = files ∧
          ∀ summary : Summary, ∃ items, ReportFile.ofRun reports summary =
            ReportFile.document summary.yaml (.list items) ∧ items.map Yaml.filePath? = files.map (some ·.toText)) ∧
        ∀ o arguments timestamp, parse arguments = .run o → Path.ofText o.path = target → files ≠ [] →
          ListsFiles o timestamp files (execute timestamp arguments s').output := by
  refine ⟨exists_names_of_discover hs hdirectory h, fun s' hsame => ?_⟩
  have hfound : discover s' target = .ok files := (hsame.discover_eq hs target).trans h
  refine ⟨hfound, fun settings reports t hrun => ?_, fun o arguments timestamp harguments htarget hne => ?_⟩
  · have hpaths := paths_of_run hfound hrun
    refine ⟨hpaths, fun summary => ⟨reports.map Report.yaml, rfl, ?_⟩⟩
    rw [← hpaths, List.map_map, List.map_map]
    exact List.map_congr_left fun r _ => r.filePath?_yaml
  · rw [execute, harguments]
    rw [← htarget] at hfound
    exact listsFiles_runOptions timestamp hfound hne

/-- A file, and a directory with a file whose name is in front of the name of the first. -/
def besideStore : Store where
  entries := [([], .directory 0o755), (["a".toList], .directory 0o755), (["a".toList, "x.tf".toList], .file 0o644 []),
    (["b.tf".toList], .file 0o644 [])]
  user := { home := [] }

/-- Its files, in the order in which they are found. -/
def besideFiles : List Path := [⟨false, ["b.tf".toList]⟩, ⟨false, ["a".toList, "x.tf".toList]⟩]

theorem isLawful_besideStore : besideStore.IsLawful where
  distinct := by decide
  names := by decide

theorem discover_besideStore : discover besideStore ⟨false, []⟩ = .ok besideFiles := by
  have hroot : besideStore.list ⟨false, []⟩ = .ok [("a".toList, .directory 0o755), ("b.tf".toList, .file 0o644 [])] :=
    isLawful_besideStore.list_eq (d := []) (by decide +kernel) rfl (by decide) (by decide) (by decide)
  have hinner : besideStore.list ⟨false, ["a".toList]⟩ = .ok [("x.tf".toList, .file 0o644 [])] :=
    isLawful_besideStore.list_eq (d := ["a".toList]) (by decide +kernel) rfl (by decide) (by decide) (by decide)
  have hstat : besideStore.stat ⟨false, []⟩ = .ok (.directory 0o755) := by decide +kernel
  exact discover_entering (x := ("a".toList, .directory 0o755)) hstat hroot (by decide) hinner (by decide)
    (by decide)

open CommandLine in
theorem discover_in_order_beside :
    let reversed := { besideStore with entries := besideStore.entries.reverse }
    ¬besideFiles.Pairwise (fun p q : Path => p.parts < q.parts) ∧ discover reversed ⟨false, []⟩ = .ok besideFiles ∧
      (∃ reports t, run {} reversed ⟨false, []⟩ = (.ok reports, t) ∧ reports.map Report.path = besideFiles) ∧
      ListsFiles { path := ".".toList } [] besideFiles (execute [] [".".toList] reversed).output := by
  intro reversed
  have hsame : SameEntries besideStore reversed := ⟨List.reverse_perm _, rfl⟩
  have hroot : besideStore.stat ⟨false, []⟩ = .ok (.directory 0o755) := by decide +kernel
  obtain ⟨⟨names, hfiles, -, hsorted⟩, hlisted⟩ := discover_in_order isLawful_besideStore hroot discover_besideStore
  obtain ⟨hfound, hreports, hscreen⟩ := hlisted reversed hsame
  refine ⟨fun hpaths => ?_, hfound, ?_, hscreen _ _ _ (by decide +kernel) (by decide +kernel) (by decide)⟩
  · have hnames : names = [["b.tf".toList], ["a".toList, "x.tf".toList]] :=
      List.map_injective_iff.2 (Path.below_injective _) hfiles.symm
    have hle := hsorted.1 hpaths [] "b.tf".toList "a".toList ["x.tf".toList] (by rw [hnames]; decide)
      (by rw [hnames]; decide) (by decide)
    exact absurd hle (by decide)
  · have hnamed : AllNamed {} reversed besideFiles := allNamed_of_settings (.inl rfl)
    obtain ⟨reports, hdone, -⟩ := processFiles_of_allNamed hnamed
    have hrun := (run_eq_ok hfound).2 hdone
    exact ⟨reports, _, hrun, (hreports _ _ _ hrun).1⟩

theorem discover_out_of_order : ∃ files, discover besideStore ⟨false, []⟩ = .ok files ∧
    ¬files.Pairwise fun p q => p.parts < q.parts :=
  ⟨besideFiles, discover_besideStore, by decide⟩

end JujuMigration
