import JujuMigration.Console.Messages
import JujuMigration.Proofs.Console.Markup
/-! Which messages of a run can be printed. All of them can but the first line of a piece of advice, where the location
and the message are escaped each by itself. -/

namespace JujuMigration

open Markup

/-- The piece is printed, rather than in error. -/
def Piece.IsShown (p : Piece) : Prop := p.lines.isOk = true

namespace Messages

/-- The first line of a piece of advice. -/
def warning (a : AdviceView) : Piece :=
  line s!"  [bold yellow]⚠️  WARNING:[/bold yellow] {plain a.location} - {plain a.message}"

variable {t front style middle back : Text} {p : Piece}

/-! ### Lines -/

theorem exists_render (h : Shows [] t) : ∃ shown, render t = .ok shown := by
  have hshown := h [] 0
  rw [← render] at hshown
  cases hrender : render t with
  | error e =>
      rw [hrender] at hshown
      cases hshown
  | ok shown => exact ⟨shown, rfl⟩

theorem isShown_line (h : Shows [] t) : (Piece.line t).IsShown := by
  obtain ⟨shown, hrender⟩ := exists_render h
  rw [Piece.IsShown, Piece.lines, hrender]
  rfl

theorem isPlain_append {t' : Text} (h : IsPlain t) (h' : IsPlain t') : IsPlain (t ++ t') := fun c hc =>
  (List.mem_append.1 hc).elim (h c) (h' c)

theorem isPlain_repr (n : Nat) : IsPlain n.repr.toList := by
  intro c hc
  rw [Nat.toList_repr] at hc
  constructor <;> (rintro rfl; cases Nat.isDigit_of_mem_toDigits (by decide) (by decide) hc)

theorem isPlain_int (n : Int) : IsPlain n.repr.toList := by
  cases n with
  | ofNat n => exact isPlain_repr n
  | negSucc n =>
      rw [Int.repr, String.toList_append]
      exact isPlain_append (by decide) (isPlain_repr _)

/-- A text that can be shown in front of whatever can be shown. -/
def Passes (t : Text) : Prop := ∀ s, Shows [] s → Shows [] (t ++ s)

theorem passes_plain (h : IsPlain t) : Passes t := fun _ hs => .append h hs

theorem Passes.append {t' : Text} (h : Passes t) (h' : Passes t') : Passes (t ++ t') := fun s hs => by
  rw [List.append_assoc]
  exact h _ (h' s hs)

/-- A plain text, one in a style, and another plain text. -/
theorem passes_styled (front style middle back : Text) (hstyle : IsStyle style)
    (hplain : IsPlain (front ++ middle ++ back)) :
    Passes (front ++ '[' :: (style ++ ']' :: (middle ++ '[' :: ('/' :: style ++ ']' :: back)))) := by
  intro s hs
  have hback : IsPlain back := fun c hc => hplain c (List.mem_append_right _ hc)
  have hmiddle : IsPlain middle := fun c hc => hplain c (List.mem_append_left _ (List.mem_append_right _ hc))
  have hfront : IsPlain front := fun c hc => hplain c (List.mem_append_left _ (List.mem_append_left _ hc))
  simpa using Shows.append hfront (.styled hstyle hmiddle (.append hback hs))

theorem isShown_passing {s : String} (h : Passes s.toList) : (line s).IsShown := by
  have hshows := h [] .nil
  rw [List.append_nil] at hshows
  exact isShown_line hshows

theorem isShown_styled {s : String} (front style middle : Text)
    (heq : s.toList = front ++ '[' :: (style ++ ']' :: (middle ++ '[' :: ('/' :: style ++ [']']))))
    (hstyle : IsStyle style) (hplain : IsPlain (front ++ middle)) : (line s).IsShown := by
  refine isShown_passing ?_
  rw [heq]
  exact passes_styled front style middle [] hstyle (by rwa [List.append_nil])

theorem isShown_escaped {s : String} {e : Text} (h : Passes t) (heq : s.toList = t ++ escape e) : (line s).IsShown := by
  rw [line, heq]
  exact isShown_line (h _ (shows_escape e))

/-! ### Messages -/

theorem isShown_discovery (files : List Text) : ∀ p ∈ discovery files, p.IsShown := by
  have hcount : Passes s!"Found {files.length} Terraform files to process:".toList := by
    simp only [toString, String.toList_append]
    exact passes_plain (isPlain_append (isPlain_append (by decide) (isPlain_repr _)) (by decide))
  simp only [discovery, List.cons_append, List.forall_mem_cons, List.forall_mem_append, List.forall_mem_map]
  refine ⟨isShown_passing hcount, fun f hf => ?_, isShown_passing (passes_plain (by decide)), List.forall_mem_nil _⟩
  refine isShown_escaped (passes_plain (t := "  - ".toList) (by decide)) (e := f) ?_
  simp only [toString, plain, String.toList_append, String.toList_ofList]

/-- A word about a failure, and the reason. -/
theorem isShown_failure (e : Text) : (line s!"  [bold red]Error transforming file:[/bold red] {plain e}").IsShown ∧
    (line s!"  [bold red]Error writing file:[/bold red] {plain e}").IsShown := by
  have hstyle : IsStyle "bold red".toList := by decide +kernel
  constructor
  · refine isShown_escaped (passes_styled "  ".toList _ "Error transforming file:".toList " ".toList hstyle (by decide))
      (e := e) ?_
    simp only [toString, plain, String.toList_append, String.toList_ofList]
    rfl
  · refine isShown_escaped (passes_styled "  ".toList _ "Error writing file:".toList " ".toList hstyle (by decide))
      (e := e) ?_
    simp only [toString, plain, String.toList_append, String.toList_ofList]
    rfl

theorem isShown_writing (r : ReportView) : ∀ p ∈ writing r, p.IsShown := by
  unfold writing
  split
  · exact List.forall_mem_singleton.2 (isShown_failure _).2
  split
  · exact List.forall_mem_singleton.2
      (isShown_styled "  ".toList "green".toList "✓ File updated successfully".toList (by decide +kernel)
        (by decide +kernel) (by decide +kernel))
  split
  · exact List.forall_mem_singleton.2
      (isShown_styled "  ".toList "cyan".toList "• Dry run: file left unchanged".toList (by decide +kernel)
        (by decide +kernel) (by decide +kernel))
  · exact List.forall_mem_nil _

/-- Of the pieces of a file's report only warnings need not be printable. -/
theorem isShown_fileReport (r : ReportView) (h : ∀ a ∈ r.advice, (warning a).IsShown) :
    ∀ p ∈ fileReport r, p.IsShown := by
  have hpath : (line s!"Processing: {plain r.path}").IsShown := by
    refine isShown_escaped (passes_plain (t := "Processing: ".toList) (by decide)) (e := r.path) ?_
    simp only [toString, plain, String.toList_append, String.toList_ofList]
  have hchange (c : Text) : (line s!"  [green]✓[/green] {plain c}").IsShown := by
    refine isShown_escaped (passes_styled "  ".toList "green".toList "✓".toList " ".toList (by decide +kernel)
      (by decide)) (e := c) ?_
    simp only [toString, plain, String.toList_append, String.toList_ofList]
    rfl
  have hadvice (a : AdviceView) (ha : a ∈ r.advice) : ∀ p ∈ advice a, p.IsShown := by
    refine List.forall_mem_cons.2 ⟨h a ha, fun p hp => ?_⟩
    obtain ⟨d, -, rfl⟩ := Option.map_eq_some_iff.1 (Option.mem_toList.1 hp)
    refine isShown_escaped (passes_plain (t := "      Description: ".toList) (by decide)) (e := d) ?_
    simp only [toString, plain, String.toList_append, String.toList_ofList]
  have hwarnings : (line s!"  ⚠️  {r.warnings} item(s) flagged for manual review").IsShown := by
    refine isShown_passing (passes_plain ?_)
    simp only [toString, String.toList_append]
    exact isPlain_append (isPlain_append (by decide) (isPlain_int _)) (by decide)
  have hnone : (line "  [dim]- No upgrades needed[/dim]").IsShown :=
    isShown_styled "  ".toList "dim".toList "- No upgrades needed".toList (by decide +kernel) (by decide +kernel)
      (by decide +kernel)
  refine List.forall_mem_cons.2 ⟨hpath, ?_⟩
  split
  · exact List.forall_mem_singleton.2 (isShown_failure _).1
  · simp only [List.forall_mem_append, List.forall_mem_map, List.forall_mem_flatMap]
    refine ⟨⟨⟨⟨fun c _ => hchange c, hadvice⟩, isShown_writing r⟩, ?_⟩, ?_⟩
    · split
      · exact List.forall_mem_singleton.2 hwarnings
      · exact List.forall_mem_nil _
    · split
      · exact List.forall_mem_singleton.2 hnone
      · exact List.forall_mem_nil _

/-- The location of a warning can be told from its message if there is no bracket in it. -/
theorem isShown_warning (a : AdviceView) (h : '[' ∉ a.location) : (warning a).IsShown := by
  obtain ⟨e, he, hescape⟩ := escape_eq_append h
  have hlocation : '[' ∉ a.location ++ e := fun hmem => (List.mem_append.1 hmem).elim h he
  have hmessage : Shows [] (' ' :: '-' :: ' ' :: escape a.message) :=
    .append (t := [' ', '-', ' ']) (by decide) (shows_escape a.message)
  have hshows := passes_styled "  ".toList "bold yellow".toList "⚠️  WARNING:".toList " ".toList (by decide +kernel)
    (by decide +kernel) _ (.behind hlocation (tag?_of_ne (by decide) (by decide) _) hmessage)
  refine isShown_line ?_
  simp only [toString, plain, String.toList_append, String.toList_ofList, hescape, List.append_assoc]
  simpa using hshows

theorem isShown_row (r : Report) : ∃ cells, Piece.rowCells (row r.view) = .ok cells := by
  have hcolor : IsStyle (color r.view).toList := by
    unfold color
    split
    · decide +kernel
    · split <;> decide +kernel
  have hstatus : r.view.status = r.status.label.toList := by cases r <;> rfl
  have hlabel : IsPlain r.status.label.toList := by cases r.status <;> decide +kernel
  have hmarkup : (row r.view).status = [] ++ '[' :: ((color r.view).toList ++ ']' :: (r.status.label.toList ++
      '[' :: ('/' :: (color r.view).toList ++ [']']))) := by
    simp [row, toString, hstatus]
  obtain ⟨path, hpath⟩ := exists_render (shows_escape r.view.path)
  obtain ⟨status, hstatus⟩ : ∃ status, render (row r.view).status = .ok status := by
    have hshows := passes_styled [] _ _ [] hcolor (by simpa using hlabel) [] .nil
    rw [List.append_nil, ← hmarkup] at hshows
    exact exists_render hshows
  have hpath : render (row r.view).path = .ok path := hpath
  simp only [Piece.rowCells, hpath, hstatus]
  exact ⟨_, rfl⟩

theorem isShown_table (reports : List Report) : (Piece.table ((reports.map Report.view).map row)).IsShown := by
  have hcells : ∃ cells, ((reports.map Report.view).map row).mapM Piece.rowCells = .ok cells := by
    induction reports with
    | nil => exact ⟨[], rfl⟩
    | cons r reports ih =>
        obtain ⟨first, hfirst⟩ := isShown_row r
        obtain ⟨cells, hcells⟩ := ih
        rw [List.map_cons, List.map_cons, List.mapM_cons, hfirst, hcells]
        exact ⟨_, rfl⟩
  obtain ⟨cells, hcells⟩ := hcells
  rw [Piece.IsShown, Piece.lines, hcells]
  rfl

theorem isShown_summary (timestamp : Text) (reports : List Report) :
    ∀ p ∈ summary (reports.map Report.view) (Summary.ofReports timestamp reports), p.IsShown := by
  generalize hs : Summary.ofReports timestamp reports = s
  have hcounts : (line s!"\nSummary: {s.upgraded} out of {s.totalFiles} files were upgraded").IsShown := by
    refine isShown_passing (passes_plain ?_)
    simp only [toString, String.toList_append]
    exact isPlain_append (isPlain_append (isPlain_append (isPlain_append (by decide) (isPlain_int _)) (by decide))
      (isPlain_int _)) (by decide)
  have hwarnings : (line (s!"[bold yellow]⚠️  Total warnings: {s.totalWarnings} item(s) " ++
      "flagged for manual review across all files[/bold yellow]")).IsShown := by
    refine isShown_styled [] "bold yellow".toList ("⚠️  Total warnings: ".toList ++ s.totalWarnings.repr.toList ++
      " item(s) flagged for manual review across all files".toList) ?_ (by decide +kernel) ?_
    · simp [toString]
    · rw [List.nil_append]
      exact isPlain_append (isPlain_append (by decide +kernel) (isPlain_int _)) (by decide +kernel)
  have hhint : (Piece.line (s.hint.getD "None".toList)).IsShown := by
    have hplain : IsPlain (s.hint.getD "None".toList) := by
      rw [← hs, Summary.ofReports, Summary.ofOutcomes]
      dsimp only
      split <;> decide +kernel
    have hshows := passes_plain hplain [] .nil
    rw [List.append_nil] at hshows
    exact isShown_line hshows
  have herrors : (line s!"[bold red]{s.errors} file(s) could not be processed[/bold red]").IsShown := by
    refine isShown_styled [] "bold red".toList (s.errors.repr.toList ++ " file(s) could not be processed".toList) ?_
      (by decide +kernel) ?_
    · simp [toString]
    · rw [List.nil_append]
      exact isPlain_append (isPlain_int _) (by decide +kernel)
  simp only [summary, List.cons_append, List.forall_mem_cons, List.forall_mem_append]
  refine ⟨isShown_table reports, hcounts, ⟨nofun, ?_⟩, ?_⟩
  · split
    · exact List.forall_mem_cons.2 ⟨hwarnings, List.forall_mem_singleton.2 hhint⟩
    · exact List.forall_mem_nil _
  · split
    · exact List.forall_mem_singleton.2 herrors
    · exact List.forall_mem_nil _

theorem isShown_difference (source upgraded name : Text) : (Piece.difference source upgraded name).IsShown := by
  have hshows : Shows [] ("Proposed Upgrade: ".toList ++ escape name) := .append (by decide) (shows_escape name)
  obtain ⟨title, htitle⟩ := exists_render hshows
  rw [Piece.IsShown, Piece.lines]
  split
  · rfl
  · rw [htitle]
    rfl

/-! ### Printing -/

theorem printPieces_eq_none {pieces : List Piece} : (printPieces pieces).2 = none ↔ ∀ p ∈ pieces, p.IsShown := by
  induction pieces with
  | nil => exact iff_of_true rfl nofun
  | cons p pieces ih =>
      rw [List.forall_mem_cons, ← ih, printPieces, Piece.IsShown]
      cases p.lines with
      | error e => exact iff_of_false nofun fun h => nomatch h.1
      | ok ls => exact (and_iff_right rfl).symm

end Messages
end JujuMigration
