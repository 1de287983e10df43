import JujuMigration.Console.Output
import JujuMigration.Run.Report
/-! What is said about a run: the files it is about, what became of each, and the summary. -/

namespace JujuMigration

/-- Advice as it is shown. -/
structure AdviceView where
  location : Text
  message : Text
  description : Option Text
  deriving DecidableEq, Repr

/-- A report as it is shown. -/
structure ReportView where
  path : Text
  status : Text
  success : Bool := false
  upgraded : Bool := false
  warnings : Int := 0
  changes : List Text := []
  advice : List AdviceView := []
  written : Bool := false
  error : Option Text := none
  writeError : Option Text := none
  deriving DecidableEq, Repr

def Advice.view (a : Advice) : AdviceView :=
  ⟨a.location.toList, a.concern.message.toList, a.concern.description⟩

def Report.view : Report → ReportView
  | .failed path why message =>
    { path := path.toText, status := why.status.label.toList, error := some message.toList }
  | .processed p =>
    { path := p.path.toText
      status := p.status.label.toList
      success := p.succeeded
      upgraded := p.record.wasUpgraded
      warnings := p.record.warnings
      changes := p.record.changes.map fun c => c.message.toList
      advice := p.record.advice.map Advice.view
      written := p.writing = .done
      writeError := match p.writing with
        | .failed message => some message.toList
        | _ => none }

namespace Messages

open Markup (escape)

/-- A line of markup. -/
def line (s : String) : Piece := .line s.toList

/-- A text as a part of a line of markup. -/
def plain (t : Text) : String := String.ofList (escape t)

def discovery (files : List Text) : List Piece :=
  line s!"Found {files.length} Terraform files to process:" ::
    files.map (fun f => line s!"  - {plain f}") ++ [line ""]

/-- A text that has something to show. -/
def filled? (t : Option Text) : Option Text := t.filter (!·.isEmpty)

def advice (a : AdviceView) : List Piece :=
  line s!"  [bold yellow]⚠️  WARNING:[/bold yellow] {plain a.location} - {plain a.message}" ::
    ((filled? a.description).map fun d => line s!"      Description: {plain d}").toList

/-- Whether the file was written. -/
def writing (r : ReportView) : List Piece :=
  match filled? r.writeError with
  | some e => [line s!"  [bold red]Error writing file:[/bold red] {plain e}"]
  | none =>
    if r.written then [line "  [green]✓ File updated successfully[/green]"]
    else if r.upgraded then [line "  [cyan]• Dry run: file left unchanged[/cyan]"]
    else []

def fileReport (r : ReportView) : List Piece :=
  line s!"Processing: {plain r.path}" ::
    match filled? r.error with
    | some e => [line s!"  [bold red]Error transforming file:[/bold red] {plain e}"]
    | none =>
      r.changes.map (fun c => line s!"  [green]✓[/green] {plain c}") ++ r.advice.flatMap advice ++ writing r ++
        (if r.warnings ≠ 0 then [line s!"  ⚠️  {r.warnings} item(s) flagged for manual review"] else []) ++
        (if !r.upgraded && r.warnings = 0 then [line "  [dim]- No upgrades needed[/dim]"] else [])

def color (r : ReportView) : String := if r.upgraded then "green" else if !r.success then "red" else "white"

def row (r : ReportView) : SummaryRow :=
  { path := escape r.path
    status := s!"[{color r}]{String.ofList r.status}[/{color r}]".toList
    changes := r.changes.length
    warnings := r.warnings }

def summary (reports : List ReportView) (s : Summary) : List Piece :=
  [.table (reports.map row), line s!"\nSummary: {s.upgraded} out of {s.totalFiles} files were upgraded"] ++
    (if s.totalWarnings ≠ 0 then
      [line (s!"[bold yellow]⚠️  Total warnings: {s.totalWarnings} item(s) " ++
          "flagged for manual review across all files[/bold yellow]"),
        .line (s.hint.getD "None".toList)]
    else []) ++
    if s.errors ≠ 0 then [line s!"[bold red]{s.errors} file(s) could not be processed[/bold red]"] else []

end Messages
end JujuMigration
