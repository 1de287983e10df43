import JujuMigration.CommandLine.Arguments
import JujuMigration.Console.Messages
import JujuMigration.Run.Process
import JujuMigration.Run.ReportFile
/-! The command as a whole: from its arguments and a store of files to what it prints, how it ends and the store
behind it. The files are processed as any run processes them, and each is reported as soon as it is done. -/

namespace JujuMigration.CommandLine

/-- How the command ends: with a status, or with an error that it does not deal with. -/
inductive Ending
  | status (code : Nat)
  | markup (e : Markup.Error)
  | refused (r : Refusal) (path : Text)
  deriving DecidableEq, Repr

structure Session where
  ending : Ending
  output : Text
  store : Store
  deriving Repr

/-- Prints pieces and goes on, unless their markup is in error. -/
def printing (pieces : List Piece) (s : Store) (next : Session) : Session :=
  match printPieces pieces with
  | (output, none) => { next with output := output ++ next.output }
  | (output, some e) => ⟨.markup e, output, s⟩

def settings (o : Options) : Settings := { dryRun := o.dryRun, backup := o.backup }

/-- What is shown of a file. -/
def reportPieces (o : Options) (report : Report) : List Piece :=
  Messages.fileReport report.view ++
    match report with
    | .processed p =>
      match Messages.filled? p.upgraded with
      | some upgraded => if o.diff then [.difference p.source upgraded p.path.toText] else []
      | none => []
    | .failed .. => []

/-- Processes files and shows each report; `next` goes on behind them. -/
def processShowing (o : Options) (next : List Report → Store → Session) (done : List Report) (s : Store) :
    List Path → Session
  | [] => next done s
  | p :: ps =>
    match processFile (settings o) s p with
    | .error e => ⟨.refused e.refusal e.path.toText, [], s⟩
    | .ok (report, s) =>
      printing (reportPieces o report) s (processShowing o next (done ++ [report]) s ps)

/-- Ends a run: shows the summary and writes the report file. -/
def conclude (o : Options) (timestamp : Text) (reports : List Report) (s : Store) : Session :=
  let summary := Summary.ofReports timestamp reports
  printing (Messages.summary (reports.map Report.view) summary) s <|
    match Messages.filled? o.report with
    | none => ⟨.status 0, [], s⟩
    | some name =>
      match s.write (Path.literal name) (Utf8.encode (ReportFile.ofRun reports summary)) with
      | .error r => ⟨.refused r name, [], s⟩
      | .ok s => printing [.panel ("Report written to ".toList ++ name)] s ⟨.status 0, [], s⟩

def runOptions (o : Options) (timestamp : Text) (s : Store) : Session :=
  match discover s (Path.ofText o.path) with
  | .error e =>
    if e.isMalformed then ⟨.refused .nulByte o.path, [], s⟩
    else printing [Messages.line s!"[bold red]Error:[/bold red] {e.message}"] s ⟨.status 1, [], s⟩
  | .ok [] => printing [Messages.line "No .tf files found to process"] s ⟨.status 0, [], s⟩
  | .ok files =>
    printing (Messages.discovery (files.map Path.toText)) s <|
      processShowing o (conclude o timestamp) [] s files

/-- Runs the command. -/
def execute (timestamp : Text) (arguments : List Text) (s : Store) : Session :=
  match parse arguments with
  | .help => ⟨.status 0, helpText, s⟩
  | .version => ⟨.status 0, versionText, s⟩
  | .misuse => ⟨.status 2, [], s⟩
  | .run o => runOptions o timestamp s

end JujuMigration.CommandLine
