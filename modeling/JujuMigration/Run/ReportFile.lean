import JujuMigration.Run.Report
import JujuMigration.Yaml.Printer
/-! The report file of a run: what became of every file, and the summary, as YAML. The texts of the files are
not part of it. -/

namespace JujuMigration

def Advice.yaml (a : Advice) : Yaml :=
  .map [("location".toList, .text a.location.toList), ("message".toList, .text a.concern.message.toList),
    ("description".toList, (a.concern.description.map Yaml.text).getD .null)]

namespace Report

/-- The entries that every report has, from the success on. -/
def outcomeEntries (r : Report) (record : Record) : List (Text × Yaml) :=
  let o := r.outcome
  [("success".toList, .bool o.success), ("upgraded".toList, .bool o.upgraded), ("warnings".toList, .int o.warnings),
    ("changes".toList, .list (record.changes.map fun c => .text c.message.toList)),
    ("advisories".toList, .list (record.advice.map Advice.yaml)), ("written".toList, .bool o.written)]

def yaml (r : Report) : Yaml :=
  let head : List (Text × Yaml) :=
    [("file_path".toList, .text r.path.toText), ("status".toList, .text r.status.label.toList)]
  match r with
  | .failed _ _ message =>
    .map (head ++ ("error".toList, .text message.toList) :: r.outcomeEntries {})
  | .processed p =>
    let backup : List (Text × Yaml) :=
      match p.backup with
      | .none => [("backup_created".toList, .null)]
      | .created path => [("backup_created".toList, .text path.toText)]
      | .failed message => [("backup_created".toList, .null), ("backup_warning".toList, .text message.toList)]
    let writing : List (Text × Yaml) :=
      match p.writing with
      | .failed message => [("write_error".toList, .text message.toList)]
      | _ => []
    .map (head ++ r.outcomeEntries p.record ++ backup ++ writing)

end Report

def Summary.yaml (s : Summary) : Yaml :=
  .map [("total_files".toList, .int s.totalFiles), ("upgraded".toList, .int s.upgraded),
    ("written_to_disk".toList, .int s.writtenToDisk), ("total_warnings".toList, .int s.totalWarnings),
    ("errors".toList, .int s.errors), ("hint".toList, (s.hint.map Yaml.text).getD .null),
    ("summary_timestamp".toList, .text s.timestamp)]

namespace ReportFile

/-- Keys of the texts of a file. -/
def excluded : List Text := ["original_content", "upgraded_content"].map String.toList

/-- The report file of a summary and reports that may be any data. -/
def document (summary files : Yaml) : Text :=
  Yaml.document "juju-tf-upgrader run report".toList
    [("summary".toList, summary.without excluded), ("files".toList, files.without excluded)]

def ofRun (reports : List Report) (s : Summary) : Text := document s.yaml (.list (reports.map Report.yaml))

end ReportFile
end JujuMigration
