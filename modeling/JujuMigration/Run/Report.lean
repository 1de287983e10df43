import JujuMigration.Store.Path
import JujuMigration.Upgrade.Document
/-! What a run has to say about a file, and about all of its files together. -/

namespace JujuMigration

/-- What became of a file. -/
inductive Status
  | upgraded
  | preview
  | review
  | unchanged
  | writeError
  | parseError
  | ioError
  | engineError
  deriving DecidableEq, Repr

def Status.label : Status → String
  | upgraded => "UPGRADED"
  | preview => "PREVIEW"
  | review => "REVIEW"
  | unchanged => "UNCHANGED"
  | writeError => "WRITE_ERROR"
  | parseError => "PARSE_ERROR"
  | ioError => "IO_ERROR"
  | engineError => "ENGINE_ERROR"

/-- Why a file was not processed at all. -/
inductive Failure
  | parse
  | read
  /-- Its path is none. -/
  | path
  deriving DecidableEq, Repr

def Failure.status : Failure → Status
  | parse => .parseError
  | read => .ioError
  | path => .engineError

inductive Backup
  | none
  | created (path : Path)
  | failed (message : String)
  deriving DecidableEq, Repr

inductive Writing
  | none
  | done
  | failed (message : String)
  deriving DecidableEq, Repr

/-- The report on a file that could be read and parsed. -/
structure Processed where
  path : Path
  /-- Whether the run only shows what it would do. -/
  dryRun : Bool
  source : Text
  record : Record
  /-- The upgraded text, if the file was upgraded. -/
  upgraded : Option Text
  backup : Backup
  writing : Writing
  deriving Repr

inductive Report
  | failed (path : Path) (why : Failure) (message : String)
  | processed (p : Processed)
  deriving Repr

namespace Processed

def succeeded (p : Processed) : Bool :=
  match p.writing with
  | .failed _ => false
  | _ => true

def status (p : Processed) : Status :=
  if !p.succeeded then .writeError
  else if p.record.wasUpgraded then if p.dryRun then .preview else .upgraded
  else if p.record.warnings = 0 then .unchanged
  else .review

end Processed

/-- What a summary counts of a report. -/
structure Outcome where
  upgraded : Bool
  written : Bool
  success : Bool
  warnings : Int
  deriving DecidableEq, Repr

namespace Report

def path : Report → Path
  | failed path .. => path
  | processed p => p.path

def status : Report → Status
  | failed _ why _ => why.status
  | processed p => p.status

def outcome : Report → Outcome
  | failed .. => ⟨false, false, false, 0⟩
  | processed p => ⟨p.record.wasUpgraded, p.writing = .done, p.succeeded, p.record.warnings⟩

end Report

structure Summary where
  totalFiles : Int
  upgraded : Int
  writtenToDisk : Int
  totalWarnings : Int
  errors : Int
  hint : Option Text
  timestamp : Text
  deriving DecidableEq, Repr

namespace Summary

def reviewHint : Text :=
  ("Please review variables named 'model', 'model_name', or containing 'model_name' " ++
    "to ensure they use UUIDs instead of names where appropriate.").toList

def ofOutcomes (timestamp : Text) (outcomes : List Outcome) : Summary :=
  let warnings := outcomes.foldl (· + ·.warnings) 0
  { totalFiles := outcomes.length
    upgraded := outcomes.countP Outcome.upgraded
    writtenToDisk := outcomes.countP Outcome.written
    totalWarnings := warnings
    errors := outcomes.countP fun o => !o.success
    hint := if warnings = 0 then none else some reviewHint
    timestamp := timestamp }

def ofReports (timestamp : Text) (reports : List Report) : Summary :=
  ofOutcomes timestamp (reports.map Report.outcome)

end Summary
end JujuMigration
