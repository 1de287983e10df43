import JujuMigration.Console.Markup
import JujuMigration.Console.Table
import JujuMigration.Diff.Unified
import JujuMigration.Text.Lines
/-! What a run prints, piece by piece. A piece whose markup is in error ends the output; what stands in front of
it has been printed by then. -/

namespace JujuMigration

/-- A row of the summary table. -/
structure SummaryRow where
  /-- Markup. -/
  path : Text
  /-- Markup. -/
  status : Text
  changes : Nat
  warnings : Int
  deriving DecidableEq, Repr

inductive Piece
  /-- A text with markup. -/
  | line (markup : Text)
  | table (rows : List SummaryRow)
  /-- A text with markup in a frame. -/
  | panel (markup : Text)
  /-- The difference of two texts in a frame. -/
  | difference (source upgraded name : Text)
  deriving DecidableEq, Repr

namespace Piece

def columns : List Column :=
  [⟨"File Path".toList, false⟩, ⟨"Status".toList, false⟩, ⟨"Changes".toList, true⟩, ⟨"Warnings".toList, true⟩]

def rowCells (row : SummaryRow) : Except Markup.Error (List Text) := do
  .ok [← Markup.render row.path, ← Markup.render row.status, Text.ofNat row.changes, Text.ofInt row.warnings]

/-- Columns of a tab in a difference. -/
def differenceTabSize : Nat := 4

/-- A line of a difference in exactly `width` cells. The blank in front of an unchanged line stands apart from the
text of the line. -/
def fitLine (width : Nat) : Text → Text
  | ' ' :: t => ' ' :: Text.fit t (width - 1)
  | t => Text.fit t width

/-- The lines of a difference as they stand in its frame: a carriage return begins a line as well. -/
def framedLines (t : Text) : List Text :=
  Text.splitAt (fun c => c = '\n' || c = '\r') (Text.replaceAll ['\r', '\n'] ['\n'] t)

/-- The lines of a difference with their numbers in front, as wide as a panel over the whole screen. Lines that only
a carriage return begins do not count for the width of the numbers. -/
def numbered (lines : List Text) : List Text :=
  let difference := Text.join ['\n'] lines
  let digits := (Text.ofNat (difference.newlines + 1)).length
  (framedLines difference).zipIdx.map fun (t, i) =>
    let code := Markup.shown (Wrapping.expandTabs differenceTabSize List.length t)
    let line := Text.spaces 2 ++ Layout.fitRight digits (Text.ofNat (i + 1)) ++
      ' ' :: fitLine (Layout.panelRoom - (digits + 3)) code
    line.fit Layout.panelRoom

def differenceLines (source upgraded name : Text) : List Text :=
  if source.isEmpty || upgraded.isEmpty then []
  else
    Diff.unified ("Original: ".toList ++ name) "Upgraded Version".toList (Text.screenLines source)
      (Text.screenLines upgraded)

/-- The title of a panel stands on one line, between spaces. -/
def titleText (t : Text) : Text :=
  let flat := t.map fun c => if c = '\n' then ' ' else c
  ' ' :: (Wrapping.expandTabs Wrapping.tabSize Text.cells flat ++ [' '])

/-- The printed lines of a piece. -/
def lines : Piece → Except Markup.Error (List Text)
  | .line markup => do .ok (Wrapping.lines .fold Layout.screenWidth (← Markup.render markup))
  | .table rows => do .ok (Table.lines ⟨"Upgrade Report".toList, columns, ← rows.mapM rowCells⟩)
  | .panel markup => do .ok (Layout.smallPanel (← Markup.render markup))
  | .difference source upgraded name =>
    match differenceLines source upgraded name with
    | [] => .ok []
    | ls => do
      let title ← Markup.render ("Proposed Upgrade: ".toList ++ Markup.escape name)
      .ok (Layout.titledPanel (titleText title) (numbered ls))

end Piece

/-- The text of pieces up to the first that is in error, and its error. -/
def printPieces : List Piece → Text × Option Markup.Error
  | [] => ([], none)
  | p :: ps =>
    match p.lines with
    | .error e => ([], some e)
    | .ok ls =>
      let (text, error) := printPieces ps
      (ls.flatMap (· ++ ['\n']) ++ text, error)

end JujuMigration
