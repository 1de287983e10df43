import JujuMigration.Text.Basic
import JujuMigration.Text.WordClass
/-! The lines of a text as a screen shows them: carriage return and line feed together end one line, and so
does each of the other line ends alone. -/

namespace JujuMigration.Text

/-- The lines of `s` after `current`, the characters of the line at hand, newest first. -/
def screenLinesFrom (current : Text) : Text → List Text
  | [] => if current.isEmpty then [] else [current.reverse]
  | '\r' :: '\n' :: r => current.reverse :: screenLinesFrom [] r
  | c :: r =>
    if CharClass.isLineEnd c then current.reverse :: screenLinesFrom [] r
    else screenLinesFrom (c :: current) r

/-- The lines without their ends; an end of the text right after a line end opens no further line. -/
def screenLines (s : Text) : List Text := screenLinesFrom [] s

example : screenLines "a\r\nb\n\nc".toList = [['a'], ['b'], [], ['c']] := by decide +kernel

end JujuMigration.Text
