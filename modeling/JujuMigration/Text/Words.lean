import JujuMigration.Text.Basic
import JujuMigration.Text.WordClass
/-! The words of a text, without the blanks around them and with them. -/

namespace JujuMigration.Text

/-- The words of a text, between blanks. -/
def words (t : Text) : List Text := (splitAt CharClass.isBlank t).filter (!·.isEmpty)

def beginsBlank (t : Text) : Bool := t.head?.any CharClass.isBlank

/-- The text cut in front of every word and in front of the blanks that it begins with. -/
def cutAtWords : Text → List Text
  | [] => []
  | c :: r =>
    match cutAtWords r with
    | [] => [[c]]
    | w :: ws => if CharClass.isBlank c && !beginsBlank w then [c] :: w :: ws else (c :: w) :: ws

/-- The words of a text, each with the blanks behind it, the first also with the blanks in front of it. -/
def spacedWords (t : Text) : List Text :=
  match cutAtWords t with
  | w :: next :: ws => if beginsBlank w then (w ++ next) :: ws else w :: next :: ws
  | ws => ws

example : spacedWords "  ab  c d ".toList = ["  ab  ".toList, "c ".toList, "d ".toList] := by decide +kernel

end JujuMigration.Text
