import JujuMigration.Console.EmojiTable
/-! Names of emoji between colons, as in `:star:`. A name can be written in capitals, and `-text` or `-emoji`
behind it asks for the plain or the colourful form. -/

namespace JujuMigration.Emoji

/-- The endings of a name, each with the selector of the form that it asks for. -/
def forms : List (Text × Char) := [("-text".toList, Char.ofNat 0xfe0e), ("-emoji".toList, Char.ofNat 0xfe0f)]

/-- The name without its ending, and the selector of the ending. -/
def splitForm (name : Text) : Text × Text :=
  match forms.find? fun (ending, _) => ending.isSuffixOf name with
  | some (ending, selector) => (name.take (name.length - ending.length), [selector])
  | none => (name, [])

/-- The emoji of a name. -/
def named? (name : Text) : Option Text :=
  let (name, selector) := splitForm name
  (table.lookup (name.map Char.toLower)).map (· ++ selector)

/-- What stands in front of the next colon, unless a blank comes first. -/
def name? (t : Text) : Option Text :=
  let name := t.takeWhile fun c => c != ':' && !CharClass.isBlank c
  if (t.drop name.length).head? = some ':' then some name else none

/-- Replaces the names between colons that are names of emoji. A colon that closes a name opens no other, even if
the name is unknown. -/
def replace (s : Text) : Text :=
  match s with
  | [] => []
  | c :: r =>
    if c = ':' then
      match name? r with
      | some name =>
        (named? name).getD (':' :: (name ++ [':'])) ++ replace (r.drop (name.length + 1))
      | none => ':' :: replace r
    else c :: replace r
termination_by s.length
decreasing_by all_goals simp; try omega

end JujuMigration.Emoji
