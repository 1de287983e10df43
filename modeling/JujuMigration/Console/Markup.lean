import JujuMigration.Console.Action
import JujuMigration.Console.Emoji
import JujuMigration.Console.Style
import JujuMigration.Text.Quoted
/-! Markup in what is printed: `[style]` begins a style and `[/style]` or `[/]` ends one. Styles are not shown,
but a tag that ends nothing is an error. `[@event=action]` begins a text with an action, which has to be readable
when the text ends. A backslash in front of a tag makes it plain text. -/

namespace JujuMigration.Markup

inductive Error
  /-- A closing tag names a style that is not open. -/
  | notOpen (tag : Text) (position : Nat)
  /-- A closing tag without a name has nothing to close. -/
  | nothingOpen (position : Nat)
  /-- The arguments of an action cannot be read. -/
  | unreadable (arguments action : Text) (reason : String)
  deriving DecidableEq, Repr

def Error.message : Error → String
  | notOpen tag position => s!"closing tag '[{String.ofList tag}]' at position {position} doesn't match any open tag"
  | nothingOpen position => s!"closing tag '[/]' at position {position} has nothing to close"
  | unreadable arguments action reason =>
    s!"error parsing {Text.quotedString arguments} in {Text.quotedString action}; {reason}"

def opensTag (c : Char) : Bool := c.isLower || c == '#' || c == '/' || c == '@'

/-- What stands between the brackets of the tag that the text begins with, behind backslashes, and the number of
these. -/
def tag? (s : Text) : Option (Nat × Text) :=
  let slashes := (s.takeWhile (· = '\\')).length
  match s.drop slashes with
  | '[' :: c :: r =>
    let inside := r.takeWhile fun c => c != '[' && c != ']'
    if opensTag c && (r.drop inside.length).head? = some ']' then some (slashes, c :: inside) else none
  | _ => none

/-- Escapes what would be taken for a tag. -/
def escapeTags (s : Text) : Text :=
  match s with
  | [] => []
  | c :: r =>
    match tag? (c :: r) with
    | some (slashes, tag) =>
      List.replicate (2 * slashes + 1) '\\' ++ '[' :: (tag ++ ']' :: escapeTags (r.drop (slashes + tag.length + 1)))
    | none => c :: escapeTags r
termination_by s.length
decreasing_by all_goals simp; try omega

/-- The text as markup that shows it. A single backslash at the end is doubled, lest it escape what follows. -/
def escape (s : Text) : Text :=
  let escaped := escapeTags s
  if escaped.getLast? = some '\\' ∧ escaped.dropLast.getLast? ≠ some '\\' then escaped ++ ['\\'] else escaped

inductive Segment
  | plain (t : Text)
  /-- A tag, its position behind the backslashes that stand for themselves, and the number of backslashes. -/
  | tag (position slashes : Nat) (inside : Text)
  deriving DecidableEq, Repr

def plainSegment (reversed : Text) : List Segment := if reversed.isEmpty then [] else [.plain reversed.reverse]

/-- The segments of a text from `position` on; `plain` holds the characters since the last tag, newest first. -/
def segments (plain : Text) (position : Nat) (s : Text) : List Segment :=
  match s with
  | [] => plainSegment plain
  | c :: r =>
    match tag? (c :: r) with
    | some (slashes, inside) =>
      let width := slashes + inside.length + 2
      plainSegment plain ++ .tag (position + slashes / 2 * 2) slashes inside ::
        segments [] (position + width) (r.drop (width - 1))
    | none => segments (c :: plain) (position + 1) r
termination_by s.length
decreasing_by all_goals simp; try omega

/-- A tag that is open: the name of its style, and what stands behind the equals sign. -/
structure OpenTag where
  name : Text
  value : Option Text
  deriving DecidableEq, Repr

/-- The tag that the text between brackets opens; its style goes by the same name however it is spelled. -/
def OpenTag.ofInside (inside : Text) : OpenTag :=
  let name := inside.takeWhile (· ≠ '=')
  ⟨Style.normal name, if name.length = inside.length then none else some (inside.drop (name.length + 1))⟩

/-- What is wrong with the action of a tag that is closed. -/
def OpenTag.fault? (t : OpenTag) : Option Error :=
  match t.value with
  | some action =>
    if t.name.head? = some '@' ∧ action ≠ [] then
      (Action.argumentsFault? (Action.arguments action)).map (.unreadable (Action.arguments action) action)
    else none
  | none => none

/-- The open tags behind the end of one of them. -/
def close (tag : OpenTag) (tags : List OpenTag) : Except Error (List OpenTag) :=
  match tag.fault? with
  | some e => .error e
  | none => .ok (tags.erase tag)

/-- The open tags behind a tag at `position`, the innermost first. -/
def applyTag (position : Nat) (inside : Text) (tags : List OpenTag) : Except Error (List OpenTag) :=
  match inside.takeWhile (· ≠ '=') with
  | '/' :: name =>
    let name := Text.trim CharClass.isBlank name
    if name.isEmpty then
      match tags with
      | [] => .error (.nothingOpen position)
      | tag :: _ => close tag tags
    else
      match tags.find? (·.name = Style.normal name) with
      | some tag => close tag tags
      | none => .error (.notOpen inside position)
  | _ => .ok (.ofInside inside :: tags)

/-- Control characters that are never shown. -/
def isDropped (c : Char) : Bool := [7, 8, 11, 12, 13].contains c.toNat

def shown (t : Text) : Text := t.filter (!isDropped ·)

/-- Plain text as it is shown. -/
def plainText (t : Text) : Text := shown (Emoji.replace (Text.replaceAll ['\\', '['] ['['] t))

/-- The text of segments, given the open tags. -/
def showSegments (tags : List OpenTag) : List Segment → Except Error Text
  | [] => .ok []
  | .plain t :: rest => do .ok (plainText t ++ (← showSegments tags rest))
  | .tag position slashes inside :: rest => do
    let front := List.replicate (slashes / 2) '\\'
    if slashes % 2 = 1 then
      .ok (front ++ plainText ('[' :: (inside ++ [']'])) ++ (← showSegments tags rest))
    else
      .ok (front ++ (← showSegments (← applyTag position inside tags) rest))

/-- The text that markup shows. -/
def render (s : Text) : Except Error Text := showSegments [] (segments [] 0 s)

example : (render "[bold]a[/bold] \\[x] [1]".toList).toOption = some "a [x] [1]".toList := by decide +kernel
example : (render (escape "a\\[b]".toList)).toOption = some "a\\[b]".toList := by decide +kernel

end JujuMigration.Markup
