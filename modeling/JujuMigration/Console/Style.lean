import JujuMigration.Text.Number
import JujuMigration.Text.Words
/-! The styles that markup names: attributes, a colour, a background and a link, in any order and with short names
for some attributes. Styles are not shown, but two spellings of one style must be known to be the same, since a
closing tag may spell the style in another way. -/

namespace JujuMigration

structure Style where
  /-- Which attributes are set, and whether they are on. -/
  attributes : List (Text × Bool) := []
  color : Option Text := none
  background : Option Text := none
  link : Option Text := none
  deriving DecidableEq, Repr

namespace Style

/-- The attributes, in the order in which a style spells them. -/
def attributeNames : List Text :=
  ["bold", "dim", "italic", "underline", "blink", "blink2", "reverse", "conceal", "strike", "underline2", "frame",
    "encircle", "overline"].map String.toList

def shortNames : List (Text × Text) :=
  [("b", "bold"), ("d", "dim"), ("i", "italic"), ("u", "underline"), ("uu", "underline2"), ("r", "reverse"),
    ("c", "conceal"), ("s", "strike"), ("o", "overline")].map fun (k, v) => (k.toList, v.toList)

/-- The attribute of a name. -/
def attribute? (name : Text) : Option Text :=
  (shortNames.lookup name).or (if attributeNames.contains name then some name else none)

/-- The colours that have names. -/
def colorNames : List Text := Text.words "
  black red green yellow blue magenta cyan white bright_black bright_red bright_green bright_yellow
  bright_blue bright_magenta bright_cyan bright_white grey0 gray0 navy_blue dark_blue blue3 blue1
  dark_green deep_sky_blue4 dodger_blue3 dodger_blue2 green4 spring_green4 turquoise4 deep_sky_blue3
  dodger_blue1 green3 spring_green3 dark_cyan light_sea_green deep_sky_blue2 deep_sky_blue1
  spring_green2 cyan3 dark_turquoise turquoise2 green1 spring_green1 medium_spring_green cyan2 cyan1
  dark_red deep_pink4 purple4 purple3 blue_violet orange4 grey37 gray37 medium_purple4 slate_blue3
  royal_blue1 chartreuse4 dark_sea_green4 pale_turquoise4 steel_blue steel_blue3 cornflower_blue
  chartreuse3 cadet_blue sky_blue3 steel_blue1 pale_green3 sea_green3 aquamarine3 medium_turquoise
  chartreuse2 sea_green2 sea_green1 aquamarine1 dark_slate_gray2 dark_magenta dark_violet purple
  light_pink4 plum4 medium_purple3 slate_blue1 yellow4 wheat4 grey53 gray53 light_slate_grey
  light_slate_gray medium_purple light_slate_blue dark_olive_green3 dark_sea_green light_sky_blue3
  sky_blue2 dark_sea_green3 dark_slate_gray3 sky_blue1 chartreuse1 light_green pale_green1
  dark_slate_gray1 red3 medium_violet_red magenta3 dark_orange3 indian_red hot_pink3 medium_orchid3
  medium_orchid medium_purple2 dark_goldenrod light_salmon3 rosy_brown grey63 gray63 medium_purple1
  gold3 dark_khaki navajo_white3 grey69 gray69 light_steel_blue3 light_steel_blue yellow3
  dark_sea_green2 light_cyan3 light_sky_blue1 green_yellow dark_olive_green2 dark_sea_green1
  pale_turquoise1 deep_pink3 magenta2 hot_pink2 orchid medium_orchid1 orange3 light_pink3 pink3 plum3
  violet light_goldenrod3 tan misty_rose3 thistle3 plum2 khaki3 light_goldenrod2 light_yellow3 grey84
  gray84 light_steel_blue1 yellow2 dark_olive_green1 honeydew2 light_cyan1 red1 deep_pink2 deep_pink1
  magenta1 orange_red1 indian_red1 hot_pink dark_orange salmon1 light_coral pale_violet_red1 orchid2
  orchid1 orange1 sandy_brown light_salmon1 light_pink1 pink1 plum1 gold1 navajo_white1 misty_rose1
  thistle1 yellow1 light_goldenrod1 khaki1 wheat1 cornsilk1 grey100 gray100 grey3 gray3 grey7 gray7
  grey11 gray11 grey15 gray15 grey19 gray19 grey23 gray23 grey27 gray27 grey30 gray30 grey35 gray35
  grey39 gray39 grey42 gray42 grey46 gray46 grey50 gray50 grey54 gray54 grey58 gray58 grey62 gray62
  grey66 gray66 grey70 gray70 grey74 gray74 grey78 gray78 grey82 gray82 grey85 gray85 grey89 gray89
  grey93 gray93".toList

def isHexadecimal (c : Char) : Bool := c.isDigit || ('a' ≤ c && c ≤ 'f')

/-- The text between the parentheses behind a word. -/
def arguments? (name : String) (t : Text) : Option Text :=
  let rest := t.drop name.length
  if name.toList.isPrefixOf t && rest.head? = some '(' && rest.getLast? = some ')' && 2 ≤ rest.length then
    some (rest.drop 1).dropLast
  else none

/-- Whether the digits are a number up to 255. -/
def isByte (t : Text) : Bool := !t.isEmpty && t.all Char.isDigit && Text.digitsValue t ≤ 255

/-- Whether the text is a colour: a name, a number, or three parts that are mixed. -/
def isColor (t : Text) : Bool :=
  t = "default".toList || colorNames.contains t ||
    (t.head? = some '#' && t.length = 7 && (t.drop 1).all isHexadecimal) ||
    (arguments? "color" t).any (fun n => n.length ≤ 3 && isByte n) ||
    (arguments? "rgb" t).any fun parts =>
      let parts := Text.splitAt (· = ',') parts
      parts.length = 3 && parts.all isByte

def lower (t : Text) : Text := t.map Char.toLower

/-- Sets an attribute; one that is set already stays in its place. -/
def set (s : Style) (name : Text) (on : Bool) : Style :=
  { s with attributes := (name, on) :: s.attributes.filter (·.1 ≠ name) }

/-- Adds an attribute or a colour to a style. -/
def setWord? (s : Style) (word : Text) : Option Style :=
  match attribute? word with
  | some name => some (s.set name true)
  | none => if isColor word then some { s with color := some word } else none

/-- Adds what the words say to a style. -/
def extend? (s : Style) : List Text → Option Style
  | [] => some s
  | [word] => s.setWord? (lower word)
  | word :: next :: rest =>
    if lower word = "on".toList then
      if isColor (lower next) then extend? { s with background := some (lower next) } rest else none
    else if lower word = "not".toList then
      match attribute? next with
      | some name => extend? (s.set name false) rest
      | none => none
    else if lower word = "link".toList then extend? { s with link := some next } rest
    else
      match s.setWord? (lower word) with
      | some s => extend? s (next :: rest)
      | none => none

/-- The words that spell a style. -/
def spelling (s : Style) : List Text :=
  attributeNames.flatMap (fun name =>
    match s.attributes.lookup name with
    | some true => [name]
    | some false => ["not".toList, name]
    | none => []) ++
  s.color.toList ++ (s.background.map fun c => ["on".toList, c]).getD [] ++
    (s.link.map fun l => ["link".toList, l]).getD []

/-- The style that changes nothing. -/
def plainName : Text := "none".toList

/-- The spelling of the style that a text names, the same for all texts that name it; of a text that names no
style, the text in small letters. -/
def normal (t : Text) : Text :=
  if Text.trim CharClass.isBlank t = plainName then plainName
  else
    match extend? {} (Text.words t) with
    | some s => if s.spelling.isEmpty then plainName else Text.join [' '] s.spelling
    | none => lower (Text.trim CharClass.isBlank t)

end Style
end JujuMigration
