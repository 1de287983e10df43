import JujuMigration.Source.Comment
import JujuMigration.Source.Label
import JujuMigration.Text.WordClass
/-! The words of the strict grammar. Which words can stand next depends on the word before, so the lexer is
told a `Mode`; within a mode the order in which words are tried decides. Blanks between words are skipped,
but belong to the equals sign behind them where one can stand. -/

namespace JujuMigration.Strict

open Source

inductive Lexeme
  /-- A line end with the blanks after it, or a comment. -/
  | newline
  | name (t : Text)
  | digit (c : Char)
  /-- A minus sign and the digit after it. -/
  | negative (c : Char)
  | exponent (t : Text)
  | equals
  | operator (t : Text)
  | minus
  | bang
  | quote
  | chars (t : Text)
  | escaped (t : Text)
  | hole
  | heredoc (t : Text)
  | trimmedHeredoc (t : Text)
  | ellipsis
  | splat
  | dotSplat
  | dot
  | arrow
  | colons
  | colon
  | comma
  | question
  | leftParen
  | rightParen
  | leftBracket
  | rightBracket
  | leftBrace
  | rightBrace
  deriving DecidableEq, Repr

/-- Which of the words that only some operands can be followed by are possible. -/
structure Follow where
  equals : Bool := false
  colons : Bool := false
  exponent : Bool := false
  ellipsis : Bool := true
  deriving DecidableEq, Repr

inductive Mode
  /-- An operand, an item or a key begins. -/
  | start
  | afterNewline
  | inString
  /-- An operand has ended. -/
  | operand (f : Follow)
  | afterEllipsis
  deriving DecidableEq, Repr

def Mode.afterName : Mode := .operand { equals := true, colons := true }
def Mode.afterDigit : Mode := .operand { equals := true, exponent := true }
def Mode.afterQuote : Mode := .operand { equals := true }
def Mode.afterOperand : Mode := .operand {}
/-- After the word `for` at the start of brackets, which may begin a comprehension or be an operand. -/
def Mode.afterFor : Mode := .operand { equals := true, colons := true, ellipsis := false }

/-- The text behind `p`, if it begins with it. -/
def after? (p s : Text) : Option Text := if p.isPrefixOf s then some (s.drop p.length) else none

/-- The text behind the line end. -/
def afterLine? : Text → Option Text
  | [] => none
  | c :: r => if c = '\n' then some r else afterLine? r

def newline? (s : Text) : Option Text :=
  match s with
  | '\n' :: r => some (skipSpaces r)
  | '#' :: r => afterLine? r
  | '/' :: '/' :: r => afterLine? r
  | '/' :: '*' :: r => afterCommentEnd? r
  | _ => none

def name? (s : Text) : Option (Text × Text) := (readIdentifier s).toOption

/-- An equals sign that is no part of a comparison or an arrow, with the blanks in front of it. -/
def equals? (s : Text) : Option Text :=
  match skipSpaces s with
  | '=' :: r => if r.head? = some '=' ∨ r.head? = some '>' then none else some r
  | _ => none

def exponent? (s : Text) : Option (Text × Text) :=
  match s with
  | e :: r =>
    if e = 'e' ∨ e = 'E' then
      let sign := if r.head? = some '+' ∨ r.head? = some '-' then r.take 1 else []
      let digits := (r.drop sign.length).takeWhile Char.isDigit
      if digits.isEmpty then none
      else some (e :: (sign ++ digits), (r.drop sign.length).dropWhile Char.isDigit)
    else none
  | [] => none

def operators : List Text :=
  ["==", "!=", "<=", ">=", "&&", "||", "<", ">", "-", "*", "/", "%", "+"].map String.toList

def operator? (s : Text) : Option (Text × Text) := operators.findSome? fun op => (after? op s).map (op, ·)

/-- The text behind the closing line of a heredoc that would begin with the line end here. -/
def closingLine? (marker s : Text) : Option Text :=
  match s with
  | '\n' :: r => after? (marker ++ ['\n']) (r.dropWhile CharClass.isBlank)
  | _ => none

/-- The text behind the first closing line. -/
def afterClosingLine? (marker : Text) : Text → Option Text
  | [] => none
  | c :: r => (closingLine? marker (c :: r)).or (afterClosingLine? marker r)

def isMarkerChar (c : Char) : Bool := c.isAlphanum || c == '.' || c == '_' || c == '-'

/-- The text behind a heredoc from its marker on. The marker is the longest beginning of the word, of two
characters at least, for which a closing line follows; a line end right behind the marker opens no closing
line unless no other does. -/
def afterHeredoc? (s : Text) : Option Text :=
  let word := s.takeWhile isMarkerChar
  if s.head?.any Char.isAlpha then
    ((List.range (word.length - 1)).map (word.length - ·)).findSome? fun k =>
      let body := s.drop k
      (if body.head? = some '\n' then afterClosingLine? (s.take k) body.tail else none).or
        (afterClosingLine? (s.take k) body)
  else none

def heredoc? (s : Text) : Option (Lexeme × Text) :=
  ((after? ['<', '<', '-'] s).bind afterHeredoc?).map (fun rest => (.trimmedHeredoc (Text.before rest s), rest))
    |>.or (((after? ['<', '<'] s).bind afterHeredoc?).map fun rest => (.heredoc (Text.before rest s), rest))

/-- The longest run of characters of a quoted text: no quote, no opening of a hole, escaped or not, and no
backslash but with the character that it escapes. -/
def stringChars (s : Text) : Text × Text :=
  match s with
  | '\\' :: c :: r => if c = '\n' then ([], s) else
    let (t, rest) := stringChars r
    ('\\' :: c :: t, rest)
  | c :: r =>
    if c = '"' ∨ c = '\\' then ([], c :: r)
    else if c = '$' ∧ ((after? ['{'] r).isSome ∨ (after? ['$', '{'] r).isSome) then ([], c :: r)
    else
      let (t, rest) := stringChars r
      (c :: t, rest)
  | [] => ([], [])

/-- An opening of a hole that is escaped by doubling the sign, up to the closing brace. -/
def escapedHole? (s : Text) : Option (Text × Text) :=
  match after? ['$', '$', '{'] s with
  | none => none
  | some r =>
    match r.dropWhile (· ≠ '}') with
    | [] => none
    | _ :: rest => some (Text.before rest s, rest)

/-- The words of one character that can begin or end an operand. -/
def bracket? : Char → Option Lexeme
  | '"' => some .quote
  | '(' => some .leftParen
  | ')' => some .rightParen
  | '[' => some .leftBracket
  | ']' => some .rightBracket
  | '{' => some .leftBrace
  | '}' => some .rightBrace
  | _ => none

def punctuation? : Char → Option Lexeme
  | ':' => some .colon
  | ',' => some .comma
  | '?' => some .question
  | _ => none

def first (r : Text) (l : Option Lexeme) : Option (Lexeme × Text) := l.map (·, r)

/-- The first of the given words that the text `c :: r` begins with, in a mode where blanks are skipped. -/
def wordAt (mode : Mode) (c : Char) (r : Text) : Option (Lexeme × Text) :=
  let s := c :: r
  let newline := (newline? s).map (Lexeme.newline, ·)
  let name := (name? s).map fun x => (Lexeme.name x.1, x.2)
  let digit := first r (if c.isDigit then some (.digit c) else none)
  match mode with
  | .inString => none
  | .start =>
    (heredoc? s).or <| newline.or <| name.or <|
      (if c = '-' then
        match r with
        | d :: q => if d.isDigit then some (.negative d, q) else some (.minus, r)
        | [] => some (.minus, r)
      else none).or <|
      digit.or <| (first r (if c = '!' then some .bang else none)).or <| first r (bracket? c)
  | .afterNewline =>
    (heredoc? s).or <| newline.or <| name.or <| ((after? ['.', '.', '.'] s).map (Lexeme.ellipsis, ·)).or <|
      ((operator? s).map fun x => (if x.1 = ['-'] then Lexeme.minus else .operator x.1, x.2)).or <|
      ((after? ['=', '>'] s).map (Lexeme.arrow, ·)).or <| digit.or <|
      (first r (if c = '!' then some .bang else none)).or <|
      (first r (punctuation? c)).or <| first r (bracket? c)
  | .operand f =>
    newline.or <| (if f.exponent then (exponent? s).map fun x => (Lexeme.exponent x.1, x.2) else none).or <|
      name.or <|
      (if f.ellipsis then (after? ['.', '.', '.'] s).map (Lexeme.ellipsis, ·) else none).or <|
      ((after? ['[', '*', ']'] s).map (Lexeme.splat, ·)).or <|
      ((operator? s).map fun x => (Lexeme.operator x.1, x.2)).or <|
      ((after? ['=', '>'] s).map (Lexeme.arrow, ·)).or <|
      (if f.colons then (after? [':', ':'] s).map (Lexeme.colons, ·) else none).or <|
      ((after? ['.', '*'] s).map (Lexeme.dotSplat, ·)).or <| digit.or <|
      (first r (if c = '.' then some .dot else none)).or <|
      (first r (punctuation? c)).or <| first r (bracket? c)
  | .afterEllipsis =>
    newline.or <| ((after? ['i', 'f'] s).map (Lexeme.name ['i', 'f'], ·)).or <| first r (bracket? c)

/-- The word in a quoted text. -/
def wordInString (s : Text) : Option (Lexeme × Text) :=
  match escapedHole? s with
  | some x => some (.escaped x.1, x.2)
  | none =>
    match stringChars s with
    | (c :: t, rest) => some (.chars (c :: t), rest)
    | ([], _) =>
      ((after? ['$', '{'] s).map (Lexeme.hole, ·)).or ((after? ['"'] s).map (Lexeme.quote, ·))

def Mode.allowsEquals : Mode → Bool
  | .operand f => f.equals
  | _ => false

/-- A place in the text: the next word with the text from its start on and the text behind it, and the text
from the start of the word before. There is no next word at the end or where nothing fits. -/
structure Cursor where
  word : Option Lexeme
  start : Text
  rest : Text
  last : Text
  deriving Repr

/-- Looks at the word that `s` begins with. -/
def Cursor.at (mode : Mode) (last s : Text) : Cursor :=
  match mode with
  | .inString =>
    match wordInString s with
    | some (word, rest) => ⟨some word, s, rest, last⟩
    | none => ⟨none, s, s, last⟩
  | mode =>
    match if mode.allowsEquals then equals? s else none with
    | some rest => ⟨some .equals, s, rest, last⟩
    | none =>
      match skipSpaces s with
      | [] => ⟨none, [], [], last⟩
      | c :: r =>
        match wordAt mode c r with
        | some (word, rest) => ⟨some word, c :: r, rest, last⟩
        | none => ⟨none, c :: r, c :: r, last⟩

/-- Takes the next word; the mode tells what may follow it. -/
def Cursor.advance (c : Cursor) (mode : Mode) : Cursor := Cursor.at mode c.start c.rest

/-- Where a word that cannot stand here is reported: at its start, and at the end of the text at the start of
the last word. -/
def Cursor.unexpected (c : Cursor) : Text := if c.start.isEmpty then c.last else c.start

end JujuMigration.Strict
