import JujuMigration.Text.Quoted
/-! How a text is written as a YAML scalar: plain where that reads back as the same text, in single quotes where
quotes are needed and none stands in the text, and in double quotes otherwise. A line separator or a next-line
character stays as it is in single quotes and ends a line there. -/

namespace JujuMigration.Yaml

/-! ### Plain texts that would read back as something else -/

def isDigitOrLine (c : Char) : Bool := c.isDigit || c == '_'

def skipSign (t : Text) : Text := if t.head? = some '-' ∨ t.head? = some '+' then t.drop 1 else t

def isOctalDigit (c : Char) : Bool := '0' ≤ c && c ≤ '7'

def isHexDigit (c : Char) : Bool := c.isDigit || ('a' ≤ c && c ≤ 'f') || ('A' ≤ c && c ≤ 'F')

/-- Whether there are characters and all of them are digits or underlines. -/
def allDigits (isDigit : Char → Bool) (t : Text) : Bool :=
  !t.isEmpty && t.all fun c => isDigit c || c == '_'

def opensNumber (t : Text) : Bool := t.head?.any fun c => c.isDigit || c == '-' || c == '+' || c == '.'

def readsAsInt (t : Text) : Bool :=
  opensNumber t &&
    match skipSign t with
    | '0' :: 'b' :: r => allDigits (fun c => c == '0' || c == '1') r
    | '0' :: 'o' :: r => allDigits isOctalDigit r
    | '0' :: 'x' :: r => allDigits isHexDigit r
    | r => allDigits Char.isDigit r

/-- Whether the text is a power of ten; its sign must be there if `signed`. -/
def isPower (signed : Bool) (t : Text) : Bool :=
  match t with
  | e :: r =>
    (e == 'e' || e == 'E') && (!signed || skipSign r ≠ r) && !(skipSign r).isEmpty &&
      (skipSign r).all Char.isDigit
  | [] => false

def infinities : List Text := ["inf", "Inf", "INF"].map String.toList
def notNumbers : List Text := [".nan", ".NaN", ".NAN"].map String.toList

def readsAsFloat (t : Text) : Bool :=
  opensNumber t &&
    (notNumbers.contains t ||
      match skipSign t with
      | '.' :: r =>
        infinities.contains r ||
          !(r.takeWhile isDigitOrLine).isEmpty &&
            ((r.dropWhile isDigitOrLine).isEmpty || isPower true (r.dropWhile isDigitOrLine))
      | r =>
        r.head?.any Char.isDigit &&
          match r.dropWhile isDigitOrLine with
          | '.' :: q => (q.dropWhile isDigitOrLine).isEmpty || isPower false (q.dropWhile isDigitOrLine)
          | q => isPower false q)

/-- The text behind at least `least` and at most `most` digits. -/
def digits? (least most : Nat) (t : Text) : Option Text :=
  let n := min most (t.takeWhile Char.isDigit).length
  if least ≤ n then some (t.drop n) else none

def char? (c : Char) (t : Text) : Option Text := if t.head? = some c then some (t.drop 1) else none

def isGap (c : Char) : Bool := c == ' ' || c == '\t'

/-- Whether the text is a time zone. -/
def isZone (t : Text) : Bool :=
  t = ['Z'] ||
    ((if skipSign t = t then none else digits? 1 2 (skipSign t)).any fun r =>
      r.isEmpty || ((char? ':' r).bind (digits? 2 2)) = some [])

/-- The text behind the separator of date and time. -/
def afterDate? (t : Text) : Option Text :=
  match t with
  | c :: r => if c = 'T' ∨ c = 't' then some r else if isGap c then some (r.dropWhile isGap) else none
  | [] => none

def isDate (t : Text) : Bool :=
  ((digits? 4 4 t).bind (char? '-') |>.bind (digits? 2 2) |>.bind (char? '-') |>.bind (digits? 2 2)) = some []

/-- The text behind a date and the time of the day, to the second. -/
def afterTime? (t : Text) : Option Text := do
  let t ← char? '-' (← digits? 4 4 t)
  let t ← char? '-' (← digits? 1 2 t)
  let t ← afterDate? (← digits? 1 2 t)
  let t ← char? ':' (← digits? 1 2 t)
  let t ← char? ':' (← digits? 2 2 t)
  digits? 2 2 t

def readsAsTimestamp (t : Text) : Bool :=
  isDate t ||
    (afterTime? t).any fun r =>
      let r := ((char? '.' r).map (·.dropWhile Char.isDigit)).getD r
      r.isEmpty || isZone (r.dropWhile isGap)

/-- The words with a meaning of their own. -/
def words : List Text :=
  ["null", "Null", "NULL", "~", "true", "True", "TRUE", "false", "False", "FALSE", "=", "<<"].map String.toList

def readsAsOther (t : Text) : Bool :=
  words.contains t || readsAsInt t || readsAsFloat t || readsAsTimestamp t

/-! ### Marks that begin something else -/

/-- Whether the text begins with a character that no plain text begins with. -/
def opensMark (t : Text) : Bool :=
  match t with
  | c :: r =>
    "#,[]\x7b\x7d&*!|>'\"%@\x60".toList.contains c ||
      ((c == '-' || c == '?' || c == ':') && (r.isEmpty || r.head? = some ' '))
  | [] => false

/-- Whether a colon ends a key or a sign begins a comment somewhere. -/
def holdsMark : Text → Bool
  | ':' :: r => r.isEmpty || r.head? = some ' ' || holdsMark r
  | ' ' :: r => r.head? = some '#' || holdsMark r
  | _ :: r => holdsMark r
  | [] => false

/-! ### Styles -/

/-- Characters that end a line. -/
def isBreak (c : Char) : Bool := c == '\n' || c.toNat == 0x85 || c.toNat == 0x2028 || c.toNat == 0x2029

/-- Characters that stand for themselves in any style. -/
def isOrdinary (c : Char) : Bool :=
  let n := c.toNat
  (0x20 ≤ n && n ≤ 0x7e) || (0xa0 ≤ n && n ≤ 0xfffd && n ≠ 0x2028 && n ≠ 0x2029 && n ≠ 0xfeff) || 0x10000 ≤ n

def isPlain (t : Text) : Bool :=
  !t.isEmpty && t.all isOrdinary && t.head? ≠ some ' ' && t.getLast? ≠ some ' ' && !opensMark t &&
    !holdsMark t && !("---".toList.isPrefixOf t) && !("...".toList.isPrefixOf t) && !readsAsOther t

/-- Whether a space stands beside a character that ends a line. -/
def breaksAtSpace : Text → Bool
  | c :: d :: r => (c == ' ' && isBreak d) || (isBreak c && d == ' ') || breaksAtSpace (d :: r)
  | _ => false

/-- Whether single quotes are enough. -/
def isVerbatim (t : Text) : Bool :=
  (t.all fun c => c ≠ '\'' && c ≠ '\n' && (isOrdinary c || isBreak c)) && !breaksAtSpace t

/-! ### Double quotes -/

/-- The letters of the short escapes. -/
def shortEscapes : List (Nat × Char) :=
  [(0, '0'), (7, 'a'), (8, 'b'), (9, 't'), (10, 'n'), (11, 'v'), (12, 'f'), (13, 'r'), (27, 'e'), (34, '"'),
    (92, '\\'), (0x85, 'N'), (0x2028, 'L'), (0x2029, 'P')]

def escapeChar (c : Char) : Text :=
  let n := c.toNat
  match shortEscapes.lookup n with
  | some e => ['\\', e]
  | none =>
    if isOrdinary c then [c]
    else if n ≤ 0xff then '\\' :: 'x' :: (Text.hexadecimal 2 n).map Char.toUpper
    else if n ≤ 0xffff then '\\' :: 'u' :: (Text.hexadecimal 4 n).map Char.toUpper
    else '\\' :: 'U' :: (Text.hexadecimal 8 n).map Char.toUpper

def doubleQuoted (t : Text) : Text := '"' :: (t.flatMap escapeChar ++ ['"'])

/-- A line and the character that ends it. -/
structure Line where
  text : Text
  ending : Char := '\n'
  deriving DecidableEq, Repr

/-- The lines of a text, the last of them with a line feed. -/
def breakLines : Text → List Line
  | [] => [⟨[], '\n'⟩]
  | c :: r =>
    if isBreak c then ⟨[], c⟩ :: breakLines r
    else match breakLines r with
      | [] => [⟨[c], '\n'⟩]
      | line :: lines => { line with text := c :: line.text } :: lines

/-- The text as a scalar. -/
def scalar (t : Text) : List Line :=
  if isPlain t then [⟨t, '\n'⟩]
  else if isVerbatim t then breakLines ('\'' :: (t ++ ['\'']))
  else [⟨doubleQuoted t, '\n'⟩]

/-- A key stands in front of its colon if it has one line and is short; the mark of its type counts five. -/
def isSimpleKey (t : Text) : Bool := t.length + 5 < 128 && !t.any isBreak

example : scalar "a: b".toList = [⟨"'a: b'".toList, '\n'⟩] := by decide +kernel
example : scalar "12:30:45".toList = [⟨"12:30:45".toList, '\n'⟩] := by decide +kernel
example : scalar "it's: so".toList = [⟨"\"it's: so\"".toList, '\n'⟩] := by decide +kernel
example : scalar "a\u2028b".toList = [⟨"'a".toList, Char.ofNat 0x2028⟩, ⟨"b'".toList, '\n'⟩] := by decide +kernel
example : (["017", "-.inf", "1_000", "2000-1-1 0:00:00", "1e3"].map fun t => isPlain t.toList) =
    [false, false, false, false, false] := by decide +kernel

end JujuMigration.Yaml
