import JujuMigration.Strict.Grammar
import JujuMigration.Strict.Lexeme
import JujuMigration.Strict.Value
/-! Evaluation of what the strict grammar has read. The parts of a construct are evaluated before the
construct, from left to right, and the first that has no value decides. -/

namespace JujuMigration.Strict

/-- Why something that the grammar accepts has no value. -/
inductive Defect
  /-- The name of an attribute stands a second time, for an attribute or a block. -/
  | repeatedName
  /-- A key in parentheses is no text. -/
  | keyWithoutText
  /-- The line of a heredoc's marker goes on behind the marker. -/
  | openMarker (trimmed : Bool)
  deriving DecidableEq, Repr

/-- The construct that the defect concerns. -/
def Defect.construct : Defect → String
  | .repeatedName => "body"
  | .keyWithoutText => "object_elem_key_expression"
  | .openMarker false => "heredoc_template"
  | .openMarker true => "heredoc_template_trim"

def Defect.message (d : Defect) : String := s!"Error trying to process rule \"{d.construct}\":"

/-- The value of a number with a fraction or a power of ten; with a power marked by a small `e`, the text. -/
def decimalValue (t : Text) : Value := if 'e' ∈ t then (Value.text t).wrap else .number (.ofLiteral t)

def nameValue (t : Text) : Value :=
  if t = "true".toList then .bool true
  else if t = "false".toList then .bool false
  else if t = "null".toList then .null
  else .text t

def isHeredocBlank (c : Char) : Bool := c == '\n' || c == '\t' || c == ' '

/-- The part of `s` in front of the last occurrence of `p`. -/
def beforeLast? (p : Text) : Text → Option Text
  | [] => if p.isEmpty then some [] else none
  | c :: r =>
    match beforeLast? p r with
    | some t => some (c :: t)
    | none => if p.isPrefixOf (c :: r) then some [] else none

/-- The lines without the indentation that all of them share. -/
def dedent (t : Text) : Text :=
  let lines := Text.splitAt (· = '\n') t
  let indent := ((lines.map fun l => (l.takeWhile (· = ' ')).length).min?).getD 0
  Text.join ['\n'] (lines.map (·.drop indent))

/-- The text of a heredoc in double quotes. Its marker is all of the word that opens it, and ends the line; the
text goes on up to the last place where the marker stands, and what is behind that is left out. -/
def heredocValue (trimmed : Bool) (t : Text) : Except Defect Value :=
  let opened := t.drop (if trimmed then 3 else 2)
  let marker := opened.takeWhile isMarkerChar
  match opened.dropWhile isMarkerChar with
  | '\n' :: lines =>
    match beforeLast? marker lines with
    | none => .error (.openMarker trimmed)
    | some body =>
      let body := Text.trimEnd isHeredocBlank body
      .ok (.text ('"' :: ((if trimmed then dedent body else body) ++ ['"'])))
  | _ => .error (.openMarker trimmed)

/-- A key in parentheses, which stay. -/
def groupKey : Value → Except Defect Text
  | .text t => .ok (Value.wrap (.text ('(' :: (t ++ [')'])))).display
  | _ => .error .keyWithoutText

/-- Whether a hole is opened, and a brace closed behind that, on the first line. -/
def hasHole : Text → Bool
  | [] => false
  | c :: r =>
    if c = '\n' then false
    else (['$', '{'].isPrefixOf (c :: r) && '}' ∈ r.takeWhile (· ≠ '\n')) || hasHole r

/-- A key without its quotes; a key with a hole keeps them. -/
def keyText (t : Text) : Text := if hasHole t then t else bare t

/-- Names joined by dots. A key of this form stands for itself, whatever the names are. -/
def dottedName? : Expr → Option Text
  | .name t => some t
  | .attributeOf e name => (dottedName? e).map (· ++ '.' :: name)
  | _ => none

/-- The word for null as an operand; any other value as it is. -/
def Value.nullWord : Value → Value
  | .null => .text "null".toList
  | v => v

def spaced (ts : List Text) : Text := Text.join [' '] ts

mutual

def Expr.value : Expr → Except Defect Value
  | .name t => .ok (nameValue t)
  | .integer t => .ok (.int (Text.signedValue t))
  | .decimal t => .ok (decimalValue t)
  | .template parts => do .ok (.text ('"' :: ((← partTexts parts).flatten ++ ['"'])))
  | .heredoc trimmed t => heredocValue trimmed t
  | .group e => do .ok (.text ('(' :: ((← e.value).display ++ [')'])))
  | .tuple items => do .ok (.list ((← values items).map Value.wrap))
  | .object entries => do .ok (.object (← entryValues [] entries))
  | .call name arguments => do
    let shown := (← values arguments).map (·.nullWord.inline)
    .ok (.text (Text.join [':', ':'] name ++ '(' :: (Text.join [',', ' '] shown ++ [')'])))
  | .attributeOf e name => do .ok (.text ((← e.value).display ++ '.' :: name))
  | .digitOf e digits => do .ok (.text ((← e.value).display ++ '[' :: (digits.take 1 ++ [']'])))
  | .indexOf e index => do .ok (.text ((← e.value).display ++ '[' :: ((← index.value).display ++ [']'])))
  | .splat e => do .ok (.text ((← e.value).display ++ ['[', '*', ']']))
  | .dotSplat e => do .ok (.text ((← e.value).display ++ ['.', '*']))
  | .unary operator e => do .ok (.text (operator ++ (← e.value).nullWord.inline))
  | .binary left operator right => do
    -- Only the operand in front of the operator leaves its hole.
    let left := unhole (← left.value).inline
    .ok (.text (spaced [left, operator, (← right.value).nullWord.inline]))
  | .conditional condition yes no => do
    let condition := (← condition.value).nullWord.display
    let yes := (← yes.value).nullWord.display
    .ok (.text (spaced [condition, ['?'], yes, [':'], (← no.value).nullWord.display]))
  | .forTuple key second source item guard => do
    let intro := forIntro key second (← source.value)
    let shown := (← item.value).inline
    .ok (.text ('[' :: (spaced ([intro, shown] ++ (← guardTexts guard)) ++ [']'])))
  | .forObject key second source itemKey item grouped guard => do
    let intro := forIntro key second (← source.value)
    let shownKey := (← itemKey.value).inline
    let shown := (← item.value).inline
    let dots := if grouped then ["...".toList] else []
    let guard ← guardTexts guard
    .ok (.text ('{' :: (spaced ([intro, shownKey, ['=', '>'], shown] ++ dots ++ guard) ++ ['}'])))
where
  /-- The head of a comprehension up to its colon. -/
  forIntro (key : Text) (second : Option Text) (source : Value) : Text :=
    spaced (["for".toList, key] ++ (second.map fun t => [[','], t]).getD [] ++
      ["in".toList, source.inline, [':']])

def values : List Expr → Except Defect (List Value)
  | [] => .ok []
  | e :: es => do
    let v ← e.value
    .ok (v :: (← values es))

/-- The texts of the parts of a quoted text. -/
def partTexts : List (Part Expr) → Except Defect (List Text)
  | [] => .ok []
  | .chars t :: ps => do .ok (t :: (← partTexts ps))
  | .hole e :: ps => do
    let v ← e.value
    .ok (('$' :: '{' :: (v.display ++ ['}'])) :: (← partTexts ps))

def guardTexts : Option Expr → Except Defect (List Text)
  | none => .ok []
  | some e => do .ok [spaced ["if".toList, (← e.value).inline]]

/-- The entries of an object, put behind those in `done`. -/
def entryValues (done : List (Text × Value)) : List (Expr × Expr) → Except Defect (List (Text × Value))
  | [] => .ok done
  | (.group e, item) :: es => do
    let key ← groupKey (← e.value)
    entryValues (setEntry (keyText key) (← item.value).wrap done) es
  | (key, item) :: es => do
    let key := (dottedName? key).getD (← key.value).display
    entryValues (setEntry (keyText key) (← item.value).wrap done) es

end

end JujuMigration.Strict
