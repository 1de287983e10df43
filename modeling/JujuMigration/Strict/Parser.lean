import JujuMigration.Source.Position
import JujuMigration.Strict.Grammar
import JujuMigration.Strict.Lexeme
/-! Reading by the strict grammar. Each function takes the place where its construct begins and returns what it
has read and the place behind it; if the next word cannot stand there, it returns the text from which on
that is reported. Line ends are words: between items, in brackets and around the signs of a conditional and
of a comprehension they may stand, and a binary operation takes those behind it, so that it can go on with a
further operator on the next line. The first argument bounds the depth of the calls; `parse` gives a bound
that no text exceeds. -/

namespace JujuMigration.Strict

namespace Cursor

def fail {α : Type} (c : Cursor) : Except Text α := .error c.unexpected

def expect (c : Cursor) (word : Lexeme) (mode : Mode) : Except Text Cursor :=
  if c.word = some word then .ok (c.advance mode) else c.fail

def isAt (c : Cursor) (word : Lexeme) : Bool := c.word = some word

def atKeyword (c : Cursor) (t : String) : Bool := c.isAt (.name t.toList)

def expectKeyword (c : Cursor) (t : String) : Except Text Cursor := c.expect (.name t.toList) .start

/-- Takes as many line ends and comments as there are, at most `bound`. -/
def skipNewlinesUpTo : Nat → Cursor → Cursor
  | 0, c => c
  | bound + 1, c => if c.isAt .newline then skipNewlinesUpTo bound (c.advance .afterNewline) else c

def skipNewlines (c : Cursor) : Cursor := if c.isAt .newline then skipNewlinesUpTo c.start.length c else c

/-- Takes the digits, at most `bound`; blanks between them are not part of the number. -/
def digitsUpTo : Nat → Text → Cursor → Text × Cursor
  | 0, done, c => (done, c)
  | bound + 1, done, c =>
    match c.word with
    | some (.digit d) => digitsUpTo bound (done ++ [d]) (c.advance .afterDigit)
    | _ => (done, c)

/-- Takes at least one digit. -/
def digits (c : Cursor) : Except Text (Text × Cursor) :=
  match digitsUpTo c.start.length [] c with
  | ([], _) => c.fail
  | (ds, c) => .ok (ds, c)

def identifier (c : Cursor) (mode : Mode) : Except Text (Text × Cursor) :=
  match c.word with
  | some (.name t) => .ok (t, c.advance mode)
  | _ => c.fail

/-- Takes a number: digits or a negative digit with digits, then perhaps a fraction and an exponent. A dot
behind digits always begins a fraction. -/
def number (c : Cursor) : Except Text (Expr × Cursor) := do
  let (whole, c) ←
    match c.word with
    | some (.negative d) => .ok (digitsUpTo c.start.length ['-', d] (c.advance .afterDigit))
    | _ => c.digits
  let (fraction, c) ←
    if c.isAt .dot then do
      let (ds, c) ← (c.advance .start).digits
      pure ('.' :: ds, c)
    else pure ([], c)
  match c.word with
  | some (.exponent t) => .ok (.decimal (whole ++ fraction ++ t), c.advance .afterQuote)
  | _ => .ok (if fraction.isEmpty then .integer whole else .decimal (whole ++ fraction), c)

end Cursor

/-- Joins further names to an attribute path, each behind a dot. -/
def dottedUpTo : Nat → Expr → Cursor → Except Text (Expr × Cursor)
  | 0, _, c => c.fail
  | bound + 1, e, c =>
    if c.isAt .dot then do
      let (t, c) ← (c.advance .start).identifier .afterName
      dottedUpTo bound (.attributeOf e t) c
    else .ok (e, c)

mutual

/-- An expression: an operand, then any operators. -/
def parseExpr : Nat → Cursor → Except Text (Expr × Cursor)
  | 0, c => c.fail
  | n + 1, c => do
    let (e, c) ← parseOperand n c
    parseOperators n e c

/-- Goes on behind a complete expression. Operators associate to the right. -/
def parseOperators : Nat → Expr → Cursor → Except Text (Expr × Cursor)
  | 0, _, c => c.fail
  | n + 1, e, c =>
    match c.word with
    | some (.operator op) => do
      let (right, c) ← parseExpr n (c.advance .start).skipNewlines
      parseOperators n (.binary e op right) c.skipNewlines
    | some .question => do
      let (yes, c) ← parseExpr n (c.advance .start).skipNewlines
      let c ← c.skipNewlines.expect .colon .start
      let (no, c) ← parseExpr n c.skipNewlines
      .ok (.conditional e yes no, c)
    | _ => .ok (e, c)

/-- A term, perhaps with one sign in front. -/
def parseOperand : Nat → Cursor → Except Text (Expr × Cursor)
  | 0, c => c.fail
  | n + 1, c =>
    match c.word with
    | some .minus => do
      let (e, c) ← parseTerm n (c.advance .start)
      .ok (.unary ['-'] e, c)
    | some .bang => do
      let (e, c) ← parseTerm n (c.advance .start)
      .ok (.unary ['!'] e, c)
    | _ => parseTerm n c

def parseTerm : Nat → Cursor → Except Text (Expr × Cursor)
  | 0, c => c.fail
  | n + 1, c =>
    match c.word with
    | some (.name t) => parseNamed n t (c.advance .afterName)
    | some (.digit _) | some (.negative _) => do
      let (e, c) ← c.number
      parseSuffixes n e c
    | some .quote => do
      let (parts, c) ← parseTemplate n [] (c.advance .inString)
      parseSuffixes n (.template parts) c
    | some (.heredoc t) => parseSuffixes n (.heredoc false t) (c.advance .afterOperand)
    | some (.trimmedHeredoc t) => parseSuffixes n (.heredoc true t) (c.advance .afterOperand)
    | some .leftParen => do
      let (e, c) ← parseExpr n (c.advance .start).skipNewlines
      let c ← c.skipNewlines.expect .rightParen .afterOperand
      parseSuffixes n (.group e) c
    | some .leftBracket => do
      let (e, c) ← parseBrackets n (c.advance .start)
      parseSuffixes n e c
    | some .leftBrace => do
      let (e, c) ← parseBraces n (c.advance .start)
      parseSuffixes n e c
    | _ => c.fail

/-- A term that begins with a name: a call, a provider's call or the name itself. -/
def parseNamed : Nat → Text → Cursor → Except Text (Expr × Cursor)
  | 0, _, c => c.fail
  | n + 1, t, c =>
    match c.word with
    | some .leftParen => do
      let (es, c) ← parseArguments n [] (c.advance .start).skipNewlines
      parseSuffixes n (.call [t] es) c
    | some .colons => do
      let (t₂, c) ← (c.advance .start).identifier .afterName
      let c ← c.expect .colons .start
      let (t₃, c) ← c.identifier .afterName
      let c ← c.expect .leftParen .start
      let (es, c) ← parseArguments n [] c.skipNewlines
      parseSuffixes n (.call [t, t₂, t₃] es) c
    | _ => parseSuffixes n (.name t) c

/-- Arguments up to the closing parenthesis; `done` holds those before, and no line end comes next. The last
comma may end the arguments, but only if it stands on the line of the argument before it. -/
def parseArguments : Nat → List Expr → Cursor → Except Text (List Expr × Cursor)
  | 0, _, c => c.fail
  | n + 1, done, c =>
    if c.isAt .rightParen then .ok (done, c.advance .afterOperand)
    else do
      let (e, c) ← parseExpr n c
      let done := done ++ [e]
      if c.isAt .ellipsis then
        let c ← (c.advance .afterEllipsis).skipNewlines.expect .rightParen .afterOperand
        .ok (done, c)
      else
        let ended := c.isAt .newline
        let c := c.skipNewlines
        if c.isAt .rightParen then .ok (done, c.advance .afterOperand)
        else
          let c := (← c.expect .comma .start).skipNewlines
          if ended && c.isAt .rightParen then c.fail else parseArguments n done c

/-- Indexes, attributes and splats behind a term. -/
def parseSuffixes : Nat → Expr → Cursor → Except Text (Expr × Cursor)
  | 0, _, c => c.fail
  | n + 1, e, c =>
    match c.word with
    | some .dot =>
      let c := c.advance .start
      match c.word with
      | some (.digit _) => do
        let (ds, c) ← c.digits
        parseSuffixes n (.digitOf e ds) c
      | _ => do
        let (t, c) ← c.identifier .afterName
        parseSuffixes n (.attributeOf e t) c
    | some .leftBracket => do
      let (i, c) ← parseExpr n (c.advance .start).skipNewlines
      let c ← c.skipNewlines.expect .rightBracket .afterOperand
      parseSuffixes n (.indexOf e i) c
    | some .splat => parseSuffixes n (.splat e) (c.advance .afterOperand)
    | some .dotSplat => do
      let (e, c) ← dottedUpTo (n + 1) (.dotSplat e) (c.advance .afterOperand)
      parseSuffixes n e c
    | _ => .ok (e, c)

/-- The parts of a quoted text up to the closing quote. -/
def parseTemplate : Nat → List (Part Expr) → Cursor → Except Text (List (Part Expr) × Cursor)
  | 0, _, c => c.fail
  | n + 1, done, c =>
    match c.word with
    | some (.chars t) => parseTemplate n (done ++ [.chars t]) (c.advance .inString)
    | some (.escaped t) => parseTemplate n (done ++ [.chars t]) (c.advance .inString)
    | some .hole => do
      let (e, c) ← parseExpr n (c.advance .start)
      let c ← c.expect .rightBrace .inString
      parseTemplate n (done ++ [.hole e]) c
    | some .quote => .ok (done, c.advance .afterQuote)
    | _ => c.fail

/-- What stands in brackets: items, or a comprehension. Right behind the bracket the word `for` is an operand
unless a name or a line end follows it; behind a line end it always begins a comprehension. -/
def parseBrackets : Nat → Cursor → Except Text (Expr × Cursor)
  | 0, c => c.fail
  | n + 1, c =>
    if c.isAt .newline then
      let c := c.skipNewlines
      if c.atKeyword "for" then parseForTuple n (c.advance .start)
      else do
        let (es, c) ← parseItems n [] c
        .ok (.tuple es, c)
    else if c.atKeyword "for" then
      let c := c.advance .afterFor
      match c.word with
      | some .newline | some (.name _) => parseForTuple n c
      | _ => do
        let (e, c) ← parseNamed n "for".toList c
        let (e, c) ← parseOperators n e c
        let (es, c) ← parseMoreItems n [e] c
        .ok (.tuple es, c)
    else do
      let (es, c) ← parseItems n [] c
      .ok (.tuple es, c)

/-- Items up to the closing bracket; no line end comes next. -/
def parseItems : Nat → List Expr → Cursor → Except Text (List Expr × Cursor)
  | 0, _, c => c.fail
  | n + 1, done, c =>
    if c.isAt .rightBracket then .ok (done, c.advance .afterOperand)
    else do
      let (e, c) ← parseExpr n c
      parseMoreItems n (done ++ [e]) c

/-- Goes on behind an item. -/
def parseMoreItems : Nat → List Expr → Cursor → Except Text (List Expr × Cursor)
  | 0, _, c => c.fail
  | n + 1, done, c =>
    let c := c.skipNewlines
    if c.isAt .rightBracket then .ok (done, c.advance .afterOperand)
    else do
      let c ← c.expect .comma .start
      parseItems n done c.skipNewlines

/-- The names and the source of a comprehension, from behind the word `for` up to the colon. -/
def parseForIntro : Nat → Cursor → Except Text ((Text × Option Text × Expr) × Cursor)
  | 0, c => c.fail
  | n + 1, c => do
    let (key, c) ← c.skipNewlines.identifier .afterName
    let (value, c) ←
      if c.isAt .comma then do
        let (t, c) ← (c.advance .start).identifier .afterName
        pure (some t, c)
      else pure (none, c)
    let c ← c.skipNewlines.expectKeyword "in"
    let (source, c) ← parseExpr n c.skipNewlines
    let c ← c.skipNewlines.expect .colon .start
    .ok ((key, value, source), c.skipNewlines)

/-- The condition of a comprehension, if there is one. -/
def parseGuard : Nat → Cursor → Except Text (Option Expr × Cursor)
  | 0, c => c.fail
  | n + 1, c =>
    if c.atKeyword "if" then do
      let (e, c) ← parseExpr n (c.advance .start).skipNewlines
      .ok (some e, c.skipNewlines)
    else .ok (none, c)

def parseForTuple : Nat → Cursor → Except Text (Expr × Cursor)
  | 0, c => c.fail
  | n + 1, c => do
    let ((key, value, source), c) ← parseForIntro n c
    let (item, c) ← parseExpr n c
    let (guard, c) ← parseGuard n c.skipNewlines
    let c ← c.expect .rightBracket .afterOperand
    .ok (.forTuple key value source item guard, c)

def parseForObject : Nat → Cursor → Except Text (Expr × Cursor)
  | 0, c => c.fail
  | n + 1, c => do
    let ((key, value, source), c) ← parseForIntro n c
    let (itemKey, c) ← parseExpr n c
    let c ← c.expect .arrow .start
    let (item, c) ← parseExpr n c.skipNewlines
    let c := c.skipNewlines
    let grouped := c.isAt .ellipsis
    let c := if grouped then (c.advance .afterEllipsis).skipNewlines else c
    let (guard, c) ← parseGuard n c
    let c ← c.expect .rightBrace .afterOperand
    .ok (.forObject key value source itemKey item grouped guard, c)

/-- What stands in braces: entries, or a comprehension. The word `for` is a key unless a name or a line end
follows it. -/
def parseBraces : Nat → Cursor → Except Text (Expr × Cursor)
  | 0, c => c.fail
  | n + 1, c =>
    let c := c.skipNewlines
    if c.atKeyword "for" then
      let c := c.advance .afterFor
      match c.word with
      | some .newline | some (.name _) => parseForObject n c
      | _ => do
        let (key, c) ← dottedUpTo (n + 1) (.name "for".toList) c
        let (entry, c) ← parseEntryValue n key c
        let (entries, c) ← parseEntries n [entry] c
        .ok (.object entries, c)
    else do
      let (entries, c) ← parseEntries n [] c
      .ok (.object entries, c)

/-- Entries up to the closing brace. A comma may stand right behind an entry. -/
def parseEntries : Nat → List (Expr × Expr) → Cursor → Except Text ((List (Expr × Expr)) × Cursor)
  | 0, _, c => c.fail
  | n + 1, done, c =>
    if c.isAt .rightBrace then .ok (done, c.advance .afterOperand)
    else do
      let (key, c) ← parseKey n c
      let (entry, c) ← parseEntryValue n key c
      parseEntries n (done ++ [entry]) c

/-- The sign and the value behind a key, with the comma or the line ends behind them. -/
def parseEntryValue : Nat → Expr → Cursor → Except Text ((Expr × Expr) × Cursor)
  | 0, _, c => c.fail
  | n + 1, key, c =>
    if c.isAt .equals || c.isAt .colon then do
      let (value, c) ← parseExpr n (c.advance .start)
      .ok ((key, value), (if c.isAt .comma then c.advance .start else c).skipNewlines)
    else c.fail

def parseKey : Nat → Cursor → Except Text (Expr × Cursor)
  | 0, c => c.fail
  | n + 1, c =>
    match c.word with
    | some (.name t) => dottedUpTo (n + 1) (.name t) (c.advance .afterName)
    | some (.digit _) | some (.negative _) => c.number
    | some .quote => do
      let (parts, c) ← parseTemplate n [] (c.advance .inString)
      .ok (.template parts, c)
    | some .leftParen => do
      let (e, c) ← parseExpr n (c.advance .start)
      let c ← c.expect .rightParen .afterQuote
      .ok (.group e, c)
    | _ => c.fail

end

/-- The line on which the suffix `s` of `whole` begins. -/
def lineOf (whole s : Text) : Nat := (Position.ofRest whole s).line

mutual

/-- Items up to the end of the text or, in a block, up to its closing brace, which is left. -/
def parseBody (whole : Text) : Nat → List Item → Cursor → Except Text (List Item × Cursor)
  | 0, _, c => c.fail
  | n + 1, done, c =>
    let c := c.skipNewlines
    match c.word with
    | some (.name t) => do
      let (item, c) ← parseItem whole n t c.start (c.advance .afterName)
      parseBody whole n (done ++ [item]) c
    | _ => .ok (done, c)

/-- An attribute or a block, from behind its first word on; `start` is the text from that word on. -/
def parseItem (whole : Text) : Nat → Text → Text → Cursor → Except Text (Item × Cursor)
  | 0, _, _, c => c.fail
  | n + 1, t, start, c =>
    if c.isAt .equals then do
      let (e, c) ← parseExpr n (c.advance .start)
      .ok (.attribute t e, c)
    else do
      let (labels, c) ← parseLabels whole n [] c
      let c ← c.skipNewlines.expect .leftBrace .start
      let (body, c) ← parseBody whole n [] c
      let stop := c.start
      let c ← c.expect .rightBrace .start
      .ok (.block t labels (lineOf whole start) (lineOf whole stop) body, c)

def parseLabels (whole : Text) : Nat → List Expr → Cursor → Except Text (List Expr × Cursor)
  | 0, _, c => c.fail
  | n + 1, done, c =>
    match c.word with
    | some (.name t) => parseLabels whole n (done ++ [.name t]) (c.advance .afterName)
    | some .quote => do
      let (parts, c) ← parseTemplate n [] (c.advance .inString)
      parseLabels whole n (done ++ [.template parts]) c
    | _ => .ok (done, c)

end

/-- Reads a whole text, which ends with a line end. -/
def parse (whole : Text) : Except Text (List Item) := do
  let (items, c) ← parseBody whole (8 * whole.length + 16) [] (Cursor.at .start whole whole)
  if c.word.isNone && c.start.isEmpty then .ok items else c.fail

end JujuMigration.Strict
