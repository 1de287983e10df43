import JujuMigration.Proofs.Strict.Closing
/-! Expressions that end alike. A name with attributes behind it, a quoted text without escapes and holes, a heredoc
that its whole marker closes and whatever is an expression of its own are read by the strict grammar up to the end of
the line or the brace at which the tree ends them. -/

namespace JujuMigration.Strict

open Source Text

/-- The strict grammar reads the expression `e` from the text of `expr` in front of `rest`, and ends where `rest`
begins. -/
def ReadsTo (expr rest : Text) (e : Expr) : Prop := ∀ last, ∃ c : Cursor,
  (∀ m, 8 * (source (expr ++ rest)).length ≤ m →
    parseExpr m (Cursor.at .start last (source (expr ++ rest))) = .ok (e, c)) ∧
  c.skipNewlines.Same (settled (source rest))

theorem ReadsTo.endsAt {expr rest : Text} {e : Expr} (h : ReadsTo expr rest e) : EndsAt expr rest := by
  intro n last e' c' hread
  obtain ⟨c, hall, hsettles⟩ := h last
  rw [(parseExpr_unique (Cursor.at_consumes _ _ _) hread (hall _ (Nat.le_refl _))).2]
  exact hsettles

section

variable {last rest behind r : Text} {c c' : Cursor} {n : Nat} {e e' : Expr}

theorem parseSuffixes_of_closes (hc : c.Closes rest) (n : Nat) (e : Expr) : parseSuffixes (n + 1) e c = .ok (e, c) := by
  rw [parseSuffixes]
  split
  · next hw => cases hc.quiet hw
  · next hw => cases hc.quiet hw
  · next hw => cases hc.quiet hw
  · next hw => cases hc.quiet hw
  · rfl

theorem parseOperators_of_closes (hc : c.Closes rest) (n : Nat) (e : Expr) :
    parseOperators (n + 1) e c = .ok (e, c) := by
  rw [parseOperators]
  split
  · next hw => cases hc.quiet hw
  · next hw => cases hc.quiet hw
  · rfl

/-- Where no sign stands an operand is a term. -/
theorem parseOperand_of_ne (hminus : c.word ≠ some .minus) (hbang : c.word ≠ some .bang) (n : Nat) :
    parseOperand (n + 1) c = parseTerm n c := by
  rw [parseOperand]
  split
  · next hw => exact absurd hw hminus
  · next hw => exact absurd hw hbang
  · rfl

/-- An expression that begins with no sign is its first term, if the line ends there. -/
theorem parseExpr_of_term (hminus : c.word ≠ some .minus) (hbang : c.word ≠ some .bang)
    (hterm : parseTerm n c = .ok (e, c')) (hcloses : c'.Closes rest) : parseExpr (n + 2) c = .ok (e, c') := by
  rw [parseExpr, parseOperand_of_ne hminus hbang, hterm]
  exact parseOperators_of_closes hcloses n e

theorem parseExpr_of_none (h : c.word = none) (n : Nat) (x : Expr × Cursor) : parseExpr n c ≠ .ok x := by
  intro hx
  rcases n with _ | _ | _ | n
  · cases hx
  · cases hx
  · rw [parseExpr, parseOperand_of_ne (by simp [h]) (by simp [h])] at hx
    cases hx
  · rw [parseExpr, parseOperand_of_ne (by simp [h]) (by simp [h]), parseTerm_succ, h] at hx
    cases hx

/-! ### Names with attributes -/

/-- Attributes behind a name. -/
def dotted (names : List Text) : Text := names.flatMap ('.' :: ·)

theorem dotted_cons (name : Text) (names : List Text) (rest : Text) :
    dotted (name :: names) ++ rest = '.' :: (name ++ (dotted names ++ rest)) := by
  simp [dotted]

theorem head?_of_skipLineTail (h : skipLineTail rest = .ok behind) : rest.head?.any isIdentChar = false := by
  by_contra hany
  obtain ⟨d, hd, hident⟩ : ∃ d, rest.head? = some d ∧ isIdentChar d = true := by
    cases hd : rest.head? <;> simp_all
  obtain ⟨r, rfl⟩ := List.head?_eq_some_iff.1 hd
  have hne (x : Char) (hx : isIdentChar x = false) : d ≠ x := by
    rintro rfl
    cases hident.symm.trans hx
  have hspace : isSpace d = false := by simp [isSpace, hne ' ' (by decide), hne '\t' (by decide)]
  have hcomment : opensComment (d :: r) = false := Bool.eq_false_iff.2 fun ho => by
    rcases head?_of_opensComment ho with ho | ho
    · exact hne '#' (by decide) (Option.some.inj ho)
    · exact hne '/' (by decide) (Option.some.inj ho)
  rw [skipLineTail_error (skipSpaces_self (by simpa using hspace))
    ⟨hne _ (by decide), hne _ (by decide), hne _ (by decide)⟩ hcomment] at h
  cases h

theorem readIdentifier_dotted {name : Text} (hname : IsIdentifier name) (names : List Text)
    (h : skipLineTail rest = .ok behind) :
    readIdentifier (name ++ (dotted names ++ rest)) = .ok (name, dotted names ++ rest) := by
  refine readIdentifier_of_isIdentifier hname ?_
  cases names with
  | nil => exact head?_of_skipLineTail h
  | cons name names => rfl

theorem at_dotted {mode : Mode} (hmode : mode.IsFresh) {name : Text} (hname : IsIdentifier name) (names : List Text)
    (h : skipLineTail rest = .ok behind) :
    Cursor.at mode last (source (name ++ (dotted names ++ rest))) =
      ⟨some (.name name), source (name ++ (dotted names ++ rest)), source (dotted names ++ rest), last⟩ :=
  Cursor.at_name hmode (readIdentifier_source (readIdentifier_dotted hname names h))

theorem wordAt_dot {d : Char} {r : Text} (hd : isIdentStart d = true) :
    wordAt .afterName '.' (d :: r) = some (.dot, d :: r) := by
  have hne : d ≠ '.' ∧ d ≠ '*' := by
    constructor <;> rintro rfl <;> cases hd
  have hdots : after? ['.', '.', '.'] ('.' :: d :: r) = none := by simp [after?, Ne.symm hne.1]
  have hsplat : after? ['.', '*'] ('.' :: d :: r) = none := by simp [after?, Ne.symm hne.2]
  simp only [wordAt, Mode.afterName, hdots, hsplat]
  rfl

theorem at_dot {s : Text} (h : opensIdentifier s = true) :
    Cursor.at .afterName last (source ('.' :: s)) = ⟨some .dot, '.' :: source s, source s, last⟩ := by
  obtain ⟨name, x, hread⟩ := exists_readIdentifier h
  have ho := opensIdentifier_of_readIdentifier (readIdentifier_source hread)
  obtain ⟨d, r, hs, -⟩ := isIdentStart_cases ho
  rw [source_cons_of_ne (by decide), hs]
  exact at_next (by simp [Mode.afterName]) (skipSpaces_self rfl) (by decide) (wordAt_dot (by rw [hs] at ho; exact ho))

theorem length_dotted (names : List Text) (rest : Text) :
    names.length + 1 ≤ (source (dotted names ++ rest)).length := by
  induction names with
  | nil => simp [source]
  | cons name names ih =>
      have hle := (source_suffix name (dotted names ++ rest)).length_le
      rw [dotted_cons, source_cons_of_ne (by decide), List.length_cons, List.length_cons]
      omega

/-- Attributes are read one behind the other. -/
theorem parseSuffixes_dotted {names : List Text} (hnames : ∀ name ∈ names, IsIdentifier name)
    (hrest : skipLineTail rest = .ok behind) (e : Expr) (last : Text) : ∃ c, c.Closes rest ∧
      ∀ n, parseSuffixes (names.length + n + 1) e (Cursor.at .afterName last (source (dotted names ++ rest))) =
        .ok (names.foldl .attributeOf e, c) := by
  induction names generalizing e last with
  | nil =>
      have hcloses : (Cursor.at .afterName last (source rest)).Closes rest :=
        closes_tail (by simp [Mode.afterName]) hrest
      exact ⟨_, hcloses, fun n => parseSuffixes_of_closes hcloses _ e⟩
  | cons name names ih =>
      obtain ⟨hname, hnames⟩ := List.forall_mem_cons.1 hnames
      have ho := opensIdentifier_of_readIdentifier (readIdentifier_dotted hname names hrest)
      obtain ⟨c, hcloses, hread⟩ := ih hnames (.attributeOf e name) (source (name ++ (dotted names ++ rest)))
      refine ⟨c, hcloses, fun n => ?_⟩
      rw [dotted_cons, at_dot ho, List.length_cons, Nat.add_right_comm _ 1 n, parseSuffixes]
      simp only [Cursor.advance, at_dotted .start hname names hrest, Cursor.identifier, bind, Except.bind]
      exact hread n

/-- A name that is followed by attributes is not called. -/
theorem word_dotted (last : Text) {names : List Text} (hnames : ∀ name ∈ names, IsIdentifier name)
    (hrest : skipLineTail rest = .ok behind) :
    (Cursor.at .afterName last (source (dotted names ++ rest))).word ≠ some .leftParen ∧
      (Cursor.at .afterName last (source (dotted names ++ rest))).word ≠ some .colons := by
  cases names with
  | nil =>
      have hcloses : (Cursor.at .afterName last (source rest)).Closes rest :=
        closes_tail (by simp [Mode.afterName]) hrest
      exact ⟨fun hw => absurd (hcloses.quiet hw) (by decide), fun hw => absurd (hcloses.quiet hw) (by decide)⟩
  | cons name names =>
      have hname := readIdentifier_dotted (hnames name List.mem_cons_self) names hrest
      rw [dotted_cons, at_dot (opensIdentifier_of_readIdentifier hname)]
      simp

theorem parseNamed_suffixes {t : Text} (hparen : c.word ≠ some .leftParen) (hcolons : c.word ≠ some .colons) :
    parseNamed (n + 1) t c = parseSuffixes n (.name t) c := by
  rw [parseNamed]
  split
  · next h => exact absurd h hparen
  · next h => exact absurd h hcolons
  · rfl

/-- A name with attributes behind it is read up to the last of them. -/
theorem readsTo_dotted {name : Text} {names : List Text} (hname : IsIdentifier name)
    (hnames : ∀ name ∈ names, IsIdentifier name) (hrest : skipLineTail rest = .ok behind) :
    ReadsTo (name ++ dotted names) rest (names.foldl .attributeOf (.name name)) := by
  intro last
  have hlength := (length_dotted names rest).trans (source_suffix name _).length_le
  rw [List.append_assoc, at_dotted .start hname names hrest]
  obtain ⟨hparen, hcolons⟩ := word_dotted (source (name ++ (dotted names ++ rest))) hnames hrest
  obtain ⟨c, hcloses, hread⟩ := parseSuffixes_dotted hnames hrest (.name name) (source (name ++ (dotted names ++ rest)))
  refine ⟨c, fun m hm => ?_, hcloses.settles⟩
  obtain ⟨n, rfl⟩ : ∃ n, m = names.length + n + 5 := ⟨m - (names.length + 5), by omega⟩
  refine parseExpr_of_term (by simp) (by simp) ?_ hcloses
  rw [parseTerm_succ]
  dsimp only
  rw [Cursor.advance, parseNamed_suffixes hparen hcolons]
  exact hread n

/-! ### Quoted texts -/

/-- A verbatim text in quotes is read up to its closing quote. -/
theorem readsTo_quoted {t : Text} (ht : IsVerbatim t) (hline : '\n' ∉ t) (hrest : skipLineTail rest = .ok behind) :
    ReadsTo ('"' :: (t ++ ['"'])) rest (.template (verbatimParts t)) := by
  intro last
  have hsource : source ('"' :: (t ++ ['"']) ++ rest) = '"' :: (t ++ '"' :: source rest) := by
    have htext : '"' :: (t ++ ['"']) ++ rest = '"' :: (t ++ '"' :: rest) := by simp
    rw [htext, source_cons_of_ne (by decide), source_append _ (by simp), withoutReturns_of_not_mem hline,
      source_cons_of_ne (by decide)]
  have hat : Cursor.at .start last (source ('"' :: (t ++ ['"']) ++ rest)) =
      ⟨some .quote, '"' :: (t ++ '"' :: source rest), t ++ '"' :: source rest, last⟩ := by
    rw [hsource]
    rfl
  have hcloses : (Cursor.at .afterQuote ('"' :: source rest) (source rest)).Closes rest :=
    closes_tail (by simp [Mode.afterQuote]) hrest
  refine ⟨_, fun m hm => ?_, hcloses.settles⟩
  have hlength : 0 < (source ('"' :: (t ++ ['"']) ++ rest)).length := by simp [source]
  obtain ⟨n, rfl⟩ : ∃ n, m = n + 5 := ⟨m - 5, by omega⟩
  rw [hat]
  refine parseExpr_of_term (by simp) (by simp) ?_ hcloses
  rw [parseTerm_succ]
  dsimp only
  rw [Cursor.advance, parseTemplate_verbatim ht]
  exact parseSuffixes_of_closes hcloses _ _

/-! ### Whole expressions -/

theorem IsWhole.source_append {expr : Text} (h : IsWhole (withoutReturns expr)) (rest : Text) :
    source (expr ++ rest) = withoutReturns expr ++ source rest := by
  refine source_append_of_last expr fun hl => ?_
  have hsteady := h.steady.last
  rw [getLast?_withoutReturns, hl] at hsteady
  cases hsteady

/-- What is an expression of its own is read up to its last character. -/
theorem IsWhole.readsTo {expr : Text} (h : IsWhole (withoutReturns expr)) (hrest : Stops (source rest)) :
    ∃ e c, parseExpr (8 * (withoutReturns expr).length + 3) (Cursor.at .start [] (withoutReturns expr)) = .ok (e, c) ∧
      ReadsTo expr rest e := by
  obtain ⟨⟨e, c⟩, hread, hempty⟩ := h.reads
  refine ⟨e, c, hread, fun last => ?_⟩
  obtain ⟨d, hall, hsettles⟩ := parseExpr_append h.steady hread hempty hrest last
  rw [h.source_append]
  have hpos : 0 < (source rest).length := by simp [source]
  refine ⟨d, fun m hm => hall m ?_, hsettles⟩
  rw [List.length_append] at hm
  omega

/-! ### Heredocs -/

/-- The text is an opening of a heredoc and what stands behind it. -/
def Opens (s body : Text) : Prop := s = ['<', '<', '-'] ++ body ∨ s = ['<', '<'] ++ body

/-- What stands behind the opening is closed by the whole word that it begins with, on the last line. -/
def isMarked (body : Text) : Bool :=
  body.head?.any Char.isAlpha && 2 ≤ (body.takeWhile isMarkerChar).length && afterMarkedLines? body = some []

/-- A heredoc that its whole marker closes, in front of the end of its line. -/
def isHeredoc (expr tail : Text) : Bool :=
  (['\n'].isPrefixOf tail || ['\r', '\n'].isPrefixOf tail) &&
    ((after? ['<', '<', '-'] (source expr)).or (after? ['<', '<'] (source expr))).any isMarked

def isTrimmed (s : Text) : Bool := (after? ['<', '<', '-'] s).isSome

/-- The word that a heredoc is, from its opening to the end of its closing line. -/
def heredocWord (s : Text) : Lexeme := if isTrimmed s then .trimmedHeredoc s else .heredoc s

theorem parseTerm_heredoc {s : Text} (h : c.word = some (heredocWord s)) :
    parseTerm (n + 1) c = parseSuffixes n (.heredoc (isTrimmed s) s) (c.advance .afterOperand) := by
  rw [parseTerm_succ, h, heredocWord]
  cases isTrimmed s <;> rfl

section

variable {body expr : Text} (hbody : isMarked body = true)
include hbody

theorem afterHeredoc?_line (t : Text) : afterHeredoc? (body ++ t) = some t := by
  simp only [isMarked, Bool.and_eq_true, decide_eq_true_eq] at hbody
  obtain ⟨⟨halpha, hlength⟩, hlines⟩ := hbody
  have halpha' : (body ++ t).head?.any Char.isAlpha = true := by
    cases body with
    | nil => cases halpha
    | cons => exact halpha
  refine afterHeredoc?_of_marked halpha' ?_ (afterMarkedLines?_append halpha hlines)
  rwa [takeWhile_isMarkerChar_append (newline_mem_of_afterMarkedLines? hlines)]

/-- Where a heredoc begins the strict grammar takes all of it, with the line end. -/
theorem heredoc?_of_marked {s : Text} (hs : Opens s body) (t : Text) :
    heredoc? (s ++ t) = some (heredocWord s, t) := by
  have hread := afterHeredoc?_line hbody t
  have hself (p y : Text) : after? p (p ++ y) = some y := by simp [after?]
  rcases hs with rfl | rfl
  · rw [heredoc?, List.append_assoc, hself, Option.bind_some, hread, ← List.append_assoc, Option.map_some,
      Text.before_append, heredocWord, isTrimmed, hself]
    rfl
  · have hother (y : Text) : after? ['<', '<', '-'] (['<', '<'] ++ (body ++ y)) = none := by
      cases body with
      | nil => cases hbody
      | cons a q =>
          have ha : a ≠ '-' := by
            rintro rfl
            cases hbody
          simp [after?, Ne.symm ha]
    have huntrimmed : isTrimmed (['<', '<'] ++ body) = false := by
      rw [isTrimmed, ← List.append_nil body, hother]
      rfl
    rw [heredoc?, List.append_assoc, hother, hself, Option.bind_some, hread, ← List.append_assoc, Option.map_some,
      Text.before_append, heredocWord, huntrimmed]
    rfl

/-- The last line of a heredoc is its marker. -/
theorem getLast?_of_marked (hexpr : Opens (source expr) body) : expr.getLast? ≠ some '\r' := by
  simp only [isMarked, Bool.and_eq_true, decide_eq_true_eq] at hbody
  obtain ⟨⟨halpha, -⟩, hlines⟩ := hbody
  obtain ⟨a, marker, hword, -⟩ := exists_marker halpha
  have hsuffix : body <:+ source expr := by
    rcases hexpr with h | h <;> rw [h] <;> exact List.suffix_append _ _
  obtain ⟨q, hq⟩ := (afterMarkedLines?_suffix hlines).trans hsuffix
  rw [hword, source, ← List.append_assoc] at hq
  have hbody := List.append_cancel_right hq
  have hlast : (a :: marker).getLast (List.cons_ne_nil a marker) ∈ body.takeWhile isMarkerChar := by
    rw [hword]
    exact List.getLast_mem _
  intro h
  rw [← getLast?_withoutReturns, ← hbody, List.getLast?_append_of_ne_nil _ (List.cons_ne_nil a marker),
    List.getLast?_eq_some_getLast (List.cons_ne_nil a marker)] at h
  rw [Option.some.inj h] at hlast
  cases List.mem_takeWhile_imp hlast

end

/-- A heredoc is one word, and behind it an operand has ended. -/
theorem at_heredoc {expr tail : Text} (h : isHeredoc expr tail = true)
    (htail : skipLineTail (tail ++ rest) = .ok behind) (hgap : skipGap behind = .ok r)
    (hr : endsBody r = true ∨ opensIdentifier r = true) (last : Text) :
    (Cursor.at .start last (source (expr ++ (tail ++ rest)))).word = some (heredocWord (source expr)) ∧
      ((Cursor.at .start last (source (expr ++ (tail ++ rest)))).advance .afterOperand).Closes (tail ++ rest) := by
  obtain ⟨hline, body, hexpr, hbody⟩ : source (tail ++ rest) = '\n' :: source behind ∧ ∃ body,
      Opens (source expr) body ∧ isMarked body = true := by
    rw [isHeredoc, Bool.and_eq_true] at h
    obtain ⟨hends, hany⟩ := h
    refine ⟨?_, ?_⟩
    · rw [Bool.or_eq_true, List.isPrefixOf_iff_prefix, List.isPrefixOf_iff_prefix] at hends
      rcases hends with ⟨u, rfl⟩ | ⟨u, rfl⟩
      · obtain rfl := Except.ok.inj ((skipLineTail_line rfl).symm.trans htail)
        exact source_cons_of_ne (by decide) _
      · obtain rfl := Except.ok.inj ((skipLineTail_return rfl).symm.trans htail)
        exact source_return _
    · rw [Option.any_eq_true] at hany
      obtain ⟨body, hbody, hmarked⟩ := hany
      refine ⟨body, ?_, hmarked⟩
      rcases Option.or_eq_some_iff.1 hbody with h | ⟨-, h⟩
      · exact .inl (after?_eq_some h)
      · exact .inr (after?_eq_some h)
  have hsource : source (expr ++ (tail ++ rest)) = source expr ++ source behind := by
    have hline' : source expr ++ source behind = withoutReturns expr ++ '\n' :: source behind := by
      rw [source, List.append_assoc, List.singleton_append]
    rw [source_append_of_last expr fun hl => absurd hl (getLast?_of_marked hbody hexpr), hline, hline']
  have hheredoc := heredoc?_of_marked hbody hexpr (source behind)
  obtain ⟨q, hq⟩ : ∃ q, source expr ++ source behind = '<' :: q := by
    rcases hexpr with h | h <;> exact ⟨_, by rw [h]; rfl⟩
  have hat : Cursor.at .start last (source expr ++ source behind) =
      ⟨some (heredocWord (source expr)), source expr ++ source behind, source behind, last⟩ := by
    rw [hq] at hheredoc ⊢
    refine Cursor.at_of_word (by simp) rfl (skipSpaces_self rfl) ?_
    simp only [wordAt, hheredoc]
    rfl
  rw [hsource, hat]
  have hcloses (last : Text) : (Cursor.at .afterOperand last (source behind)).Closes behind := closes_gap hgap hr
  exact ⟨rfl, (hcloses _).quiet, (hcloses _).settles.trans (hline ▸ (settled_line (source behind)).symm)⟩

theorem heredocWord_ne (s : Text) : some (heredocWord s) ≠ some .minus ∧ some (heredocWord s) ≠ some .bang := by
  unfold heredocWord
  split <;> simp

/-- A heredoc behind which an operand has ended is all of an expression. -/
theorem parseExpr_heredoc {s : Text} (h : c.word = some (heredocWord s))
    (hcloses : (c.advance .afterOperand).Closes rest) (n : Nat) :
    parseExpr (n + 4) c = .ok (.heredoc (isTrimmed s) s, c.advance .afterOperand) := by
  refine parseExpr_of_term (h ▸ (heredocWord_ne s).1) (h ▸ (heredocWord_ne s).2) ?_ hcloses
  rw [parseTerm_heredoc h]
  exact parseSuffixes_of_closes hcloses _ _

theorem readsTo_heredoc {expr tail : Text} (h : isHeredoc expr tail = true)
    (htail : skipLineTail (tail ++ rest) = .ok behind) (hgap : skipGap behind = .ok r)
    (hr : endsBody r = true ∨ opensIdentifier r = true) :
    ReadsTo expr (tail ++ rest) (.heredoc (isTrimmed (source expr)) (source expr)) := by
  intro last
  obtain ⟨hword, hcloses⟩ := at_heredoc h htail hgap hr last
  refine ⟨_, fun m hm => ?_, hcloses.settles⟩
  have hpos : 0 < (source (expr ++ (tail ++ rest))).length := by simp [source]
  obtain ⟨n, rfl⟩ : ∃ n, m = n + 4 := ⟨m - 4, by omega⟩
  exact parseExpr_heredoc hword hcloses n

/-! ### Trees of such expressions -/

theorem splitAt_ne_nil (ends : Char → Bool) (s : Text) : Text.splitAt ends s ≠ [] := by
  unfold Text.splitAt
  split
  · exact List.cons_ne_nil _ _
  · split
    · exact List.cons_ne_nil _ _
    · split <;> exact List.cons_ne_nil _ _

theorem splitAt_append {ends : Char → Bool} {c : Char} (hc : ends c = true) (s t : Text) :
    Text.splitAt ends (s ++ c :: t) = Text.splitAt ends s ++ Text.splitAt ends t := by
  induction s with
  | nil => simp [Text.splitAt, hc]
  | cons d s ih =>
      rw [List.cons_append, Text.splitAt, Text.splitAt, ih]
      split
      · rfl
      · obtain ⟨line, lines, hlines⟩ := List.exists_cons_of_ne_nil (splitAt_ne_nil ends s)
        rw [hlines]
        rfl

theorem splitAt_dot (s : Text) : ∃ t ts, Text.splitAt (· = '.') s = t :: ts ∧ s = t ++ dotted ts := by
  induction s with
  | nil => exact ⟨[], [], rfl, rfl⟩
  | cons c s ih =>
      obtain ⟨t, ts, hsplit, hs⟩ := ih
      by_cases hc : c = '.'
      · exact ⟨[], t :: ts, by simp [Text.splitAt, hc, hsplit], by simp [hc, hs, dotted]⟩
      · exact ⟨c :: t, ts, by simp [Text.splitAt, hc, hsplit], by simp [hs]⟩

/-- A name with attributes behind it. -/
def isReference (expr : Text) : Bool :=
  (Text.splitAt (· = '.') expr).all fun name => opensIdentifier name && name.all isIdentChar

/-- A verbatim quoted text on one line. -/
def isQuoted (expr : Text) : Bool :=
  (unquoted? expr).any fun t => expr = '"' :: (t ++ ['"']) && decide (IsVerbatim t ∧ '\n' ∉ t)

theorem isReference_append (s t : Text) : isReference (s ++ '.' :: t) = (isReference s && isReference t) := by
  rw [isReference, splitAt_append (by decide), List.all_append]
  rfl

/-- A name with attributes behind it, a verbatim quoted text on one line, or an expression of its own. -/
def isOperand (expr : Text) : Bool :=
  isReference expr || isQuoted expr || decide (IsWhole (withoutReturns expr))

theorem exists_dotted {expr : Text} (h : isReference expr = true) : ∃ name names, IsIdentifier name ∧
    (∀ t ∈ names, IsIdentifier t) ∧ expr = name ++ dotted names := by
  obtain ⟨name, names, hsplit, rfl⟩ := splitAt_dot expr
  rw [isReference, hsplit] at h
  have hall : ∀ t ∈ name :: names, IsIdentifier t := fun t ht => by
    have := List.all_eq_true.1 h t ht
    rw [Bool.and_eq_true] at this
    exact isIdentifier_of_all this.1 this.2
  obtain ⟨hname, hnames⟩ := List.forall_mem_cons.1 hall
  exact ⟨name, names, hname, hnames, rfl⟩

theorem exists_verbatim {expr : Text} (h : isQuoted expr = true) :
    ∃ t, expr = '"' :: (t ++ ['"']) ∧ IsVerbatim t ∧ '\n' ∉ t := by
  rw [isQuoted, Option.any_eq_true] at h
  obtain ⟨t, -, h⟩ := h
  rw [Bool.and_eq_true, decide_eq_true_eq, decide_eq_true_eq] at h
  exact ⟨t, h⟩

theorem endsAt_of_isOperand {expr : Text} (h : isOperand expr = true) (hrest : skipLineTail rest = .ok behind)
    (hgap : skipGap behind = .ok r) (hr : endsBody r = true ∨ opensIdentifier r = true) : EndsAt expr rest := by
  rw [isOperand, Bool.or_eq_true, Bool.or_eq_true] at h
  rcases h with (h | h) | h
  · obtain ⟨name, names, hname, hnames, rfl⟩ := exists_dotted h
    exact (readsTo_dotted hname hnames hrest).endsAt
  · obtain ⟨t, rfl, hverbatim, hline⟩ := exists_verbatim h
    exact (readsTo_quoted hverbatim hline hrest).endsAt
  · obtain ⟨e, c, -, hreads⟩ := (of_decide_eq_true h).readsTo (stops_tail hrest hgap hr)
    exact hreads.endsAt

end

end JujuMigration.Strict

namespace JujuMigration

open Source Text

mutual

/-- Every expression is an operand or a heredoc, and every label is verbatim. -/
def Node.isSimple : Node → Bool
  | .gap _ => true
  | .attribute a => Strict.isOperand a.expr || Strict.isHeredoc a.expr a.tail
  | .block head body _ => head.labels.all (fun l => decide (IsVerbatim l)) && Body.isSimple body

def Body.isSimple : List Node → Bool
  | [] => true
  | node :: nodes => node.isSimple && Body.isSimple nodes

end

theorem Body.isSimple_gapNodes (t : Text) (nodes : Body) :
    Body.isSimple (gapNodes t ++ nodes) = Body.isSimple nodes := by
  unfold gapNodes
  split
  · rfl
  · simp [Body.isSimple, Node.isSimple]

/-- A body begins with a gap that leads to an item or an end. -/
theorem Reads.exists_gap {line : Nat} {s r : Text} {nodes : Body} (h : Reads line s nodes r) :
    ∃ t, skipGap s = .ok t ∧ (Source.endsBody t = true ∨ opensIdentifier t = true) := by
  cases h with
  | stop _ hgap hr => exact ⟨_, hgap, .inl hr⟩
  | field _ hgap _ _ hfits _ => exact ⟨_, hgap, .inr hfits.opensIdentifier⟩
  | @block _ _ _ inner _ _ _ _ _ _ _ hgap _ _ hopens _ _ _ => exact ⟨_, hgap, .inr (hopens.opensIdentifier inner)⟩

/-- Both readings end the expressions of a simple tree alike. -/
theorem Reads.isShared {line : Nat} {s r : Text} {nodes : Body} (h : Reads line s nodes r)
    (hsimple : Body.isSimple nodes = true) : Body.IsShared r nodes := by
  induction h with
  | @stop line s gap r =>
      have hgaps : Body.IsShared r (gapNodes (trimEnd isSpace gap) ++ (gapNodes (indentation gap) ++ [])) :=
        Body.isShared_gapNodes.2 (Body.isShared_gapNodes.2 trivial)
      rwa [List.append_nil] at hgaps
  | field _ _ _ _ hfits hreads ih =>
      rw [Body.isSimple_gapNodes, Body.isSimple, Bool.and_eq_true] at hsimple
      rw [Body.isShared_gapNodes, Body.IsShared, Node.IsShared, ← hreads.render]
      obtain ⟨t, hgap, ht⟩ := hreads.exists_gap
      refine ⟨?_, ih hsimple.2⟩
      rw [Node.isSimple, Bool.or_eq_true] at hsimple
      rcases hsimple.1 with h | h
      · exact Strict.endsAt_of_isOperand h hfits.tail hgap ht
      · exact (Strict.readsTo_heredoc h hfits.tail hgap ht).endsAt
  | block _ _ _ _ _ hbody _ hreads ih ih' =>
      rw [Body.isSimple_gapNodes, Body.isSimple, Node.isSimple, Bool.and_eq_true, Bool.and_eq_true] at hsimple
      rw [Body.isShared_gapNodes, Body.IsShared, Node.IsShared, List.cons_append, ← hreads.render]
      exact ⟨⟨by simpa using hsimple.1.1, ih hsimple.1.2⟩, ih' hsimple.2⟩

example : (Body.read ("m \x7b\n  a = -1.5e3\n  b = merge(var.c, \x7b d = [1, \"$\x7be\x7d-<<\"] \x7d) # f\n".toList ++
    "  g = <<EOT\nh\n  EOT\n  i = [for j in k : j if j != 2]\n\x7d".toList)).toOption.map Body.isSimple =
    some true := by
  decide +kernel

end JujuMigration
