import JujuMigration.Config.Basic
import JujuMigration.Source.Expression
/-! Reading a configuration. The reader takes one item after the other, an attribute, the head of a block or
the brace that closes one, and keeps the blocks that are still open on a stack. Every step consumes text, so
reading ends on every text, and what is read renders back to it. -/

namespace JujuMigration

open Source

/-- An attribute, or the head of a block up to its opening brace, and the text behind it. -/
inductive Item
  | attribute (a : Attribute) (rest : Text)
  | opening (head : BlockHead) (rest : Text)

def Item.rest : Item → Text
  | .attribute _ rest => rest
  | .opening _ rest => rest

/-- Reads labels up to the opening brace; `done` holds the labels before them. -/
def readLabels (kind : Text) (done : List Text) (s : Text) : Except Fault (List Text × Text) :=
  match s with
  | '{' :: r => .ok (done, r)
  | s =>
    if s.head? = some '"' ∨ opensIdentifier s then
      match h : readLabel s with
      | .ok (label, rest) =>
        have := (readLabel_suffix h).2
        have := (skipSpaces_suffix rest).length_le
        readLabels kind (done ++ [label]) (skipSpaces rest)
      | .error f => .error f
    else .error ⟨s, .notLabel kind⟩
termination_by s.length
decreasing_by omega

/-- Whether the text begins with an equals sign that is not half of a comparison. -/
def opensValue : Text → Bool
  | '=' :: r => r.head? != some '='
  | _ => false

/-- Whether no expression can begin here. -/
def lacksExpression (s : Text) : Bool :=
  s.head?.all (fun c => c == '\n' || c == '\r' || c == '}') || opensComment s

/-- Reads the rest of an attribute from behind its name on; `eq` begins with its equals sign. -/
def readAttribute (lead : Text) (line : Nat) (name afterName eq : Text) : Except Fault Item := do
  let value := skipSpaces (eq.drop 1)
  if lacksExpression value then .error ⟨value, .missingExpression name⟩
  let stop ← scanExpression value
  let expr := Text.trimEnd isSpace (Text.before stop value)
  let rest := value.drop expr.length
  let behind ← skipLineTail rest
  .ok (.attribute ⟨lead, name, Text.before value afterName, expr, Text.before behind rest, line⟩ behind)

/-- Reads the item that the text begins with. -/
def readItem (lead : Text) (line : Nat) (s : Text) : Except Fault Item := do
  let (name, afterName) ← readIdentifier s
  let cursor := skipSpaces afterName
  if opensValue cursor then readAttribute lead line name afterName cursor
  else
    let (labels, rest) ← readLabels name [] cursor
    .ok (.opening ⟨lead, name, labels, Text.before rest s, line⟩ rest)

theorem readLabels_suffix {kind : Text} {done labels : List Text} {s r : Text}
    (h : readLabels kind done s = .ok (labels, r)) : r <:+ s ∧ r.length < s.length := by
  fun_induction readLabels kind done s with
  | case1 done t =>
    obtain ⟨-, rfl⟩ := Prod.mk.inj (Except.ok.inj h)
    exact ⟨List.suffix_cons _ _, Nat.lt_succ_self _⟩
  | case2 done s _ _ label rest hl _ _ ih =>
    obtain ⟨h1, h2⟩ := ih h
    have h3 := (skipSpaces_suffix rest).trans (readLabel_suffix hl).1
    exact ⟨h1.trans h3, Nat.lt_of_lt_of_le h2 h3.length_le⟩
  | case3 => simp at h
  | case4 => simp at h

theorem readAttribute_suffix {lead : Text} {line : Nat} {name afterName eq : Text} {item : Item}
    (h : readAttribute lead line name afterName eq = .ok item) : item.rest <:+ eq := by
  unfold readAttribute at h
  simp only [bind, Except.bind] at h
  split at h
  · simp at h
  · split at h
    · simp at h
    · split at h
      · simp at h
      · next behind hb =>
        obtain rfl := Except.ok.inj h
        exact (skipLineTail_suffix hb).trans
          ((List.drop_suffix _ _).trans ((skipSpaces_suffix _).trans (List.drop_suffix _ _)))

theorem readItem_suffix {lead : Text} {line : Nat} {s : Text} {item : Item}
    (h : readItem lead line s = .ok item) : item.rest <:+ s ∧ item.rest.length < s.length := by
  unfold readItem at h
  simp only [bind, Except.bind] at h
  split at h
  · simp at h
  · next p hp =>
    obtain ⟨name, afterName⟩ := p
    obtain ⟨h1, h2⟩ := readIdentifier_suffix hp
    have h3 := skipSpaces_suffix afterName
    simp only at h
    split at h
    · have h4 := (readAttribute_suffix h).trans h3
      exact ⟨h4.trans h1, Nat.lt_of_le_of_lt h4.length_le h2⟩
    · split at h
      · simp at h
      · next q hq =>
        obtain ⟨labels, rest⟩ := q
        obtain rfl := Except.ok.inj h
        have h4 := (readLabels_suffix hq).1.trans h3
        exact ⟨h4.trans h1, Nat.lt_of_le_of_lt h4.length_le h2⟩

/-- A block whose closing brace has not come yet. -/
structure OpenBlock where
  head : BlockHead
  /-- The nodes in front of it in its body, newest first. -/
  siblings : List Node

/-- Adds a gap in front of the nodes read so far, unless it is empty. -/
def pushGap (text : Text) (nodes : List Node) : List Node := if text.isEmpty then nodes else .gap text :: nodes

/-- Reads on with the blocks `outer` open, the innermost first; `nodes` holds what has been read of the
innermost body, newest first, and the text begins on line `line`. Blanks directly in front of an item belong
to the item. -/
def readNodes (outer : List OpenBlock) (nodes : List Node) (line : Nat) (s : Text) : Except Fault Body :=
  match h : skipGap s with
  | .error f => .error f
  | .ok rest =>
    let gap := Text.before rest s
    let trivia := Text.trimEnd isSpace gap
    let lead := gap.drop trivia.length
    let nodes := pushGap trivia nodes
    let line := line + Text.newlines gap
    have := (skipGap_suffix h).length_le
    match _hr : rest with
    | [] =>
      match outer with
      | [] => .ok (pushGap lead nodes).reverse
      | _ :: _ => .error ⟨[], .unexpectedEnd⟩
    | c :: r =>
      if c = '}' then
        match outer with
        | [] => .error ⟨c :: r, .unexpectedBrace⟩
        | block :: outer =>
          match ht : skipLineTail r with
          | .error f => .error f
          | .ok behind =>
            have := (skipLineTail_suffix ht).length_le
            let closing := Text.before behind (c :: r)
            let node := Node.block block.head (pushGap lead nodes).reverse closing
            readNodes outer (node :: block.siblings) (line + Text.newlines closing) behind
      else
        match hi : readItem lead line (c :: r) with
        | .error f => .error f
        | .ok item =>
          have := (readItem_suffix hi).2
          match item with
          | .attribute a behind =>
            readNodes outer (.attribute a :: nodes) (line + Text.newlines (Text.before behind (c :: r))) behind
          | .opening head behind =>
            readNodes (⟨head, nodes⟩ :: outer) [] (line + Text.newlines (Text.before behind (c :: r))) behind
termination_by s.length
decreasing_by all_goals simp_all [Item.rest]; omega

/-- The tree of a whole text. -/
def Body.read (s : Text) : Except Fault Body := readNodes [] [] 1 s

end JujuMigration
