import JujuMigration.Diff.Matching
import JujuMigration.Text.Number
/-! The unified form of a difference: groups of changed lines with three lines around them. -/

namespace JujuMigration.Diff

/-- A part of a difference: lines that both texts have, or lines of the left text in whose place the right
text has others. -/
inductive Part
  | same (left right : Nat) (lines : List Text)
  | changed (left right : Nat) (removed added : List Text)
  deriving DecidableEq, Repr

namespace Part

/-- First line of the left text, its number of lines, and the same for the right text. -/
def extent : Part → (Nat × Nat) × (Nat × Nat)
  | same l r lines => ((l, lines.length), (r, lines.length))
  | changed l r removed added => ((l, removed.length), (r, added.length))

def lines : Part → List Text
  | same _ _ lines => lines.map (' ' :: ·)
  | changed _ _ removed added => removed.map ('-' :: ·) ++ added.map ('+' :: ·)

def isSame : Part → Bool
  | same .. => true
  | changed .. => false

end Part

/-- The parts from these line numbers on, between and in the runs. -/
def partsFrom (left right : List Text) : Nat → Nat → List Run → List Part
  | i, j, [] => changedPart i j (left.drop i) (right.drop j)
  | i, j, r :: rs =>
    changedPart i j ((left.take r.left).drop i) ((right.take r.right).drop j) ++
      .same r.left r.right ((left.drop r.left).take r.length) ::
        partsFrom left right (r.left + r.length) (r.right + r.length) rs
where
  changedPart (i j : Nat) (removed added : List Text) : List Part :=
    if removed.isEmpty && added.isEmpty then [] else [.changed i j removed added]

def parts (left right : List Text) : List Part := partsFrom left right 0 0 (runs left right)

/-- Lines shown around a change. -/
def context : Nat := 3

/-- The end of a part of shared lines. -/
def ending : Part → Part
  | .same l r lines =>
    let cut := lines.length - context
    .same (l + cut) (r + cut) (lines.drop cut)
  | p => p

/-- The beginning of a part of shared lines. -/
def beginning : Part → Part
  | .same l r lines => .same l r (lines.take context)
  | p => p

/-- Groups of parts, `group` being the one at hand, in reverse. A long part of shared lines ends a group and
begins the next. -/
def groupsFrom (group : List Part) : List Part → List (List Part)
  | [] => if group.all Part.isSame then [] else [group.reverse]
  | p :: ps =>
    match p with
    | .same _ _ lines =>
      if ps.isEmpty then groupsFrom (beginning p :: group) ps
      else if 2 * context < lines.length then
        (beginning p :: group).reverse :: groupsFrom [ending p] ps
      else groupsFrom (p :: group) ps
    | .changed .. => groupsFrom (p :: group) ps

/-- The groups of changed lines with the shared lines around them. -/
def groups : List Part → List (List Part)
  | [] => []
  | p :: ps => if p.isSame && !ps.isEmpty then groupsFrom [ending p] ps else groupsFrom [] (p :: ps)

/-- Numbers and count of some lines; the lines of an empty range are those in front of it. -/
def rangeText (start count : Nat) : Text :=
  if count = 1 then Text.ofNat (start + 1)
  else Text.ofNat (if count = 0 then start else start + 1) ++ ',' :: Text.ofNat count

def groupLines (group : List Part) : List Text :=
  let extents := group.map Part.extent
  let left := extents.map (·.1)
  let right := extents.map (·.2)
  let range (l : List (Nat × Nat)) := rangeText ((l.head?.map (·.1)).getD 0) (l.foldl (· + ·.2) 0)
  ("@@ -".toList ++ range left ++ " +".toList ++ range right ++ " @@".toList) :: group.flatMap Part.lines

/-- The lines of the unified difference of two texts with these names; none if no line differs. -/
def unified (leftName rightName : Text) (left right : List Text) : List Text :=
  match groups (parts left right) with
  | [] => []
  | gs => ("--- ".toList ++ leftName) :: ("+++ ".toList ++ rightName) :: gs.flatMap groupLines

example : (unified ['l'] ['r'] [['a'], ['b']] [['a']]).map String.ofList =
    ["--- l", "+++ r", "@@ -1,2 +1 @@", " a", "-b"] := by decide +kernel

end JujuMigration.Diff
