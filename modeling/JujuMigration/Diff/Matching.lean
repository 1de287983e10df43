import JujuMigration.Text.Basic
/-! Which lines two texts share, in order. The longest run of equal lines is taken first, the earliest of those
of one length, and the lines before and behind it are matched in the same way. In a long text lines that
occur very often begin no run. -/

namespace JujuMigration.Diff

/-- The lines from `left` on in one text equal those from `right` on in the other, `length` of them. -/
structure Run where
  left : Nat
  right : Nat
  length : Nat
  deriving DecidableEq, Repr

/-- Texts of fewer lines have no frequent lines. -/
def longText : Nat := 200

/-- Whether a line is too frequent to begin a run: in a long text, with more than one in a hundred. -/
def isFrequent (lines : List Text) (line : Text) : Bool :=
  longText ≤ lines.length && lines.length / 100 + 1 < lines.count line

/-- A line of the right text and whether runs may begin with it. -/
structure Candidate where
  line : Text
  opens : Bool
  deriving DecidableEq, Repr

def candidates (lines : List Text) : List Candidate := lines.map fun l => ⟨l, !isFrequent lines l⟩

/-- The lengths of the runs that end with `line`, one for each candidate; `previous` are those of the runs that
end with the line before. -/
def extendRuns (line : Text) (right : List Candidate) (previous : List Nat) : List Nat :=
  right.zipWith (fun c k => if c.opens && c.line = line then k + 1 else 0) (0 :: previous)

/-- The better of a run and those that end at left line `i`; a run of the same length is no better. -/
def bestOf (i : Nat) (lengths : List Nat) (offset : Nat) (best : Run) : Run :=
  (lengths.zipIdx offset).foldl
    (fun best (k, j) => if best.length < k then ⟨i + 1 - k, j + 1 - k, k⟩ else best) best

/-- The longest run that begins with a candidate; the earliest in the left text, then in the right. -/
def longestFrom (right : List Candidate) (offset : Nat) :
    Nat → List Text → List Nat → Run → Run
  | _, [], _, best => best
  | i, line :: lines, previous, best =>
    let lengths := extendRuns line right previous
    longestFrom right offset (i + 1) lines lengths (bestOf i lengths offset best)

/-- The number of equal lines that two lists begin with. -/
def commonLength (a b : List Text) : Nat := ((a.zip b).takeWhile fun x => x.1 = x.2).length

/-- Lets a run begin earlier and end later, frequent lines included. -/
def widen (left right : List Text) (leftStart rightStart : Nat) (r : Run) : Run :=
  let back := commonLength (left.take (r.left - leftStart)).reverse (right.take (r.right - rightStart)).reverse
  let on := commonLength (left.drop (r.left - leftStart + r.length)) (right.drop (r.right - rightStart + r.length))
  ⟨r.left - back, r.right - back, back + r.length + on⟩

/-- The longest run of two lists of lines that begin at these numbers; its length may be zero. -/
def longest (left : List Text) (right : List Candidate) (leftStart rightStart : Nat) : Run :=
  let r := longestFrom right rightStart leftStart left (right.map fun _ => 0) ⟨leftStart, rightStart, 0⟩
  widen left (right.map Candidate.line) leftStart rightStart r

/-- The runs of two lists of lines, in order; `bound` is at least the number of left lines. -/
def runsFrom : Nat → List Text → List Candidate → Nat → Nat → List Run
  | 0, _, _, _, _ => []
  | bound + 1, left, right, leftStart, rightStart =>
    let r := longest left right leftStart rightStart
    if r.length = 0 then []
    else
      let before := r.left - leftStart
      let before' := r.right - rightStart
      runsFrom bound (left.take before) (right.take before') leftStart rightStart ++
        r :: runsFrom bound (left.drop (before + r.length)) (right.drop (before' + r.length))
          (r.left + r.length) (r.right + r.length)

/-- Joins runs that follow each other directly. -/
def joinRuns : List Run → List Run
  | [] => []
  | r :: rs =>
    match joinRuns rs with
    | [] => [r]
    | q :: qs =>
      if r.left + r.length = q.left ∧ r.right + r.length = q.right then ⟨r.left, r.right, r.length + q.length⟩ :: qs
      else r :: q :: qs

def runs (left right : List Text) : List Run :=
  joinRuns (runsFrom (left.length + 1) left (candidates right) 0 0)

example : runs [['a'], ['b'], ['c']] [['a'], ['c']] = [⟨0, 0, 1⟩, ⟨2, 1, 1⟩] := by decide +kernel

end JujuMigration.Diff
