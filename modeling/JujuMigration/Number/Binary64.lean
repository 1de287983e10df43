import JujuMigration.Number.Rounding
import JujuMigration.Text.Number
/-! Numbers of the 64 bit binary format. A decimal stands for the number of the format that is nearest to it,
and a number is kept as the shortest decimal that stands for it: no decimal with fewer digits does, and of
those with as many digits it is the one nearest to the number. -/

namespace JujuMigration

/-- A number; a finite one is `digits * 10 ^ power` up to its sign, which zero has too. -/
inductive Binary64
  | infinite (negative : Bool)
  | finite (negative : Bool) (digits : Nat) (power : Int)
  deriving DecidableEq, Repr

namespace Binary64

/-- The size `fraction * 2 ^ scale` of a number other than zero: its fraction has 53 bits, or fewer at the
least scale. -/
structure Size where
  fraction : Nat
  scale : Int
  deriving DecidableEq, Repr

def leastScale : Int := -1074

def greatestScale : Int := 971

/-- The greatest power of two, by its exponent, that the quotient of two positive numbers reaches. -/
def logQuotient (n d : Nat) : Int :=
  let guess := (n.log2 : Int) - d.log2
  if n * Nat.pow 2 (-guess).toNat < d * Nat.pow 2 guess.toNat then guess - 1 else guess

/-- The size nearest to the quotient of two positive numbers; its fraction is zero where the quotient is too
small for the format. -/
def Size.ofQuotient (n d : Nat) : Size :=
  let scale := max leastScale (logQuotient n d - 52)
  let fraction := roundQuotient (n * Nat.pow 2 (-scale).toNat) (d * Nat.pow 2 scale.toNat)
  if fraction = Nat.pow 2 53 then ⟨Nat.pow 2 52, scale + 1⟩ else ⟨fraction, scale⟩

/-- The decimal next below or above the size on the grid of the multiples of `10 ^ power`, if it rounds to that
size; the nearer one if both do. Bounds are counted in quarters of the last bit. -/
def Size.onGrid? (s : Size) (power : Int) : Option Nat :=
  let bits := Nat.pow 2 (s.scale - 2).toNat * Nat.pow 10 (-power).toNat
  let step := Nat.pow 10 power.toNat * Nat.pow 2 (2 - s.scale).toNat
  let value := 4 * s.fraction * bits
  let low := (4 * s.fraction - if s.fraction = Nat.pow 2 52 ∧ s.scale ≠ leastScale then 1 else 2) * bits
  let high := (4 * s.fraction + 2) * bits
  let rounds (k : Nat) : Bool :=
    if s.fraction % 2 = 0 then low ≤ k * step && k * step ≤ high else low < k * step && k * step < high
  let below := value / step
  if rounds below && rounds (below + 1) then some (roundQuotient value step)
  else if rounds below then some below
  else if rounds (below + 1) then some (below + 1)
  else none

/-- The shortest decimal that rounds to the size: the one on the coarsest grid, where grids that are too coarse
for any digit come first. Seventeen digits are always enough. -/
def Size.shortest (s : Size) : Nat × Int :=
  let top := ((s.fraction.log2 + s.scale) * 30103).fdiv 100000 + 1
  ((List.range 20).findSome? fun (i : Nat) => (s.onGrid? (top - i)).map fun k => (k, top - i)).getD (0, 0)

/-- The number nearest to the decimal `digits * 10 ^ power`. -/
def ofDecimal (negative : Bool) (digits : Nat) (power : Int) : Binary64 :=
  let length := ((Text.ofNat digits).length : Int) + power
  if digits = 0 ∨ length < -330 then .finite negative 0 0
  else if 310 < length then .infinite negative
  else
    let size := Size.ofQuotient (digits * Nat.pow 10 power.toNat) (Nat.pow 10 (-power).toNat)
    if size.fraction = 0 then .finite negative 0 0
    else if greatestScale < size.scale then .infinite negative
    else .finite negative size.shortest.1 size.shortest.2

/-- The number that a literal stands for: digits, perhaps with a sign in front, a fraction and a power of ten
behind a letter. -/
def ofLiteral (t : Text) : Binary64 :=
  let isMark (c : Char) : Bool := c == 'e' || c == 'E'
  let number := t.takeWhile (!isMark ·)
  let fraction := ((number.dropWhile (· ≠ '.')).length - 1 : Nat)
  let power := Text.signedValue ((t.dropWhile (!isMark ·)).drop 1)
  ofDecimal (t.head? = some '-') (Text.digitsValue number) (power - fraction)

/-- The text of a number, where `infinity` is the one for an infinite number without its sign. -/
def textWith (infinity : Text) : Binary64 → Text
  | .infinite negative => (if negative then ['-'] else []) ++ infinity
  | .finite negative digits power => (if negative then ['-'] else []) ++ Text.ofDecimal digits power

def toText (x : Binary64) : Text := x.textWith "inf".toList

example : (ofLiteral "0.1".toList) = .finite false 1 (-1) := by decide +kernel
example : (ofLiteral "9007199254740993.0".toList).toText = "9007199254740992.0".toList := by decide +kernel
example : (ofLiteral "-4e-324".toList).toText = "-5e-324".toList := by decide +kernel
example : (ofLiteral "1.7976931348623159E308".toList).toText = "inf".toList := by decide +kernel
example : (ofLiteral "-0.0".toList).toText = "-0.0".toList := by decide +kernel

end Binary64
end JujuMigration
