import JujuMigration.Text.Basic
/-! Numbers as text. -/

namespace JujuMigration.Text

def ofNat (n : Nat) : Text := Nat.toDigits 10 n

/-- The number that the digits of a text make, whatever stands between them. -/
def digitsValue (t : Text) : Nat := (t.filter Char.isDigit).foldl (fun n d => 10 * n + (d.toNat - 48)) 0

/-- The number that the digits of a text make, below zero if the text begins with a minus sign. -/
def signedValue (t : Text) : Int := if t.head? = some '-' then -digitsValue t else digitsValue t

def ofInt (n : Int) : Text := (if n < 0 then ['-'] else []) ++ ofNat n.natAbs

/-- The digits of a decimal, without a sign and with the point `point` digits behind their beginning. -/
def pointAt (digits : Text) (point : Int) : Text :=
  if point ≤ 0 then '0' :: '.' :: (List.replicate (-point).toNat '0' ++ digits)
  else
    let whole := digits.take point.toNat
    let fraction := digits.drop point.toNat
    whole ++ List.replicate (point.toNat - whole.length) '0' ++
      ('.' :: if fraction.isEmpty then ['0'] else fraction)

/-- A power of ten, with two digits at least. -/
def powerText (n : Int) : Text :=
  let digits := ofNat n.natAbs
  (if n < 0 then '-' else '+') :: (List.replicate (2 - digits.length) '0' ++ digits)

/-- The decimal `digits * 10 ^ power` as text: with a point where at most sixteen digits stand in front of it and
at most three zeros behind it, with a power of ten where not. -/
def ofDecimal (digits : Nat) (power : Int) : Text :=
  let all := ofNat digits
  let significant := trimEnd (· = '0') all
  let point := (all.length : Int) + power
  if digits = 0 then ['0', '.', '0']
  else if -4 < point ∧ point ≤ 16 then pointAt significant point
  else
    let fraction := significant.drop 1
    significant.take 1 ++ (if fraction.isEmpty then [] else '.' :: fraction) ++ 'e' :: powerText (point - 1)

example : ofInt (-120) = ['-', '1', '2', '0'] := by decide +kernel
example : signedValue ['-', '0', '7'] = -7 := by decide +kernel
example : ofDecimal 150 (-2) = ['1', '.', '5'] := by decide +kernel

end JujuMigration.Text
