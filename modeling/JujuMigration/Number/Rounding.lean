/-! Rounding of quotients. -/

namespace JujuMigration

/-- The quotient of two numbers to the nearest whole number; a tie goes to the even one. -/
def roundQuotient (n d : Nat) : Nat :=
  let q := n / d
  let twice := 2 * (n % d)
  if twice < d ∨ (twice = d ∧ q % 2 = 0) then q else q + 1

example : (roundQuotient 5 2, roundQuotient 7 2, roundQuotient 8 3) = (2, 4, 3) := by decide

end JujuMigration
