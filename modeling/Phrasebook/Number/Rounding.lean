/-!
# Rounding a quotient

Exact quotients of natural numbers are rounded to the nearest whole number; a half goes to
the even neighbour.
-/

namespace Phrasebook

/-- The whole number nearest to `n / d`; a half goes to the even one. -/
def roundQuotient (n d : Nat) : Nat :=
  let q := n / d
  let r := n % d
  if 2 * r < d then q
  else if d < 2 * r then q + 1
  else q + q % 2

/-- The integer nearest to `n / d`; a half goes to the even one. -/
def roundIntQuotient (n : Int) (d : Nat) : Int :=
  if n < 0 then -(roundQuotient n.natAbs d : Int) else (roundQuotient n.natAbs d : Int)

end Phrasebook
