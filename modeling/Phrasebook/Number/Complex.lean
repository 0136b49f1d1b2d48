import Phrasebook.Number.Binary64

/-!
# Complex numbers

Product, quotient, power and absolute value of complex numbers given by two doubles.  The
quotient divides by the larger part of the divisor first, a small whole power is a repeated
product, and any other power goes through polar form.

* `Complex.quotient?`: `none` for division by zero;
* `Complex.power?`: `none` where the power has no direction;
* `Complex.magnitude`: the distance from zero, rounded once.
-/

namespace Phrasebook

/-- The largest `r` with `r * r ≤ n`, by Newton's iteration from above; `rounds` bounds it. -/
def squareRootFrom (n : Nat) : Nat → Nat → Nat
  | 0, r => r
  | rounds + 1, r =>
    let next := (r + n / r) / 2
    if next < r then squareRootFrom n rounds next else r

/-- The largest `r` with `r * r ≤ n`. -/
def squareRoot (n : Nat) : Nat :=
  if n = 0 then 0 else squareRootFrom n (n.log2 + 2) (Nat.pow 2 (n.log2 / 2 + 1))

/-- A complex number. -/
structure Complex where
  re : Float
  im : Float

namespace Complex

/-- The sum. -/
def add (a b : Complex) : Complex := ⟨a.re + b.re, a.im + b.im⟩

/-- The difference. -/
def sub (a b : Complex) : Complex := ⟨a.re - b.re, a.im - b.im⟩

/-- The product. -/
def mul (a b : Complex) : Complex := ⟨a.re * b.re - a.im * b.im, a.re * b.im + a.im * b.re⟩

/-- The quotient, divided by the larger part of the divisor first. -/
def quotient? (a b : Complex) : Option Complex :=
  if b.re.abs ≥ b.im.abs then
    if b.re == 0 then none
    else
      let ratio := b.im / b.re
      let below := b.re + b.im * ratio
      some ⟨(a.re + a.im * ratio) / below, (a.im - a.re * ratio) / below⟩
  else if b.im.abs ≥ b.re.abs then
    let ratio := b.re / b.im
    let below := b.re * ratio + b.im
    some ⟨(a.re * ratio + a.im) / below, (a.im * ratio - a.re) / below⟩
  else some ⟨Binary64.nan, Binary64.nan⟩

/-- The product of the powers of `square` that the binary digits of `n` select. -/
def powerOf (n : Nat) (product square : Complex) : Complex :=
  if n = 0 then product
  else powerOf (n / 2) (if n % 2 = 1 then product.mul square else product) (square.mul square)
termination_by n

/-- The distance from zero: the root of the exact sum of squares, rounded once. It is infinite
when it is too large. -/
def magnitude (a : Complex) : Float :=
  if a.re.isInf || a.im.isInf then Binary64.infinity
  else if a.re.isNaN || a.im.isNaN then Binary64.nan
  else
    let (m, p) := Binary64.magnitude a.re
    let (n, q) := Binary64.magnitude a.im
    let low := min p q
    let total :=
      Nat.pow (m * Nat.pow 2 (p - low).toNat) 2 + Nat.pow (n * Nat.pow 2 (q - low).toNat) 2
    if total = 0 then 0.0
    else
      let root := squareRoot (total * Nat.pow 4 64)
      -- One more digit tells a root that comes out even from one that does not.
      let exact := 2 * root + (if root * root = total * Nat.pow 4 64 then 0 else 1)
      (Binary64.ofRatio? false (exact * Nat.pow 2 low.toNat) (Nat.pow 2 (65 + (-low).toNat))).getD
        Binary64.infinity

/-- The power through polar form; `none` when the angle is infinite. -/
def polarPower? (a b : Complex) : Option Complex :=
  let distance := a.magnitude
  let angle := Float.atan2 a.im a.re
  let length := distance.pow b.re
  let phase := angle * b.re
  let (length, phase) :=
    if b.im != 0 then (length / (angle * b.im).exp, phase + b.im * distance.log)
    else (length, phase)
  if phase.isInf then none else some ⟨length * phase.cos, length * phase.sin⟩

/-- The power; `none` when zero is raised to a negative or complex power, or when the angle of the
power is infinite. -/
def power? (a b : Complex) : Option Complex :=
  if b.im == 0 && b.re == b.re.floor && b.re.abs ≤ 100 then
    let product := powerOf (Binary64.truncate b.re).natAbs ⟨1, 0⟩ a
    if b.re > 0 then some product else quotient? ⟨1, 0⟩ product
  else if a.re == 0 && a.im == 0 then
    if b.im != 0 || b.re < 0 then none else some ⟨0, 0⟩
  else polarPower? a b

end Complex

end Phrasebook
