import Phrasebook.Number.Rounding

/-!
# Double-precision numbers as exact fractions

A finite double is `m * 2 ^ q` for a natural number `m` and a sign.  Conversions to and from
integers and fractions, comparison with integers, remainder and floor division are computed on
that form, so they are exact or rounded once.

* `Binary64.magnitude`: the pair `(m, q)` of a finite double;
* `Binary64.ofRatio?`: the double nearest to a fraction, if it is in range;
* `Binary64.compareInt`: exact comparison with an integer;
* `Binary64.remainder`, `Binary64.floorQuotient`: division rounded downwards.
-/

namespace Phrasebook.Binary64

/-- Does the sign bit stand? It does for `-0.0` too. -/
def isNegative (x : Float) : Bool := x.toBits >>> 63 == 1

/-- The absolute value of a finite double as `m * 2 ^ q`. -/
def magnitude (x : Float) : Nat × Int :=
  let bits := x.toBits
  let exponent := ((bits >>> 52) &&& 0x7ff).toNat
  let fraction := (bits &&& 0xfffffffffffff).toNat
  if exponent = 0 then (fraction, -1074) else (Nat.pow 2 52 + fraction, (exponent : Int) - 1075)

/-- Positive infinity. -/
def infinity : Float := Float.ofBits 0x7ff0000000000000

/-- The value that is no number. -/
def nan : Float := Float.ofBits 0x7ff8000000000000

/-- The absolute value with the given sign. -/
def withSign (negative : Bool) (x : Float) : Float :=
  Float.ofBits ((x.toBits &&& 0x7fffffffffffffff) ||| (if negative then 0x8000000000000000 else 0))

/-- The double nearest to `n / d`, ties to even; `none` when it is too large. -/
def ofRatio? (negative : Bool) (n d : Nat) : Option Float :=
  if n = 0 then some (withSign negative 0.0)
  else
    let scaled := fun e : Int => (n * Nat.pow 2 (-e).toNat, d * Nat.pow 2 e.toNat)
    let low := max (((Nat.log2 n : Nat) : Int) - ((Nat.log2 d : Nat) : Int) - 53) (-1074)
    let e := if Nat.pow 2 53 ≤ (scaled low).1 / (scaled low).2 then low + 1 else low
    let bits := (e + 1074).toNat * Nat.pow 2 52 + roundQuotient (scaled e).1 (scaled e).2
    if 0x7ff0000000000000 ≤ bits then none
    else some (withSign negative (Float.ofBits bits.toUInt64))

/-- The double nearest to an integer; `none` when it is too large. -/
def ofInt? (n : Int) : Option Float := ofRatio? (n < 0) n.natAbs 1

/-- The double nearest to `digits * 10 ^ exponent`; infinite when that is too large. -/
def ofDecimal (negative : Bool) (digits : Nat) (exponent : Int) : Float :=
  if digits = 0 then withSign negative 0.0
  else
    let size := (Nat.log2 digits : Int) / 3 + exponent
    if 800 < exponent ∧ 800 < size then withSign negative infinity
    else if exponent < -800 ∧ size + digits.log2 < -800 then withSign negative 0.0
    else
      match ofRatio? negative (digits * Nat.pow 10 exponent.toNat) (Nat.pow 10 (-exponent).toNat) with
      | some x => x
      | none => withSign negative infinity

/-- A finite double as a fraction in which the denominator is a power of two. -/
def toRatio (x : Float) : Int × Nat :=
  let (m, q) := magnitude x
  let n : Int := m * Nat.pow 2 q.toNat
  (if isNegative x then -n else n, Nat.pow 2 (-q).toNat)

/-- The integer part of a finite double. -/
def truncate (x : Float) : Int :=
  let (n, d) := toRatio x
  Int.tdiv n d

/-- The integer nearest to a finite double, ties to even. -/
def roundToInt (x : Float) : Int :=
  let (n, d) := toRatio x
  roundIntQuotient n d

/-- Is the double a whole number? -/
def isWhole (x : Float) : Bool :=
  x.isFinite && (let (n, d) := toRatio x; n % d == 0)

/-- Exact comparison of an integer with a double that is a number. -/
def compareInt (n : Int) (x : Float) : Ordering :=
  if x.isInf then (if isNegative x then .gt else .lt)
  else
    let (m, d) := toRatio x
    compare (n * d) m

/-- The remainder of `x / y` rounded towards zero, with the sign of `x`. -/
def truncatedRemainder (x y : Float) : Float :=
  if x.isNaN || y.isNaN || x.isInf || y == 0 then nan
  else if y.isInf then x
  else
    let (n, d) := toRatio x
    let (k, e) := toRatio y
    let r := (n.natAbs * e) % (k.natAbs * d)
    (ofRatio? (isNegative x) r (d * e)).getD nan

/-- The remainder of division rounded downwards: it has the sign of the divisor `y`. -/
def remainder (x y : Float) : Float :=
  let r := truncatedRemainder x y
  if r.isNaN then r
  else if r == 0 then withSign (isNegative y) 0.0
  else if (y < 0) != (r < 0) then r + y
  else r

/-- Division rounded downwards, as the quotient of what the remainder leaves. -/
def floorQuotient (x y : Float) : Float :=
  let r := truncatedRemainder x y
  let quotient := (x - r) / y
  let quotient := if r != 0 && !r.isNaN && ((y < 0) != (r < 0)) then quotient - 1 else quotient
  if quotient.isNaN then quotient
  else if quotient == 0 then withSign (isNegative (x / y)) 0.0
  else
    let whole := quotient.floor
    if quotient - whole > 0.5 then whole + 1 else whole

end Phrasebook.Binary64
