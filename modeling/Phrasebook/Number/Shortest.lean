import Phrasebook.Number.Binary64
import Phrasebook.Text.Basic

/-!
# The fewest digits that identify a double

A decimal identifies a double when it lies among the reals that round to it.  For one, two,
three and more digits, the two neighbours of the value on that decimal grid are tested; the
first grid with a hit wins, of two hits the nearer, and an exact tie goes to the even digit.

* `Decimal`: digits and the place of the point;
* `Decimal.shortest`: the fewest digits;
* `Decimal.significant`, `Decimal.places`: a set number of digits, rounded from the exact value.
-/

namespace Phrasebook

/-- The value `0.d₁d₂d₃… * 10 ^ point`. -/
structure Decimal where
  /-- The digits, without the point. -/
  digits : Text
  /-- The power of ten in front of the first digit. -/
  point : Int

namespace Decimal

/-- The digits without trailing zeros. -/
def trimZeros (t : Text) : Text := Text.stripEnd (· == '0') t

/-- Does `n / d` lie among the reals that round to the double `m * 2 ^ q`?
The reals between the midpoints to its neighbours do, the midpoints themselves for even `m`. -/
def identifies (m : Nat) (q : Int) (narrowBelow : Bool) (n d : Nat) : Bool :=
  let up := Nat.pow 2 q.toNat
  let down := Nat.pow 2 (-q).toNat
  -- Compare with (4m - 1 or 2) and (4m + 2) quarters of the unit `2 ^ q`.
  let value := 4 * n * down
  let below := (4 * m - (if narrowBelow then 1 else 2)) * up * d
  let above := (4 * m + 2) * up * d
  if m % 2 = 0 then below ≤ value && value ≤ above else below < value && value < above

/-- The least `k` with `n / d < 10 ^ k`, found from an estimate by at most a few steps. -/
def scale (n d : Nat) : Int :=
  let guess : Int := (((Nat.log2 n : Int) - (Nat.log2 d : Int)) * 30103) / 100000 - 1
  let fits := fun k : Int => n * Nat.pow 10 (-k).toNat < d * Nat.pow 10 k.toNat
  match [guess, guess + 1, guess + 2, guess + 3].find? fits with
  | some k => k
  | none => guess + 4

/-- The value `n / d` rounded to `count` significant digits, trailing zeros kept. -/
def significant (n d : Nat) (count : Nat) : Decimal :=
  if n = 0 then ⟨List.replicate count '0', 1⟩
  else
    let k := scale n d
    let shift := (count : Int) - k
    let g := roundQuotient (n * Nat.pow 10 shift.toNat) (d * Nat.pow 10 (-shift).toNat)
    let digits := Text.ofNat g
    -- Rounding up to the next power of ten brings a digit too many.
    if count < digits.length then ⟨digits.take count, k + 1⟩ else ⟨digits, k⟩

/-- Tries grids of `count`, `count + 1`, … digits; seventeen digits always identify a double. -/
def search (m : Nat) (q : Int) (narrowBelow : Bool) (n d : Nat) (k : Int) :
    Nat → Nat → Decimal
  | 0, _ => significant n d 17
  | fuel + 1, count =>
    let shift := (count : Int) - k
    -- The value in units of the grid is `a / b`.
    let a := n * Nat.pow 10 shift.toNat
    let b := d * Nat.pow 10 (-shift).toNat
    let low := a / b
    let hit := fun g : Nat =>
      identifies m q narrowBelow (g * Nat.pow 10 (-shift).toNat) (Nat.pow 10 shift.toNat)
    let best :=
      match hit low && low != 0, hit (low + 1) with
      | true, true =>
        if 2 * a < (2 * low + 1) * b then some low
        else if (2 * low + 1) * b < 2 * a then some (low + 1)
        else some (if low % 2 = 0 then low else low + 1)
      | true, false => some low
      | false, true => some (low + 1)
      | false, false => none
    match best with
    | some g =>
      let digits := Text.ofNat g
      ⟨trimZeros digits, k + ((digits.length : Int) - count)⟩
    | none => search m q narrowBelow n d k fuel (count + 1)

/-- The fewest digits that identify a finite double, sign aside. -/
def shortest (x : Float) : Decimal :=
  let (m, q) := Binary64.magnitude x
  if m = 0 then ⟨['0'], 1⟩
  else
    let n := m * Nat.pow 2 q.toNat
    let d := Nat.pow 2 (-q).toNat
    let narrowBelow := m = Nat.pow 2 52 && q > -1074
    search m q narrowBelow n d (scale n d) 20 1

/-- The value `n / d` rounded to `places` digits after the point, as text with the point. -/
def places (n d : Nat) (count : Nat) : Text :=
  let g := roundQuotient (n * Nat.pow 10 count) d
  let digits := Text.padStart (count + 1) '0' (Text.ofNat g)
  let whole := digits.take (digits.length - count)
  if count = 0 then whole else whole ++ '.' :: digits.drop (digits.length - count)

end Decimal

end Phrasebook
