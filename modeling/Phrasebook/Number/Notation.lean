import Phrasebook.Number.Shortest

/-!
# How doubles are written

* `FloatText.plain`: the default text, with the fewest digits that identify the value,
  positional from `0.0001` to below `10 ^ 16` and with a signed exponent of two digits outside;
* `FloatText.fixed`, `FloatText.scientific`, `FloatText.general`: a set number of digits.

All of these write the absolute value; the sign is put in front by the caller.
-/

namespace Phrasebook.FloatText

/-- The exponent mark with sign and at least two digits. -/
def exponentText (e : Int) : Text :=
  'e' :: (if e < 0 then '-' else '+') :: Text.padStart 2 '0' (Text.ofNat e.natAbs)

/-- Digits with a point after the first one, and an exponent. -/
def withExponent (keepPoint : Bool) (d : Decimal) : Text :=
  match d.digits with
  | [] => []
  | [c] => (if keepPoint then [c, '.'] else [c]) ++ exponentText (d.point - 1)
  | c :: rest => c :: '.' :: rest ++ exponentText (d.point - 1)

/-- Digits in positional notation; `whole` is what stands for an empty fraction. -/
def positional (whole : Text) (d : Decimal) : Text :=
  if d.point ≤ 0 then "0." ++ List.replicate d.point.natAbs '0' ++ d.digits
  else
    let n := d.point.toNat
    if d.digits.length ≤ n then d.digits ++ List.replicate (n - d.digits.length) '0' ++ whole
    else d.digits.take n ++ '.' :: d.digits.drop n

/-- The text of the two infinities and of the value that is no number, sign aside. -/
def special? (x : Float) : Option Text :=
  if x.isNaN then some "nan" else if x.isInf then some "inf" else none

/-- The fewest digits that identify the absolute value. `whole` is written after a whole number:
`.0` where a fraction must show, nothing inside a complex number. `keepPoint` writes the point
before an exponent too. -/
def shortest (keepPoint : Bool) (whole : Text) (x : Float) : Text :=
  match special? x with
  | some t => t
  | none =>
    let d := Decimal.shortest x
    if d.point ≤ -4 ∨ 16 < d.point then withExponent keepPoint d else positional whole d

/-- The default text of the absolute value. -/
def magnitudeText (whole : Text) (x : Float) : Text := shortest false whole x

/-- The sign that is written: none for the value that is no number. -/
def signText (x : Float) : Text :=
  if Binary64.isNegative x && !x.isNaN then "-" else []

/-- The default text of a double. -/
def plain (x : Float) : Text := signText x ++ magnitudeText ".0" x

/-- The default text of a part of a complex number, where a whole number shows no fraction. -/
def part (x : Float) : Text := signText x ++ magnitudeText [] x

/-- The absolute value as a fraction. -/
def ratio (x : Float) : Nat × Nat :=
  let (n, d) := Binary64.toRatio x
  (n.natAbs, d)

/-- A set number of places after the point; `keepPoint` writes the point before no places too. -/
def fixed (keepPoint : Bool) (count : Nat) (x : Float) : Text :=
  match special? x with
  | some t => t
  | none =>
    let (n, d) := ratio x
    Decimal.places n d count ++ (if keepPoint && count = 0 then ['.'] else [])

/-- One digit before the point, `count` after it, and an exponent. -/
def scientific (keepPoint : Bool) (count : Nat) (x : Float) : Text :=
  match special? x with
  | some t => t
  | none =>
    let (n, d) := ratio x
    withExponent keepPoint (Decimal.significant n d (count + 1))

/-- At most `count` significant digits, positional while the point stays within them.
`keepZeros` keeps trailing zeros and the point; `showFraction` writes a whole number with `.0`
and turns to the exponent one place earlier. -/
def general (keepZeros showFraction : Bool) (count : Nat) (x : Float) : Text :=
  match special? x with
  | some t => t
  | none =>
    let (n, d) := ratio x
    let count := max count 1
    let full := Decimal.significant n d count
    let limit : Int := if showFraction then (count : Int) - 1 else count
    let trimmed : Decimal :=
      if keepZeros then full
      else
        let digits := Decimal.trimZeros full.digits
        ⟨if digits = [] then ['0'] else digits, full.point⟩
    if full.point ≤ -4 ∨ limit < full.point then withExponent keepZeros trimmed
    else positional (if showFraction then ".0" else if keepZeros then "." else []) trimmed

end Phrasebook.FloatText
