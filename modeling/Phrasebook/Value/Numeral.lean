import Phrasebook.Value.Arithmetic
import Phrasebook.Value.Written

/-!
# Numbers made from values

* `Value.toInteger`: the whole number that a value denotes, fractions cut off;
* `Value.toDouble`: the double that a value denotes;
* `Value.readInteger`: the whole number that a text spells in a base;
* `Value.roundedTo`: a number rounded to a count of decimal places.
-/

namespace Phrasebook.Value

/-- A double without its fraction, or rounded, as an integer. -/
def wholeOf (round : Float → Int) (x : Float) : Except Fault Int :=
  if x.isNaN then .error (.badValue "cannot convert float NaN to integer")
  else if x.isInf then .error ⟨.overflow, "cannot convert float infinity to integer"⟩
  else .ok (round x)

/-- How a text that is no whole number is told. -/
def badInteger (base : Int) (shown : Text) (fault : NumeralFault) : Fault :=
  .badValue <|
    match fault with
    | .malformed =>
      "invalid literal for int() with base " ++ Text.ofInt base ++ ": " ++ shown.take 200
    | .tooLong n =>
      "Exceeds the limit (4300 digits) for integer string conversion: value has " ++ Text.ofNat n ++
        " digits; use sys.set_int_max_str_digits() to increase the limit"
    | .badBase => "int() base must be >= 2 and <= 36, or 0"

/-- The whole number that a text spells in a base. -/
def readInteger (base : Int) (t : Text) : Except Fault Int :=
  (Numeral.readInt base t).mapError fun fault => badInteger base (Text.quoted t) fault

/-- The whole number that ASCII bytes spell in a base. -/
def readIntegerBytes (base : Int) (b : List Nat) : Except Fault Int :=
  let t := b.map fun n => if n < 128 then Char.ofNat n else '?'
  (Numeral.readInt base t).mapError fun fault => badInteger base (Text.quotedBytes b) fault

/-- The whole number that a value denotes: a double without its fraction, a text as it is spelt. -/
def toInteger : Value → Except Fault Int
  | float x => wholeOf Binary64.truncate x
  | text t => readInteger 10 t
  | bytes b => readIntegerBytes 10 b
  | x =>
    match integer? x with
    | some n => .ok n
    | none => .error .wrongType

/-- The double that a real number denotes. -/
def realNumber : Value → Except Fault Float
  | float x => .ok x
  | x =>
    match integer? x with
    | some n => Number.toFloat n
    | none => .error .wrongType

/-- The double that a value denotes: a number, or a text as it is spelt. -/
def toDouble : Value → Except Fault Float
  | text t =>
    match Numeral.readFloat? t with
    | some x => .ok x
    | none => .error (.badValue ("could not convert string to float: " ++ Text.quoted t))
  | bytes b =>
    match Numeral.readFloat? (b.map fun n => if n < 128 then Char.ofNat n else '?') with
    | some x => .ok x
    | none => .error (.badValue ("could not convert string to float: " ++ Text.quotedBytes b))
  | x => realNumber x

/-- An integer rounded to a multiple of `10 ^ places`; a half goes to the even multiple. -/
def roundIntegerTo (n : Int) (places : Nat) : Int :=
  -- Past this many places every multiple but zero is out of reach.
  if n.natAbs.log2 + 2 < places then 0
  else roundIntQuotient n (Nat.pow 10 places) * Nat.pow 10 places

/-- A double rounded to a count of decimal places, negative for places before the point. -/
def roundDoubleTo (x : Float) (places : Int) : Except Fault Float :=
  if !x.isFinite || x == 0 || 323 < places then .ok x
  else if places < -308 then .ok (0 * x)
  else
    let (n, d) := Binary64.toRatio x
    let units := roundQuotient (n.natAbs * Nat.pow 10 places.toNat) (d * Nat.pow 10 (-places).toNat)
    match Binary64.ofRatio? (Binary64.isNegative x) (units * Nat.pow 10 (-places).toNat)
        (Nat.pow 10 places.toNat) with
    | some y => .ok y
    | none => .error ⟨.overflow, "rounded value too large to represent"⟩

/-- A number rounded: without a count of places to a whole number, else to that many decimal
places. -/
def roundedTo (x places : Value) : Except Fault Value := do
  match x with
  | float a =>
    match places with
    | null => return int (← wholeOf Binary64.roundToInt a)
    | _ =>
      match integer? places with
      | some k => return float (← roundDoubleTo a k)
      | none => throw .wrongType
  | _ =>
    match integer? x with
    | none => throw .wrongType
    | some n =>
      match places with
      | null => return int n
      | _ =>
        match integer? places with
        | some k => return int (if 0 ≤ k then n else roundIntegerTo n k.natAbs)
        | none => throw .wrongType

end Phrasebook.Value
