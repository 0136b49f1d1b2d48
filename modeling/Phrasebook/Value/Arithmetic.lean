import Phrasebook.Fault
import Phrasebook.Number.Complex
import Phrasebook.Value.Order

/-!
# Arithmetic on values

Truth values count as integers.  An integer that meets a double becomes one, and either becomes
complex when it meets a complex number.  Texts, bytes, lists and tuples can be put together and
repeated, sets can be subtracted.

* `Number.add`, `Number.sub`, `Number.mul`, `Number.div`, `Number.floorDiv`, `Number.mod`,
  `Number.pow`: arithmetic of numbers;
* `Value.add`, `Value.sub`, `Value.mul`: the same operators on all values;
* `Value.negative`, `Value.positive`, `Value.absolute`: one operand.
-/

namespace Phrasebook

/-- The largest length and position. -/
def positionLimit : Nat := Nat.pow 2 63 - 1

/-- More elements than this do not fit into memory. -/
def memoryLimit : Nat := Nat.pow 2 34

/-- A number. -/
inductive Number where
  | int (n : Int)
  | float (x : Float)
  | complex (c : Complex)

/-- Two numbers brought to the same type. -/
inductive NumberPair where
  | ints (m n : Int)
  | floats (x y : Float)
  | complexes (a b : Complex)

namespace Number

/-- A number as a value. -/
def toValue : Number → Value
  | int n => .int n
  | float x => .float x
  | complex c => .complex c.re c.im

/-- An integer as a double. -/
def toFloat (n : Int) : Except Fault Float :=
  match Binary64.ofInt? n with
  | some x => .ok x
  | none => .error ⟨.overflow, "int too large to convert to float"⟩

/-- A number as a complex one. -/
def toComplex : Number → Except Fault Complex
  | int n => (toFloat n).map (⟨·, 0⟩)
  | float x => .ok ⟨x, 0⟩
  | complex c => .ok c

/-- Brings two numbers to the type of the wider one. -/
def pair : Number → Number → Except Fault NumberPair
  | int m, int n => .ok (.ints m n)
  | int m, float y => do return .floats (← toFloat m) y
  | float x, int n => do return .floats x (← toFloat n)
  | float x, float y => .ok (.floats x y)
  | a, b => do return .complexes (← a.toComplex) (← b.toComplex)

/-- The sum. -/
def add (a b : Number) : Except Fault Number := do
  match ← pair a b with
  | .ints m n => return int (m + n)
  | .floats x y => return float (x + y)
  | .complexes c d => return complex (c.add d)

/-- The difference. -/
def sub (a b : Number) : Except Fault Number := do
  match ← pair a b with
  | .ints m n => return int (m - n)
  | .floats x y => return float (x - y)
  | .complexes c d => return complex (c.sub d)

/-- The product. -/
def mul (a b : Number) : Except Fault Number := do
  match ← pair a b with
  | .ints m n => return int (m * n)
  | .floats x y => return float (x * y)
  | .complexes c d => return complex (c.mul d)

/-- Division by zero. -/
def zeroDivision (message : Text) : Fault := ⟨.zeroDivision, message⟩

/-- The quotient; of two integers it is rounded once. -/
def div (a b : Number) : Except Fault Number := do
  match ← pair a b with
  | .ints m n =>
    if n = 0 then throw (zeroDivision "division by zero")
    else
      match Binary64.ofRatio? ((m < 0) != (n < 0)) m.natAbs n.natAbs with
      | some x => return float x
      | none => throw ⟨.overflow, "integer division result too large for a float"⟩
  | .floats x y =>
    if y == 0 then throw (zeroDivision "float division by zero") else return float (x / y)
  | .complexes c d =>
    match c.quotient? d with
    | some q => return complex q
    | none => throw (zeroDivision "complex division by zero")

/-- Two real numbers brought to the same type; complex numbers have no quotient rounded
downwards. -/
def realPair : Number → Number → Except Fault NumberPair
  | complex _, _ | _, complex _ => .error .wrongType
  | a, b => pair a b

/-- The quotient rounded downwards. -/
def floorDiv (a b : Number) : Except Fault Number := do
  match ← realPair a b with
  | .ints m n =>
    if n = 0 then throw (zeroDivision "integer division or modulo by zero")
    else return int (Int.fdiv m n)
  | .floats x y =>
    if y == 0 then throw (zeroDivision "float floor division by zero")
    else return float (Binary64.floorQuotient x y)
  | .complexes _ _ => throw .wrongType

/-- What division rounded downwards leaves; it has the sign of the divisor. -/
def mod (a b : Number) : Except Fault Number := do
  match ← realPair a b with
  | .ints m n =>
    if n = 0 then throw (zeroDivision "integer modulo by zero") else return int (Int.fmod m n)
  | .floats x y =>
    if y == 0 then throw (zeroDivision "float modulo")
    else return float (Binary64.remainder x y)
  | .complexes _ _ => throw .wrongType

/-- Is the double an odd whole number? -/
def isOddWhole (x : Float) : Bool := Binary64.isWhole x && Binary64.truncate x % 2 != 0

/-- The power of complex numbers. -/
def complexPower (c d : Complex) : Except Fault Number :=
  match c.power? d with
  | none => .error (zeroDivision "0.0 to a negative or complex power")
  | some p =>
    if p.re.isInf || p.im.isInf then .error ⟨.overflow, "complex exponentiation"⟩
    else .ok (complex p)

/-- The power of doubles; a negative base with a fractional exponent has a complex power. -/
def floatPower (x y : Float) : Except Fault Number :=
  if y == 0 then .ok (float 1)
  else if x.isNaN then .ok (float x)
  else if y.isNaN then .ok (float (if x == 1 then 1 else y))
  else if y.isInf then
    .ok (float (if x.abs == 1 then 1 else if (y > 0) == (x.abs > 1) then y.abs else 0))
  else if x.isInf then
    .ok (float (if y > 0 then (if isOddWhole y then x else x.abs)
      else if isOddWhole y then Binary64.withSign (Binary64.isNegative x) 0 else 0))
  else if x == 0 then
    if y < 0 then .error (zeroDivision "0.0 cannot be raised to a negative power")
    else .ok (float (if isOddWhole y then x else 0))
  else if x < 0 && !Binary64.isWhole y then complexPower ⟨x, 0⟩ ⟨y, 0⟩
  else
    let negated := x < 0 && isOddWhole y
    let size := x.abs
    let p := if size == 1 then 1 else size.pow y
    if p.isInf then .error ⟨.overflow, "(34, 'Numerical result out of range')"⟩
    else .ok (float (if negated then -p else p))

/-- The power of integers; of zero, one and minus one it is known however large the exponent. -/
def integerPower (m : Int) (n : Nat) : Except Fault Int :=
  if n = 0 then .ok 1
  else if m = 0 ∨ m = 1 then .ok m
  else if m = -1 then .ok (if n % 2 = 0 then 1 else -1)
  else if memoryLimit < (m.natAbs.log2 + 1) * n then .error ⟨.memory, []⟩
  else .ok (Int.pow m n)

/-- The power; of two integers it is one unless the exponent is negative. -/
def pow (a b : Number) : Except Fault Number := do
  match ← pair a b with
  | .ints m n =>
    if n < 0 then floatPower (← toFloat m) (← toFloat n)
    else return int (← integerPower m n.natAbs)
  | .floats x y => floatPower x y
  | .complexes c d => complexPower c d

end Number

namespace Value

/-- A number or truth value as a number. -/
def number? : Value → Option Number
  | int n => some (.int n)
  | bool b => some (.int (if b then 1 else 0))
  | float x => some (.float x)
  | complex re im => some (.complex ⟨re, im⟩)
  | _ => none

/-- An operator on two numbers as one on values. -/
def arithmetic (op : Number → Number → Except Fault Number) (x y : Value) : Except Fault Value :=
  match number? x, number? y with
  | some a, some b => (op a b).map Number.toValue
  | _, _ => .error .wrongType

/-- The sum of numbers; texts, bytes, lists and tuples one after the other. -/
def add : Value → Value → Except Fault Value
  | text t, text u => .ok (text (t ++ u))
  | bytes a, bytes b => .ok (bytes (a ++ b))
  | list xs, list ys => .ok (list (xs ++ ys))
  | tuple xs, tuple ys => .ok (tuple (xs ++ ys))
  | x, y => arithmetic Number.add x y

/-- Is the value a view that behaves as a set? -/
def isSetView : Value → Bool
  | view .keys _ | view .items _ => true
  | _ => false

/-- The difference of numbers, and of sets or views that behave as sets. A view may be
subtracted from or by anything that can be walked through and holds possible members. -/
def sub (x y : Value) : Except Fault Value :=
  match x, y with
  | set xs, set ys => .ok (set (xs.filter fun v => !ys.any (same v)))
  | _, _ =>
    if isSetView x || isSetView y then
      match items? x, items? y with
      | some xs, some ys =>
        if allHashable xs && allHashable ys then
          .ok (set ((xs.foldl insertMember []).filter fun v => !ys.any (same v)))
        else .error .wrongType
      | _, _ => .error .wrongType
    else arithmetic Number.sub x y

/-- How often a sequence of the given length is repeated. -/
def copies (length : Nat) (n : Int) (tooLong : Fault) : Except Fault Nat :=
  if n < -(positionLimit : Int) - 1 ∨ (positionLimit : Int) < n then
    .error ⟨.overflow, "cannot fit 'int' into an index-sized integer"⟩
  else if length = 0 ∨ n ≤ 0 then .ok 0
  else if positionLimit < length * n.toNat then .error tooLong
  else if memoryLimit < length * n.toNat then .error ⟨.memory, []⟩
  else .ok n.toNat

/-- A sequence several times over; `none` for a value that is no sequence. -/
def repeat? (x : Value) (n : Int) : Option (Except Fault Value) :=
  let tooLong (what : Text) : Fault := ⟨.overflow, "repeated " ++ what ++ " too long"⟩
  match x with
  | text t => some ((copies t.length n (tooLong "string is")).map fun k => text (Text.repeated k t))
  | bytes b =>
    some ((copies b.length n (tooLong "bytes are")).map fun k => bytes (List.replicate k b).flatten)
  | list xs =>
    some ((copies xs.length n ⟨.memory, []⟩).map fun k => list (List.replicate k xs).flatten)
  | tuple xs =>
    some ((copies xs.length n ⟨.memory, []⟩).map fun k => tuple (List.replicate k xs).flatten)
  | _ => none

/-- The product of numbers, and a sequence repeated a number of times, in either order. -/
def mul (x y : Value) : Except Fault Value :=
  let repeated := fun (s n : Value) => (integer? n).bind (repeat? s)
  match repeated x y with
  | some result => result
  | none =>
    match repeated y x with
    | some result => result
    | none => arithmetic Number.mul x y

/-- The number with the opposite sign. -/
def negative : Value → Except Fault Value
  | float x => .ok (float (-x))
  | complex re im => .ok (complex (-re) (-im))
  | x =>
    match integer? x with
    | some n => .ok (int (-n))
    | none => .error .wrongType

/-- The number itself; a truth value becomes an integer. -/
def positive : Value → Except Fault Value
  | float x => .ok (float x)
  | complex re im => .ok (complex re im)
  | x =>
    match integer? x with
    | some n => .ok (int n)
    | none => .error .wrongType

/-- The number without its sign; the distance from zero of a complex one. -/
def absolute : Value → Except Fault Value
  | float x => .ok (float x.abs)
  | complex re im =>
    let size := Complex.magnitude ⟨re, im⟩
    if size.isInf && !re.isInf && !im.isInf then .error ⟨.overflow, "absolute value too large"⟩
    else .ok (float size)
  | x =>
    match integer? x with
    | some n => .ok (int n.natAbs)
    | none => .error .wrongType

end Value

end Phrasebook
