import Phrasebook.Number.Binary64
import Phrasebook.Text.Blank
import Phrasebook.Text.Digit

/-!
# Reading numbers from text

Whole numbers in bases 2 to 36 and decimal fractions, with optional blanks around them, single
underscores between digits, and the decimal digits of every script.

* `Numeral.readInt`: whole numbers, with the faults that tell bad input apart;
* `Numeral.readFloat?`: decimal fractions, infinities and the value that is no number.
-/

namespace Phrasebook

/-- The most digits that a whole number may have when it is read or written in a base that is
no power of two. -/
def digitLimit : Nat := 4300

/-- Why a text is no whole number. -/
inductive NumeralFault where
  /-- The text does not spell a number in the base. -/
  | malformed
  /-- More digits than the limit allows. -/
  | tooLong (digits : Nat)
  /-- The base is neither zero nor between 2 and 36. -/
  | badBase
  deriving DecidableEq, Repr

namespace Numeral

/-- The blanks of ASCII that may surround a number. -/
def isNumeralBlank (c : Char) : Bool := (9 ≤ c.toNat && c.toNat ≤ 13) || c == ' '

/-- Brings digits and blanks of other scripts to ASCII; any other character beyond ASCII turns
into one that no number contains. -/
def toAscii (t : Text) : Text :=
  t.map fun c =>
    if c.toNat < 128 then c
    else
      match Text.decimalValue? c with
      | some d => Char.ofNat (48 + d)
      | none => if Text.isBlank c then ' ' else '?'

/-- Splits off a sign: whether it is a minus, and the rest. -/
def takeSign : Text → Bool × Text
  | '-' :: rest => (true, rest)
  | '+' :: rest => (false, rest)
  | rest => (false, rest)

/-- A run of digits in a base, with single underscores between them: the digits and what
follows. `pending` tells that the run so far ends in an underscore, which a digit must follow. -/
def digitsAfter (base : Nat) (pending : Bool) : Text → Option (Text × Text)
  | [] => if pending then none else some ([], [])
  | c :: rest =>
    if (Text.digitValue? c).any (· < base) then
      (digitsAfter base false rest).map fun (digits, rest) => (c :: digits, rest)
    else if pending then none
    else if c = '_' then digitsAfter base true rest
    else some ([], c :: rest)

/-- The run of digits at the beginning of a text and what follows; it may be empty, and an
underscore may stand only between two of its digits. -/
def digitRun (base : Nat) (t : Text) : Option (Text × Text) :=
  match t with
  | '_' :: _ => none
  | _ => digitsAfter base false t

/-- The base announced by a leading `0x`, `0o` or `0b`. -/
def announcedBase? : Text → Option Nat
  | '0' :: 'x' :: _ | '0' :: 'X' :: _ => some 16
  | '0' :: 'o' :: _ | '0' :: 'O' :: _ => some 8
  | '0' :: 'b' :: _ | '0' :: 'B' :: _ => some 2
  | _ => none

/-- Drops the two characters that announce the base, and one underscore after them. -/
def dropBaseMark (t : Text) : Text :=
  match t.drop 2 with
  | '_' :: rest => rest
  | rest => rest

/-- Reads a whole number in a base from 2 to 36, or with base zero in the base that its first
characters announce. -/
def readInt (base : Int) (t : Text) : Except NumeralFault Int :=
  if base ≠ 0 ∧ (base < 2 ∨ 36 < base) then .error .badBase
  else
    let (negative, body) := takeSign ((toAscii t).dropWhile isNumeralBlank)
    let announced := announcedBase? body
    -- Without a base, a number that starts with a zero may hold zeros only.
    let onlyZero := base = 0 ∧ announced = none ∧ body.head? = some '0'
    let b := if base = 0 then announced.getD 10 else base.toNat
    let body := if announced = some b then dropBaseMark body else body
    match digitRun b body with
    | none => .error .malformed
    | some (digits, rest) =>
      if digitLimit < digits.length ∧ b ∉ [2, 4, 8, 16, 32] then .error (.tooLong digits.length)
      else
        match Text.natOfDigits? b digits with
        | none => .error .malformed
        | some n =>
          if digits = [] ∨ rest.any (fun c => !isNumeralBlank c) ∨ (onlyZero ∧ n ≠ 0) then
            .error .malformed
          else .ok (if negative then -n else n)

/-- The decimal exponent after `e` or `E`; zero where there is none. -/
def readExponent? : Text → Option Int
  | [] => some 0
  | c :: rest =>
    if c = 'e' ∨ c = 'E' then
      let (negative, body) := takeSign rest
      match digitRun 10 body with
      | some (digits, []) =>
        if digits = [] then none
        else (Text.natOfDigits? 10 digits).map fun n => if negative then -(n : Int) else n
      | _ => none
    else none

/-- The digits before the point, those after it, and the exponent of a decimal fraction. -/
def readDecimal? (t : Text) : Option (Text × Text × Int) := do
  let (whole, rest) ← digitRun 10 t
  let (fraction, rest) ← match rest with
    | '.' :: rest => digitRun 10 rest
    | rest => some ([], rest)
  if whole = [] ∧ fraction = [] then none
  let exponent ← readExponent? rest
  some (whole, fraction, exponent)

/-- The double nearest to a decimal fraction given by its parts. -/
def ofParts (negative : Bool) (whole fraction : Text) (exponent : Int) : Float :=
  Binary64.ofDecimal negative ((Text.natOfDigits? 10 (whole ++ fraction)).getD 0)
    (exponent - fraction.length)

/-- Reads a decimal fraction, an infinity or the value that is no number. -/
def readFloat? (t : Text) : Option Float :=
  let (negative, body) := takeSign (Text.strip isNumeralBlank (toAscii t))
  let word := body.map Char.toLower
  if word = "inf" ∨ word = "infinity" then some (Binary64.withSign negative Binary64.infinity)
  else if word = "nan" then some (Binary64.withSign negative Binary64.nan)
  else (readDecimal? body).map fun (whole, fraction, exponent) =>
    ofParts negative whole fraction exponent

end Numeral

end Phrasebook
