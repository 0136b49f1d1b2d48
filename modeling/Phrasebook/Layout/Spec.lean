import Phrasebook.Text.Case
import Phrasebook.Value.Numeral

/-!
# Field specifications

A field of a layout may say how its value is shown: `[[fill]align][sign][z][#][0][width][,][.precision][type]`.
The parts that are allowed depend on whether the value is a text, an integer, a double or a
complex number; no other value takes a specification.

* `FieldSpec.ofText`: a specification read;
* `Value.shown`: a value shown according to a specification.
-/

namespace Phrasebook

/-- Where a value stands in a field that is wider than it. -/
inductive Alignment where
  | left
  | right
  | center
  /-- The filling stands between the sign and the digits. -/
  | inside
  deriving DecidableEq, Repr

/-- How the sign of a number is written. -/
inductive SignStyle where
  | minusOnly
  | plus
  | blank
  deriving DecidableEq, Repr

/-- The mark between groups of digits. -/
inductive Grouping where
  | none
  | comma
  | underscore
  deriving DecidableEq, Repr

/-- A field specification. -/
structure FieldSpec where
  fill : Char
  align : Alignment
  /-- The sign style, if one is given. -/
  sign : Option SignStyle
  /-- Does a number that is shown as zero lose its minus sign? -/
  positiveZero : Bool
  alternate : Bool
  width : Option Nat
  grouping : Grouping
  precision : Option Nat
  /-- The letter that tells the notation; `none` for the default of the value. -/
  letter : Option Char

namespace Grouping

/-- The mark itself. -/
def mark : Grouping → Text
  | none => []
  | comma => ","
  | underscore => "_"

end Grouping

namespace FieldSpec

/-! ## Reading -/

/-- The alignment that a character stands for. -/
def alignment? : Char → Option Alignment
  | '<' => some .left
  | '>' => some .right
  | '^' => some .center
  | '=' => some .inside
  | _ => none

/-- Fill and alignment at the beginning. -/
def readAlignment : Text → (Option Char × Option Alignment) × Text
  | f :: a :: rest =>
    match alignment? a with
    | some align => ((some f, some align), rest)
    | none =>
      match alignment? f with
      | some align => ((none, some align), a :: rest)
      | none => ((none, none), f :: a :: rest)
  | [a] =>
    match alignment? a with
    | some align => ((none, some align), [])
    | none => ((none, none), [a])
  | [] => ((none, none), [])

/-- The sign style at the beginning. -/
def readSign : Text → Option SignStyle × Text
  | '+' :: rest => (some .plus, rest)
  | '-' :: rest => (some .minusOnly, rest)
  | ' ' :: rest => (some .blank, rest)
  | rest => (none, rest)

/-- Takes a character away if the text begins with it. -/
def readMark (c : Char) : Text → Bool × Text
  | d :: rest => if d = c then (true, rest) else (false, d :: rest)
  | [] => (false, [])

/-- Digits of any script as a number, if there are any. -/
def readCount (t : Text) : Except Fault (Option Nat × Text) :=
  let isDecimal := fun c => (Text.decimalValue? c).isSome
  let digits := t.takeWhile isDecimal
  if digits = [] then .ok (none, t)
  else
    let n := digits.foldl (fun n c => 10 * n + (Text.decimalValue? c).getD 0) 0
    if positionLimit < n then .error (.badValue "Too many decimal digits in format string")
    else .ok (some n, t.dropWhile isDecimal)

/-- Both grouping marks at once. -/
def bothMarks : Fault := .badValue "Cannot specify both ',' and '_'."

/-- The grouping mark at the beginning. -/
def readGrouping : Text → Except Fault (Grouping × Text)
  | ',' :: '_' :: _ => .error bothMarks
  | '_' :: ',' :: _ => .error bothMarks
  | ',' :: rest => .ok (.comma, rest)
  | '_' :: rest => .ok (.underscore, rest)
  | rest => .ok (.none, rest)

/-- The precision after a point. -/
def readPrecision : Text → Except Fault (Option Nat × Text)
  | '.' :: rest => do
    match ← readCount rest with
    | (none, _) => throw (.badValue "Format specifier missing precision")
    | found => return found
  | rest => .ok (none, rest)

/-- How a letter is named in a message. -/
def letterText (c : Char) : Text :=
  if 32 < c.toNat ∧ c.toNat < 128 then [c] else "\\x" ++ Text.ofNatBase 16 c.toNat

/-- Is the grouping mark allowed with the letter? -/
def groupingFits (grouping : Grouping) (letter : Option Char) : Bool :=
  match letter with
  | none => true
  | some c =>
    "defgEGF%".toList.contains c || ("boxX".toList.contains c && grouping == .underscore)

/-- Reads a specification for a value of the named type. Texts stand at the left by default and
numbers at the right; `standard` is the letter that is assumed where none is given. -/
def ofText (typeName : Text) (alignDefault : Alignment) (standard : Option Char) (t : Text) :
    Except Fault FieldSpec := do
  let ((fill, align), rest) := readAlignment t
  let (sign, rest) := readSign rest
  let (positiveZero, rest) := readMark 'z' rest
  let (alternate, rest) := readMark '#' rest
  let (zero, rest) := if fill.isSome then (false, rest) else readMark '0' rest
  let (width, rest) ← readCount rest
  let (grouping, rest) ← readGrouping rest
  let (precision, rest) ← readPrecision rest
  let letter ← match rest with
    | [] => pure standard
    | [c] => pure (some c)
    | _ => throw (.badValue
        ("Invalid format specifier '" ++ t ++ "' for object of type '" ++ typeName ++ "'"))
  if grouping ≠ .none && !groupingFits grouping letter then
    throw (.badValue
      ("Cannot specify '" ++ grouping.mark ++ "' with '" ++ letterText (letter.getD 's') ++ "'."))
  else if memoryLimit < width.getD 0 then throw ⟨.memory, []⟩
  else
    let align := align.getD (if zero && alignDefault = .right then .inside else alignDefault)
    return {
      fill := fill.getD (if zero then '0' else ' ')
      align, sign, positiveZero, alternate, width, grouping, precision, letter }

/-! ## Writing -/

/-- Groups of digits from the right, filled up with zeros to a least width. The digits come in
reverse, and so do the groups; `rounds` bounds their number. -/
def groups (size : Nat) : Nat → Text → Int → List Text
  | 0, digits, _ => [digits]
  | rounds + 1, digits, least =>
    let wanted := (max (max (digits.length : Int) least) 1).toNat
    let taken := min size wanted
    let group := digits.take taken ++ List.replicate (taken - digits.length) '0'
    let rest := digits.drop taken
    let least := least - taken
    if rest = [] ∧ least ≤ 0 then [group] else group :: groups size rounds rest (least - 1)

/-- Digits in groups, filled up with zeros to a least width. -/
def grouped (grouping : Grouping) (size : Nat) (digits : Text) (least : Int) : Text :=
  if digits = [] then []
  else if grouping = .none then Text.padStart least.toNat '0' digits
  else
    let found := groups size (digits.length + least.toNat) digits.reverse least
    Text.join grouping.mark (found.reverse.map List.reverse)

/-- How much of the filling stands before a body; the rest stands after it. -/
def paddingBefore (align : Alignment) (missing : Nat) : Nat :=
  match align with
  | .left | .inside => 0
  | .right => missing
  | .center => missing / 2

/-- A body in its field. -/
def padded (s : FieldSpec) (body : Text) : Text :=
  let missing := s.width.getD 0 - body.length
  let before := paddingBefore s.align missing
  List.replicate before s.fill ++ body ++ List.replicate (missing - before) s.fill

/-- The sign that is written. -/
def signText (s : FieldSpec) (negative : Bool) : Text :=
  if negative then ['-']
  else
    match s.sign with
    | some .plus => ['+']
    | some .blank => [' ']
    | _ => []

/-- A number in its field: sign, base mark, digits in groups of `size`, and what follows the
digits. -/
def number (s : FieldSpec) (size : Nat) (negative : Bool) (mark digits rest : Text) : Text :=
  let sign := s.signText negative
  let others := sign.length + mark.length + rest.length
  let least : Int :=
    if s.fill = '0' ∧ s.align = .inside then (s.width.getD 0 : Int) - others else 0
  let body := grouped s.grouping size digits least ++ rest
  if s.align = .inside then
    let missing := s.width.getD 0 - (sign.length + mark.length + body.length)
    sign ++ mark ++ List.replicate missing s.fill ++ body
  else s.padded (sign ++ mark ++ body)

/-- A letter that the type of the value does not know. -/
def unknownLetter (typeName : Text) (c : Char) : Fault :=
  .badValue ("Unknown format code '" ++ letterText c ++ "' for object of type '" ++ typeName ++ "'")

/-- A text in its field, cut to the precision. -/
def text (s : FieldSpec) (t : Text) : Except Fault Text :=
  let refuse (what : Text) : Except Fault Text :=
    .error (.badValue (what ++ " not allowed in string format specifier"))
  match s.letter with
  | some 's' | none =>
    if s.sign = some .blank then refuse "Space"
    else if s.sign.isSome then refuse "Sign"
    else if s.positiveZero then refuse "Negative zero coercion (z)"
    else if s.alternate then refuse "Alternate form (#)"
    else if s.align = .inside then refuse "'=' alignment"
    else
      .ok (s.padded (match s.precision with
        | some n => t.take n
        | none => t))
  | some c => .error (unknownLetter "str" c)

/-- The base, the base mark and whether capitals are used, for the notations of integers. -/
def base? : Char → Option (Nat × Text)
  | 'd' | 'n' => some (10, [])
  | 'b' => some (2, "0b")
  | 'o' => some (8, "0o")
  | 'x' => some (16, "0x")
  | 'X' => some (16, "0X")
  | _ => none

/-- The character with the code of an integer, in its field. -/
def character (s : FieldSpec) (n : Int) : Except Fault Text :=
  if s.sign.isSome then
    .error (.badValue "Sign not allowed with integer format specifier 'c'")
  else if s.alternate then
    .error (.badValue "Alternate form (#) not allowed with integer format specifier 'c'")
  else if n < -(positionLimit : Int) - 1 ∨ (positionLimit : Int) < n then
    .error ⟨.overflow, "Python int too large to convert to C long"⟩
  else if n < 0 ∨ 0x110000 ≤ n then .error ⟨.overflow, "%c arg not in range(0x110000)"⟩
  else .ok (s.number 3 false [] [] [Text.charOf n.toNat])

/-- An integer in its field. -/
def integer (s : FieldSpec) (letter : Char) (n : Int) : Except Fault Text :=
  if s.precision.isSome then
    .error (.badValue "Precision not allowed in integer format specifier")
  else if s.positiveZero then
    .error (.badValue "Negative zero coercion (z) not allowed in integer format specifier")
  else if letter = 'c' then s.character n
  else do
    let (base, mark) := (base? letter).getD (10, [])
    let digits ← if base = 10 then integerText n.natAbs else pure (Text.ofNatBase base n.natAbs)
    let digits := if letter = 'X' then digits.map Char.toUpper else digits
    let size := if base = 10 then 3 else 4
    return s.number size (n < 0) (if s.alternate then mark else []) digits []

/-- The absolute value of a double in the notation of a letter; without one, the default text or
as many digits as the precision says. -/
def magnitude (s : FieldSpec) (letter : Option Char) (showFraction : Bool) (x : Float) : Text :=
  let count := s.precision.getD 6
  let body :=
    match letter with
    | none =>
      match s.precision with
      | some n => FloatText.general s.alternate showFraction n x
      | none =>
        FloatText.shortest s.alternate
          (if showFraction then ".0" else if s.alternate then "." else []) x
    | some c =>
      match c.toLower with
      | 'e' => FloatText.scientific s.alternate count x
      | 'f' => FloatText.fixed s.alternate count x
      | _ => FloatText.general s.alternate false count x
  if letter.any Char.isUpper then body.map Char.toUpper else body

/-- Is the sign of a double written, given the text of its absolute value? -/
def isShownNegative (s : FieldSpec) (x : Float) (body : Text) : Bool :=
  Binary64.isNegative x && !x.isNaN &&
    !(s.positiveZero && x.isFinite &&
      (body.takeWhile fun c => c != 'e' && c != 'E').all fun c => c == '0' || c == '.')

/-- A double with its sign, in groups. -/
def signedDouble (s : FieldSpec) (x : Float) (body : Text) : Text :=
  s.number 3 (s.isShownNegative x body) [] (body.takeWhile Char.isDigit)
    (body.dropWhile Char.isDigit)

/-- The largest precision. -/
def precisionLimit : Nat := Nat.pow 2 31 - 1

/-- A double in its field. -/
def double (s : FieldSpec) (x : Float) : Except Fault Text :=
  if precisionLimit < s.precision.getD 0 then .error (.badValue "precision too big")
  else if s.letter = some '%' then
    let x := x * 100
    .ok (s.signedDouble x (s.magnitude (some 'f') true x ++ ['%']))
  else .ok (s.signedDouble x (s.magnitude s.letter true x))

/-- A complex number in its field. -/
def complex (s : FieldSpec) (re im : Float) : Except Fault Text :=
  if precisionLimit < s.precision.getD 0 then .error (.badValue "precision too big")
  else if s.fill = '0' then
    .error (.badValue "Zero padding is not allowed in complex format specifier")
  else if s.align = .inside then
    .error (.badValue "'=' alignment flag is not allowed in complex format specifier")
  else
    let alone := s.letter.isNone && re == 0 && !Binary64.isNegative re
    let bare : FieldSpec := { s with align := .left, width := none }
    let whole := fun (s : FieldSpec) x => s.signedDouble x (s.magnitude s.letter false x)
    let imaginary := whole (if alone then bare else { bare with sign := some .plus }) im ++ ['j']
    let body := if alone then imaginary else whole bare re ++ imaginary
    .ok (s.padded (if s.letter.isNone && !alone then "(" ++ body ++ ")" else body))

end FieldSpec

namespace Value

/-- The letters of the notations of doubles. -/
def doubleLetters : List Char := ['e', 'E', 'f', 'F', 'g', 'G', '%']

/-- An integer or truth value shown according to a specification. -/
def shownInteger (typeName : Text) (n : Int) (spec : Text) : Except Fault Text := do
  let s ← FieldSpec.ofText typeName .right (some 'd') spec
  match s.letter with
  | none => throw .wrongType
  | some c =>
    if c = 'c' ∨ (FieldSpec.base? c).isSome then s.integer c n
    else if c ∈ doubleLetters then s.double (← Number.toFloat n)
    else throw (FieldSpec.unknownLetter typeName c)

/-- A value shown according to a specification; without one, as it is written. -/
def shown (v : Value) (spec : Text) : Except Fault Text :=
  if spec = [] then written v
  else
    match v with
    | text t => do (← FieldSpec.ofText "str" .left (some 's') spec).text t
    | bool b => shownInteger "bool" (if b then 1 else 0) spec
    | int n => shownInteger "int" n spec
    | float x => do
      let s ← FieldSpec.ofText "float" .right none spec
      match s.letter with
      | none => s.double x
      | some c =>
        if c ∈ doubleLetters ∨ c = 'n' then s.double x
        else throw (FieldSpec.unknownLetter "float" c)
    | complex re im => do
      let s ← FieldSpec.ofText "complex" .right none spec
      match s.letter with
      | none => s.complex re im
      | some c =>
        if (c ∈ doubleLetters ∧ c ≠ '%') ∨ c = 'n' then s.complex re im
        else throw (FieldSpec.unknownLetter "complex" c)
    | _ => .error .wrongType

end Value

end Phrasebook
