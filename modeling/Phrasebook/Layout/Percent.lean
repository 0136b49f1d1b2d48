import Phrasebook.Text.Case
import Phrasebook.Value.Access
import Phrasebook.Value.Numeral

/-!
# Percent conversions

A layout such as `%s is %5.1f` puts values into a text.  Each conversion may name the entry of a
mapping that it takes, and may have flags, a width and a precision.

* `Conversion`: one conversion after reading;
* `Conversion.apply`: the text that it makes of a value;
* `Value.percent`: a whole layout filled.
-/

namespace Phrasebook

/-- A conversion: how one value is put into a layout. -/
structure Conversion where
  /-- Is the value placed at the left of its field? -/
  left : Bool := false
  /-- Is a plus sign written? -/
  plus : Bool := false
  /-- Does a blank stand for a plus sign? -/
  blank : Bool := false
  /-- Is the base of a number shown, and are trailing zeros kept? -/
  alternate : Bool := false
  /-- Is the field filled with zeros? -/
  zero : Bool := false
  width : Option Nat := none
  precision : Option Nat := none
  /-- The letter that tells what kind of text is made. -/
  letter : Char := 's'

/-- The values that a layout is filled with. -/
structure Supply where
  /-- The values that have not been used. -/
  rest : List Value
  /-- What named entries are taken from; with it, values may be left over. -/
  source : Option Value

namespace Supply

/-- The next value. -/
def next (s : Supply) : Except Failure (Value × Supply) :=
  match s.rest with
  | [] => .error .wrongType
  | v :: rest => .ok (v, { s with rest })

/-- The next value as an integer in the range of positions. -/
def nextInteger (s : Supply) (limit : Nat) (name : Text) : Except Failure (Int × Supply) := do
  let (v, s) ← s.next
  match v.integer? with
  | none => throw .wrongType
  | some n =>
    if n < -(limit : Int) - 1 ∨ (limit : Int) < n then
      throw (.fault ⟨.overflow, "Python int too large to convert to C " ++ name⟩)
    else return (n, s)

/-- The supply of a layout filled with a value: the elements of a tuple, or the value itself. -/
def ofValue : Value → Supply
  | .tuple items => ⟨items, none⟩
  | .dict es => ⟨[.dict es], some (.dict es)⟩
  | .list xs => ⟨[.list xs], some (.list xs)⟩
  | .bytes b => ⟨[.bytes b], some (.bytes b)⟩
  | v => ⟨[v], none⟩

end Supply

namespace Conversion

/-! ## Reading -/

/-- Reads flags in any order and number. -/
def readFlags (c : Conversion) : Text → Conversion × Text
  | '-' :: rest => readFlags { c with left := true } rest
  | '+' :: rest => readFlags { c with plus := true } rest
  | ' ' :: rest => readFlags { c with blank := true } rest
  | '#' :: rest => readFlags { c with alternate := true } rest
  | '0' :: rest => readFlags { c with zero := true } rest
  | rest => (c, rest)

/-- A run of ASCII digits as a number, and the rest. -/
def readDigits (t : Text) : Nat × Text :=
  let digits := t.takeWhile Char.isDigit
  ((Text.natOfDigits? 10 digits).getD 0, t.dropWhile Char.isDigit)

/-- Reads a width: digits, or a star that takes the next value. -/
def readWidth (c : Conversion) (s : Supply) : Text → Except Failure (Conversion × Supply × Text)
  | '*' :: rest => do
    let (n, s) ← s.nextInteger positionLimit "ssize_t"
    if memoryLimit < n.natAbs then throw (.fault ⟨.memory, []⟩)
    else return ({ c with width := some n.natAbs, left := c.left || n < 0 }, s, rest)
  | t =>
    match t with
    | d :: _ =>
      if d.isDigit then
        let (n, rest) := readDigits t
        if positionLimit < n then .error (.fault (.badValue "width too big"))
        else if memoryLimit < n then .error (.fault ⟨.memory, []⟩)
        else .ok ({ c with width := some n }, s, rest)
      else .ok (c, s, t)
    | [] => .ok (c, s, t)

/-- Reads a precision after a point: digits, a star that takes the next value, or nothing for
zero. -/
def readPrecision (c : Conversion) (s : Supply) : Text → Except Failure (Conversion × Supply × Text)
  | '.' :: '*' :: rest => do
    let (n, s) ← s.nextInteger (Nat.pow 2 31 - 1) "int"
    return ({ c with precision := some n.toNat }, s, rest)
  | '.' :: rest =>
    let (n, rest) := readDigits rest
    if Nat.pow 2 31 - 1 < n then .error (.fault (.badValue "precision too big"))
    else .ok ({ c with precision := some n }, s, rest)
  | t => .ok (c, s, t)

/-- The name between parentheses, which may hold balanced parentheses, and the rest. -/
def readName (depth : Nat) : Text → Option (Text × Text)
  | [] => none
  | c :: rest =>
    if c = ')' ∧ depth = 0 then some ([], rest)
    else
      let depth := if c = '(' then depth + 1 else if c = ')' then depth - 1 else depth
      (readName depth rest).map fun (name, rest) => (c :: name, rest)

/-- Reads the name of an entry and supplies what is bound to it. -/
def readSource (s : Supply) : Text → Except Failure (Supply × Text)
  | '(' :: rest => do
    match s.source with
    | none => throw .wrongType
    | some source =>
      match readName 0 rest with
      | none => throw (.fault (.badValue "incomplete format key"))
      | some (name, rest) => return (⟨[← source.element (.text name)], s.source⟩, rest)
  | t => .ok (s, t)

/-! ## Writing -/

/-- Puts a body of a number with its sign and base mark into the field. -/
def place (c : Conversion) (sign mark body : Text) : Text :=
  let size := sign.length + mark.length + body.length
  let missing := (c.width.getD 0) - size
  if c.left then sign ++ mark ++ body ++ List.replicate missing ' '
  else if c.zero then sign ++ mark ++ List.replicate missing '0' ++ body
  else List.replicate missing ' ' ++ sign ++ mark ++ body

/-- Puts a text into the field, where zeros do not fill. -/
def placeText (c : Conversion) (body : Text) : Text := { c with zero := false }.place [] [] body

/-- The sign that is written in front of a number. -/
def signOf (c : Conversion) (negative : Bool) : Text :=
  if negative then ['-'] else if c.plus then ['+'] else if c.blank then [' '] else []

/-- The digits of an integer without its sign. -/
def digitsOf (base n : Nat) : Except Fault Text :=
  if base = 10 then integerText n else .ok (Text.ofNatBase base n)

/-- An integer in some base, with at least as many digits as the precision says. -/
def integer (c : Conversion) (base : Nat) (n : Int) : Except Fault Text := do
  let digits ← digitsOf base n.natAbs
  let digits := Text.padStart (c.precision.getD 0) '0' digits
  let digits := if c.letter = 'X' then digits.map Char.toUpper else digits
  let mark : Text :=
    if c.alternate && base != 10 then ['0', c.letter] else []
  return c.place (c.signOf (n < 0)) mark digits

/-- A double in the notation of the letter. -/
def double (c : Conversion) (x : Float) : Text :=
  let count := c.precision.getD 6
  let body :=
    match c.letter.toLower with
    | 'e' => FloatText.scientific c.alternate count x
    | 'f' => FloatText.fixed c.alternate count x
    | _ => FloatText.general c.alternate false count x
  let body := if c.letter.isUpper then body.map Char.toUpper else body
  c.place (c.signOf (Binary64.isNegative x && !x.isNaN)) [] body

/-- The character that an integer or a text of one character stands for. -/
def character : Value → Except Fault Text
  | .text [c] => .ok [c]
  | v =>
    match v.integer? with
    | none => .error .wrongType
    | some n =>
      if n < 0 ∨ 0x110000 ≤ n then .error ⟨.overflow, "%c arg not in range(0x110000)"⟩
      else .ok [Text.charOf n.toNat]

/-- The whole number that a value gives for a decimal conversion: fractions are cut off, and a
text is none. -/
def wholeNumber (v : Value) : Except Fault Int :=
  match v with
  | .text _ | .bytes _ => .error .wrongType
  | _ => v.toInteger

/-- The text that a conversion makes of a value. -/
def apply (c : Conversion) (v : Value) : Except Fault Text := do
  let cut := fun (t : Text) =>
    match c.precision with
    | some n => t.take n
    | none => t
  match c.letter with
  | 's' => return c.placeText (cut (← v.written))
  | 'r' => return c.placeText (cut (← v.quoted))
  | 'a' => return c.placeText (cut (Text.escapeBeyondAscii (← v.quoted)))
  | 'c' => return c.placeText (← character v)
  | 'd' | 'i' | 'u' => c.integer 10 (← wholeNumber v)
  | 'o' | 'x' | 'X' =>
    match v.integer? with
    | some n => c.integer (if c.letter = 'o' then 8 else 16) n
    | none => throw .wrongType
  | _ => return c.double (← v.realNumber)

/-- The letters that name a conversion. -/
def letters : List Char :=
  ['s', 'r', 'a', 'c', 'd', 'i', 'u', 'o', 'x', 'X', 'e', 'E', 'f', 'F', 'g', 'G']

/-- A letter that names no conversion, at a place in the layout. -/
def badLetter (letter : Char) (index : Nat) : Fault :=
  let shown := if 31 ≤ letter.toNat ∧ letter.toNat < 128 then letter else '?'
  .badValue ("unsupported format character '" ++ [shown] ++ "' (0x" ++
    Text.ofNatBase 16 letter.toNat ++ ") at index " ++ Text.ofNat index)

/-- Reads what follows a percent sign and converts a value: the text made, the supply left and
the rest of the layout. `size` is the length of the whole layout. -/
def step (size : Nat) (s : Supply) (t : Text) : Except Failure (Text × Supply × Text) := do
  let (s, t) ← readSource s t
  let (c, t) := readFlags {} t
  let (c, s, t) ← c.readWidth s t
  let (c, s, t) ← c.readPrecision s t
  let t := match t with
    | 'h' :: rest | 'l' :: rest | 'L' :: rest => rest
    | rest => rest
  match t with
  | [] => throw (.fault (.badValue "incomplete format"))
  | letter :: rest =>
    let (v, s) ← s.next
    if letter ∈ letters then
      return (← Fault.orFail (apply { c with letter } v), s, rest)
    else throw (.fault (badLetter letter (size - rest.length - 1)))

/-- Fills the rest of a layout of the given size; `rounds` bounds the number of its parts. -/
def fill (size : Nat) : Nat → Supply → Text → Except Failure (Text × Supply)
  | 0, s, _ => .ok ([], s)
  | rounds + 1, s, t =>
    match t with
    | [] => .ok ([], s)
    | '%' :: '%' :: rest => do
      let (after, s) ← fill size rounds s rest
      return ('%' :: after, s)
    | '%' :: rest => do
      let (made, s, rest) ← step size s rest
      let (after, s) ← fill size rounds s rest
      return (made ++ after, s)
    | c :: rest => do
      let (after, s) ← fill size rounds s rest
      return (c :: after, s)

end Conversion

namespace Value

/-- A layout filled with a value, or with the elements of a tuple. Every element must be used,
unless the layout could take named entries. -/
def percent (layout : Text) (v : Value) : Except Failure Value := do
  let (made, left) ← Conversion.fill layout.length layout.length (Supply.ofValue v) layout
  if left.rest ≠ [] ∧ left.source.isNone then throw .wrongType
  else return text made

end Value

end Phrasebook
