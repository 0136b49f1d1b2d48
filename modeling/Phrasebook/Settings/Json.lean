import Phrasebook.Value.Equality
import Phrasebook.Value.Numeral

/-!
# JSON documents

A JSON document denotes a value: objects become mappings in written order, where a repeated key
keeps its first place and takes its last value, and numbers with a fraction or an exponent become
doubles.  `NaN` and the two infinities are accepted as numbers.

* `Json.read`: the value of a document, or what is wrong with it and where.
-/

namespace Phrasebook

/-- Why a text is no JSON document. -/
inductive JsonFault where
  /-- The text is malformed; `position` counts the characters before the place. -/
  | malformed (message : Text) (position : Nat)
  /-- A number has too many digits. -/
  | number (f : Fault)
  deriving DecidableEq, Repr

namespace Json

/-- A failure inside a document: what is wrong, and the text from the place on. -/
inductive Trouble where
  | at (message : Text) (rest : Text)
  | number (f : Fault)

/-- The blanks between the parts of a document. -/
def isBlank (c : Char) : Bool := c == ' ' || c == '\t' || c == '\n' || c == '\r'

/-- Drops blanks. -/
def skip (t : Text) : Text := t.dropWhile isBlank

/-! ## Strings -/

/-- The character of an escape of one letter. -/
def letterEscape? : Char → Option Char
  | '"' => some '"'
  | '\\' => some '\\'
  | '/' => some '/'
  | 'b' => some '\x08'
  | 'f' => some '\x0c'
  | 'n' => some '\n'
  | 'r' => some '\r'
  | 't' => some '\t'
  | _ => none

/-- The code of four hexadecimal digits. -/
def hexCode? (t : Text) : Option Nat :=
  if t.length < 4 then none else Text.natOfDigits? 16 (t.take 4)

/-- The second half of a surrogate pair after its first half: the code of the second half and the
rest, if a whole escape stands there. -/
def lowHalf? : Text → Option (Except Trouble (Nat × Text))
  | '\\' :: 'u' :: t =>
    if t.length < 5 then none
    else
      match hexCode? t with
      | none => some (.error (.at "Invalid \\uXXXX escape" ('u' :: t)))
      | some low => if 0xdc00 ≤ low ∧ low < 0xe000 then some (.ok (low, t.drop 4)) else none
  | _ => none

/-- The character after `\u`, and the rest. -/
def codeEscape (t : Text) : Except Trouble (Char × Text) :=
  let bad := Except.error (.at "Invalid \\uXXXX escape" ('u' :: t))
  if t.length < 5 then bad
  else
    match hexCode? t with
    | none => bad
    | some code =>
      let rest := t.drop 4
      if 0xd800 ≤ code ∧ code < 0xdc00 then
        match lowHalf? rest with
        | some (.error e) => .error e
        | some (.ok (low, rest)) =>
          .ok (Char.ofNat (0x10000 + (code - 0xd800) * 0x400 + (low - 0xdc00)), rest)
        | none => .ok (Text.charOf code, rest)
      else .ok (Text.charOf code, rest)

/-- The rest of a string, whose opening quote begins `start`; `rounds` bounds its length. -/
def readString (start : Text) : Nat → Text → Except Trouble (Text × Text)
  | 0, _ => .error (.at "Unterminated string starting at" start)
  | rounds + 1, t =>
    match t with
    | [] => .error (.at "Unterminated string starting at" start)
    | '"' :: rest => .ok ([], rest)
    | ['\\'] => .error (.at "Unterminated string starting at" start)
    | '\\' :: 'u' :: rest => do
      let (c, rest) ← codeEscape rest
      let (body, rest) ← readString start rounds rest
      return (c :: body, rest)
    | '\\' :: e :: rest => do
      match letterEscape? e with
      | none => throw (.at "Invalid \\escape" t)
      | some c =>
        let (body, rest) ← readString start rounds rest
        return (c :: body, rest)
    | c :: rest =>
      if c.toNat < 0x20 then .error (.at "Invalid control character at" t)
      else do
        let (body, rest) ← readString start rounds rest
        return (c :: body, rest)

/-! ## Numbers -/

/-- A run of digits and the rest. -/
def digits (t : Text) : Text × Text := t.span Char.isDigit

/-- The whole digits at the beginning of a number: a zero stands alone. -/
def wholeDigits : Text → Option (Text × Text)
  | '0' :: rest => some (['0'], rest)
  | t =>
    match digits t with
    | ([], _) => none
    | found => some found

/-- The digits of a fraction, if there are any after a point. -/
def fractionDigits (t : Text) : Option (Text × Text) :=
  match t with
  | '.' :: rest =>
    match digits rest with
    | ([], _) => none
    | found => some found
  | _ => none

/-- The exponent, if there are digits after its mark. -/
def exponent? (t : Text) : Option (Int × Text) :=
  match t with
  | c :: rest =>
    if c = 'e' ∨ c = 'E' then
      let (negative, rest) := Numeral.takeSign rest
      match digits rest with
      | ([], _) => none
      | (found, rest) =>
        let n : Int := (Text.natOfDigits? 10 found).getD 0
        some (if negative then -n else n, rest)
    else none
  | [] => none

/-- A number and the rest. -/
def readNumber (t : Text) : Except Trouble (Value × Text) :=
  let (negative, body) := match t with
    | '-' :: rest => (true, rest)
    | _ => (false, t)
  match wholeDigits body with
  | none => .error (.at "Expecting value" t)
  | some (whole, rest) =>
    let fraction := fractionDigits rest
    let rest := (fraction.map (·.2)).getD rest
    let power := exponent? rest
    if fraction.isSome || power.isSome then
      let fractionText := (fraction.map (·.1)).getD []
      let x := Numeral.ofParts negative whole fractionText ((power.map (·.1)).getD 0)
      .ok (.float x, (power.map (·.2)).getD rest)
    else
      match Value.readInteger 10 ((if negative then ['-'] else []) ++ whole) with
      | .ok n => .ok (.int n, rest)
      | .error f => .error (.number f)

/-- A word that stands for a value, and the rest. -/
def readWord? (t : Text) : Option (Value × Text) :=
  let words : List (String × Value) :=
    [("null", .null), ("true", .bool true), ("false", .bool false), ("NaN", .float Binary64.nan),
      ("Infinity", .float Binary64.infinity),
      ("-Infinity", .float (Binary64.withSign true Binary64.infinity))]
  words.findSome? fun (word, v) => (Text.after? word.toList t).map fun rest => (v, rest)

/-! ## Values -/

mutual

/-- A value and the rest; `rounds` bounds the nesting and length. -/
def readValue (rounds : Nat) (t : Text) : Except Trouble (Value × Text) :=
  match rounds with
  | 0 => .error (.at "Expecting value" t)
  | rounds + 1 =>
    match t with
    | [] => .error (.at "Expecting value" t)
    | '"' :: rest => do
      let (body, rest) ← readString t (rest.length + 1) rest
      return (.text body, rest)
    | '\x7b' :: rest =>
      match skip rest with
      | '\x7d' :: rest => .ok (.dict [], rest)
      | rest => do
        let (entries, rest) ← readEntries rounds [] rest
        return (.dict entries, rest)
    | '[' :: rest =>
      match skip rest with
      | ']' :: rest => .ok (.list [], rest)
      | rest => do
        let (items, rest) ← readItems rounds rest
        return (.list items, rest)
    | _ =>
      match readWord? t with
      | some found => .ok found
      | none => readNumber t

/-- The items of an array up to its closing bracket. -/
def readItems (rounds : Nat) (t : Text) : Except Trouble (List Value × Text) :=
  match rounds with
  | 0 => .error (.at "Expecting value" t)
  | rounds + 1 => do
    let (v, rest) ← readValue rounds t
    match skip rest with
    | ']' :: rest => return ([v], rest)
    | ',' :: rest =>
      let (items, rest) ← readItems rounds (skip rest)
      return (v :: items, rest)
    | rest => throw (.at "Expecting ',' delimiter" rest)

/-- The entries of an object up to its closing brace, added to those before them. -/
def readEntries (rounds : Nat) (entries : List (Value × Value)) (t : Text) :
    Except Trouble (List (Value × Value) × Text) :=
  match rounds with
  | 0 => .error (.at "Expecting value" t)
  | rounds + 1 =>
    match t with
    | '"' :: rest => do
      let (key, rest) ← readString t (rest.length + 1) rest
      match skip rest with
      | ':' :: rest =>
        let (v, rest) ← readValue rounds (skip rest)
        let entries := Value.insertEntry entries (.text key) v
        match skip rest with
        | '\x7d' :: rest => return (entries, rest)
        | ',' :: rest => readEntries rounds entries (skip rest)
        | rest => throw (.at "Expecting ',' delimiter" rest)
      | rest => throw (.at "Expecting ':' delimiter" rest)
    | _ => .error (.at "Expecting property name enclosed in double quotes" t)

end

/-- The value of a document. -/
def read (t : Text) : Except JsonFault Value :=
  let found : Except Trouble Value := do
    if t.head? = some '\uFEFF' then
      throw (.at "Unexpected UTF-8 BOM (decode using utf-8-sig)" t)
    else
      let (v, rest) ← readValue (2 * t.length + 1) (skip t)
      match skip rest with
      | [] => return v
      | rest => throw (.at "Extra data" rest)
  found.mapError fun
    | .at message rest => .malformed message (t.length - rest.length)
    | .number f => .number f

end Json

end Phrasebook
