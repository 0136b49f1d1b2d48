import Phrasebook.Expression.Lexeme

/-!
# What text literals stand for

A backslash begins an escape, save in a raw literal: control characters by letter, code points
by up to three octal digits or by a set number of hexadecimal ones.  A backslash in front of any
other character stands for itself, and at the end of a line it joins the lines.

* `Literal.text?`, `Literal.bytes?`: the value of a literal, or `none` for a broken escape.

Escapes by the name of a character are not known and count as broken.
-/

namespace Phrasebook.Literal

/-- The code point of an escape by a single letter. -/
def letterEscape? : Char → Option Nat
  | '\\' => some 92
  | '\'' => some 39
  | '"' => some 34
  | 'a' => some 7
  | 'b' => some 8
  | 'f' => some 12
  | 'n' => some 10
  | 'r' => some 13
  | 't' => some 9
  | 'v' => some 11
  | _ => none

/-- Is the character an octal digit? -/
def isOctal (c : Char) : Bool := '0' ≤ c && c ≤ '7'

/-- The value of exactly `count` hexadecimal digits and what follows them. -/
def hexDigits? (count : Nat) (t : Text) : Option (Nat × Text) :=
  let digits := t.take count
  if digits.length = count ∧ digits.all (fun c => (Text.digitValue? c).any (· < 16)) then
    some (Text.hexValue digits, t.drop count)
  else none

/-- The code points that the text after a backslash stands for, and the rest. `wide` allows the
escapes for code points beyond a byte. -/
def escape? (wide : Bool) : Text → Option (List Nat × Text)
  | [] => some ([92], [])
  | '\n' :: rest => some ([], rest)
  | c :: rest =>
    match letterEscape? c with
    | some code => some ([code], rest)
    | none =>
      if isOctal c then
        let digits := (c :: rest).take 3 |>.takeWhile isOctal
        let code := (Text.natOfDigits? 8 digits).getD 0
        some ([if wide then code else code % 256], (c :: rest).drop digits.length)
      else if c = 'x' then (hexDigits? 2 rest).map fun (n, rest) => ([n], rest)
      else if wide ∧ c = 'u' then (hexDigits? 4 rest).map fun (n, rest) => ([n], rest)
      else if wide ∧ c = 'U' then
        (hexDigits? 8 rest).bind fun (n, rest) => if n < 0x110000 then some ([n], rest) else none
      else if wide ∧ c = 'N' then none
      else some ([92, c.toNat], rest)

/-- The code points of a body with its escapes resolved. Every round takes at least one
character, so the length of the text is enough `fuel`. -/
def codes? (wide : Bool) : Nat → Text → Option (List Nat)
  | _, [] => some []
  | 0, _ :: _ => none
  | fuel + 1, '\\' :: rest => do
    let (codes, rest) ← escape? wide rest
    return codes ++ (← codes? wide fuel rest)
  | fuel + 1, c :: rest => do return c.toNat :: (← codes? wide fuel rest)

/-- The text of a literal that is no bytes. -/
def text? (l : Literal) : Option Text :=
  if l.raw then some l.body
  else (codes? true l.body.length l.body).map fun codes => codes.map Text.charOf

/-- The bytes of a bytes literal, which holds ASCII only. -/
def bytes? (l : Literal) : Option (List Nat) :=
  if l.body.any (fun c => 128 ≤ c.toNat) then none
  else if l.raw then some (l.body.map Char.toNat)
  else codes? false l.body.length l.body

end Phrasebook.Literal
