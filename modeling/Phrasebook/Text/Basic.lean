/-!
# Text

Documents, names, expressions and rendered output are all lists of characters, so that
every operation is a plain list recursion.  A string literal is accepted wherever a text
is expected.

The characters of a text are Unicode scalar values.  Half of a surrogate pair is none of them, so
texts with such halves, which other notions of text admit, are outside of what is described here:
where an escape or a code asks for one, the text has the replacement character in its place.

* `charOf`: the character with a code;
* `split`, `strip`, `startsWith`, `after?`: the cuts used by the readers;
* `join`, `repeated`, `padStart`: the ways texts are put together;
* `ofNat`, `ofInt`: decimal numerals, and numerals in any base.
-/

namespace Phrasebook

/-- Text is a list of characters; lengths and positions count characters. -/
abbrev Text := List Char

instance : Coe String Text := ⟨String.toList⟩

namespace Text

/-- The text as a machine string. -/
def toStr (t : Text) : String := String.ofList t

/-- The character with a code. Half of a surrogate pair is no character and is replaced. -/
def charOf (code : Nat) : Char :=
  if 0xd800 ≤ code ∧ code < 0xe000 then '\ufffd' else Char.ofNat code

/-! ## Taking text apart -/

/-- Drops the leading characters that satisfy `p`. -/
def stripStart (p : Char → Bool) (t : Text) : Text := t.dropWhile p

/-- Drops the trailing characters that satisfy `p`. -/
def stripEnd (p : Char → Bool) (t : Text) : Text := (t.reverse.dropWhile p).reverse

/-- Drops the characters that satisfy `p` from both ends. -/
def strip (p : Char → Bool) (t : Text) : Text := stripEnd p (stripStart p t)

/-- Does `t` begin with `start`? -/
def startsWith (start t : Text) : Bool := start.isPrefixOf t

/-- Does `t` end with `finish`? -/
def endsWith (finish t : Text) : Bool := finish.isSuffixOf t

/-- What follows `start` at the beginning of `t`. -/
def after? : Text → Text → Option Text
  | [], t => some t
  | _ :: _, [] => none
  | s :: start, c :: t => if s = c then after? start t else none

/-- The text before the first occurrence of `mark` and the text after it. -/
def cut? (mark : Text) : Text → Option (Text × Text)
  | [] => if mark = [] then some ([], []) else none
  | c :: t =>
    match after? mark (c :: t) with
    | some rest => some ([], rest)
    | none => (cut? mark t).map fun (before, rest) => (c :: before, rest)

/-- The number of characters before the first occurrence of `mark`. -/
def find? (mark t : Text) : Option Nat := (cut? mark t).map fun (before, _) => before.length

/-- Does `mark` occur in `t`? -/
def has (mark t : Text) : Bool := (cut? mark t).isSome

/-- The pieces of `t` between the occurrences of the character `sep`; always at least one. -/
def split (sep : Char) : Text → List Text
  | [] => [[]]
  | c :: t =>
    if c = sep then [] :: split sep t
    else
      match split sep t with
      | piece :: pieces => (c :: piece) :: pieces
      | [] => [[c]]

/-- The lines of a text: the pieces between line feeds. -/
def lines (t : Text) : List Text := split '\n' t

/-- The pieces of a text between blanks and line feeds; none of them is empty. -/
def entries (t : Text) : List Text :=
  (split ' ' (t.map fun c => if c = '\n' then ' ' else c)).filter (· ≠ [])

/-- Every line end as a single line feed. -/
def unifyLineEnds : Text → Text
  | [] => []
  | '\r' :: '\n' :: rest => '\n' :: unifyLineEnds rest
  | '\r' :: rest => '\n' :: unifyLineEnds rest
  | c :: rest => c :: unifyLineEnds rest

/-- The line of a position, which counts the characters before it; lines count from one. -/
def lineAt (t : Text) (position : Nat) : Nat := (t.take position).count '\n' + 1

/-- The column of a position, counted from one. -/
def columnAt (t : Text) (position : Nat) : Nat :=
  ((t.take position).reverse.takeWhile (· ≠ '\n')).length + 1

/-! ## Order -/

/-- The order of two numbers. -/
def numberOrder (a b : Nat) : Ordering := if a < b then .lt else if b < a then .gt else .eq

/-- The order of two lists: the first difference decides, and a beginning comes before the
whole. -/
def listOrder {α : Type} (order : α → α → Ordering) : List α → List α → Ordering
  | [], [] => .eq
  | [], _ :: _ => .lt
  | _ :: _, [] => .gt
  | a :: as, b :: bs =>
    match order a b with
    | .eq => listOrder order as bs
    | o => o

/-- The order of two texts by code points. -/
def order (t u : Text) : Ordering := listOrder (fun c d => numberOrder c.toNat d.toNat) t u

/-- Does a text come no later than another? -/
def notAfter (t u : Text) : Bool := order t u != .gt

/-! ## Putting text together -/

/-- The texts one after the other with `sep` between neighbours. -/
def join (sep : Text) : List Text → Text
  | [] => []
  | [t] => t
  | t :: u :: rest => t ++ sep ++ join sep (u :: rest)

/-- `n` copies of a text. -/
def repeated (n : Nat) (t : Text) : Text := (List.replicate n t).flatten

/-- Extends a text on the left to at least `width` characters. -/
def padStart (width : Nat) (fill : Char) (t : Text) : Text :=
  List.replicate (width - t.length) fill ++ t

/-! ## Numerals -/

/-- The decimal numeral of a natural number. -/
def ofNat (n : Nat) : Text := (toString n).toList

/-- The numeral of `n` in a base from 2 to 16, lower case and without leading zeros. -/
def ofNatBase (base n : Nat) : Text :=
  if base = 10 then ofNat n else Nat.toDigits base n

/-- The decimal numeral of an integer. -/
def ofInt : Int → Text
  | .ofNat n => ofNat n
  | .negSucc n => '-' :: ofNat (n + 1)

/-- The value of an ASCII digit or letter as a digit in bases up to 36. -/
def digitValue? (c : Char) : Option Nat :=
  if '0' ≤ c ∧ c ≤ '9' then some (c.toNat - 48)
  else if 'a' ≤ c ∧ c ≤ 'z' then some (c.toNat - 87)
  else if 'A' ≤ c ∧ c ≤ 'Z' then some (c.toNat - 55)
  else none

/-- The value of a run of digits in the given base; `none` when a character is no such digit. -/
def natOfDigits? (base : Nat) (t : Text) : Option Nat :=
  t.foldl (fun acc c =>
    match acc, digitValue? c with
    | some n, some d => if d < base then some (n * base + d) else none
    | _, _ => none) (some 0)

/-- The value of a run of hexadecimal digits, reading any other character as zero. -/
def hexValue (t : Text) : Nat :=
  t.foldl (fun n c => 16 * n + (digitValue? c).getD 0) 0

end Text

end Phrasebook
