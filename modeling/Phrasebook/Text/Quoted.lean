import Phrasebook.Text.Printable

/-!
# Quoted text

A text in quotes, as it is shown inside lists and messages.  Apostrophes are used unless the
text holds apostrophes and no quotation mark.  The quote in use, the backslash and the
characters that are not printable are escaped.
-/

namespace Phrasebook.Text

/-- A number in hexadecimal with at least `width` digits. -/
def hexPadded (width n : Nat) : Text := padStart width '0' (ofNatBase 16 n)

/-- The escape of a character by its code point, as short as the code point allows. -/
def codeEscape (c : Char) : Text :=
  let code := c.toNat
  if code < 0x100 then '\\' :: 'x' :: hexPadded 2 code
  else if code < 0x10000 then '\\' :: 'u' :: hexPadded 4 code
  else '\\' :: 'U' :: hexPadded 8 code

/-- One character of a quoted text; `shown` tells which characters stay as they are. -/
def quotedChar (shown : Char → Bool) (quote c : Char) : Text :=
  if c = quote ∨ c = '\\' then ['\\', c]
  else if c = '\n' then ['\\', 'n']
  else if c = '\r' then ['\\', 'r']
  else if c = '\t' then ['\\', 't']
  else if shown c then [c]
  else codeEscape c

/-- The quote that surrounds the text. -/
def quoteFor (t : Text) : Char :=
  if t.contains '\'' && !t.contains '"' then '"' else '\''

/-- The text in quotes. -/
def quoted (t : Text) : Text :=
  let quote := quoteFor t
  quote :: t.flatMap (quotedChar isPrintable quote) ++ [quote]

/-- Every character beyond ASCII replaced by an escape; used after quoting. -/
def escapeBeyondAscii (t : Text) : Text :=
  t.flatMap fun c => if c.toNat < 128 then [c] else codeEscape c

/-- Bytes in quotes: ASCII as characters, all else by escapes. -/
def quotedBytes (bytes : List Nat) : Text :=
  let chars := bytes.map Char.ofNat
  let quote := quoteFor chars
  'b' :: quote :: chars.flatMap (quotedChar (fun c => 32 ≤ c.toNat && c.toNat < 127) quote) ++ [quote]

end Phrasebook.Text
