import Phrasebook.Text.Basic

/-!
# Blanks

The characters that trimming removes and that separate words: the ASCII blanks and
separators, and the space characters of other scripts.
-/

namespace Phrasebook.Text

/-- Is `c` a blank? -/
def isBlank (c : Char) : Bool :=
  let code := c.toNat
  (9 ≤ code && code ≤ 13) || (28 ≤ code && code ≤ 32) || code == 0x85 || code == 0xa0 ||
    code == 0x1680 || (0x2000 ≤ code && code ≤ 0x200a) || code == 0x2028 || code == 0x2029 ||
    code == 0x202f || code == 0x205f || code == 0x3000

/-- The text without blanks at its ends. -/
def trim (t : Text) : Text := strip isBlank t

end Phrasebook.Text
