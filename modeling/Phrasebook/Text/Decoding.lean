import Phrasebook.Fault

/-!
# Bytes as text

Documents and settings are read from bytes in an encoding that is known by name.  These are the common
encodings; the name of any other counts as unknown.

* `Encoding.named`: the encoding with a name, in any of its spellings;
* `Encoding.decode`: the text that bytes stand for, or the first bytes that stand for none.
-/

namespace Phrasebook

/-- Ways of writing text as bytes. -/
inductive Encoding where
  | utf8
  /-- UTF-8 whose mark at the beginning is dropped. -/
  | utf8Marked
  | ascii
  | latin1
  | windows1252
  /-- UTF-16 whose mark at the beginning tells the order of the bytes. -/
  | utf16
  | utf16Little
  | utf16Big
  /-- UTF-32 whose mark at the beginning tells the order of the bytes. -/
  | utf32
  | utf32Little
  | utf32Big
  deriving DecidableEq, Repr

namespace Encoding

/-! ## Names -/

/-- Lower case, with runs of other characters than letters, digits and points as one underscore.
`gap` tells that such a run stands before the text. -/
def normalizeFrom (started gap : Bool) : Text → Text
  | [] => []
  | c :: t =>
    if c.isAlphanum || c = '.' then
      (if gap && started then ['_', c.toLower] else [c.toLower]) ++ normalizeFrom true false t
    else if 128 ≤ c.toNat then normalizeFrom started gap t
    else normalizeFrom started true t

/-- The spellings of the names, after bringing them to one form. -/
def spellings : List (Encoding × List String) := [
  (utf8, ["utf_8", "u8", "utf", "utf8", "utf8_ucs2", "utf8_ucs4", "cp65001", "locale"]),
  (utf8Marked, ["utf_8_sig"]),
  (ascii, ["ascii", "646", "ansi_x3.4_1968", "ansi_x3_4_1968", "ansi_x3.4_1986", "cp367", "csascii",
    "ibm367", "iso646_us", "iso_646.irv_1991", "iso_ir_6", "us", "us_ascii"]),
  (latin1, ["latin_1", "8859", "cp819", "csisolatin1", "ibm819", "iso8859", "iso8859_1",
    "iso_8859_1", "iso_8859_1_1987", "iso_ir_100", "l1", "latin", "latin1"]),
  (windows1252, ["cp1252", "1252", "windows_1252"]),
  (utf16, ["utf_16", "u16", "utf16"]),
  (utf16Little, ["utf_16_le", "unicodelittleunmarked", "utf_16le"]),
  (utf16Big, ["utf_16_be", "unicodebigunmarked", "utf_16be"]),
  (utf32, ["utf_32", "u32", "utf32"]),
  (utf32Little, ["utf_32_le", "utf_32le"]),
  (utf32Big, ["utf_32_be", "utf_32be"])]

/-- Names of codings that turn bytes into bytes. -/
def byteCodings : List String :=
  ["base64", "base_64", "base64_codec", "bz2", "bz2_codec", "hex", "hex_codec", "quopri",
    "quopri_codec", "quoted_printable", "quotedprintable", "rot13", "rot_13", "uu", "uu_codec",
    "zip", "zlib", "zlib_codec"]

/-- The encoding with a name. -/
def named (name : Text) : Except Fault Encoding :=
  let normal := (normalizeFrom false false name).toStr
  if name.contains '\x00' then .error (.badValue "embedded null character")
  else
    match spellings.find? fun entry => entry.2.contains normal with
    | some (encoding, _) => .ok encoding
    | none =>
      if byteCodings.contains normal then
        .error ⟨.lookup, "'" ++ name ++
          "' is not a text encoding; use codecs.open() to handle arbitrary codecs"⟩
      else .error ⟨.lookup, "unknown encoding: " ++ name⟩

/-! ## Decoding -/

/-- Bytes from one position up to another that stand for no text. -/
def undecodable (codec : Text) (bytes : List Nat) (start stop : Nat) (reason : Text) : Fault :=
  let what : Text :=
    if stop = start + 1 then
      "byte 0x" ++ Text.padStart 2 '0' (Text.ofNatBase 16 (bytes.headD 0)) ++ " in position " ++
        Text.ofNat start
    else "bytes in position " ++ Text.ofNat start ++ "-" ++ Text.ofNat (stop - 1)
  ⟨.decoding, "'" ++ codec ++ "' codec can't decode " ++ what ++ ": " ++ reason⟩

/-- A byte that continues a character of several bytes. -/
def isContinuation (b : Nat) : Bool := 0x80 ≤ b && b < 0xc0

/-- The beginning of a UTF-8 text: a character and its length in bytes, or the number of bytes
that are wrong and why. -/
def utf8Char (bytes : List Nat) : Except (Nat × Text) (Nat × Nat) :=
  let bad (n : Nat) : Except (Nat × Text) (Nat × Nat) := .error (n, "invalid continuation byte")
  let ended : Except (Nat × Text) (Nat × Nat) := .error (bytes.length, "unexpected end of data")
  match bytes with
  | [] => ended
  | a :: rest =>
    if a < 0x80 then .ok (a, 1)
    else if a < 0xc2 ∨ 0xf5 ≤ a then .error (1, "invalid start byte")
    else
      match rest with
      | [] => ended
      | b :: rest =>
        -- The second byte keeps the character in its shortest form and out of forbidden ranges.
        let fits := isContinuation b && !(a == 0xe0 && b < 0xa0) && !(a == 0xed && 0xa0 ≤ b) &&
          !(a == 0xf0 && b < 0x90) && !(a == 0xf4 && 0x90 ≤ b)
        if !fits then bad 1
        else if a < 0xe0 then .ok (a % 0x20 * 0x40 + b % 0x40, 2)
        else
          match rest with
          | [] => ended
          | c :: rest =>
            if !isContinuation c then bad 2
            else if a < 0xf0 then .ok ((a % 0x10 * 0x40 + b % 0x40) * 0x40 + c % 0x40, 3)
            else
              match rest with
              | [] => ended
              | d :: _ =>
                if !isContinuation d then bad 3
                else .ok (((a % 8 * 0x40 + b % 0x40) * 0x40 + c % 0x40) * 0x40 + d % 0x40, 4)

/-- The beginning of a UTF-16 text, as `utf8Char`; `big` tells that the higher byte comes first. -/
def utf16Char (big : Bool) (bytes : List Nat) : Except (Nat × Text) (Nat × Nat) :=
  let unit (a b : Nat) : Nat := if big then a * 256 + b else b * 256 + a
  match bytes with
  | a :: b :: rest =>
    let u := unit a b
    if u < 0xd800 ∨ 0xe000 ≤ u then .ok (u, 2)
    else if 0xdc00 ≤ u then .error (2, "illegal encoding")
    else
      match rest with
      | c :: d :: _ =>
        let v := unit c d
        if 0xdc00 ≤ v ∧ v < 0xe000 then .ok (0x10000 + (u - 0xd800) * 0x400 + (v - 0xdc00), 4)
        else .error (2, "illegal UTF-16 surrogate")
      | _ => .error (bytes.length, "unexpected end of data")
  | _ => .error (bytes.length, "truncated data")

/-- The beginning of a UTF-32 text, as `utf8Char`; `big` tells that the highest byte comes first. -/
def utf32Char (big : Bool) (bytes : List Nat) : Except (Nat × Text) (Nat × Nat) :=
  match bytes with
  | a :: b :: c :: d :: _ =>
    let u := if big then ((a * 256 + b) * 256 + c) * 256 + d else ((d * 256 + c) * 256 + b) * 256 + a
    if 0xd800 ≤ u ∧ u < 0xe000 then
      .error (4, "code point in surrogate code point range(0xd800, 0xe000)")
    else if 0x110000 ≤ u then .error (4, "code point not in range(0x110000)")
    else .ok (u, 4)
  | _ => .error (bytes.length, "truncated data")

/-- The characters of Windows-1252 from 0x80 to 0x9f; zero stands for none. -/
def windows1252Upper : List Nat :=
  [0x20ac, 0, 0x201a, 0x192, 0x201e, 0x2026, 0x2020, 0x2021, 0x2c6, 0x2030, 0x160, 0x2039, 0x152,
    0, 0x17d, 0, 0, 0x2018, 0x2019, 0x201c, 0x201d, 0x2022, 0x2013, 0x2014, 0x2dc, 0x2122, 0x161,
    0x203a, 0x153, 0, 0x17e, 0x178]

/-- A character of one byte, where `code?` knows it. -/
def byteChar (code? : Nat → Option Nat) (reason : Text) (bytes : List Nat) :
    Except (Nat × Text) (Nat × Nat) :=
  match bytes.head?.bind code? with
  | some code => .ok (code, 1)
  | none => .error (1, reason)

/-- Decodes the rest of the bytes from a position on, character by character; `rounds` bounds
their number. -/
def decodeFrom (codec : Text) (char : List Nat → Except (Nat × Text) (Nat × Nat)) :
    Nat → Nat → List Nat → Except Fault Text
  | 0, _, _ => .ok []
  | rounds + 1, position, bytes =>
    match bytes with
    | [] => .ok []
    | _ =>
      match char bytes with
      | .error (wrong, reason) =>
        .error (undecodable codec bytes position (position + wrong) reason)
      | .ok (code, size) =>
        (decodeFrom codec char rounds (position + size) (bytes.drop size)).map (Char.ofNat code :: ·)

/-- Decodes bytes from a position on. -/
def run (codec : Text) (char : List Nat → Except (Nat × Text) (Nat × Nat)) (position : Nat)
    (bytes : List Nat) : Except Fault Text :=
  decodeFrom codec char bytes.length position bytes

/-- Bytes that lack the mark of their order, which are decoded all the same first. -/
def unmarked (name : Text) (decoded : Except Fault Text) : Except Fault Text := do
  match ← decoded with
  | [] => return []
  | _ => throw ⟨.byteOrder, name ++ " stream does not start with BOM"⟩

/-- The text that bytes stand for. -/
def decode (encoding : Encoding) (bytes : List Nat) : Except Fault Text :=
  match encoding with
  | utf8 => run "utf-8" utf8Char 0 bytes
  | utf8Marked =>
    match bytes with
    | 0xef :: 0xbb :: 0xbf :: rest => run "utf-8" utf8Char 0 rest
    | [0xef, 0xbb] | [0xef] => .ok []
    | _ => run "utf-8" utf8Char 0 bytes
  | ascii =>
    run "ascii" (byteChar (fun b => if b < 128 then some b else none) "ordinal not in range(128)") 0
      bytes
  | latin1 => .ok (bytes.map Char.ofNat)
  | windows1252 =>
    let code? (b : Nat) : Option Nat :=
      if 0x80 ≤ b ∧ b < 0xa0 then (windows1252Upper[b - 0x80]?).filter (· ≠ 0) else some b
    run "charmap" (byteChar code? "character maps to <undefined>") 0 bytes
  | utf16Little => run "utf-16-le" (utf16Char false) 0 bytes
  | utf16Big => run "utf-16-be" (utf16Char true) 0 bytes
  | utf16 =>
    match bytes with
    | 0xff :: 0xfe :: rest => run "utf-16-le" (utf16Char false) 2 rest
    | 0xfe :: 0xff :: rest => run "utf-16-be" (utf16Char true) 2 rest
    | _ => unmarked "UTF-16" (run "utf-16-le" (utf16Char false) 0 bytes)
  | utf32Little => run "utf-32-le" (utf32Char false) 0 bytes
  | utf32Big => run "utf-32-be" (utf32Char true) 0 bytes
  | utf32 =>
    match bytes with
    | 0xff :: 0xfe :: 0 :: 0 :: rest => run "utf-32-le" (utf32Char false) 4 rest
    | 0 :: 0 :: 0xfe :: 0xff :: rest => run "utf-32-be" (utf32Char true) 4 rest
    | _ => unmarked "UTF-32" (run "utf-32-le" (utf32Char false) 0 bytes)

end Encoding

end Phrasebook
