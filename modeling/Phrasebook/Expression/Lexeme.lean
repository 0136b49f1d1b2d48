import Phrasebook.Number.Reading
import Phrasebook.Text.Compatible
import Phrasebook.Text.Identifier
import Phrasebook.Value.Basic

/-!
# Lexemes of expressions

An expression text is cut into names, reserved words, numbers, text literals and marks.  Line
breaks count only outside brackets, where the expression ends at the first one; comments run
from a hash to the end of the line.

* `Lexeme.ofText?`: all lexemes of a text, or `none` where a character fits no lexeme,
  brackets do not match, or something follows the line of the expression.
-/

namespace Phrasebook

/-- A text literal as it stands in the source. -/
structure Literal where
  /-- Are bytes meant? -/
  bytes : Bool
  /-- Are backslashes kept? -/
  raw : Bool
  /-- Does it hold expressions in braces? -/
  formatted : Bool
  /-- What stands between the quotes. -/
  body : Text

/-- The smallest parts of an expression. -/
inductive Lexeme where
  /-- An identifier, in its compatible spelling. -/
  | name (id : Text)
  /-- A reserved word. -/
  | word (id : Text)
  | number (v : Value)
  | literal (l : Literal)
  /-- An operator, bracket or separator. -/
  | mark (m : Text)

namespace Lexeme

/-- The words that are no identifiers. -/
def reservedWords : List Text :=
  (["False", "None", "True", "and", "as", "assert", "async", "await", "break", "class", "continue",
   "def", "del", "elif", "else", "except", "finally", "for", "from", "global", "if", "import", "in",
   "is", "lambda", "nonlocal", "not", "or", "pass", "raise", "return", "try", "while", "with", "yield"]
    : List String).map String.toList

/-- May the character belong to a name, as far as cutting is concerned? Whether the name is an
identifier is asked afterwards. -/
def isNameChar (c : Char) : Bool := c.isAlphanum || c == '_' || 128 ≤ c.toNat

/-! ## Numbers -/

/-- May a number end before this text? A name may not follow, save for the words that can stand
after a number. -/
def numberEnds (rest : Text) : Bool :=
  match rest with
  | [] => true
  | c :: _ =>
    !isNameChar c ||
      (["and", "else", "for", "if", "in", "is", "or", "not"] : List Text).any fun w =>
        Text.startsWith w rest

/-- Digits of a base with single underscores between them, at least one of them. -/
def someDigits? (base : Nat) (t : Text) : Option (Text × Text) :=
  match Numeral.digitRun base t with
  | some (digits, rest) => if digits = [] then none else some (digits, rest)
  | none => none

/-- The value of an integer literal; one with too many digits is refused. -/
def integerLiteral? (digits : Text) : Option Value :=
  if digitLimit < digits.length then none
  else (Text.natOfDigits? 10 digits).map fun n => .int n

/-- What may follow the mantissa of a fraction: an exponent, and the mark of the imaginary
unit. -/
def numberTail (whole fraction : Text) (isInteger : Bool) (t : Text) : Option (Value × Text) :=
  let finish := fun (exponent : Int) (hasExponent : Bool) (rest : Text) =>
    let value := Numeral.ofParts false whole fraction exponent
    match rest with
    | 'j' :: rest | 'J' :: rest =>
      if numberEnds rest then some (.complex 0 value, rest) else none
    | rest =>
      if !numberEnds rest then none
      else if isInteger && !hasExponent then
        -- A number that starts with a zero may hold zeros only.
        if whole.head? = some '0' ∧ whole.any (· ≠ '0') then none
        else (integerLiteral? whole).map fun v => (v, rest)
      else some (.float value, rest)
  match t with
  | c :: rest =>
    if c = 'e' ∨ c = 'E' then
      let (negative, signed, body) : Bool × Bool × Text :=
        match rest with
        | '+' :: body => (false, true, body)
        | '-' :: body => (true, true, body)
        | body => (false, false, body)
      match body with
      | d :: _ =>
        if d.isDigit then
          match someDigits? 10 body with
          | some (digits, rest) =>
            let n := (Text.natOfDigits? 10 digits).getD 0
            finish (if negative then -(n : Int) else n) true rest
          | none => none
        else if signed then none
        else finish 0 false t
      | [] => if signed then none else finish 0 false t
    else finish 0 false t
  | [] => finish 0 false t

/-- A number in a base announced by two characters. -/
def basedNumber (base : Nat) (t : Text) : Option (Value × Text) :=
  let body := match t with
    | '_' :: rest => rest
    | rest => rest
  match someDigits? base body with
  | some (digits, rest) =>
    if numberEnds rest && !(rest.head?.any Char.isDigit) then
      (Text.natOfDigits? base digits).map fun n => (.int n, rest)
    else none
  | none => none

/-- The number at the beginning of a text that starts with a digit, or with a point and a
digit. -/
def readNumber (t : Text) : Option (Value × Text) :=
  match t with
  | '0' :: 'x' :: rest | '0' :: 'X' :: rest => basedNumber 16 rest
  | '0' :: 'o' :: rest | '0' :: 'O' :: rest => basedNumber 8 rest
  | '0' :: 'b' :: rest | '0' :: 'B' :: rest => basedNumber 2 rest
  | _ =>
    let afterPoint := fun (whole rest : Text) =>
      match rest with
      | d :: _ =>
        if d.isDigit then
          match someDigits? 10 rest with
          | some (fraction, rest) => numberTail whole fraction false rest
          | none => none
        else numberTail whole [] false rest
      | [] => numberTail whole [] false rest
    match t with
    | '.' :: rest => afterPoint [] rest
    | _ =>
      match someDigits? 10 t with
      | some (whole, '.' :: rest) => afterPoint whole rest
      | some (whole, rest) => numberTail whole [] true rest
      | none => none

/-! ## Text literals -/

/-- The letters in front of a literal's quote and what they mean: bytes, raw, formatted. -/
def literalKind? (letters : Text) : Option (Bool × Bool × Bool) :=
  let kinds : List (Text × Bool × Bool × Bool) :=
    [([], false, false, false), ("u", false, false, false), ("r", false, true, false),
     ("b", true, false, false), ("f", false, false, true), ("br", true, true, false),
     ("rb", true, true, false), ("fr", false, true, true), ("rf", false, true, true)]
  kinds.lookup (letters.map Char.toLower)

/-- The body of a literal up to its closing quotes, and the rest. A backslash protects the
character after it; with a single quote the literal must end on its line. -/
def literalBody (quote : Char) (triple : Bool) : Text → Option (Text × Text)
  | [] => none
  | '\\' :: c :: rest => (literalBody quote triple rest).map fun (b, r) => ('\\' :: c :: b, r)
  | c :: rest =>
    if c = quote then
      if triple then
        match rest with
        | c₁ :: c₂ :: rest' =>
          if c₁ = quote ∧ c₂ = quote then some ([], rest')
          else (literalBody quote triple rest).map fun (b, r) => (c :: b, r)
        | _ => none
      else some ([], rest)
    else if c = '\n' ∧ !triple then none
    else (literalBody quote triple rest).map fun (b, r) => (c :: b, r)

/-- The literal after its first quote. -/
def readLiteral (kind : Bool × Bool × Bool) (quote : Char) (t : Text) : Option (Lexeme × Text) :=
  let (bytes, raw, formatted) := kind
  let closed := match t with
    | c₁ :: c₂ :: rest => if c₁ = quote ∧ c₂ = quote then literalBody quote true rest
        else literalBody quote false t
    | _ => literalBody quote false t
  closed.map fun (body, rest) => (.literal ⟨bytes, raw, formatted, body⟩, rest)

/-! ## Marks and layout -/

/-- Operators, brackets and separators, longer ones first. -/
def marks : List Text :=
  (["...", "**=", "//=", "<<=", ">>=", "**", "//", "<<", ">>", "<=", ">=", "==", "!=", "->", ":=",
   "+=", "-=", "*=", "/=", "%=", "&=", "|=", "^=", "@=", "+", "-", "*", "/", "%", "@", "<", ">",
   "&", "|", "^", "~", "=", "(", ")", "[", "]", "\x7b", "\x7d", ",", ":", ".", ";"] : List String).map String.toList

/-- The longest mark at the beginning of a text. -/
def readMark? (t : Text) : Option (Text × Text) :=
  marks.findSome? fun m => (Text.after? m t).map fun rest => (m, rest)

/-- The bracket that closes an opening one. -/
def closing? : Char → Option Char
  | '(' => some ')'
  | '[' => some ']'
  | '\x7b' => some '\x7d'
  | _ => none

/-- The deepest nesting of brackets. -/
def nestingLimit : Nat := 200

/-- Keeps track of brackets: the closing brackets still due, innermost first. -/
def bracketStep? (due : List Char) : Text → Option (List Char)
  | [c] =>
    match closing? c with
    | some d => if due.length < nestingLimit then some (d :: due) else none
    | none =>
      if c = ')' ∨ c = ']' ∨ c = '\x7d' then
        match due with
        | d :: rest => if c = d then some rest else none
        | [] => none
      else some due
  | _ => some due

/-- Is the character a blank inside a line? -/
def isLineBlank (c : Char) : Bool := c == ' ' || c == '\t' || c == '\x0c'

/-- The text from the first line that holds more than blanks and a comment. The second part
tells whether that line is indented; a form feed starts the count of columns anew. -/
def skipEmptyLines (indented : Bool) : Text → Text × Bool
  | [] => ([], indented)
  | ' ' :: rest | '\t' :: rest => skipEmptyLines true rest
  | '\x0c' :: rest => skipEmptyLines false rest
  | '\n' :: rest => skipEmptyLines false rest
  | '\\' :: '\n' :: rest => skipEmptyLines indented rest
  | '#' :: rest => skipComment rest
  | c :: rest => (c :: rest, indented)
where
  /-- Skips the rest of a comment line. -/
  skipComment : Text → Text × Bool
    | [] => ([], false)
    | '\n' :: rest => skipEmptyLines false rest
    | _ :: rest => skipComment rest

/-- The lexemes of a text inside a line; `due` are the closing brackets still due. Every round
takes at least one character, so the length of the text is enough `fuel`. -/
def cut (fuel : Nat) (due : List Char) (t : Text) : Option (List Lexeme) :=
  match fuel with
  | 0 => none
  | fuel + 1 =>
    match t with
    | [] => if due = [] then some [] else none
    | '\n' :: rest =>
      if due ≠ [] then cut fuel due rest
      else if (skipEmptyLines false rest).1 = [] then some [] else none
    | '\\' :: '\n' :: c :: rest => cut fuel due (c :: rest)
    | '#' :: rest => cut fuel due (rest.dropWhile (· ≠ '\n'))
    | c :: rest =>
      if isLineBlank c then cut fuel due rest
      else if c.isDigit || (c == '.' && rest.head?.any Char.isDigit) then do
        let (v, rest) ← readNumber t
        return .number v :: (← cut fuel due rest)
      else if isNameChar c then do
        let letters := t.takeWhile isNameChar
        let rest := t.dropWhile isNameChar
        match literalKind? letters, rest with
        | some kind, '\'' :: rest =>
          let (l, rest) ← readLiteral kind '\'' rest
          return l :: (← cut fuel due rest)
        | some kind, '"' :: rest =>
          let (l, rest) ← readLiteral kind '"' rest
          return l :: (← cut fuel due rest)
        | _, _ =>
          if reservedWords.contains letters then return .word letters :: (← cut fuel due rest)
          else if Text.isIdentifier letters then
            return .name (Text.compatible letters) :: (← cut fuel due rest)
          else none
      else if c = '\'' ∨ c = '"' then do
        let (l, rest) ← readLiteral (false, false, false) c rest
        return l :: (← cut fuel due rest)
      else do
        let (m, rest) ← readMark? t
        let due ← bracketStep? due m
        return .mark m :: (← cut fuel due rest)

/-- The lexemes of an expression text. -/
def ofText? (t : Text) : Option (List Lexeme) :=
  let (body, indented) := skipEmptyLines false (Text.unifyLineEnds t)
  if indented then none else cut (body.length + 1) [] body

/-- What follows a given mark at the beginning of a list of lexemes. -/
def afterMark? (m : Text) : List Lexeme → Option (List Lexeme)
  | .mark n :: rest => if n = m then some rest else none
  | _ => none

/-- What follows a given reserved word at the beginning of a list of lexemes. -/
def afterWord? (w : Text) : List Lexeme → Option (List Lexeme)
  | .word v :: rest => if v = w then some rest else none
  | _ => none

/-- Does the list begin with the mark? -/
def atMark (m : Text) (ls : List Lexeme) : Bool := (afterMark? m ls).isSome

/-- Does the list begin with the reserved word? -/
def atWord (w : Text) (ls : List Lexeme) : Bool := (afterWord? w ls).isSome

end Lexeme

end Phrasebook
