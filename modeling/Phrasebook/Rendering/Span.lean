import Phrasebook.Text.Blank

/-!
# Spans inside alternatives

How the pieces of an alternative are taken apart before they are rendered.

* `unescape`: the literal text that backslashes stand for;
* `stripBraces`: an expression without the braces around it;
* `Reference.ofSpan`: the name and arguments of a reference;
* `blockPieces`: the literal characters and the expressions of a block.
-/

namespace Phrasebook

/-- The character that a backslash makes of a letter or mark. -/
def escaped? : Char → Option Char
  | 'r' => some '\r'
  | 't' => some '\t'
  | 'n' => some '\n'
  | '\x7b' => some '\x7b'
  | '\x7d' => some '\x7d'
  | '[' => some '['
  | ']' => some ']'
  | '\\' => some '\\'
  | _ => none

/-- The literal text that backslashes stand for; a backslash before anything else stands for
itself. -/
def unescape : Text → Text
  | [] => []
  | [c] => [c]
  | c :: d :: rest =>
    if c = '\\' then
      match escaped? d with
      | some e => e :: unescape rest
      | none => c :: unescape (d :: rest)
    else c :: unescape (d :: rest)

/-- An expression without the braces in front of it and behind it. -/
def stripBraces (t : Text) : Text := Text.stripEnd (· = '\x7d') (Text.stripStart (· = '\x7b') t)

/-! ## References -/

/-- A reference after reading. -/
inductive Reference where
  /-- A template by its name alone. -/
  | plain (name : Text)
  /-- A template with the text between its parentheses. -/
  | applied (name arguments : Text)
  /-- Parentheses that do not close. -/
  | malformed (text : Text)
  deriving DecidableEq, Repr

namespace Reference

/-- What stands between the brackets, without blanks around it. -/
def inside (span : Text) : Text :=
  Text.trim (Text.stripEnd (· = ']') (Text.stripStart (· = '[') span))

/-- The text before the last closing parenthesis. -/
def beforeLastClose? (t : Text) : Option Text :=
  match t.reverse.dropWhile (· ≠ ')') with
  | [] => none
  | _ :: before => some before.reverse

/-- The name and arguments of a reference. A parenthesis at the beginning belongs to the name. -/
def ofSpan (span : Text) : Reference :=
  let text := inside span
  match Text.cut? ['('] text with
  | none | some ([], _) => plain text
  | some (name, rest) =>
    match beforeLastClose? rest with
    | some arguments => applied (Text.trim name) arguments
    | none => malformed text

/-- The texts of the arguments: the pieces between commas, or none when all is blank. -/
def argumentTexts (t : Text) : List Text := if Text.trim t = [] then [] else Text.split ',' t

end Reference

/-! ## Blocks -/

/-- A piece of a block. -/
inductive BlockPiece where
  | literal (c : Char)
  | expression (source : Text)
  deriving DecidableEq, Repr

/-- What stands between the marks of a block. -/
def blockInside (t : Text) : Text := (t.drop 3).dropLast.dropLast.dropLast

/-- A character that ends the expression of a block. -/
def isBrace (c : Char) : Bool := c == '\x7b' || c == '\x7d'

/-- The expression after its opening mark, if a closing brace follows it. -/
def blockExpression? (t : Text) : Option Text :=
  let source := t.takeWhile (!isBrace ·)
  if source ≠ [] ∧ (t.dropWhile (!isBrace ·)).head? = some '\x7d' then some source else none

/-- The pieces of a block: expressions in braces after an at sign, and all else literally. -/
def blockPieces (t : Text) : List BlockPiece :=
  match t with
  | [] => []
  | c :: rest =>
    if c = '@' ∧ rest.head? = some '\x7b' then
      match blockExpression? (rest.drop 1) with
      | some source => .expression source :: blockPieces (rest.drop (source.length + 2))
      | none => .literal c :: blockPieces rest
    else .literal c :: blockPieces rest
termination_by t.length
decreasing_by
  all_goals simp only [List.length_cons, List.length_drop]; omega

end Phrasebook
