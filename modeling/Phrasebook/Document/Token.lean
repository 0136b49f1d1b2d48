import Phrasebook.Text.Quoted

/-!
# Tokens

A document is a sequence of tokens, each with its place.  Lines are counted by line feeds from
one, and columns by the characters since the last line feed, also from one.

* `Position.after`: the place behind a piece of text;
* `TokenKind`, `Token`: the tokens;
* `Token.quoted`: a token on one line, for display.
-/

namespace Phrasebook

/-- A place in a document. -/
structure Position where
  line : Nat
  column : Nat
  deriving DecidableEq, Repr

namespace Position

/-- The beginning of a document. -/
def start : Position := ⟨1, 1⟩

/-- The place behind a character. -/
def next (p : Position) (c : Char) : Position :=
  if c = '\n' then ⟨p.line + 1, 1⟩ else ⟨p.line, p.column + 1⟩

/-- The place behind a text. -/
def after (p : Position) (t : Text) : Position := t.foldl next p

end Position

/-- The words that begin a branch of a conditional body. -/
inductive Keyword where
  | ifWord
  | elseIfWord
  | elseWord
  deriving DecidableEq, Repr

namespace Keyword

/-- The name of a keyword. -/
def name : Keyword → Text
  | ifWord => "IF"
  | elseIfWord => "ELSEIF"
  | elseWord => "ELSE"

end Keyword

/-- The kinds of tokens. -/
inductive TokenKind where
  /-- The sign that begins a declaration. -/
  | hash
  /-- The dash that begins a body line. -/
  | dash
  | identifier
  | dot
  | openParenthesis
  | closeParenthesis
  | comma
  | keyword (k : Keyword)
  /-- Blanks and tabs inside a body line. -/
  | blanks
  /-- A block between triple grave accents, which may span lines. -/
  | multiLine
  /-- A backslash with a character that it makes literal. -/
  | escape
  /-- A backslash with any other character, or on its own. -/
  | invalidEscape
  /-- An expression in braces. -/
  | expression
  /-- A reference to a template in square brackets. -/
  | reference
  /-- A character that ends a run of text. -/
  | separator
  | text
  | newline
  /-- The end of the document. -/
  | finish
  deriving DecidableEq, Repr

namespace TokenKind

/-- The name of a kind. -/
def name : TokenKind → Text
  | hash => "HASH"
  | dash => "DASH"
  | identifier => "IDENTIFIER"
  | dot => "DOT"
  | openParenthesis => "OPEN_PARENTHESIS"
  | closeParenthesis => "CLOSE_PARENTHESIS"
  | comma => "COMMA"
  | keyword k => k.name
  | blanks => "WS"
  | multiLine => "MULTI_LINE_TEXT"
  | escape => "ESCAPE_CHARACTER"
  | invalidEscape => "INVALID_ESCAPE"
  | expression => "EXPRESSION"
  | reference => "TEMPLATE_REF"
  | separator => "TEXT_SEPARATOR"
  | text => "TEXT"
  | newline => "NEWLINE"
  | finish => "EOF"

/-- The name of a kind in a message: small letters and blanks. -/
def label (k : TokenKind) : Text := k.name.map fun c => if c = '_' then ' ' else c.toLower

/-- Is the kind a keyword? -/
def isKeyword : TokenKind → Bool
  | keyword _ => true
  | _ => false

end TokenKind

/-- A token: a piece of the document with its kind and place. -/
structure Token where
  kind : TokenKind
  value : Text
  position : Position
  deriving DecidableEq, Repr

namespace Token

/-- The token on one line, for display. -/
def quoted (t : Token) : Text :=
  "Token(" ++ t.kind.name ++ ", " ++ Text.quoted t.value ++ ", " ++ Text.ofNat t.position.line ++
    ":" ++ Text.ofNat t.position.column ++ ")"

end Token

end Phrasebook
