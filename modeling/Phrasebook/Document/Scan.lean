import Phrasebook.Document.Token
import Phrasebook.Failure
import Phrasebook.Text.Case
import Phrasebook.Text.Word

/-!
# Cutting a document into tokens

The text is read in one of three modes: between lines, in a declaration line, and in a body line.
In each mode the next character, with what follows it, decides one *move*: how many characters
are taken, whether they are a token or layout, and the mode afterwards.  A document is cut by
making moves until the text ends; every move takes at least one character.

* `Mode.move`: the next move;
* `Token.scanFrom`, `Token.scan`: the tokens of a document, ending in `TokenKind.finish`;
* `ScanFault`: why a document cannot be cut, and where.
-/

namespace Phrasebook

/-- Why a document cannot be cut at some place. -/
inductive ScanCause where
  /-- A line begins with a character that no line begins with. -/
  | badLineStart (c : Char)
  /-- A character that no declaration holds. -/
  | badDeclaration (c : Char)
  /-- A semicolon in a declaration. -/
  | semicolon
  /-- A keyword in letters that are only equal to its own when their case is ignored. -/
  | strangeKeyword (word : Text)
  deriving DecidableEq, Repr

/-- Why and where a document cannot be cut. -/
structure ScanFault where
  cause : ScanCause
  position : Position
  deriving DecidableEq, Repr

namespace ScanFault

/-- A fault of cutting as a failure; the path is left out when it is empty. -/
def toFailure (path : Text) (f : ScanFault) : Failure :=
  let syntaxError (message code : Text) : Failure :=
    .template ⟨.badSyntax, message,
      ⟨Location.present? (some path), some f.position.line, some f.position.column, none⟩,
      some code, none⟩
  match f.cause with
  | .badLineStart c =>
    syntaxError ("Unexpected character " ++ Text.quoted [c] ++
      "; lines must start with '#', '-', '>' or '$'") "INVALID_TOKEN"
  | .badDeclaration c =>
    syntaxError ("Unexpected character " ++ Text.quoted [c] ++ " in template declaration")
      "INVALID_TOKEN"
  | .semicolon =>
    syntaxError "Semicolons are not allowed in a template declaration" "INVALID_SEPARATOR"
  | .strangeKeyword word => .fault ⟨.key, Text.quoted (Text.toLower word)⟩

end ScanFault

/-- How the text is read. -/
inductive Mode where
  /-- Between lines. -/
  | between
  /-- In a declaration line. -/
  | declaration
  /-- In a body line; `fresh` as long as no content has been read, so that blanks are layout and
  a keyword may stand. -/
  | body (fresh : Bool)
  deriving DecidableEq, Repr

/-- One move: the kind of the token, or none for layout; how many characters are taken after the
first; and the mode afterwards. -/
structure Move where
  kind : Option TokenKind
  extra : Nat
  mode : Mode
  deriving DecidableEq, Repr

namespace Scan

/-- The length of the longest beginning whose characters satisfy `p`. -/
def run (p : Char → Bool) (t : Text) : Nat := (t.takeWhile p).length

/-- A blank or tab. -/
def isBlank (c : Char) : Bool := c == ' ' || c == '\t'

/-- A character that ends a line. -/
def isLineEnd (c : Char) : Bool := c == '\r' || c == '\n'

/-- The length of a line end at the beginning: a line feed, with a return in front or not. -/
def newline? : Text → Option Nat
  | '\n' :: _ => some 1
  | '\r' :: '\n' :: _ => some 2
  | _ => none

/-! ## Keywords -/

/-- Are two characters the same when case is ignored? The second is a small ASCII letter. -/
def sameLetter (c letter : Char) : Bool :=
  c.toLower == letter || (letter == 's' && c == 'ſ') || (letter == 'i' && (c == 'ı' || c == 'İ'))

/-- Does a text begin with a word when case is ignored? -/
def beginsWith : Text → Text → Bool
  | [], _ => true
  | _ :: _, [] => false
  | letter :: word, c :: t => sameLetter c letter && beginsWith word t

/-- The keywords in the order in which they are tried. -/
def keywords : List (Text × Keyword) :=
  [("elseif", .elseIfWord), ("else", .elseWord), ("if", .ifWord)]

/-- The length of a word at the beginning of a text together with blanks and a colon after it. -/
def wordLength? (word t : Text) : Option Nat :=
  if beginsWith word t then
    let blanks := run isBlank (t.drop word.length)
    if (t.drop (word.length + blanks)).head? = some ':' then some (word.length + blanks + 1)
    else none
  else none

/-- The keyword at the beginning of a text: its letters and the length up to its colon. -/
def keyword? (t : Text) : Option (Text × Nat) :=
  keywords.findSome? fun (word, _) => (wordLength? word t).map fun n => (t.take word.length, n)

/-- The keyword that letters spell exactly, but for the case of ASCII letters. -/
def exactKeyword? (letters : Text) : Option Keyword :=
  (keywords.find? fun (word, _) => word = letters.map Char.toLower).map (·.2)

/-! ## Content -/

/-- The mark of a block. -/
def blockMark : Text := ['\x60', '\x60', '\x60']

/-- A character that ends a run of text. -/
def isSeparator (c : Char) : Bool :=
  isBlank c || isLineEnd c || c == '\x7b' || c == '\x7d' || c == '[' || c == ']' || c == '(' ||
    c == ')'

/-- The length of the run of text at the beginning; it stops before a block mark. -/
def textLength : Text → Nat
  | [] => 0
  | c :: t =>
    if isSeparator c || c == '\\' || blockMark.isPrefixOf (c :: t) then 0 else textLength t + 1

/-- The length of the block at the beginning, marks included, if it is closed. -/
def blockLength? (t : Text) : Option Nat :=
  (Text.after? blockMark t).bind fun rest => (Text.find? blockMark rest).map (· + 6)

/-- The length of the rest of an expression up to its closing brace. A backslash takes any
character but a line feed with it. -/
def expressionRest : Text → Option Nat
  | [] => none
  | '\x7d' :: _ => some 1
  | '\\' :: c :: t => if c = '\n' then none else (expressionRest t).map (· + 2)
  | c :: t => if c = '\x7b' ∨ c = '\\' ∨ isLineEnd c then none else (expressionRest t).map (· + 1)

/-- The length of the rest of a reference inside `depth` open brackets, up to the bracket that
closes the last of them on the same line. -/
def referenceRest (depth : Nat) : Text → Option Nat
  | [] => none
  | c :: t =>
    if isLineEnd c then none
    else if c = '[' then (referenceRest (depth + 1) t).map (· + 1)
    else if c = ']' then
      if depth = 1 then some 1 else (referenceRest (depth - 1) t).map (· + 1)
    else (referenceRest depth t).map (· + 1)

/-- The characters that a backslash makes literal. -/
def isEscapable (c : Char) : Bool :=
  c == '\x7b' || c == '\x7d' || c == '[' || c == ']' || c == '\\' || c == 'r' || c == 't' || c == 'n'

/-- The piece of content at the beginning of a text: its kind and how many characters it has
after the first. -/
def content (c : Char) (t : Text) : TokenKind × Nat :=
  match blockLength? (c :: t) with
  | some n => (.multiLine, n - 1)
  | none =>
    if c = '\\' then
      match t with
      | [] => (.invalidEscape, 0)
      | d :: _ =>
        if isEscapable d then (.escape, 1)
        else if isLineEnd d then (.invalidEscape, 0)
        else (.invalidEscape, 1)
    else
      let span? : Option (TokenKind × Nat) :=
        if c = '\x7b' then (expressionRest t).map fun n => (.expression, n)
        else if c = '[' then (referenceRest 1 t).map fun n => (.reference, n)
        else none
      match span? with
      | some found => found
      | none => if isSeparator c then (.separator, 0) else (.text, textLength (c :: t) - 1)

end Scan

namespace Mode

open Scan

/-- The move between lines: blanks and line ends are layout, `>` and `$` begin a comment, and a
line begins with a sign of its own. -/
def moveBetween (c : Char) (t : Text) : Except ScanCause Move :=
  if isBlank c || isLineEnd c then .ok ⟨none, 0, between⟩
  else if c = '>' ∨ c = '$' then .ok ⟨none, run (!isLineEnd ·) t, between⟩
  else if c = '#' then .ok ⟨some .hash, 0, declaration⟩
  else if c = '-' then .ok ⟨some .dash, 0, body true⟩
  else .error (.badLineStart c)

/-- The punctuation of a declaration. -/
def punctuation? : Char → Option TokenKind
  | '.' => some .dot
  | '(' => some .openParenthesis
  | ')' => some .closeParenthesis
  | ',' => some .comma
  | _ => none

/-- The move in a declaration line. -/
def moveDeclaration (c : Char) (t : Text) : Except ScanCause Move :=
  match newline? (c :: t) with
  | some n => .ok ⟨some .newline, n - 1, between⟩
  | none =>
    if isBlank c ∨ c = '\r' then .ok ⟨none, 0, declaration⟩
    else
      match punctuation? c with
      | some kind => .ok ⟨some kind, 0, declaration⟩
      | none =>
        if c = ';' then .error .semicolon
        else if Text.isWord c then
          .ok ⟨some .identifier, run (fun d => Text.isWord d || d == '-') t, declaration⟩
        else .error (.badDeclaration c)

/-- The keyword that the text begins with, if it is no part of a longer run of text. -/
def keywordMove? (t : Text) : Option (Except ScanCause Move) :=
  match keyword? t with
  | none => none
  | some (letters, n) =>
    if n < textLength t then none
    else
      some <| match exactKeyword? letters with
        | some k => .ok ⟨some (.keyword k), n - 1, body true⟩
        | none => .error (.strangeKeyword letters)

/-- The move in a body line. -/
def moveBody (fresh : Bool) (c : Char) (t : Text) : Except ScanCause Move :=
  if isBlank c then .ok ⟨if fresh then none else some .blanks, run isBlank t, body fresh⟩
  else
    match newline? (c :: t) with
    | some n => .ok ⟨some .newline, n - 1, between⟩
    | none =>
      match if fresh then keywordMove? (c :: t) else none with
      | some found => found
      | none =>
        let (kind, extra) := content c t
        .ok ⟨some kind, extra, body false⟩

/-- The next move, given the next character and what follows it. -/
def move (m : Mode) (c : Char) (t : Text) : Except ScanCause Move :=
  match m with
  | between => moveBetween c t
  | declaration => moveDeclaration c t
  | body fresh => moveBody fresh c t

end Mode

namespace Token

/-- The tokens of a text from a place on, read from a mode on. -/
def scanFrom (m : Mode) (p : Position) (t : Text) : Except ScanFault (List Token) :=
  match t with
  | [] => .ok [⟨.finish, [], p⟩]
  | c :: rest =>
    match m.move c rest with
    | .error cause => .error ⟨cause, p⟩
    | .ok move =>
      let value := c :: rest.take move.extra
      match scanFrom move.mode (p.after value) (rest.drop move.extra), move.kind with
      | .error f, _ => .error f
      | .ok tokens, none => .ok tokens
      | .ok tokens, some kind => .ok (⟨kind, value, p⟩ :: tokens)
termination_by t.length
decreasing_by simp only [List.length_drop, List.length_cons]; omega

/-- The tokens of a document. -/
def scan (t : Text) : Except ScanFault (List Token) := scanFrom .between .start t

end Token

end Phrasebook
