import Phrasebook.Document.Scan
import Phrasebook.Document.Template

/-!
# Templates from tokens

A document is a sequence of definitions: a declaration line with a name and optional parameters,
and body lines below it.  Either no body line begins with a keyword, or the first one does; then
the lines with keywords begin the rules of a conditional body.

* `Template.readAll`: the templates of a token list, or the first fault;
* `Template.readDocument`: the templates of a document, with failures as errors;
* `DefinitionCause`: why tokens are no document.
-/

namespace Phrasebook

/-- Why tokens are no document. -/
inductive DefinitionCause where
  /-- One kind of token is expected, and another one found. -/
  | unexpected (expected found : TokenKind)
  /-- A body line before any declaration. -/
  | orphanBody
  /-- A definition without body lines. -/
  | emptyBody (name : Text)
  /-- Plain alternatives before the first rule. -/
  | mixedBody (name : Text)
  /-- A rule without its guard. -/
  | missingCondition (keyword : Keyword)
  deriving DecidableEq, Repr

/-- Why and where tokens are no document. -/
structure DefinitionFault where
  cause : DefinitionCause
  position : Position
  deriving DecidableEq, Repr

namespace DefinitionCause

/-- What the cause is told as. -/
def message : DefinitionCause → Text
  | unexpected expected found => "Expected " ++ expected.label ++ ", found " ++ found.label
  | orphanBody => "Template body line appears before any template declaration"
  | emptyBody name => "Template '" ++ name ++ "' has no body"
  | mixedBody name =>
    "Template '" ++ name ++ "' mixes plain alternatives with conditional branches"
  | missingCondition keyword =>
    keyword.name ++ " branch requires a \x7bcondition\x7d expression"

/-- The code of the cause. -/
def code : DefinitionCause → Text
  | unexpected _ _ => "SYNTAX_ERROR"
  | orphanBody => "ORPHAN_BODY"
  | emptyBody _ => "EMPTY_BODY"
  | mixedBody _ => "MIXED_BODY"
  | missingCondition _ => "MISSING_CONDITION"

/-- What can be done about it. -/
def hint? : DefinitionCause → Option Text
  | orphanBody => some "Start the document with a '#name' line."
  | emptyBody _ => some "Add at least one '- ...' line after the declaration."
  | mixedBody _ => some "Put every alternative under an IF/ELSEIF/ELSE branch."
  | unexpected _ _ | missingCondition _ => none

end DefinitionCause

namespace DefinitionFault

/-- A fault of a definition as an error of the document with a label. -/
def toError (label : Text) (f : DefinitionFault) : TemplateError :=
  ⟨.badSyntax, f.cause.message, ⟨some label, some f.position.line, some f.position.column, none⟩,
    some f.cause.code, f.cause.hint?⟩

end DefinitionFault

namespace TokenKind

/-- The kind of piece that a content token is; a keyword that begins no rule is plain text. -/
def fragmentKind : TokenKind → FragmentKind
  | blanks => .whitespace
  | multiLine => .multiLine
  | escape => .escape
  | invalidEscape => .invalidEscape
  | expression => .expression
  | reference => .reference
  | separator => .separator
  | _ => .text

/-- Does the kind end a body line? -/
def endsLine (k : TokenKind) : Bool := k = newline || k = finish

end TokenKind

/-- A body line: its dash, the keyword it begins with, and its content. -/
structure BodyLine where
  dash : Token
  keyword : Option (Keyword × Position)
  content : List Token
  deriving DecidableEq, Repr

namespace BodyLine

/-- The content of a line as an alternative. -/
def alternative (l : BodyLine) : Alternative :=
  ⟨l.content.map fun t => ⟨t.kind.fragmentKind, t.value, t.position⟩, l.dash.position.line⟩

/-- The guard of a line: its first expression. -/
def condition? (l : BodyLine) : Option Text :=
  (l.content.find? (·.kind = .expression)).map (·.value)

end BodyLine

namespace Template

/-- The token that comes next. A token list ends in `TokenKind.finish`. -/
def current (ts : List Token) : Token := ts.headD ⟨.finish, [], .start⟩

/-- Is the next token of this kind? -/
def isAt (k : TokenKind) (ts : List Token) : Bool := (current ts).kind = k

/-- Takes a token of the expected kind. -/
def expect (k : TokenKind) (ts : List Token) : Except DefinitionFault (Token × List Token) :=
  if isAt k ts then .ok (current ts, ts.drop 1)
  else .error ⟨.unexpected k (current ts).kind, (current ts).position⟩

/-! ## Declarations -/

/-- Identifiers that follow, each after a mark. -/
def readMore (mark : TokenKind) : List Token → Except DefinitionFault (List Text × List Token)
  | t :: ts =>
    if t.kind = mark then
      match ts with
      | u :: rest =>
        if u.kind = .identifier then do
          let (more, rest) ← readMore mark rest
          return (u.value :: more, rest)
        else .error ⟨.unexpected .identifier u.kind, u.position⟩
      | [] => .error ⟨.unexpected .identifier .finish, .start⟩
    else .ok ([], t :: ts)
  | [] => .ok ([], [])

/-- A name: identifiers with points between them. -/
def readName (ts : List Token) : Except DefinitionFault (Text × List Token) := do
  let (first, ts) ← expect .identifier ts
  let (more, ts) ← readMore .dot ts
  return (Text.join "." (first.value :: more), ts)

/-- Parameters in parentheses, if there are any. -/
def readParameters (ts : List Token) : Except DefinitionFault (List Text × List Token) := do
  if isAt .openParenthesis ts then
    let ts := ts.drop 1
    let (names, ts) ←
      if isAt .identifier ts then do
        let (more, rest) ← readMore .comma (ts.drop 1)
        pure ((current ts).value :: more, rest)
      else pure ([], ts)
    let (_, ts) ← expect .closeParenthesis ts
    return (names, ts)
  else return ([], ts)

/-- The end of a declaration line, which the end of the document may replace. -/
def readLineEnd (ts : List Token) : Except DefinitionFault (List Token) :=
  if isAt .finish ts then .ok ts else (expect .newline ts).map (·.2)

/-! ## Bodies -/

/-- The content of a line and what follows the line. -/
def readContent (ts : List Token) : List Token × List Token :=
  let rest := ts.dropWhile (!·.kind.endsLine)
  (ts.takeWhile (!·.kind.endsLine), if isAt .newline rest then rest.drop 1 else rest)

/-- A body line after its dash. -/
def readLine (dash : Token) (ts : List Token) : BodyLine × List Token :=
  match ts with
  | ⟨.keyword k, _, p⟩ :: rest =>
    let (content, rest) := readContent rest
    (⟨dash, some (k, p), content⟩, rest)
  | _ =>
    let (content, rest) := readContent ts
    (⟨dash, none, content⟩, rest)

theorem length_readContent_le (ts : List Token) : (readContent ts).2.length ≤ ts.length := by
  have h : (ts.dropWhile (!·.kind.endsLine)).length ≤ ts.length :=
    (List.dropWhile_suffix fun t : Token => !t.kind.endsLine).length_le
  simp only [readContent]
  split
  · simp only [List.length_drop]; omega
  · exact h

theorem length_readLine_le (dash : Token) (ts : List Token) :
    (readLine dash ts).2.length ≤ ts.length := by
  unfold readLine
  split
  · exact Nat.le_succ_of_le (length_readContent_le _)
  · exact length_readContent_le _

/-- The body lines at the beginning and what follows them. -/
def readLines (ts : List Token) : List BodyLine × List Token :=
  match ts with
  | [] => ([], [])
  | t :: rest =>
    if t.kind = .dash then
      let line := readLine t rest
      let more := readLines line.2
      (line.1 :: more.1, more.2)
    else ([], t :: rest)
termination_by ts.length
decreasing_by
  have := length_readLine_le t rest
  simp only [List.length_cons]; omega

theorem length_readLines_le (ts : List Token) : (readLines ts).2.length ≤ ts.length := by
  fun_induction readLines ts with
  | case1 => exact Nat.le_refl _
  | case2 t rest h line more ih =>
    have := length_readLine_le t rest
    simp only [line, more, List.length_cons] at *
    omega
  | case3 => exact Nat.le_refl _

/-- The alternatives of a rule; none when no lines follow it. -/
def ruleBody (alternatives : List Alternative) : Option (List Alternative) :=
  if alternatives = [] then none else some alternatives

/-- The rules that lines make: a line with a keyword begins a rule, and the lines up to the next
one are its alternatives. The alternatives at the beginning belong to no rule and are returned. -/
def readRules : List BodyLine → Except DefinitionFault (List Alternative × List Rule)
  | [] => .ok ([], [])
  | l :: rest =>
    match l.keyword with
    | none => do
      let (alternatives, rules) ← readRules rest
      return (l.alternative :: alternatives, rules)
    | some (k, p) =>
      if k ≠ .elseWord ∧ l.condition?.isNone then .error ⟨.missingCondition k, p⟩
      else do
        let (alternatives, rules) ← readRules rest
        let condition := if k = .elseWord then none else l.condition?
        return ([], ⟨k, condition, ruleBody alternatives, p.line⟩ :: rules)

/-- The body that lines make. -/
def readBody (name : Text) (lines : List BodyLine) : Except DefinitionFault Body :=
  match lines.find? (·.keyword.isSome) with
  | none => .ok (.normal (lines.map (·.alternative)))
  | some l =>
    if (lines.head?.bind (·.keyword)).isSome then (readRules lines).map fun r => .conditional r.2
    else .error ⟨.mixedBody name, l.dash.position⟩

/-! ## Definitions -/

/-- A definition after its first sign, and what follows it. -/
def readDefinition (label : Text) (hash : Token) (ts : List Token) :
    Except DefinitionFault (Template × List Token) := do
  let (name, ts) ← readName ts
  let (parameters, ts) ← readParameters ts
  let ts ← readLineEnd ts
  let (lines, rest) := readLines ts
  if lines = [] then throw ⟨.emptyBody name, hash.position⟩
  else
    let body ← readBody name lines
    return (⟨name, parameters, body, label, hash.position.line⟩, rest)

/-- The definitions of a token list, one after the other; `rounds` bounds their number. -/
def readFrom (label : Text) : Nat → List Token → Except DefinitionFault (List Template)
  | 0, _ => .ok []
  | rounds + 1, ts =>
    if isAt .finish ts then .ok []
    else if isAt .dash ts then .error ⟨.orphanBody, (current ts).position⟩
    else do
      let (hash, rest) ← expect .hash ts
      let (t, rest) ← readDefinition label hash rest
      return t :: (← readFrom label rounds rest)

/-- The templates of a token list. -/
def readAll (label : Text) (ts : List Token) : Except DefinitionFault (List Template) :=
  readFrom label ts.length ts

/-- The templates of a document. -/
def readDocument (label text : Text) : Except Failure (List Template) :=
  match Token.scan text with
  | .error f => .error (f.toFailure label)
  | .ok tokens =>
    match readAll label tokens with
    | .error f => .error (.template (f.toError label))
    | .ok templates => .ok templates

end Template

end Phrasebook
