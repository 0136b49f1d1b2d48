import Phrasebook.Failure
import Phrasebook.Layout.Spec
import Phrasebook.Value.Access

/-!
# Replacement fields

A layout such as `{} and {1:>5}` puts values into a text by position.  A field holds an optional
position, an optional conversion after `!` and an optional specification after `:`, which may
hold fields itself.  Names, members and keys are refused, so a layout cannot reach into a value.

* `LayoutPart.next?`: one literal and the field after it, as read from the text;
* `Value.filled`: a layout filled with values.
-/

namespace Phrasebook

/-- A replacement field. -/
structure LayoutField where
  name : Text
  conversion : Option Char
  spec : Text
  deriving DecidableEq, Repr

/-- A literal and the field after it, if there is one. -/
structure LayoutPart where
  literal : Text
  field : Option LayoutField
  deriving DecidableEq, Repr

namespace LayoutPart

/-- A brace on its own. -/
def singleBrace (c : Char) : Fault :=
  .badValue ("Single '" ++ [c] ++ "' encountered in format string")

/-- The name of a field up to the character that ends it, that character and the rest. What
stands in square brackets belongs to the name. -/
def readName (bracketed : Bool) : Text → Except Fault (Text × Char × Text)
  | [] => .error (.badValue "expected '\x7d' before end of string")
  | c :: rest =>
    if bracketed then (readName (c != ']') rest).map fun (name, stop, rest) => (c :: name, stop, rest)
    else if c = '\x7b' then .error (.badValue "unexpected '\x7b' in field name")
    else if c = '\x7d' ∨ c = ':' ∨ c = '!' then .ok ([], c, rest)
    else (readName (c == '[') rest).map fun (name, stop, rest) => (c :: name, stop, rest)

/-- The specification of a field up to the brace that closes the field, and the rest. -/
def readSpec (depth : Nat) : Text → Except Fault (Text × Text)
  | [] => .error (.badValue "unmatched '\x7b' in format spec")
  | c :: rest =>
    if c = '\x7d' ∧ depth = 0 then .ok ([], rest)
    else
      let depth := if c = '\x7b' then depth + 1 else if c = '\x7d' then depth - 1 else depth
      (readSpec depth rest).map fun (spec, rest) => (c :: spec, rest)

/-- The field after an opening brace, and the rest. -/
def readField (t : Text) : Except Fault (LayoutField × Text) := do
  let (name, stop, rest) ← readName false t
  if stop = ':' then
    let (spec, rest) ← readSpec 0 rest
    return (⟨name, none, spec⟩, rest)
  else if stop = '!' then
    match rest with
    | [] => throw (.badValue "end of string while looking for conversion specifier")
    | c :: '\x7d' :: rest => return (⟨name, some c, []⟩, rest)
    | c :: ':' :: rest =>
      let (spec, rest) ← readSpec 0 rest
      return (⟨name, some c, spec⟩, rest)
    | [_] => throw (.badValue "unmatched '\x7b' in format spec")
    | _ => throw (.badValue "expected ':' after conversion specifier")
  else return (⟨name, none, []⟩, rest)

/-- The text up to the first brace, and what begins with it. -/
def literalRun : Text → Text × Text := List.span fun c => c != '\x7b' && c != '\x7d'

/-- The next literal and the field after it, and the rest. A brace that is doubled is a literal
one, and ends the part. -/
def next? (t : Text) : Except Fault (Option (LayoutPart × Text)) :=
  match t with
  | [] => .ok none
  | _ =>
    let (run, rest) := literalRun t
    match rest with
    | [] => .ok (some (⟨run, none⟩, []))
    | [c] => .error (singleBrace c)
    | c :: d :: after =>
      if c = d then .ok (some (⟨run ++ [c], none⟩, after))
      else if c = '\x7d' then .error (singleBrace c)
      else (readField (d :: after)).map fun (field, rest) => some (⟨run, some field⟩, rest)

end LayoutPart

/-- How the positions of the fields so far were given. -/
inductive Numbering where
  /-- Fields without positions so far: how many there were. -/
  | automatic (count : Nat)
  /-- A position was given, and every later field needs one too. -/
  | manual
  deriving DecidableEq, Repr

namespace Numbering

/-- Positions that are given for some fields only. -/
def mixed : Fault :=
  .badValue "cannot switch from manual field specification to automatic field numbering"

/-- The name of the next field, with its position filled in, and the numbering after it. -/
def resolve (n : Numbering) (name : Text) : Except Fault (Text × Numbering) :=
  if name = [] then
    match n with
    | automatic count => .ok (Text.ofNat count, automatic (count + 1))
    | manual => .error mixed
  else if name.all Text.isDigit then
    match n with
    | automatic (_ + 1) => .error mixed
    | _ => .ok (name, manual)
  else .ok (name, n)

end Numbering

namespace Value

/-- The value that a field names by its position. -/
def fieldValue (values : List Value) (name : Text) : Except Failure Value :=
  if name ≠ [] ∧ name.all Text.isDigit then do
    let i ← Fault.orFail (readInteger 10 name)
    Fault.orFail (elementAt "tuple " values i)
  else .error (.refused ("Format field '\x7b" ++ name ++ "\x7d' is not permitted"))

/-- A value after the conversion of a field. -/
def converted (v : Value) : Option Char → Except Fault Value
  | none => .ok v
  | some 's' => (written v).map text
  | some 'r' => (quoted v).map text
  | some 'a' => (quoted v).map fun t => text (Text.escapeBeyondAscii t)
  | some c => .error (.badValue ("Unknown conversion specifier " ++ [c]))

/-- Specifications with fields inside may be nested this deep. -/
def fieldNesting : Nat := 3

mutual

/-- Fills a layout whose fields may be nested `depth` deep, with at most `rounds` parts: the text
and the numbering after it. -/
def fill (values : List Value) (depth rounds : Nat) (n : Numbering) (t : Text) :
    Except Failure (Text × Numbering) :=
  match depth with
  | 0 => .error (.fault (.badValue "Max string recursion exceeded"))
  | depth + 1 => fillParts values depth rounds n t
termination_by (depth, 0, 0)

/-- Fills the parts of a layout one after the other. -/
def fillParts (values : List Value) (depth rounds : Nat) (n : Numbering) (t : Text) :
    Except Failure (Text × Numbering) := do
  match rounds with
  | 0 => return ([], n)
  | rounds + 1 =>
    match ← Fault.orFail (LayoutPart.next? t) with
    | none => return ([], n)
    | some (part, rest) =>
      let (made, n) ← match part.field with
        | none => pure ([], n)
        | some field => do
          let (name, n) ← Fault.orFail (n.resolve field.name)
          let v ← fieldValue values name
          let v ← Fault.orFail (converted v field.conversion)
          let (spec, n) ← fill values depth field.spec.length n field.spec
          pure (← Fault.orFail (shown v spec), n)
      let (after, n) ← fillParts values depth rounds n rest
      return (part.literal ++ made ++ after, n)
termination_by (depth, 1, rounds)

end

/-- A layout filled with values. -/
def filled (layout : Text) (values : List Value) : Except Failure Text :=
  (fill values fieldNesting layout.length (.automatic 0) layout).map (·.1)

end Value

end Phrasebook
