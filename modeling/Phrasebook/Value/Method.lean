import Phrasebook.Text.Case
import Phrasebook.Text.Pieces
import Phrasebook.Value.Access
import Phrasebook.Value.Arguments

/-!
# Methods of built-in values

Methods of texts, lists, tuples and mappings.  None of them changes its owner.

* `Value.isAllowedMethod`: the methods that an expression may call by name;
* `Value.callMethod`: the result of a method.
-/

namespace Phrasebook.Value

/-- May an expression call this method of the value? -/
def isAllowedMethod (owner : Value) (name : Text) : Bool :=
  let names : List String :=
    match owner with
    | text _ => ["lower", "upper", "title", "strip", "lstrip", "rstrip", "startswith", "endswith",
        "capitalize", "casefold", "replace", "split", "join"]
    | dict _ => ["get", "items", "values", "keys"]
    | list _ => ["count", "index"]
    | _ => []
  names.any fun n => n.toList = name

/-- A limit on the number of cuts: a negative one is none. -/
def limitOf : Option Value → Except Fault (Option Nat)
  | none => .ok none
  | some v =>
    match integer? v with
    | none => .error .wrongType
    | some n =>
      if n < -(positionLimit : Int) - 1 ∨ (positionLimit : Int) < n then
        .error ⟨.overflow, "Python int too large to convert to C ssize_t"⟩
      else .ok (if n < 0 then none else some n.toNat)

/-- The text without blanks, or without the given characters, at the chosen ends. -/
def stripped (first last : Bool) (t : Text) (args : Arguments) : Except Fault Value := do
  let p ← match ← args.positional 0 1 with
    | [text chars] => pure (chars.contains ·)
    | [null] | [] => pure Text.isBlank
    | _ => throw .wrongType
  let t := if first then Text.stripStart p t else t
  return text (if last then Text.stripEnd p t else t)

/-- The part of a text of the given length between two optional bounds, as start and end; the
start may lie beyond the end. -/
def window (length : Nat) (bounds : List Value) : Except Fault (Nat × Nat) := do
  let clamp (i : Int) : Int := if i < 0 then max 0 (i + length) else i
  let start ← match bounds[0]? with
    | some v => bound v
    | none => pure none
  let stop ← match bounds[1]? with
    | some v => bound v
    | none => pure none
  return ((clamp (start.getD 0)).toNat, min (clamp (stop.getD length)).toNat length)

/-- Does the part of a text between two positions begin or end with a mark? -/
def edgeMatches (atEnd : Bool) (t : Text) (start stop : Nat) (mark : Text) : Bool :=
  start + mark.length ≤ stop &&
    mark == (t.drop (if atEnd then stop - mark.length else start)).take mark.length

/-- Does the part of a text begin or end with one of the marks? They are tried in order. -/
def anyEdge (atEnd : Bool) (t : Text) (start stop : Nat) : List Value → Except Fault Bool
  | [] => .ok false
  | text m :: rest =>
    if edgeMatches atEnd t start stop m then .ok true else anyEdge atEnd t start stop rest
  | _ => .error .wrongType

/-- Does a text begin or end with the mark, or with one of several, that is given? -/
def edgeTest (atEnd : Bool) (t : Text) (args : Arguments) : Except Fault Value := do
  match ← args.positional 1 3 with
  | [] => throw .wrongType
  | mark :: bounds =>
    let (start, stop) ← window t.length bounds
    match mark with
    | text m => return bool (edgeMatches atEnd t start stop m)
    | tuple marks =>
      return bool (← anyEdge atEnd t start stop marks)
    | _ => throw .wrongType

/-- The texts of a list of values, all of which must be texts. -/
def textsOf : List Value → Except Fault (List Text)
  | [] => .ok []
  | text t :: rest => do return t :: (← textsOf rest)
  | _ => .error .wrongType

/-- The place of a mark in the part of a text between two optional bounds. -/
def placeOf (t : Text) (args : Arguments) : Except Fault (Option Nat) := do
  match ← args.positional 1 3 with
  | text mark :: bounds =>
    let (start, stop) ← window t.length bounds
    if stop < start then return none
    else return (Text.find? mark ((t.take stop).drop start)).map (· + start)
  | _ => throw .wrongType

/-- Methods of texts. -/
def callTextMethod (t : Text) (name : String) (args : Arguments) : Except Fault Value :=
  let plain (f : Text → Text) : Except Fault Value := do
    let _ ← args.positional 0 0
    return text (f t)
  match name with
  | "lower" => plain Text.toLower
  | "upper" => plain Text.toUpper
  | "title" => plain Text.toTitle
  | "capitalize" => plain Text.capitalize
  | "casefold" => plain Text.toFolded
  | "strip" => stripped true true t args
  | "lstrip" => stripped true false t args
  | "rstrip" => stripped false true t args
  | "startswith" => edgeTest false t args
  | "endswith" => edgeTest true t args
  | "replace" => do
    match ← args.positional 2 3 with
    | text old :: text new :: limit =>
      return text (Text.replace old new (← limitOf limit.head?) t)
    | _ => throw .wrongType
  | "split" => do
    match ← args.bind ["sep".toList, "maxsplit".toList] with
    | [sep, limit] =>
      let limit ← limitOf limit
      match sep with
      | none | some null => return list ((Text.words limit t).map text)
      | some (text []) => throw (.badValue "empty separator")
      | some (text sep) => return list ((Text.splitAt sep limit t).map text)
      | _ => throw .wrongType
    | _ => throw .wrongType
  | "join" => do
    match ← args.positional 1 1 with
    | [v] =>
      match items? v with
      | some items => return text (Text.join t (← textsOf items))
      | none => throw .wrongType
    | _ => throw .wrongType
  | "count" => do
    match ← args.positional 1 3 with
    | text mark :: bounds =>
      let (start, stop) ← window t.length bounds
      return int (if stop < start then 0 else Text.count mark ((t.take stop).drop start))
    | _ => throw .wrongType
  | "find" => do
    match ← placeOf t args with
    | some i => return int i
    | none => return int (-1)
  | "index" => do
    match ← placeOf t args with
    | some i => return int i
    | none => throw (.badValue "substring not found")
  | _ => .error .wrongType

/-- The place of a value among others, from a position on; `none` when it is not there. -/
def placeAmong (x : Value) (items : List Value) (start stop : Nat) : Option Nat :=
  (((items.take stop).drop start).findIdx? (same · x)).map (· + start)

/-- A bound of a search among elements, brought into the range of positions. -/
def searchBound (length : Nat) (v : Value) : Except Fault Nat :=
  match integer? v with
  | some i => .ok (if i < 0 then max 0 (i + length) else i).toNat
  | none => .error .wrongType

/-- Methods that lists and tuples share; `missing` tells that an element is not there. -/
def callListMethod (items : List Value) (missing : Value → Except Fault Fault) (name : String)
    (args : Arguments) : Except Fault Value :=
  match name with
  | "count" => do
    match ← args.positional 1 1 with
    | [x] => return int (items.countP (same · x))
    | _ => throw .wrongType
  | "index" => do
    match ← args.positional 1 3 with
    | x :: bounds =>
      let bounds ← bounds.mapM (searchBound items.length)
      match placeAmong x items (bounds[0]?.getD 0) (bounds[1]?.getD items.length) with
      | some i => return int i
      | none => throw (← missing x)
    | _ => throw .wrongType
  | _ => .error .wrongType

/-- Methods of mappings. -/
def callDictMethod (entries : List (Value × Value)) (name : String) (args : Arguments) :
    Except Fault Value :=
  let shownAs (kind : ViewKind) : Except Fault Value := do
    let _ ← args.positional 0 0
    return view kind entries
  match name with
  | "get" => do
    match ← args.positional 1 2 with
    | key :: default =>
      if key.isHashable then return (lookup? entries key).getD (default.headD null)
      else throw .wrongType
    | _ => throw .wrongType
  | "items" => shownAs .items
  | "values" => shownAs .values
  | "keys" => shownAs .keys
  | _ => .error .wrongType

/-- The result of a method of a built-in value. -/
def callMethod (owner : Value) (name : Text) (args : Arguments) : Except Fault Value :=
  let name := name.toStr
  match owner with
  | text t => callTextMethod t name args
  | list items =>
    callListMethod items (fun x => do return .badValue ((← quoted x) ++ " is not in list")) name args
  | tuple items =>
    callListMethod items (fun _ => .ok (.badValue "tuple.index(x): x not in tuple")) name args
  | dict entries => callDictMethod entries name args
  | _ => .error .wrongType

end Phrasebook.Value
