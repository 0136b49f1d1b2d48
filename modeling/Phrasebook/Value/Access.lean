import Phrasebook.Failure
import Phrasebook.Value.Arithmetic
import Phrasebook.Value.Written

/-!
# Access by position and key

* `Value.element`: one element of a sequence, or what a mapping binds to a key;
* `Value.part`: the elements of a sequence between two bounds, with a step;
* `Value.oneThing?`: what two values tell about being one thing.

Positions may be counted from the end by negative numbers.
-/

namespace Phrasebook

/-- The position that an index denotes in a sequence of the given length, if it lies inside. -/
def position? (length : Nat) (i : Int) : Option Nat :=
  let i := if i < 0 then i + length else i
  if 0 ≤ i ∧ i < length then some i.toNat else none

/-- A bound brought into a range from `low` to `high`, a negative one counted from the end. -/
def clampBound (length : Nat) (low high : Int) (i : Int) : Int :=
  let i := if i < 0 then i + length else i
  if i < low then low else if high < i then high else i

/-- The positions from `start` on in steps of `step` before `stop` is reached. -/
def stepsFrom (step stop : Int) : Nat → Int → List Nat
  | 0, _ => []
  | count + 1, i =>
    if (0 < step ∧ i < stop) ∨ (step < 0 ∧ stop < i) then
      i.toNat :: stepsFrom step stop count (i + step)
    else []

/-- The positions that a slice of a sequence selects, in order. The step is not zero. -/
def slicePositions (length : Nat) (lower upper : Option Int) (step : Int) : List Nat :=
  if 0 < step then
    let start := (lower.map (clampBound length 0 length)).getD 0
    let stop := (upper.map (clampBound length 0 length)).getD length
    stepsFrom step stop length start
  else
    let start := (lower.map (clampBound length (-1) (length - 1))).getD (length - 1)
    let stop := (upper.map (clampBound length (-1) (length - 1))).getD (-1)
    stepsFrom step stop length start

namespace Value

/-- The element at an index; `what` begins the message of a failure. -/
def elementAt {α : Type} (what : Text) (items : List α) (i : Int) : Except Fault α :=
  if i < -(positionLimit : Int) - 1 ∨ (positionLimit : Int) < i then
    .error ⟨.index, "cannot fit 'int' into an index-sized integer"⟩
  else
    match (position? items.length i).bind (items[·]?) with
    | some x => .ok x
    | none => .error ⟨.index, what ++ "index out of range"⟩

/-- A key that is not there. -/
def missingKey (key : Value) : Failure :=
  match quoted key with
  | .ok t => .fault ⟨.key, t⟩
  | .error _ => .unwritable .key

/-- The element of a sequence at a position, or what a mapping binds to a key. -/
def element (owner index : Value) : Except Failure Value :=
  let at? {α : Type} (what : Text) (items : List α) (wrap : α → Value) : Except Failure Value :=
    match integer? index with
    | some i => Fault.orFail ((elementAt what items i).map wrap)
    | none => .error .wrongType
  match owner with
  | text t => at? "string " t fun c => text [c]
  | bytes b => at? [] b fun (n : Nat) => int n
  | list xs => at? "list " xs id
  | tuple xs => at? "tuple " xs id
  | dict entries =>
    if index.isHashable then
      match lookup? entries index with
      | some v => .ok v
      | none => .error (missingKey index)
    else .error .wrongType
  | _ => .error .wrongType

/-- A bound of a slice: an integer, or nothing. -/
def bound (v : Value) : Except Fault (Option Int) :=
  match v with
  | null => .ok none
  | _ =>
    match integer? v with
    | some i => .ok (some i)
    | none => .error .wrongType

/-- The selected elements of a list. -/
def selected {α : Type} (items : List α) (positions : List Nat) : List α :=
  let all := items.toArray
  positions.filterMap (all[·]?)

/-- The elements of a sequence between two bounds, in steps. -/
def part (owner lower upper step : Value) : Except Fault Value :=
  let pick {α : Type} (items : List α) (wrap : List α → Value) : Except Fault Value := do
    let step := (← bound step).getD 1
    if step = 0 then throw (.badValue "slice step cannot be zero")
    else
      let lower ← bound lower
      let upper ← bound upper
      return wrap (selected items (slicePositions items.length lower upper step))
  match owner with
  | text t => pick t text
  | bytes b => pick b bytes
  | list xs => pick xs list
  | tuple xs => pick xs tuple
  | _ => .error .wrongType

/-- Are two values one and the same thing? `none` where the values do not tell. The absence of a
value, the truth values and the three points exist once, and a function of the host is what its name
says; things of two types are two. Whether other values that look alike are one thing depends on
where they were made. -/
def oneThing? (x y : Value) : Option Bool :=
  match x, y with
  | null, null | ellipsis, ellipsis => some true
  | bool a, bool b => some (a == b)
  | function f, function g => some (f == g)
  | x, y => if x.typeName = y.typeName then none else some false

end Value

end Phrasebook
