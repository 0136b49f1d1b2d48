import Phrasebook.Moment
import Phrasebook.Number.Binary64

/-!
# Values

What an expression can denote, what a template is given as its scope, and what a settings
document holds.

Two things are left out.  An object of the host is a plain record: attributes that are computed when
they are asked for, and operators and mappings of the host's own types, are not described, nor what
they raise.  And a set has no order that anything may rely on: walking through it must go some way,
and here integers ascend and other members come in the order of their arrival, while a host may go
another way.

* `Value`: the type of values;
* `Value.truth`: the truth of a value as a condition;
* `Value.typeName`: the name under which its type is shown;
* `Value.items?`: the elements that come out when a value is walked through.
-/

namespace Phrasebook

/-- The three live views of a mapping. -/
inductive ViewKind where
  | keys
  | values
  | items
  deriving DecidableEq, Repr

/-- A value. Mappings and sets keep the order in which their members arrived and hold no two
equal keys or members. -/
inductive Value where
  /-- The absence of a value. -/
  | null
  | bool (b : Bool)
  | int (n : Int)
  | float (x : Float)
  | complex (re im : Float)
  | text (t : Text)
  | bytes (b : List Nat)
  | list (items : List Value)
  | tuple (items : List Value)
  | set (items : List Value)
  | dict (entries : List (Value × Value))
  /-- The keys, values or entries of a mapping. -/
  | view (kind : ViewKind) (entries : List (Value × Value))
  /-- A host object with named attributes that it keeps, which is no mapping. -/
  | object (fields : List (Text × Value))
  /-- A host function, known by its name alone. -/
  | function (name : Text)
  /-- A method of a built-in type, bound to its owner. -/
  | method (owner : Value) (name : Text)
  /-- The value written as three points. -/
  | ellipsis
  /-- A date or a time of a settings document. -/
  | moment (m : Moment)
  deriving Inhabited

namespace ViewKind

/-- The name under which the type of a view is shown. -/
def typeName : ViewKind → Text
  | keys => "dict_keys"
  | values => "dict_values"
  | items => "dict_items"

/-- The elements of a view. -/
def elements (kind : ViewKind) (entries : List (Value × Value)) : List Value :=
  match kind with
  | keys => entries.map (·.1)
  | values => entries.map (·.2)
  | items => entries.map fun (k, v) => .tuple [k, v]

end ViewKind

namespace Value

/-- The name under which the type of a value is shown. -/
def typeName : Value → Text
  | null => "NoneType"
  | bool _ => "bool"
  | int _ => "int"
  | float _ => "float"
  | complex _ _ => "complex"
  | text _ => "str"
  | bytes _ => "bytes"
  | list _ => "list"
  | tuple _ => "tuple"
  | set _ => "set"
  | dict _ => "dict"
  | view kind _ => kind.typeName
  | object _ => "SimpleNamespace"
  | function _ => "function"
  | method _ _ => "builtin_function_or_method"
  | ellipsis => "ellipsis"
  | moment m => m.typeName

/-- The truth of a value as a condition: nothing, zero and whatever is empty are false. -/
def truth : Value → Bool
  | null => false
  | bool b => b
  | int n => n != 0
  | float x => x != 0
  | complex re im => re != 0 || im != 0
  | text t => !t.isEmpty
  | bytes b => !b.isEmpty
  | list items | tuple items | set items => !items.isEmpty
  | dict entries | view _ entries => !entries.isEmpty
  | object _ | function _ | method _ _ | ellipsis | moment _ => true

/-- A whole number or a truth value as an integer. -/
def integer? : Value → Option Int
  | int n => some n
  | bool b => some (if b then 1 else 0)
  | _ => none

/-- Does `a` come no later than `b`, for members of a set? Integers ascend; others keep the
order of their arrival. Any other order would do as well. -/
def setOrder (a b : Value) : Bool :=
  match a, b with
  | int m, int n => m ≤ n
  | _, _ => true

/-- The elements of a value in the order of walking through it; `none` for a value that has no
elements. The keys of a mapping are its elements, and the characters of a text. -/
def items? : Value → Option (List Value)
  | text t => some (t.map fun c => text [c])
  | bytes b => some (b.map fun (n : Nat) => int n)
  | list items | tuple items => some items
  | set items => some (items.mergeSort setOrder)
  | dict entries => some (entries.map (·.1))
  | view kind entries => some (kind.elements entries)
  | _ => none

/-- How many elements a value has. -/
def length? : Value → Option Nat
  | text t => some t.length
  | bytes b => some b.length
  | list items | tuple items | set items => some items.length
  | dict entries | view _ entries => some entries.length
  | _ => none

end Value

end Phrasebook
