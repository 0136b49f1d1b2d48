import Phrasebook.Expression.Builtin

/-!
# Things that are kept

Whether two values are one thing is decided where they are made, and that is the business of the
host.  A host that only has the values can judge it by the place: a value that is kept in a scope, or
inside of a value that is kept there, is the same thing whenever it is looked up, and all else is made
anew when it is asked for, such as the parts of a number and the methods of a text.  Only the few
values that exist once are the same thing wherever they come from.  This does not follow a value that
is handed on, as an argument or inside of a list that the expression writes out.

* `Value.existsOnce`: values that exist once;
* `Expr.kept?`: what is kept at the place that an expression walks to;
* `Library.byPlace`: the functions of a host that judges by the place.
-/

namespace Phrasebook

namespace Value

/-- Are the values equal, and of those that exist once? These are small integers, texts of at most
one character with a small code, and empty tuples. -/
def existsOnce (x y : Value) : Bool :=
  match x, y with
  | int m, int n => m == n && -5 ≤ m && m ≤ 256
  | text t, text u =>
    t == u && (match t with
      | [] => true
      | [c] => c.toNat < 256
      | _ => false)
  | bytes a, bytes b => a == b && a.length ≤ 1
  | tuple xs, tuple ys => xs.isEmpty && ys.isEmpty
  | _, _ => false

/-- What a value keeps under a name: an entry of a mapping, or an attribute of an object. -/
def kept? (owner : Value) (name : Text) : Option Value :=
  match owner with
  | dict entries => lookupName? entries name
  | object fields => (fields.find? (·.1 = name)).map (·.2)
  | _ => none

/-- What a value keeps at a position or under a key. -/
def keptAt? (owner key : Value) : Option Value :=
  match owner, key with
  | list items, int i | tuple items, int i => (position? items.length i).bind (items[·]?)
  | dict entries, key => lookup? entries key
  | _, _ => none

end Value

namespace Expr

/-- Are two constants the same key? -/
def sameKey : Value → Value → Bool
  | .text t, .text u => t == u
  | .int m, .int n => m == n
  | _, _ => false

/-- Do two expressions walk the same way? -/
def samePlace : Expr → Expr → Bool
  | name a, name b => a == b
  | member x a, member y b => a == b && samePlace x y
  | subscript x (constant a), subscript y (constant b) => sameKey a b && samePlace x y
  | _, _ => false

/-- The value that is kept at the place to which an expression walks from a scope. -/
def kept? (scope : Value) : Expr → Option Value
  | name id => scope.kept? id
  | member owner id => (kept? scope owner).bind (·.kept? id)
  | subscript owner (constant key) => (kept? scope owner).bind (·.keptAt? key)
  | _ => none

end Expr

/-- The functions of a host that tells by the place whether two values are one thing. -/
def Library.byPlace (call : Text → Arguments → Except Failure Value) : Library where
  call := call
  sameThing scope previous x e y :=
    x.existsOnce y || (previous.samePlace e && (previous.kept? scope).isSome)

end Phrasebook
