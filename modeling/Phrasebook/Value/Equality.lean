import Phrasebook.Value.Basic

/-!
# Equality of values

Numbers are equal when they are the same number, whatever their type: truth values count as
zero and one, and an integer is compared with a double exactly.  Lists and tuples are equal
element by element, mappings and sets without regard to order.  A container finds a value that is the
very thing it holds, also a double that is no number; as the values do not tell whether two such
doubles are one thing, containers take all of them for one.

* `Value.eq`: equality;
* `Value.same`: equality as containers see it, where a value always finds itself;
* `Value.isHashable`: may the value be a key?
* `lookup?`, `insertEntry`, `insertMember`: keyed access by equality.
-/

namespace Phrasebook.Value

/-- Equality of two numbers, and `none` when one of them is no number. -/
def numberEq? : Value → Value → Option Bool
  | complex a b, complex c d => some (a == c && b == d)
  | complex a b, y =>
    match y with
    | float x => some (a == x && b == 0)
    | int n => some (b == 0 && a.isFinite && Binary64.compareInt n a == .eq)
    | bool c => some (b == 0 && a == (if c then 1 else 0))
    | _ => none
  | x, complex a b =>
    match x with
    | float y => some (a == y && b == 0)
    | int n => some (b == 0 && a.isFinite && Binary64.compareInt n a == .eq)
    | bool c => some (b == 0 && a == (if c then 1 else 0))
    | _ => none
  | float x, float y => some (x == y)
  | float x, y => (integer? y).map fun n => x.isFinite && Binary64.compareInt n x == .eq
  | x, float y => (integer? x).map fun n => y.isFinite && Binary64.compareInt n y == .eq
  | x, y =>
    match integer? x, integer? y with
    | some m, some n => some (m == n)
    | _, _ => none

/-- Are both values the double that is no number? -/
def bothNaN : Value → Value → Bool
  | float x, float y => x.isNaN && y.isNaN
  | _, _ => false

mutual

/-- Equality of values. -/
def eq : Value → Value → Bool
  | null, null => true
  | text t, text u => t == u
  | bytes a, bytes b => a == b
  | list xs, list ys => eqList xs ys
  | tuple xs, tuple ys => eqList xs ys
  | set xs, set ys => xs.length == ys.length && membersIn xs ys
  | set xs, view .keys es => xs.length == es.length && membersIn xs (es.map (·.1))
  | dict es, dict fs => es.length == fs.length && entriesIn es fs
  | view .keys es, view .keys fs => es.length == fs.length && keysIn es (fs.map (·.1))
  | view .keys es, set ys => es.length == ys.length && keysIn es ys
  | view .items es, view .items fs => es.length == fs.length && entriesIn es fs
  | object fs, object gs => fs.length == gs.length && fieldsIn fs gs
  | function f, function g => f == g
  | method a f, method b g => f == g && eq a b
  | ellipsis, ellipsis => true
  | moment a, moment b => a == b
  | x, y => (numberEq? x y).getD false

/-- Equality of two lists element by element. -/
def eqList : List Value → List Value → Bool
  | [], [] => true
  | x :: xs, y :: ys => (eq x y || bothNaN x y) && eqList xs ys
  | _, _ => false

/-- Is every member of the first list among those of the second? -/
def membersIn : List Value → List Value → Bool
  | [], _ => true
  | x :: xs, ys => ys.any (fun y => eq x y || bothNaN x y) && membersIn xs ys

/-- Is every key of the entries among the members of the second list? -/
def keysIn : List (Value × Value) → List Value → Bool
  | [], _ => true
  | (k, _) :: es, ys => ys.any (fun y => eq k y || bothNaN k y) && keysIn es ys

/-- Is every entry of the first mapping one of the second? -/
def entriesIn : List (Value × Value) → List (Value × Value) → Bool
  | [], _ => true
  | (k, v) :: es, fs =>
    fs.any (fun f => (eq k f.1 || bothNaN k f.1) && (eq v f.2 || bothNaN v f.2)) && entriesIn es fs

/-- Is every attribute of the first object one of the second? -/
def fieldsIn : List (Text × Value) → List (Text × Value) → Bool
  | [], _ => true
  | (name, v) :: fs, gs =>
    gs.any (fun g => name == g.1 && (eq v g.2 || bothNaN v g.2)) && fieldsIn fs gs

end

/-- Equality as containers see it: a value that is no number still finds itself. -/
def same (x y : Value) : Bool := eq x y || bothNaN x y

mutual

/-- May the value be a key of a mapping or a member of a set? -/
def isHashable : Value → Bool
  | list _ | set _ | dict _ | object _ => false
  | view kind _ => kind == .values
  | tuple items => allHashable items
  | _ => true

/-- May all of the values be keys? -/
def allHashable : List Value → Bool
  | [] => true
  | x :: xs => isHashable x && allHashable xs

end

/-! ## Keyed access -/

/-- The value bound to a key. -/
def lookup? (entries : List (Value × Value)) (key : Value) : Option Value :=
  (entries.find? fun entry => same key entry.1).map (·.2)

/-- The value bound to a name. -/
def lookupName? (entries : List (Value × Value)) (name : Text) : Option Value :=
  match entries with
  | [] => none
  | (.text t, v) :: rest => if t = name then some v else lookupName? rest name
  | _ :: rest => lookupName? rest name

/-- Binds a key: a key that is present keeps its place and takes the new value. -/
def insertEntry (entries : List (Value × Value)) (key value : Value) : List (Value × Value) :=
  match entries with
  | [] => [(key, value)]
  | (k, v) :: rest =>
    if same key k then (k, value) :: rest else (k, v) :: insertEntry rest key value

/-- Adds a member to a set unless it is there. -/
def insertMember (members : List Value) (x : Value) : List Value :=
  if members.any (same x) then members else members ++ [x]

/-- The mapping that binds names to values in order; a repeated name keeps its first place and
takes the last value. -/
def ofNames (pairs : List (Text × Value)) : Value :=
  dict (pairs.foldl (fun entries (name, v) => insertEntry entries (text name) v) [])

end Phrasebook.Value
