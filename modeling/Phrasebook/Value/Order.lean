import Phrasebook.Fault
import Phrasebook.Value.Equality

/-!
# Order of values

Numbers are ordered by size, texts and bytes character by character, lists and tuples by their
first differing element, sets and key views by inclusion.  Any other two values have no order.

* `Relation`: the four order relations;
* `Value.relate?`: does a relation hold between two values, if they have an order at all?
* `Value.contains`: membership.
-/

namespace Phrasebook

/-- The order relations. -/
inductive Relation where
  | lt
  | le
  | gt
  | ge
  deriving DecidableEq, Repr

namespace Relation

/-- Does the relation hold of two things that compare so? -/
def holds : Relation → Ordering → Bool
  | lt, o => o == .lt
  | le, o => o != .gt
  | gt, o => o == .gt
  | ge, o => o != .lt

/-- The relation seen from the other side. -/
def flip : Relation → Relation
  | lt => gt
  | le => ge
  | gt => lt
  | ge => le

end Relation

namespace Value

/-- A relation between two real numbers; `none` when one of the values is none. The value that
is no number stands in no relation. -/
def relateNumbers? (r : Relation) : Value → Value → Option Bool
  | float x, float y =>
    some (match r with
      | .lt => x < y
      | .le => x ≤ y
      | .gt => x > y
      | .ge => x ≥ y)
  | float x, y => (integer? y).map fun n => !x.isNaN && r.flip.holds (Binary64.compareInt n x)
  | x, float y => (integer? x).map fun n => !y.isNaN && r.holds (Binary64.compareInt n y)
  | x, y =>
    match integer? x, integer? y with
    | some m, some n => some (r.holds (compare m n))
    | _, _ => none

/-- The members of a set or of a view that behaves as one. -/
def members? : Value → Option (List Value)
  | set xs => some xs
  | view .keys es => some (es.map (·.1))
  | view .items es => some (es.map fun (k, v) => tuple [k, v])
  | _ => none

/-- Inclusion between sets, strict or not. -/
def relateSets (r : Relation) (xs ys : List Value) : Bool :=
  match r with
  | .le => xs.length ≤ ys.length && membersIn xs ys
  | .lt => xs.length < ys.length && membersIn xs ys
  | .ge => ys.length ≤ xs.length && membersIn ys xs
  | .gt => ys.length < xs.length && membersIn ys xs

mutual

/-- Does the relation hold? `none` when the two values have no order. -/
def relate? (r : Relation) : Value → Value → Option Bool
  | text t, text u => some (r.holds (Text.order t u))
  | bytes a, bytes b => some (r.holds (Text.listOrder Text.numberOrder a b))
  | list xs, list ys => relateList? r xs ys
  | tuple xs, tuple ys => relateList? r xs ys
  | x, y =>
    match members? x, members? y with
    | some xs, some ys => some (relateSets r xs ys)
    | _, _ => relateNumbers? r x y

/-- The first two elements that differ decide; without such, the lengths do. -/
def relateList? (r : Relation) : List Value → List Value → Option Bool
  | [], [] => some (r.holds .eq)
  | [], _ :: _ => some (r.holds .lt)
  | _ :: _, [] => some (r.holds .gt)
  | x :: xs, y :: ys => if same x y then relateList? r xs ys else relate? r x y

end

/-- Is `x` in `y`? A text holds texts only, a key must be hashable, and a value without elements
holds nothing; otherwise the question makes no sense. -/
def contains (y x : Value) : Except Fault Bool :=
  let hashed (answer : Bool) : Except Fault Bool :=
    if x.isHashable then .ok answer else .error .wrongType
  match y, x with
  | text t, text u => .ok (Text.has u t)
  | bytes b, bytes c => .ok (Text.has (c.map Char.ofNat) (b.map Char.ofNat))
  | bytes b, _ =>
    match integer? x with
    | none => .error .wrongType
    | some n =>
      if 0 ≤ n ∧ n < 256 then .ok (b.contains n.toNat)
      else .error (.badValue "byte must be in range(0, 256)")
  | list xs, _ | tuple xs, _ => .ok (xs.any (same x))
  -- A set is looked for by its members, although it is no possible member itself.
  | set xs, set _ => .ok (xs.any (same x))
  | set xs, _ => hashed (xs.any (same x))
  | dict es, _ | view .keys es, _ => hashed (es.any fun e => same x e.1)
  | view .values es, _ => .ok (es.any fun e => same x e.2)
  | view .items es, tuple [k, v] =>
    if k.isHashable then .ok (es.any fun e => same k e.1 && same v e.2) else .error .wrongType
  | view .items _, _ => .ok false
  | _, _ => .error .wrongType

end Value

end Phrasebook
