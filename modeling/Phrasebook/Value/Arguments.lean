import Phrasebook.Fault
import Phrasebook.Value.Basic

/-!
# Arguments

The values that a function is called with: some by position and some by name.

* `Arguments.positional`: the arguments of a function that takes none by name;
* `Arguments.bind`: the arguments of a function in the order of its parameters.
-/

namespace Phrasebook

/-- The arguments of a call; no name occurs twice. -/
structure Arguments where
  items : List Value
  named : List (Text × Value)

namespace Arguments

/-- Arguments by position alone. -/
def ofList (items : List Value) : Arguments := ⟨items, []⟩

/-- Adds an argument by name; a later one replaces an earlier one of the same name. -/
def insert (a : Arguments) (name : Text) (v : Value) : Arguments :=
  { a with named :=
      if a.named.any (·.1 = name) then a.named.map fun e => if e.1 = name then (name, v) else e
      else a.named ++ [(name, v)] }

/-- The arguments of a function that takes from `least` to `most` of them, none by name. -/
def positional (a : Arguments) (least most : Nat) : Except Fault (List Value) :=
  if a.named = [] ∧ least ≤ a.items.length ∧ a.items.length ≤ most then .ok a.items
  else .error .wrongType

/-- The argument for each parameter, by position or by name; `none` where it is missing. -/
def bind (a : Arguments) (parameters : List Text) : Except Fault (List (Option Value)) :=
  let byName := parameters.drop a.items.length
  if parameters.length < a.items.length then .error .wrongType
  else if a.named.any fun e => !byName.contains e.1 then .error .wrongType
  else
    .ok (a.items.map some ++ byName.map fun name => (a.named.find? (·.1 = name)).map (·.2))

end Arguments

end Phrasebook
