import Phrasebook.Failure
import Phrasebook.Value.Equality

/-!
# Members of values

What stands after a point: the entries of a mapping, the attributes of an object, the parts of a
number, and the methods of built-in types as values.  Names that begin with an underscore are
hidden, except as entries of mappings.  The members of dates and times are left out, and so is the
mapping that a view belongs to: their names count as unknown.

* `Value.publicNames`: the names that a built-in value shows;
* `Value.named`: what a name denotes in a scope or after a point.
-/

namespace Phrasebook.Value

/-- The words of a text as a list. -/
def nameList (t : Text) : List Text := Text.entries t

/-- The methods of texts. -/
def textNames : List Text := nameList
  "capitalize casefold center count encode endswith expandtabs find format format_map index
   isalnum isalpha isascii isdecimal isdigit isidentifier islower isnumeric isprintable isspace
   istitle isupper join ljust lower lstrip maketrans partition removeprefix removesuffix replace
   rfind rindex rjust rpartition rsplit rstrip split splitlines startswith strip swapcase title
   translate upper zfill"

/-- The methods of bytes. -/
def bytesNames : List Text := nameList
  "capitalize center count decode endswith expandtabs find fromhex hex index isalnum isalpha
   isascii isdigit islower isspace istitle isupper join ljust lower lstrip maketrans partition
   removeprefix removesuffix replace rfind rindex rjust rpartition rsplit rstrip split splitlines
   startswith strip swapcase title translate upper zfill"

/-- The methods of sets. -/
def setNames : List Text := nameList
  "add clear copy difference difference_update discard intersection intersection_update
   isdisjoint issubset issuperset pop remove symmetric_difference symmetric_difference_update
   union update"

/-- The names of the methods that a value of a built-in type shows. -/
def publicNames : Value → List Text
  | text _ => textNames
  | bool _ | int _ => nameList "as_integer_ratio bit_count bit_length conjugate from_bytes to_bytes"
  | float _ => nameList "as_integer_ratio conjugate fromhex hex is_integer"
  | complex _ _ => nameList "conjugate"
  | bytes _ => bytesNames
  | list _ => nameList "append clear copy count extend index insert pop remove reverse sort"
  | tuple _ => nameList "count index"
  | set _ => setNames
  | view .keys _ | view .items _ => nameList "isdisjoint"
  | _ => []

/-- The parts of a number by name. -/
def numberPart? (v : Value) (name : Text) : Option Value :=
  match v with
  | float x =>
    if name = "real" then some (float x) else if name = "imag" then some (float 0) else none
  | complex re im =>
    if name = "real" then some (float re) else if name = "imag" then some (float im) else none
  | _ =>
    (integer? v).bind fun n =>
      if name = "real" ∨ name = "numerator" then some (int n)
      else if name = "imag" then some (int 0)
      else if name = "denominator" then some (int 1)
      else none

/-- What a public name denotes in a value that is no mapping. -/
def member? (v : Value) (name : Text) : Option Value :=
  match v with
  | object fields => (fields.find? (·.1 = name)).map (·.2)
  | _ =>
    match numberPart? v name with
    | some part => some part
    | none => if name ∈ publicNames v then some (method v name) else none

/-- A name that is bound nowhere. -/
def unknownName (name : Text) : Failure := .refused ("Unknown name '" ++ name ++ "' in expression")

/-- What a name denotes in a scope: an entry of a mapping, or a public member of another value
that is no function. -/
def named (scope : Value) (name : Text) : Except Failure Value :=
  match scope with
  | dict entries =>
    match lookupName? entries name with
    | some v => .ok v
    | none => .error (unknownName name)
  | _ =>
    if name.head? = some '_' then .error (unknownName name)
    else
      match member? scope name with
      | some (function _) => .error (.refused ("Access to method '" ++ name ++ "' is not permitted"))
      | some v => .ok v
      | none => .error (unknownName name)

end Phrasebook.Value
