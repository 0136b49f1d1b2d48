import Phrasebook.Fault
import Phrasebook.Number.Notation
import Phrasebook.Number.Reading
import Phrasebook.Text.Quoted
import Phrasebook.Value.Basic

/-!
# Values as text

* `Value.quoted`: the text of a value inside other values and in messages, where texts stand
  in quotes;
* `Value.written`: the text of a value in rendered output, where a text stands for itself.

Both fail for an integer with more digits than `digitLimit`.
-/

namespace Phrasebook

/-- An integer that is too long to be written. -/
def tooLongToWrite : Fault :=
  .badValue "Exceeds the limit (4300 digits) for integer string conversion; use sys.set_int_max_str_digits() to increase the limit"

/-- The decimal text of an integer, if it is not too long. -/
def integerText (n : Int) : Except Fault Text :=
  -- Below this size no integer has too many digits, and the length need not be counted.
  if n.natAbs.log2 < 14000 then .ok (Text.ofInt n)
  else
    let digits := Text.ofInt n
    if digitLimit < (Text.ofNat n.natAbs).length then .error tooLongToWrite else .ok digits

/-- The text of a complex number: its imaginary part alone when the real part is positive zero,
else both in parentheses. -/
def complexText (re im : Float) : Text :=
  if re == 0 && !Binary64.isNegative re then FloatText.part im ++ "j"
  else
    let sign : Text := if Binary64.isNegative im && !im.isNaN then [] else ['+']
    "(" ++ FloatText.part re ++ sign ++ FloatText.part im ++ "j)"

namespace Value

mutual

/-- The text of a value with texts in quotes. -/
def quoted : Value → Except Fault Text
  | null => .ok "None"
  | bool b => .ok (if b then "True" else "False")
  | int n => integerText n
  | float x => .ok (FloatText.plain x)
  | complex re im => .ok (complexText re im)
  | text t => .ok (Text.quoted t)
  | bytes b => .ok (Text.quotedBytes b)
  | list items => do return "[" ++ Text.join ", " (← quotedList items) ++ "]"
  | tuple items => do
    match ← quotedList items with
    | [t] => return "(" ++ t ++ ",)"
    | ts => return "(" ++ Text.join ", " ts ++ ")"
  | set items => do
    match (items.zip (← quotedList items)).mergeSort (fun a b => setOrder a.1 b.1) with
    | [] => return "set()"
    | members => return '\x7b' :: Text.join ", " (members.map (·.2)) ++ ['\x7d']
  | dict entries => do return '\x7b' :: Text.join ", " (← quotedEntries entries) ++ ['\x7d']
  | view kind entries => do
    let parts ← quotedView kind entries
    return kind.typeName ++ "([" ++ Text.join ", " parts ++ "])"
  | object fields => do return "namespace(" ++ Text.join ", " (← quotedFields fields) ++ ")"
  | function name => .ok ("<function " ++ name ++ ">")
  | method _ name => .ok ("<built-in method " ++ name ++ ">")
  | ellipsis => .ok "Ellipsis"
  | moment m => .ok m.quoted

/-- The quoted texts of a list of values. -/
def quotedList : List Value → Except Fault (List Text)
  | [] => .ok []
  | x :: xs => do
    let t ← quoted x
    return t :: (← quotedList xs)

/-- The entries of a mapping, each with a colon between key and value. -/
def quotedEntries : List (Value × Value) → Except Fault (List Text)
  | [] => .ok []
  | (k, v) :: es => do
    let key ← quoted k
    let value ← quoted v
    return (key ++ ": " ++ value) :: (← quotedEntries es)

/-- The elements of a view. -/
def quotedView (kind : ViewKind) : List (Value × Value) → Except Fault (List Text)
  | [] => .ok []
  | (k, v) :: es => do
    let part ← match kind with
      | .keys => quoted k
      | .values => quoted v
      | .items => do
        let key ← quoted k
        let value ← quoted v
        pure ("(" ++ key ++ ", " ++ value ++ ")")
    return part :: (← quotedView kind es)

/-- The attributes of an object, each with an equals sign. -/
def quotedFields : List (Text × Value) → Except Fault (List Text)
  | [] => .ok []
  | (name, v) :: fs => do
    let value ← quoted v
    return (name ++ "=" ++ value) :: (← quotedFields fs)

end

/-- The text of a value in rendered output. -/
def written : Value → Except Fault Text
  | text t => .ok t
  | moment m => .ok m.text
  | v => quoted v

end Value

end Phrasebook
