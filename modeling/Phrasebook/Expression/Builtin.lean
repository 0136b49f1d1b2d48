import Phrasebook.Expression.Syntax
import Phrasebook.Layout.Fields
import Phrasebook.Text.Decoding
import Phrasebook.Value.Method

/-!
# Built-in functions

The functions that every expression may call by name, unless a template or a registered function
has the same name.

* `Library`: what the functions of the host do, and which of its values are one thing;
* `Library.apply`: calls a function that is given as a value;
* `builtinNames`, `callBuiltin`: the built-in functions.
-/

namespace Phrasebook

/-- What is left to the host: its functions, and which values are one and the same thing. -/
structure Library where
  /-- What each function, known by its name, does with arguments. -/
  call : Text → Arguments → Except Failure Value
  /-- Are the values of two expressions in a scope one thing, where the values do not tell? -/
  sameThing : Value → Expr → Value → Expr → Value → Bool

instance : CoeFun Library fun _ => Text → Arguments → Except Failure Value := ⟨Library.call⟩

namespace Library

/-- A host without functions, for which two values that do not tell are two things. -/
def empty : Library := ⟨fun _ _ => .error .wrongType, fun _ _ _ _ _ => false⟩

/-- Calls a function or method that is given as a value. -/
def apply (lib : Library) (f : Value) (args : Arguments) : Except Failure Value :=
  match f with
  | .function name => lib name args
  | .method owner name => Fault.orFail (owner.callMethod name args)
  | _ => .error .wrongType

end Library

namespace Builtin

/-- The elements of a value; a value without elements is of the wrong type. -/
def elements (v : Value) : Except Failure (List Value) :=
  match v.items? with
  | some items => .ok items
  | none => .error .wrongType

/-- The texts of values in rendered output. -/
def writtenAll (items : List Value) : Except Fault (List Text) := items.mapM Value.written

/-- A mapping or another value that has a length. -/
def lengthOf (args : Arguments) : Except Fault Value := do
  match ← args.positional 1 1 with
  | [v] =>
    match v.length? with
    | some n => return .int n
    | none => throw .wrongType
  | _ => throw .wrongType

/-- A whole number: of a number or text, or of a text in a given base. -/
def integer (args : Arguments) : Except Fault Value := do
  if args.named.any (·.1 ≠ "base".toList) ∨ 2 < args.items.length + args.named.length then
    throw .wrongType
  else
    match args.items ++ args.named.map (·.2) with
    | [] => return .int 0
    | [v] => if args.named ≠ [] then throw .wrongType else return .int (← v.toInteger)
    | v :: base :: _ =>
      match base.integer? with
      | none => throw .wrongType
      | some base =>
        -- A base out of range is told before anything is said about the text.
        if base ≠ 0 ∧ (base < 2 ∨ 36 < base) then
          throw (Value.badInteger base [] .badBase)
        else
          match v with
          | .text t => return .int (← Value.readInteger base t)
          | .bytes b => return .int (← Value.readIntegerBytes base b)
          | _ => throw .wrongType

/-- The text that bytes stand for in a named encoding. -/
def decoded (v encoding : Value) : Except Fault Value := do
  match v, encoding with
  | .bytes b, .text name => return .text (← (← Encoding.named name).decode b)
  | _, _ => throw .wrongType

/-- The text of a value, or the text that bytes stand for in an encoding. -/
def textOf (args : Arguments) : Except Fault Value := do
  match ← args.bind ["object".toList, "encoding".toList, "errors".toList] with
  | [none, _, _] => return .text []
  | [some v, none, none] => return .text (← v.written)
  | [some v, encoding, _] => decoded v (encoding.getD (.text "utf-8"))
  | _ => throw .wrongType

/-- The sum of a start, which is no text, and elements one after the other. -/
def total (items : List Value) (start : Value) : Except Failure Value :=
  match start with
  | .text _ | .bytes _ => .error .wrongType
  | _ => items.foldlM (fun acc v => Fault.orFail (acc.add v)) start

/-- The sum of the elements of a value, from zero or another start. -/
def sum (args : Arguments) : Except Failure Value := do
  match args.items, args.named with
  | [items], [] => total (← elements items) (.int 0)
  | [items, start], [] => total (← elements items) start
  | [items], [(name, start)] =>
    if name = "start".toList then total (← elements items) start else throw .wrongType
  | _, _ => throw .wrongType

/-- The extreme element by a key: the first one that no later one surpasses. -/
def extreme (surpasses : Relation) (key : Value → Except Failure Value) :
    Option (Value × Value) → List Value → Except Failure (Option Value)
  | best, [] => .ok (best.map (·.1))
  | none, v :: rest => do extreme surpasses key (some (v, ← key v)) rest
  | some (best, bestKey), v :: rest => do
    let k ← key v
    match Value.relate? surpasses k bestKey with
    | none => throw .wrongType
    | some true => extreme surpasses key (some (v, k)) rest
    | some false => extreme surpasses key (some (best, bestKey)) rest

/-- What elements are compared by: a function that is given, or the elements themselves. -/
def keyOf (lib : Library) (f : Option Value) (v : Value) : Except Failure Value :=
  match f with
  | none | some .null => .ok v
  | some f => lib.apply f (.ofList [v])

/-- The least or greatest of the arguments, or of the elements of the only one. -/
def select (lib : Library) (name : Text) (surpasses : Relation) (args : Arguments) :
    Except Failure Value := do
  let given (n : String) : Option Value := (args.named.find? (·.1 = n.toList)).map (·.2)
  let key := keyOf lib (given "key")
  if args.named.any fun e => e.1 ≠ "key".toList ∧ e.1 ≠ "default".toList then throw .wrongType
  else
    match args.items with
    | [] => throw .wrongType
    | [items] =>
      match ← extreme surpasses key none (← elements items), given "default" with
      | some v, _ => return v
      | none, some v => return v
      | none, none => throw (.fault (.badValue (name ++ "() arg is an empty sequence")))
    | items =>
      if (given "default").isSome then throw .wrongType
      else
        match ← extreme surpasses key none items with
        | some v => return v
        | none => throw .wrongType

/-- The only argument of a function, by position or under its name. -/
def only (parameter : String) (args : Arguments) : Except Fault Value := do
  match ← args.bind [parameter.toList] with
  | [some v] => return v
  | _ => throw .wrongType

/-- The name of the type of a value where an attribute is missing. -/
def ownerName : Value → Text
  | .object _ => "types.SimpleNamespace"
  | v => v.typeName

/-- The texts of elements with a separator between neighbours. -/
def join (args : Arguments) : Except Failure Value := do
  match ← Fault.orFail (args.bind ["values".toList, "separator".toList]) with
  | [some items, separator] =>
    match separator.getD (.text ", ") with
    | .text sep =>
      return .text (Text.join sep (← Fault.orFail (writtenAll (← elements items))))
    | .bytes _ => if (← elements items).isEmpty then return .bytes [] else throw .wrongType
    | v =>
      throw (.fault ⟨.missingAttribute, "'" ++ ownerName v ++ "' object has no attribute 'join'"⟩)
  | _ => throw .wrongType

/-- The texts of the arguments one after the other. -/
def concat (args : Arguments) : Except Fault Value := do
  if args.named ≠ [] then throw .wrongType
  else return .text (← writtenAll args.items).flatten

/-- The text of a layout filled with values. -/
def fillTemplate (template : Value) (values : List Value) : Except Failure Value := do
  return .text (← Value.filled (← Fault.orFail template.written) values)

/-- A layout filled with the other arguments. -/
def format (args : Arguments) : Except Failure Value := do
  match args.items, args.named with
  | template :: values, [] => fillTemplate template values
  | [], [(name, template)] =>
    if name = "template".toList then fillTemplate template [] else throw .wrongType
  | _, _ => throw .wrongType

end Builtin

/-- The names of the built-in functions. -/
def builtinNames : List String :=
  ["len", "min", "max", "sum", "abs", "round", "int", "float", "str", "bool", "upper", "lower",
    "join", "concat", "format"]

/-- Is this the name of a built-in function? -/
def isBuiltin (name : Text) : Bool := builtinNames.any fun n => n.toList = name

/-- The result of a built-in function. Only functions that are given as arguments are looked up
in the library. -/
def callBuiltin (lib : Library) (name : Text) (args : Arguments) : Except Failure Value :=
  let plain (r : Except Fault Value) : Except Failure Value := Fault.orFail r
  match name.toStr with
  | "len" => plain (Builtin.lengthOf args)
  | "min" => Builtin.select lib name .lt args
  | "max" => Builtin.select lib name .gt args
  | "sum" => Builtin.sum args
  | "abs" => plain do
    match ← args.positional 1 1 with
    | [v] => v.absolute
    | _ => throw .wrongType
  | "round" => plain do
    match ← args.bind ["number".toList, "ndigits".toList] with
    | [some v, places] => v.roundedTo (places.getD .null)
    | _ => throw .wrongType
  | "int" => plain (Builtin.integer args)
  | "float" => plain do
    match ← args.positional 0 1 with
    | [v] => return .float (← v.toDouble)
    | _ => return .float 0
  | "str" => plain (Builtin.textOf args)
  | "bool" => plain do
    match ← args.positional 0 1 with
    | [v] => return .bool v.truth
    | _ => return .bool false
  | "upper" => plain do return .text (Text.toUpper (← (← Builtin.only "value" args).written))
  | "lower" => plain do return .text (Text.toLower (← (← Builtin.only "value" args).written))
  | "join" => Builtin.join args
  | "concat" => plain (Builtin.concat args)
  | "format" => Builtin.format args
  | _ => .error .wrongType

end Phrasebook
