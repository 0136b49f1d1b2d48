import Phrasebook.Dialogue
import Phrasebook.Expression.Builtin
import Phrasebook.Expression.Reader
import Phrasebook.Layout.Percent
import Phrasebook.Value.Member

/-!
# Evaluation of expressions

An expression is evaluated in a context: a scope for its names, the functions registered by the
host, and the names of the templates it may call.  A name in a call means a template first, then
a registered function, then a built-in one.

* `Expr.eval`: the value of an expression, as a dialogue that may ask for templates;
* `Expr.evalAll`, `Expr.evalAny`: operands up to the one that decides;
* `Expr.evalChain`: comparisons up to the first that does not hold.
-/

namespace Phrasebook

/-- What an expression is evaluated in. -/
structure Context where
  /-- Where names are looked up. -/
  scope : Value
  /-- The names of registered functions, each with the function of the host it stands for. -/
  functions : List (Text × Text)
  /-- What is left to the host. -/
  library : Library
  /-- Is this the name of a template that may be called? -/
  known : Text → Bool

/-- What is called. -/
inductive Callee where
  | template (name : Text)
  | host (name : Text)
  | builtin (name : Text)
  | method (owner : Value) (name : Text)

namespace Callee

/-- What a failed call is told as: kinds of failure that an expression knows pass through, any
other is told by its kind and message. -/
def failed : Failure → Failure
  | .fault f =>
    if f.kind.isDataFault then .fault f
    else .refused ("Call failed with " ++ f.kind.name ++ ": " ++ f.message)
  -- Telling a message that cannot be written is a fault of its own.
  | .unwritable kind => if kind.isDataFault then .unwritable kind else .fault tooLongToWrite
  | other => other

/-- The outcome of a call in a library. -/
def run (lib : Library) (callee : Callee) (args : Arguments) : Dialogue Value :=
  match callee with
  | template name =>
    if args.named = [] then .ask name args.items fun answer =>
      .ofExcept ((answer.map Value.text).mapError failed)
    else .fail .wrongType
  | host name => .ofExcept ((lib name args).mapError failed)
  | builtin name => .ofExcept ((callBuiltin lib name args).mapError failed)
  | method owner name => .ofFault (owner.callMethod name args)

end Callee

namespace Context

/-- The values of names that are bound in no scope. -/
def constant? (name : Text) : Option Value :=
  match name.toStr with
  | "True" | "true" => some (.bool true)
  | "False" | "false" => some (.bool false)
  | "None" | "null" => some .null
  | _ => none

/-- Does a name begin with two underscores? -/
def isHidden (name : Text) : Bool := Text.startsWith "__" name

/-- The value of a name: an entry of a mapping, a constant, or a member of another scope. -/
def lookup (ctx : Context) (name : Text) : Except Failure Value :=
  if isHidden name then .error (.refused ("Name '" ++ name ++ "' is not permitted"))
  else
    let entry := match ctx.scope with
      | .dict entries => Value.lookupName? entries name
      | _ => none
    match entry with
    | some v => .ok v
    | none =>
      match constant? name with
      | some v => .ok v
      | none => ctx.scope.named name

/-- What a name means in a call. -/
def callee (ctx : Context) (name : Text) : Except Failure Callee :=
  if isHidden name then .error (.refused ("Name '" ++ name ++ "' is not permitted"))
  else if ctx.known name then .ok (.template name)
  else
    match ctx.functions.find? (·.1 = name) with
    | some (_, f) => .ok (.host f)
    | none =>
      if isBuiltin name then .ok (.builtin name)
      else .error (.refused ("Unknown function '" ++ name ++ "'"))

/-- Does the host hold the values of two expressions for one thing? -/
def sameThing (ctx : Context) : Expr → Value → Expr → Value → Bool :=
  ctx.library.sameThing ctx.scope

end Context

namespace Value

/-- The value after a point: an entry of a mapping, or a public member of another value. -/
def dotted (owner : Value) (name : Text) : Except Failure Value :=
  if Context.isHidden name then .error (.refused ("Attribute '" ++ name ++ "' is not permitted"))
  else
    match owner with
    | dict entries =>
      match lookupName? entries name with
      | some v => .ok v
      | none => .error (.refused ("Unknown key '" ++ name ++ "'"))
    | _ => owner.named name

/-- The method of a value that a call means. -/
def calledMethod (owner : Value) (name : Text) : Except Failure Callee :=
  if owner.isAllowedMethod name then .ok (.method owner name)
  else .error (.refused ("Call to method '" ++ name ++ "' is not permitted"))

end Value

namespace UnaryOp

/-- The value of an operator in front of an operand. -/
def apply (op : UnaryOp) (v : Value) : Except Failure Value :=
  match op with
  | plus => Fault.orFail v.positive
  | minus => Fault.orFail v.negative
  | negation => .ok (.bool !v.truth)
  | complement => .error (.refused "Unsupported unary operator")

end UnaryOp

namespace BinaryOp

/-- The value of an operator between two operands. A remainder of a text fills it as a layout. -/
def apply (op : BinaryOp) (x y : Value) : Except Failure Value :=
  match op with
  | add => Fault.orFail (x.add y)
  | sub => Fault.orFail (x.sub y)
  | mul => Fault.orFail (x.mul y)
  | div => Fault.orFail (Value.arithmetic Number.div x y)
  | floorDiv => Fault.orFail (Value.arithmetic Number.floorDiv x y)
  | mod =>
    match x with
    | .text layout => Value.percent layout y
    | _ => Fault.orFail (Value.arithmetic Number.mod x y)
  | pow => Fault.orFail (Value.arithmetic Number.pow x y)
  | other => .error (.refused "Unsupported binary operator")

end BinaryOp

namespace CompareOp

/-- Does the comparison hold? `sameThing` tells whether both operands are one thing where their
values do not. -/
def holds (op : CompareOp) (sameThing : Bool) (x y : Value) : Except Failure Bool :=
  match op with
  | eq => .ok (x.eq y)
  | ne => .ok !x.eq y
  | relation r =>
    match Value.relate? r x y with
    | some b => .ok b
    | none => .error .wrongType
  | isIn => Fault.orFail (y.contains x)
  | notIn => Fault.orFail ((y.contains x).map (!·))
  | same => .ok ((x.oneThing? y).getD sameThing)
  | notSame => .ok (!(x.oneThing? y).getD sameThing)

end CompareOp

namespace Expr

/-- A form that is read but not evaluated. -/
def refuseForm (form : Text) : Dialogue Value :=
  .fail (.refused ("Unsupported expression element '" ++ form ++ "'"))

mutual

/-- The value of an expression. -/
def eval (ctx : Context) : Expr → Dialogue Value
  | constant v => .done v
  | name id => .ofExcept (ctx.lookup id)
  | all operands => evalAll ctx (.bool true) operands
  | any operands => evalAny ctx (.bool false) operands
  | unary op operand => do .ofExcept (op.apply (← eval ctx operand))
  | binary op left right => do
    let x ← eval ctx left
    let y ← eval ctx right
    .ofExcept (op.apply x y)
  | compare first rest => do
    let x ← eval ctx first
    return .bool (← evalChain ctx first x rest)
  | call callee args keywords => do
    let f ← evalCallee ctx callee
    let items ← evalItems ctx args
    let args ← evalKeywords ctx (.ofList items) keywords
    f.run ctx.library args
  | member owner field => do .ofExcept ((← eval ctx owner).dotted field)
  | subscript owner (slice lower upper step) => do
    let v ← eval ctx owner
    let lower ← eval ctx lower
    let upper ← eval ctx upper
    let step ← eval ctx step
    .ofFault (v.part lower upper step)
  | subscript owner index => do
    let v ← eval ctx owner
    let i ← eval ctx index
    .ofExcept (v.element i)
  | list items => do return .list (← evalItems ctx items)
  | tuple items => do return .tuple (← evalItems ctx items)
  | set items => do return .set (← evalMembers ctx [] items)
  | dict entries =>
    if entries.any fun e => e.1.isNone then .fail (.refused "Dict unpacking is not permitted")
    else do return .dict (← evalEntries ctx [] entries)
  | choice condition first second => do
    if (← eval ctx condition).truth then eval ctx first else eval ctx second
  | slice _ _ _ => refuseForm "Slice"
  | starred _ => refuseForm "Starred"
  | unsupported form => refuseForm form

/-- What the first part of a call means. -/
def evalCallee (ctx : Context) : Expr → Dialogue Callee
  | name id => .ofExcept (ctx.callee id)
  | member owner field => do .ofExcept ((← eval ctx owner).calledMethod field)
  | _ => .fail (.refused "Call to unsupported function")

/-- The first operand that is false, or the last one. -/
def evalAll (ctx : Context) (last : Value) : List Expr → Dialogue Value
  | [] => .done last
  | e :: rest => do
    let v ← eval ctx e
    if v.truth then evalAll ctx v rest else return v

/-- The first operand that is true, or the last one. -/
def evalAny (ctx : Context) (last : Value) : List Expr → Dialogue Value
  | [] => .done last
  | e :: rest => do
    let v ← eval ctx e
    if v.truth then return v else evalAny ctx v rest

/-- Do all comparisons of a chain hold? Operands after the first that does not are left alone. -/
def evalChain (ctx : Context) (previous : Expr) (x : Value) : List (CompareOp × Expr) → Dialogue Bool
  | [] => .done true
  | (op, e) :: rest => do
    let y ← eval ctx e
    if ← .ofExcept (op.holds (ctx.sameThing previous x e y) x y) then evalChain ctx e y rest
    else return false

/-- The values of expressions in order. -/
def evalItems (ctx : Context) : List Expr → Dialogue (List Value)
  | [] => .done []
  | e :: rest => do
    let v ← eval ctx e
    return v :: (← evalItems ctx rest)

/-- The arguments that are given by name, added to those before them. -/
def evalKeywords (ctx : Context) (args : Arguments) : List (Option Text × Expr) → Dialogue Arguments
  | [] => .done args
  | (none, _) :: _ => .fail (.refused "Argument unpacking is not permitted")
  | (some parameter, e) :: rest => do
    let v ← eval ctx e
    evalKeywords ctx (args.insert parameter v) rest

/-- The members of a set, added to those before them. -/
def evalMembers (ctx : Context) (members : List Value) : List Expr → Dialogue (List Value)
  | [] => .done members
  | e :: rest => do
    let v ← eval ctx e
    if v.isHashable then evalMembers ctx (Value.insertMember members v) rest else .fail .wrongType

/-- The entries of a mapping, added to those before them. -/
def evalEntries (ctx : Context) (entries : List (Value × Value)) :
    List (Option Expr × Expr) → Dialogue (List (Value × Value))
  | [] => .done entries
  | (none, _) :: _ => .fail (.refused "Dict unpacking is not permitted")
  | (some k, e) :: rest => do
    let key ← eval ctx k
    let v ← eval ctx e
    if key.isHashable then evalEntries ctx (Value.insertEntry entries key v) rest
    else .fail .wrongType

end

end Expr

end Phrasebook
