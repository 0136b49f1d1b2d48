import Phrasebook.Expression.Evaluation
import Phrasebook.Value.Written

/-!
# Expression engines

A template evaluates its expressions through an engine, which gives a value or reports an error.

* `Result`: a value or a reported error;
* `Engine`: any way of evaluating expressions;
* `Engine.sandboxed`: the standard engine over the expression language.
-/

namespace Phrasebook

/-- What an engine gives for an expression. -/
inductive Result where
  | value (v : Value)
  | error (message : Text)

namespace Result

/-- The truth of a result as a guard: errors, nothing, false and the integer zero are false;
every other value is true, even when it is empty. -/
def isTruthy : Result → Bool
  | value .null | value (.bool false) => false
  | value (.int n) => n ≠ 0
  | value _ => true
  | error _ => false

end Result

/-- A way of evaluating expressions: given the names of the templates that may be called, the
text of an expression and a scope. -/
abbrev Engine := (Text → Bool) → Text → Value → Dialogue Result

/-- The names of registered functions, each with the function of the host it stands for. -/
abbrev Registry := List (Text × Text)

namespace Registry

/-- May a function be registered under this name? -/
def isName (name : Text) : Bool := Text.isIdentifier name && !Context.isHidden name

/-- Registers a function under a name; a later function replaces an earlier one. -/
def register (r : Registry) (name : Text) (f : Value) : Except Fault Registry :=
  if !isName name then .error (.badValue ("Invalid function name '" ++ name ++ "'"))
  else
    match f with
    | .function id =>
      .ok (if r.any (·.1 = name) then r.map fun e => if e.1 = name then (name, id) else e
        else r ++ [(name, id)])
    | _ => .error ⟨.type, "Function '" ++ name ++ "' is not callable"⟩

end Registry

namespace Engine

/-- How a failure inside an expression ends the evaluation: most failures are reported. -/
def settle : Except Failure Value → Dialogue Result
  | .ok v => .done (.value v)
  | .error (.refused message) => .done (.error message)
  | .error (.fault f) => if f.kind.isDataFault then .done (.error f.report) else .fail (.fault f)
  | .error (.unwritable _) => .fail (.fault tooLongToWrite)
  | .error (.template e) => .fail (.template e)

/-- The standard engine: it reads the expression without the blanks around it and evaluates it
with registered functions of the host. The report about an expression that cannot be read ends with
the expression; why it cannot be read, which a parser may add in words of its own, is left out. -/
def sandboxed (lib : Library) (functions : Registry) : Engine := fun known source scope =>
  let source := Text.trim source
  if source = [] then .done (.error "Empty expression")
  else if source.contains '\x00' then
    .fail (.fault (.badValue "source code string cannot contain null bytes"))
  else
    match Expr.ofText? source with
    | none => .done (.error ("Invalid expression '" ++ source ++ "'"))
    | some e => do settle (← (e.eval ⟨scope, functions, lib, known⟩).attempt)

end Engine

end Phrasebook
