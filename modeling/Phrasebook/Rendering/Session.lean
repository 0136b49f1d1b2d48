import Phrasebook.Document.Catalog
import Phrasebook.Engine
import Phrasebook.Logging

/-!
# Sessions

What an evaluation is carried out with, and what it leaves behind.  The stack holds the templates
that are being evaluated, innermost first, each with its scope; it is what loops are found by and
where the current scope comes from.

* `Evaluator`: the catalog, the expression engine and the random source;
* `Session`: the stack, and the choices, engine calls and log records so far, the stacks that
  entering a template has made, and the loops found;
* `Evaluation`: a computation in a session that may fail and leaves the session changed all the
  same;
* `Evaluation.within`: a computation inside a target, which is left again whatever happens.
-/

namespace Phrasebook

/-- A template being evaluated, with the scope that it was given. -/
structure Target where
  name : Text
  scope : Value

/-- A loop as it is found: the names on the stack, outermost first, the template that was asked
for, and the error that is raised. -/
structure Loop where
  names : List Text
  asked : Text
  error : TemplateError

/-- A source of random choices: the index taken at a turn among a number of alternatives. -/
abbrev RandomSource := Nat → Nat → Nat

/-- What evaluations are carried out with. -/
structure Evaluator where
  catalog : Catalog
  engine : Engine
  random : RandomSource

/-- The state of an evaluation. -/
structure Session where
  /-- The templates being evaluated, innermost first. -/
  stack : List Target
  /-- For each choice made so far, the number of alternatives. -/
  choices : List Nat
  /-- The expressions given to the engine so far, each with its scope. -/
  calls : List (Text × Value)
  log : List LogRecord
  /-- For each template entered so far, the stack with the template on it. -/
  frames : List (List Target)
  /-- The loops found so far, whether their errors were caught or not. -/
  loops : List Loop

namespace Session

/-- The session in which nothing has happened. -/
def fresh : Session := ⟨[], [], [], [], [], []⟩

/-- The session with a target entered by hand. -/
def push (s : Session) (target : Target) : Session := { s with stack := target :: s.stack }

/-- The session with a target entered by an evaluation. -/
def enter (s : Session) (target : Target) : Session :=
  { s.push target with frames := s.frames ++ [target :: s.stack] }

/-- The names on the stack, outermost first. -/
def names (s : Session) : List Text := (s.stack.map (·.name)).reverse

end Session

/-- A computation in a session. -/
abbrev Evaluation := ExceptT Failure (StateM Session)

namespace Evaluation

variable {α : Type}

/-- A result or a failure that is known already. -/
def ofExcept : Except Failure α → Evaluation α
  | .ok a => pure a
  | .error f => throw f

/-- The outcome of a computation as a result, so that the computation goes on after a failure. -/
def attempt (x : Evaluation α) : Evaluation (Except Failure α) :=
  ExceptT.mk do
    let outcome ← x.run
    return .ok outcome

/-- A computation inside a target: the target is entered before and left after it, also when it
fails. -/
def within (target : Target) (x : Evaluation α) : Evaluation α :=
  ExceptT.mk do
    modify fun (s : Session) => s.enter target
    let outcome ← x.run
    modify fun (s : Session) => { s with stack := s.stack.tail }
    return outcome

/-- Leaves a log record. -/
def record (message : Text) : Evaluation Unit :=
  modify fun s => { s with log := s.log ++ [⟨.debug, "lgen.evaluator", message⟩] }

/-- The innermost target; without one there is nothing to look at. -/
def currentTarget : Evaluation Target := do
  match (← get).stack with
  | target :: _ => return target
  | [] => throw (.fault ⟨.index, "list index out of range"⟩)

/-- Leaves the innermost target by hand. -/
def pop : Evaluation Target := do
  match (← get).stack with
  | target :: rest =>
    modify fun s => { s with stack := rest }
    return target
  | [] => throw (.fault ⟨.index, "pop from empty list"⟩)

/-- Carries out a dialogue; `call` gives the text of a template. -/
def carryOut (call : Text → List Value → Evaluation Text) : Dialogue α → Evaluation α
  | .done a => pure a
  | .fail f => throw f
  | .ask template args resume => do
    let answer ← attempt (call template args)
    carryOut call (resume answer)

end Evaluation

namespace Evaluator

/-- The template with a name. -/
def templateNamed (ev : Evaluator) (name : Text) : Evaluation Template :=
  match ev.catalog.find? name with
  | some t => pure t
  | none => throw (.fault ⟨.key, Text.quoted name⟩)

/-- The innermost template. -/
def currentTemplate (ev : Evaluator) : Evaluation Template := do
  ev.templateNamed (← Evaluation.currentTarget).name

/-- Takes one of a number of alternatives at random: its index. -/
def choose (ev : Evaluator) (count : Nat) : Evaluation Nat := do
  let s ← get
  set { s with choices := s.choices ++ [count] }
  return ev.random s.choices.length count

/-- The scope of a called template: the current one without arguments, the argument itself for a
template without parameters, and otherwise a mapping from parameters to arguments. -/
def constructScope (ev : Evaluator) (name : Text) (args : List Value) : Evaluation Value := do
  match args with
  | [] => return (← Evaluation.currentTarget).scope
  | _ =>
    let parameters := (← ev.templateNamed name).parameters
    match args, parameters with
    | [v], [] => return v
    | _, _ => return Value.ofNames (parameters.zip args)

end Evaluator

end Phrasebook
