import Phrasebook.Rendering.Session
import Phrasebook.Rendering.Span
import Phrasebook.Value.Written

/-!
# Evaluation of templates

A template is entered unless it is already being evaluated.  A normal body renders one of its
alternatives; a conditional body the alternatives of the first rule that has some and whose guard
is true.  An alternative is rendered piece by piece.

Every function takes the evaluation of templates, `again`, as an argument; the recursion is tied
in `evaluateWithin`, whose budget is the number of templates that are not being evaluated.

* `Evaluator.enter`: one step of the recursion;
* `Evaluator.evaluate`: the text of a template, or nothing when no rule applies.
-/

namespace Phrasebook.Evaluator

open Evaluation

/-- Evaluates a template by name in a scope. -/
abbrev Recursion := Text → Value → Evaluation (Option Text)

/-! ## Errors -/

/-- The error of a name that no template has; inside a template it tells where the name was used. -/
def notFound (ev : Evaluator) (name : Text) : Evaluation TemplateError := do
  let message : Text := "[" ++ name ++ "] not found"
  match (← get).stack with
  | [] => return .ofKind .notFound message ⟨none, none, none, some name⟩ none
  | target :: _ =>
    let path := (← ev.currentTemplate).source
    return .ofKind .notFound message ⟨some path, none, none, some name⟩
      (some ("Referenced from template '" ++ target.name ++ "'."))

/-- Fails unless a template has the name. -/
def require (ev : Evaluator) (name : Text) : Evaluation Unit := do
  if ev.catalog.has name then return
  else throw (.template (← ev.notFound name))

/-- The error of a template that is entered again. -/
def loopError (ev : Evaluator) (name : Text) : Evaluation TemplateError := do
  let chain := (← get).names ++ [name]
  let path := (← ev.templateNamed name).source
  return .cycle chain ⟨some path, none, none, some name⟩ none

/-- Fails because a template is entered again. The loop is kept in the session. -/
def failLoop (ev : Evaluator) (name : Text) : Evaluation Template := do
  let error ← ev.loopError name
  modify fun s => { s with loops := s.loops ++ [⟨s.names, name, error⟩] }
  throw (.template error)

/-- Where the innermost template is told to be. -/
def here (ev : Evaluator) : Evaluation Location := do
  let target ← currentTarget
  return ⟨some (← ev.currentTemplate).source, none, none, some target.name⟩

/-- The error of an expression in the innermost template: what was evaluated and what came out. -/
def expressionError (ev : Evaluator) (what source outcome : Text) : Evaluation TemplateError := do
  let loc ← ev.here
  return .ofKind (.expression source)
    ("Error occurs when evaluating " ++ what ++ " '" ++ source ++ "' in template '" ++
      loc.template.getD [] ++ "': " ++ outcome) loc none

/-! ## Expressions -/

/-- The text of a called template; nothing counts as the empty text. -/
def callTemplate (ev : Evaluator) (again : Recursion) (name : Text) (args : List Value) :
    Evaluation Text := do
  let scope ← ev.constructScope name args
  return (← again name scope).getD []

/-- What the engine gives for an expression in the current scope. -/
def evaluateSource (ev : Evaluator) (again : Recursion) (source : Text) : Evaluation Result := do
  let scope := (← currentTarget).scope
  modify fun s => { s with calls := s.calls ++ [(source, scope)] }
  carryOut (ev.callTemplate again) (ev.engine ev.catalog.has source scope)

/-- The text of an expression, which must have a value. -/
def renderExpression (ev : Evaluator) (again : Recursion) (source : Text) : Evaluation Text := do
  match ← ev.evaluateSource again source with
  | .error message => throw (.template (← ev.expressionError "expression" source message))
  | .value .null =>
    throw (.template (← ev.expressionError "expression" source (source ++ " is evaluated to null")))
  | .value v => Evaluation.ofExcept (Fault.orFail v.written)

/-! ## References -/

/-- The values of argument texts in order, up to the first that fails. -/
def evaluateArguments (ev : Evaluator) (again : Recursion) : List Text → Evaluation (List Value)
  | [] => return []
  | source :: rest => do
    match ← ev.evaluateSource again source with
    | .error message => throw (.template (← ev.expressionError "argument" (Text.trim source) message))
    | .value v => return v :: (← ev.evaluateArguments again rest)

/-- The text of the template that a reference names. -/
def renderReference (ev : Evaluator) (again : Recursion) (r : Reference) : Evaluation Text := do
  match r with
  | .plain name => return (← again name (← currentTarget).scope).getD []
  | .applied name arguments =>
    ev.require name
    let args ← ev.evaluateArguments again (Reference.argumentTexts arguments)
    ev.callTemplate again name args
  | .malformed text =>
    throw (.template (.ofKind .malformedReference ("Not a valid template ref: " ++ text) (← ev.here)
      (some "Template references look like [name] or [name(arg1, arg2)].")))

/-! ## Alternatives -/

/-- The text of the pieces of a block. -/
def renderBlock (ev : Evaluator) (again : Recursion) : List BlockPiece → Evaluation Text
  | [] => return []
  | .literal c :: rest => return c :: (← ev.renderBlock again rest)
  | .expression source :: rest => do
    let t ← ev.renderExpression again source
    return t ++ (← ev.renderBlock again rest)

/-- The text of a piece of an alternative. -/
def renderFragment (ev : Evaluator) (again : Recursion) (f : Fragment) : Evaluation Text :=
  match f.kind with
  | .expression => ev.renderExpression again (stripBraces f.text)
  | .reference => ev.renderReference again (Reference.ofSpan f.text)
  | .multiLine => ev.renderBlock again (blockPieces (blockInside f.text))
  | _ => pure (unescape f.text)

/-- The text of the pieces of an alternative, one after the other. -/
def renderFragments (ev : Evaluator) (again : Recursion) : List Fragment → Evaluation Text
  | [] => return []
  | f :: rest => do
    let t ← ev.renderFragment again f
    return t ++ (← ev.renderFragments again rest)

/-! ## Bodies -/

/-- The text of one of several alternatives; a choice is made only where there are two or more. -/
def renderAlternatives (ev : Evaluator) (again : Recursion) (alternatives : List Alternative) :
    Evaluation Text :=
  match alternatives with
  | [] => do
    let loc ← ev.here
    throw (.template ⟨.evaluation,
      "Template '" ++ loc.template.getD [] ++ "' has no alternatives to choose from", loc,
      some "EMPTY_BODY", none⟩)
  | [a] => ev.renderFragments again a.fragments
  | a :: _ => do
    let i ← ev.choose alternatives.length
    ev.renderFragments again (alternatives[i % alternatives.length]?.getD a).fragments

/-- Does a rule apply? A guard that fails does not. -/
def ruleApplies (ev : Evaluator) (again : Recursion) (r : Rule) : Evaluation Bool := do
  match r.condition with
  | none => return true
  | some condition =>
    let source := stripBraces condition
    let outcome ← attempt (ev.evaluateSource again source)
    let about := fun (name : Text) =>
      "Condition ".toList ++ Text.quoted source ++ " in template " ++ name ++ " evaluated as false"
    match outcome with
    | .error f =>
      record (about (← currentTarget).name ++ " due to exception: " ++ f.message)
      return false
    | .ok (.error message) =>
      record (about (← currentTarget).name ++ ": " ++ message)
      return false
    | .ok result => return result.isTruthy

/-- The text of the first rule that applies and has alternatives. -/
def renderRules (ev : Evaluator) (again : Recursion) : List Rule → Evaluation (Option Text)
  | [] => return none
  | r :: rest => do
    if ← ev.ruleApplies again r then
      match r.body with
      | some alternatives => return some (← ev.renderAlternatives again alternatives)
      | none => ev.renderRules again rest
    else ev.renderRules again rest

/-- The text of a body. -/
def renderBody (ev : Evaluator) (again : Recursion) (b : Body) : Evaluation (Option Text) :=
  match b with
  | .normal alternatives => return some (← ev.renderAlternatives again alternatives)
  | .conditional rules => ev.renderRules again rules

/-! ## Templates -/

/-- Fails when a template cannot be entered: no template has the name, or the template is already
being evaluated. -/
def check (ev : Evaluator) (name : Text) : Evaluation Template := do
  ev.require name
  if (← get).stack.any (·.name = name) then ev.failLoop name
  else ev.templateNamed name

/-- Enters a template and evaluates its body. -/
def enter (ev : Evaluator) (again : Recursion) : Recursion := fun name scope => do
  let template ← ev.check name
  record ("Evaluating template " ++ name ++ " (depth " ++ Text.ofNat (← get).stack.length ++ ")")
  within ⟨name, scope⟩ (ev.renderBody again template.body)

/-- Evaluates a template while at most `budget` templates can be entered. Where the budget is
spent every template is being evaluated, so none can be entered again. -/
def evaluateWithin (ev : Evaluator) : Nat → Recursion
  | 0 => fun name _ => do
    let _ ← ev.check name
    throw (.template (← ev.loopError name))
  | budget + 1 => ev.enter (ev.evaluateWithin budget)

/-- How many templates of the catalog are not being evaluated. -/
def budget (ev : Evaluator) (stack : List Target) : Nat :=
  (ev.catalog.names.filter fun name => !stack.any (·.name = name)).length

/-- The text of a template in a scope, or nothing when it is conditional and no rule applies. -/
def evaluate (ev : Evaluator) : Recursion := fun name scope => do
  ev.evaluateWithin (ev.budget (← get).stack) name scope

end Phrasebook.Evaluator
