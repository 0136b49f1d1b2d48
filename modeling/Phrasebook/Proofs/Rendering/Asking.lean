import Phrasebook.Proofs.Rendering.Frame

/-!
# Asking the engine

Guards, arguments and expressions are all put to the engine in the scope of the innermost template.
The engine may call templates for its answer, and these may call it again and fail at any depth.
However it answers, the call is kept in front of the calls that it leads to, and the stack is left
alone.

* `Evaluator.ask`: one expression put to the engine in a scope;
* `Evaluator.run_evaluateSource_eq_ask`: which scope that is;
* `Asked`: the calls of several expressions, asked one after the other;
* `Evaluator.ask_leaves`, `Evaluator.leaves_of_run`: what an answer leaves behind.
-/

namespace Phrasebook

/-- The calls `new` are those of `sources`, put to the engine one after the other in one scope, each
with the calls that its answer has led to behind it. -/
inductive Asked (scope : Value) : (sources : List Text) → (new : List (Text × Value)) → Prop
  | nil : Asked scope [] []
  | cons {source : Text} {sources : List Text} {new : List (Text × Value)}
      (nested : List (Text × Value)) (rest : Asked scope sources new) :
      Asked scope (source :: sources) ((source, scope) :: (nested ++ new))

namespace Evaluator

open Evaluation

variable (ev : Evaluator)

/-- Puts an expression to the engine in a scope. -/
def ask (scope : Value) (source : Text) : Evaluation Result := do
  modify fun s => { s with calls := s.calls ++ [(source, scope)] }
  carryOut (ev.callTemplate ev.evaluate) (ev.engine ev.catalog.has source scope)

/-- Expressions are put to the engine in the scope of the innermost template. -/
theorem run_evaluateSource_eq_ask {s : Session} {target : Target} {below : List Target}
    (hs : s.stack = target :: below) (source : Text) :
    (ev.evaluateSource ev.evaluate source).run s = (ev.ask target.scope source).run s :=
  run_evaluateSource hs source

/-- The calls and the stack of one evaluation, followed from a session on. -/
def onward (s : Session) : Link :=
  (alongside s s (fun _ => False) fun σ τ => σ = τ).on s.stack s.stack

/-- Whatever an engine asks for, its dialogue is followed. -/
theorem inStep_carryOut (s : Session) (d : Dialogue Result) :
    InStep (onward s) (carryOut (ev.callTemplate ev.evaluate) d)
      (carryOut (ev.callTemplate ev.evaluate) d) := by
  have hjoins : (alongside s s (fun _ => False) fun σ τ => σ = τ).Joins ev ev := by
    refine joins_alongside (fun _ => rfl) (fun _ _ => rfl) (fun _ _ => rfl)
      (fun _ _ _ hfalse => hfalse) ?_ ?_ ?_
    · rintro σ _ target rfl
      rfl
    · rintro σ _ rfl u hu
      exact ⟨u, hu, rfl⟩
    · intro t u l htu _
      right
      rw [Session.names, htu, Session.names]
  have hagain : ∀ name scope, InStep (onward s) (ev.evaluate name scope) (ev.evaluate name scope) :=
    fun name scope => hjoins.inStep (hjoins.bodies_of_find fun _ => rfl) _ s.stack s.stack rfl
      (Nat.lt_succ_self _) name scope (.inl rfl)
  exact .carryOut (.top d) (fun _ _ _ _ _ => trivial) fun name _ args =>
    (hjoins.tied rfl).callTemplate (.inr ⟨[], trivial⟩) (hagain name) args

/-- **What an answer leaves behind**: the stack as it was, and the call in front of the calls that
it has led to. -/
theorem ask_leaves (scope : Value) (source : Text) (s : Session) :
    ((ev.ask scope source).final s).stack = s.stack ∧
      ∃ nested, ((ev.ask scope source).final s).calls =
        s.calls ++ (source, scope) :: nested := by
  have hmark := outcome_modify (fun s => { s with calls := s.calls ++ [(source, scope)] }) s
  unfold ask
  rw [final_bind_ok hmark, final_modify]
  have hfollowed := (ev.inStep_carryOut { s with calls := s.calls ++ [(source, scope)] }
    (ev.engine ev.catalog.has source scope)).agrees _ _ ⟨rfl, rfl, .refl _ _, List.prefix_rfl⟩
  obtain ⟨hstack, -, hparallel, -⟩ := (hfollowed.resolve_left id).final
  obtain ⟨nested, hcalls, -⟩ := hparallel.calls
  refine ⟨hstack, nested, ?_⟩
  rw [hcalls, List.append_assoc, List.singleton_append]

/-- What one question leaves behind, from its run. -/
theorem leaves_of_run {ev : Evaluator} {scope : Value} {source : Text} {s s' : Session}
    {outcome : Except Failure Result} (hask : (ev.ask scope source).run s = (outcome, s')) :
    s'.stack = s.stack ∧ ∃ new, s'.calls = s.calls ++ new ∧ Asked scope [source] new := by
  obtain ⟨hstack, nested, hcalls⟩ := ev.ask_leaves scope source s
  rw [(run_eq_iff.1 hask).2] at hstack hcalls
  have hasked : Asked scope [source] ((source, scope) :: (nested ++ [])) := .cons nested .nil
  rw [List.append_nil] at hasked
  exact ⟨hstack, _, hcalls, hasked⟩

/-- What a question under the innermost template gives. -/
theorem run_source {ev : Evaluator} {s s' : Session} {target : Target} {below : List Target}
    (hs : s.stack = target :: below) {source : Text} {outcome : Except Failure Result}
    (hask : (ev.ask target.scope source).run s = (outcome, s')) :
    (ev.evaluateSource ev.evaluate source).outcome s = outcome ∧
      (ev.evaluateSource ev.evaluate source).final s = s' :=
  run_eq_iff.1 ((ev.run_evaluateSource_eq_ask hs source).trans hask)

end Evaluator

/-- Further expressions are asked after the first ones. -/
theorem Asked.append {scope : Value} {sources sources' : List Text}
    {new new' : List (Text × Value)} (h : Asked scope sources new)
    (h' : Asked scope sources' new') : Asked scope (sources ++ sources') (new ++ new') := by
  induction h with
  | nil => exact h'
  | cons nested _ ih =>
    rw [List.cons_append, List.cons_append, List.append_assoc]
    exact .cons nested ih

end Phrasebook
