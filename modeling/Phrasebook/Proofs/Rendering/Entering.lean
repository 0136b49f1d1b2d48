import Phrasebook.Proofs.Rendering.Lockstep

/-!
# Entering a template

What one step of the recursion does before the body is rendered.  A name that no template has is
refused; a template that is on the stack is a loop; any other template is put on the stack, which
uses up one of the templates that can still be entered.

* `Evaluator.check_unknown`, `Evaluator.check_loop`, `Evaluator.check_free`: the three cases of a
  check;
* `Evaluator.enter_refused`, `Evaluator.enter_free`: one step of the recursion;
* `Evaluator.budget_cons_lt`: entering a template leaves fewer that can be entered.
-/

namespace Phrasebook

/-- Is a template of this name being evaluated? -/
def Session.IsOn (s : Session) (name : Text) : Prop := ∃ target ∈ s.stack, target.name = name

theorem Session.any_stack_iff (s : Session) (name : Text) :
    s.stack.any (·.name = name) = true ↔ s.IsOn name := by
  simp [Session.IsOn]

theorem Session.isOn_iff (s : Session) (name : Text) : s.IsOn name ↔ name ∈ s.names := by
  simp [IsOn, names]

namespace Evaluator

open Evaluation

variable (ev : Evaluator)

/-! ## The check -/

/-- The error of a loop as the stack and the template asked for determine it. -/
def loopErrorOf (s : Session) (name : Text) (t : Template) : TemplateError :=
  .cycle (s.names ++ [name]) ⟨some t.source, none, none, some name⟩ none

theorem has_of_find? {ev : Evaluator} {name : Text} {t : Template}
    (h : ev.catalog.find? name = some t) : ev.catalog.has name = true := by
  rw [Catalog.has_eq_isSome_find?, h, Option.isSome_some]

theorem templateNamed_of_find? {ev : Evaluator} {name : Text} {t : Template}
    (h : ev.catalog.find? name = some t) : ev.templateNamed name = pure t := by
  rw [templateNamed, h]

/-- A name that no template has is told of, unless the innermost template is missing itself. -/
theorem notFound_cases (name : Text) (s : Session) :
    (ev.notFound name).final s = s ∧
      ((∃ e, (ev.notFound name).outcome s = .ok e ∧ e.kind = .notFound) ∨
        s.stack ≠ [] ∧ ∃ f, (ev.notFound name).outcome s = .error f ∧ ev.innermost s = .error f) := by
  unfold notFound
  rw [final_bind_ok (outcome_get s), outcome_bind_ok (outcome_get s), final_get]
  cases s.stack with
  | nil => exact ⟨rfl, .inl ⟨_, rfl, rfl⟩⟩
  | cons target below =>
    obtain ⟨hout, hfinal⟩ := ev.currentTemplate_eq s
    dsimp only
    cases hinner : ev.innermost s with
    | error f =>
      rw [hinner] at hout
      rw [final_bind_error hout, outcome_bind_error hout]
      exact ⟨hfinal, .inr ⟨List.cons_ne_nil _ _, f, rfl, rfl⟩⟩
    | ok t =>
      rw [hinner] at hout
      rw [final_bind_ok hout, outcome_bind_ok hout, hfinal]
      exact ⟨rfl, .inl ⟨_, rfl, rfl⟩⟩

theorem require_unknown {name : Text} (h : ev.catalog.find? name = none) (s : Session) :
    (ev.require name).final s = s ∧ ∃ f, (ev.require name).outcome s = .error f ∧
      ev.EndsIn (fun _ _ => False) s f ∧ (s.stack = [] → ∃ e, f = .template e) := by
  unfold require
  rw [Catalog.has_eq_isSome_find?, h, if_neg (by simp)]
  obtain ⟨hfinal, ⟨e, hout, hkind⟩ | ⟨hne, f, hout, hinner⟩⟩ := ev.notFound_cases name s
  · rw [final_bind_ok hout, outcome_bind_ok hout, hfinal]
    exact ⟨rfl, _, rfl, .told (by rw [hkind]; rintro chain hc; cases hc), fun _ => ⟨e, rfl⟩⟩
  · rw [final_bind_error hout, outcome_bind_error hout]
    exact ⟨hfinal, f, rfl, endsIn_of_innermost _ hinner, fun hs => absurd hs hne⟩

theorem require_known {name : Text} {t : Template} (h : ev.catalog.find? name = some t) :
    ev.require name = pure ⟨⟩ := by
  unfold require
  rw [Catalog.has_eq_isSome_find?, h, Option.isSome_some, if_pos rfl]

/-- A name that no template has is refused. -/
theorem check_refuses {name : Text} (h : ev.catalog.find? name = none) (s : Session) :
    (ev.check name).final s = s ∧ ∃ f, (ev.check name).outcome s = .error f ∧
      ev.EndsIn (fun _ _ => False) s f ∧ (s.stack = [] → ∃ e, f = .template e) := by
  obtain ⟨hfinal, f, hout, hf⟩ := ev.require_unknown h s
  unfold check
  rw [final_bind_error hout, outcome_bind_error hout]
  exact ⟨hfinal, f, rfl, hf⟩

theorem check_unknown {name : Text} (h : ev.catalog.find? name = none) (s : Session) :
    (ev.check name).final s = s ∧ ∃ f, (ev.check name).outcome s = .error f ∧ ¬ f.IsLoop := by
  obtain ⟨hfinal, f, hout, hf, -⟩ := ev.check_refuses h s
  exact ⟨hfinal, f, hout, hf.not_isLoop⟩

theorem check_known {name : Text} {t : Template} (h : ev.catalog.find? name = some t) :
    ev.check name =
      get >>= fun s => if s.stack.any (·.name = name) then ev.failLoop name else pure t := by
  unfold check
  rw [ev.require_known h, pure_bind, templateNamed_of_find? h]

/-- A template that is on the stack is refused, and the loop is kept. -/
theorem check_loop {name : Text} {t : Template} {s : Session}
    (h : ev.catalog.find? name = some t) (hon : s.IsOn name) :
    (ev.check name).outcome s = .error (.template (loopErrorOf s name t)) ∧
      (ev.check name).final s =
        { s with loops := s.loops ++ [⟨s.names, name, loopErrorOf s name t⟩] } := by
  have herror : ev.loopError name = get >>= fun s => pure (loopErrorOf s name t) := by
    unfold loopError
    rw [templateNamed_of_find? h]
    rfl
  rw [ev.check_known h, final_bind_ok (outcome_get s), outcome_bind_ok (outcome_get s), final_get,
    if_pos ((s.any_stack_iff name).2 hon), failLoop, herror]
  exact ⟨rfl, rfl⟩

/-- Any other template can be entered. -/
theorem check_free {name : Text} {t : Template} {s : Session}
    (h : ev.catalog.find? name = some t) (hon : ¬ s.IsOn name) :
    (ev.check name).outcome s = .ok t ∧ (ev.check name).final s = s := by
  have hstack : ¬ s.stack.any (·.name = name) = true := fun hs => hon ((s.any_stack_iff name).1 hs)
  rw [ev.check_known h, final_bind_ok (outcome_get s), outcome_bind_ok (outcome_get s), final_get,
    if_neg hstack]
  exact ⟨rfl, rfl⟩

/-! ## One step of the recursion -/

/-- The session in which the body of a template is rendered. -/
def bodySession (s : Session) (name : Text) (scope : Value) : Session :=
  let message : Text :=
    "Evaluating template " ++ name ++ " (depth " ++ Text.ofNat s.stack.length ++ ")"
  Session.enter { s with log := s.log ++ [⟨.debug, "lgen.evaluator", message⟩] } ⟨name, scope⟩

@[simp] theorem bodySession_stack (s : Session) (name : Text) (scope : Value) :
    (bodySession s name scope).stack = ⟨name, scope⟩ :: s.stack := rfl

@[simp] theorem bodySession_frames (s : Session) (name : Text) (scope : Value) :
    (bodySession s name scope).frames = s.frames ++ [⟨name, scope⟩ :: s.stack] := rfl

theorem enter_refused {name : Text} {s : Session} {f : Failure}
    (h : (ev.check name).outcome s = .error f) (again : Recursion) (scope : Value) :
    (ev.enter again name scope).outcome s = .error f ∧
      (ev.enter again name scope).final s = (ev.check name).final s := by
  unfold enter
  rw [final_bind_error h, outcome_bind_error h]
  exact ⟨rfl, rfl⟩

theorem enter_free {name : Text} {t : Template} {s : Session}
    (h : ev.catalog.find? name = some t) (hon : ¬ s.IsOn name) (again : Recursion)
    (scope : Value) :
    (ev.enter again name scope).outcome s =
        (ev.renderBody again t.body).outcome (bodySession s name scope) ∧
      (ev.enter again name scope).final s =
        { (ev.renderBody again t.body).final (bodySession s name scope) with
          stack := ((ev.renderBody again t.body).final (bodySession s name scope)).stack.tail } := by
  obtain ⟨hout, hfinal⟩ := ev.check_free h hon
  unfold enter
  rw [final_bind_ok hout, outcome_bind_ok hout, hfinal]
  exact ⟨rfl, rfl⟩

/-! ## The templates that can still be entered -/

theorem budget_le (stack : List Target) : ev.budget stack ≤ ev.catalog.templates.length := by
  rw [budget]
  calc _ ≤ ev.catalog.names.length := List.length_filter_le ..
    _ = ev.catalog.templates.length := List.length_map ..

/-- Entering a template leaves fewer that can be entered. -/
theorem budget_cons_lt {target : Target} {stack : List Target}
    (hhas : ev.catalog.has target.name = true) (hfree : ∀ u ∈ stack, u.name ≠ target.name) :
    ev.budget (target :: stack) < ev.budget stack := by
  have hsplit : (ev.catalog.names.filter fun name => !(target :: stack).any (·.name = name)) =
      (ev.catalog.names.filter fun name => !stack.any (·.name = name)).filter
        fun name => !decide (target.name = name) := by
    rw [List.filter_filter]
    refine List.filter_congr fun name _ => ?_
    rw [List.any_cons, Bool.not_or]
  rw [budget, budget, hsplit, List.length_filter_lt_length_iff_exists]
  refine ⟨target.name, List.mem_filter.2 ⟨(ev.catalog.has_iff _).1 hhas, ?_⟩, by simp⟩
  simpa using hfree

theorem budget_body_lt {name : Text} {t : Template} {s : Session}
    (h : ev.catalog.find? name = some t) (hon : ¬ s.IsOn name) (scope : Value) :
    ev.budget (⟨name, scope⟩ :: s.stack) < ev.budget s.stack :=
  ev.budget_cons_lt (has_of_find? h) fun u hu hname => hon ⟨u, hu, hname⟩

end Evaluator

end Phrasebook
