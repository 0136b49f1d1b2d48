import Phrasebook.Proofs.Expression.Passing
import Phrasebook.Proofs.Rendering.Termination

/-!
# The evaluations that an evaluation comes to

While a template is rendered, others are evaluated, by references and by expressions.  Except for
what guards ask for, an error of the language that one of them fails with ends everything that is
going on around it, and comes out at the top as it was raised.

* `Visit`: one evaluation of a template;
* `Dialogue.Poses`: the questions that a dialogue comes to when it is carried out;
* `Evaluator.Reaches`: the evaluations that a computation comes to, those of guards left out;
* `Evaluator.Reaches.hands_on`: an error of one of them is the outcome;
* `Evaluator.Within`, `Evaluator.Within.hands_on`: the same at every depth;
* `Evaluator.Sourced`: computations whose errors are their own or come from what they reach.
-/

namespace Phrasebook

open Evaluation

/-- An evaluation of a template in a scope, with the session that it starts from. -/
structure Visit where
  name : Text
  scope : Value
  session : Session

/-- What comes out of a visit. -/
def Visit.outcome (v : Visit) (again : Evaluator.Recursion) : Except Failure (Option Text) :=
  (again v.name v.scope).outcome v.session

/-! ## The questions of a dialogue -/

namespace Dialogue

variable {α : Type} {call : Text → List Value → Evaluation Text}

/-- **Carried out from a session, the dialogue comes to a question**: it asks for a template with
arguments, in the session that the answers before have led to. -/
inductive Poses (call : Text → List Value → Evaluation Text) :
    Dialogue α → Session → Text → List Value → Session → Prop
  | now (template : Text) (args : List Value) (resume : Except Failure Text → Dialogue α)
      (s : Session) : Poses call (.ask template args resume) s template args s
  | later {template template' : Text} {args args' : List Value}
      {resume : Except Failure Text → Dialogue α} {s s' : Session}
      (h : Poses call (resume ((call template args).outcome s)) ((call template args).final s)
        template' args' s') :
      Poses call (.ask template args resume) s template' args' s'

theorem run_carryOut_ask (template : Text) (args : List Value)
    (resume : Except Failure Text → Dialogue α) (s : Session) :
    (carryOut call (.ask template args resume)).run s =
      (carryOut call (resume ((call template args).outcome s))).run
        ((call template args).final s) := by
  rw [carryOut, run_bind, outcome_attempt, final_attempt]

/-- A dialogue that hands on errors ends in the error of any question that it comes to. -/
theorem Poses.hands_on {d : Dialogue α} {s s' : Session} {template : Text} {args : List Value}
    {e : TemplateError} (h : d.Poses call s template args s') (hd : d.HandsOn)
    (herror : (call template args).outcome s' = .error (.template e)) :
    (carryOut call d).outcome s = .error (.template e) := by
  induction h with
  | now template args resume s =>
    rw [outcome, run_carryOut_ask, herror, hd.1 e]
    rfl
  | later _ ih =>
    rw [outcome, run_carryOut_ask]
    exact ih (hd.2 _) herror

/-- What a dialogue fails with is a failure of its own, or that of a question. -/
theorem Keeps.poses_of_error {may : Text → Prop} {gives : α → Prop} {raises : Failure → Prop}
    {stack : List Target} {d : Dialogue α} (hd : d.Keeps may gives raises)
    (hcall : ∀ template args s, s.stack = stack → ((call template args).final s).stack = stack)
    {s : Session} (hs : s.stack = stack) {f : Failure}
    (herror : (carryOut call d).outcome s = .error f) :
    raises f ∨ ∃ template args s', d.Poses call s template args s' ∧ s'.stack = stack ∧
      (call template args).outcome s' = .error f := by
  induction d generalizing raises s with
  | done a => cases herror
  | fail g =>
    cases herror
    exact .inl hd
  | ask template args resume ih =>
    rw [outcome, run_carryOut_ask] at herror
    rcases ih _ (hd.2 _) (hcall template args s hs) herror with (hf | hf) | hlater
    · exact .inl hf
    · exact .inr ⟨template, args, s, .now _ _ _ _, hs, hf⟩
    · obtain ⟨template', args', s', hposes, hs', hf⟩ := hlater
      exact .inr ⟨template', args', s', .later hposes, hs', hf⟩

theorem stack_carryOut {stack : List Target} (d : Dialogue α)
    (hcall : ∀ template args s, s.stack = stack → ((call template args).final s).stack = stack)
    {s : Session} (hs : s.stack = stack) : ((carryOut call d).final s).stack = stack := by
  induction d generalizing s with
  | done a => exact hs
  | fail g => exact hs
  | ask template args resume ih =>
    rw [final, run_carryOut_ask]
    exact ih _ (hcall template args s hs)

end Dialogue

namespace Evaluator

variable {ev : Evaluator} {again : Recursion}

/-! ## What a computation reaches -/

/-- **A computation comes to a visit**: carried out from the session, it evaluates the template of
the visit in its scope and from its session.  What is only attempted, as guards are, is left out. -/
inductive Reaches (ev : Evaluator) (again : Recursion) :
    {α : Type} → Evaluation α → Session → Visit → Prop
  | here (name : Text) (scope : Value) (s : Session) :
      Reaches ev again (again name scope) s ⟨name, scope, s⟩
  | first {α β : Type} {x : Evaluation α} {f : α → Evaluation β} {s : Session} {v : Visit}
      (h : Reaches ev again x s v) : Reaches ev again (x >>= f) s v
  | next {α β : Type} {x : Evaluation α} {f : α → Evaluation β} {s : Session} {a : α} {v : Visit}
      (hx : x.outcome s = .ok a) (h : Reaches ev again (f a) (x.final s) v) :
      Reaches ev again (x >>= f) s v
  | asked {source : Text} {s s' : Session} {target : Target} {below : List Target}
      {template : Text} {args : List Value} {v : Visit} (hs : s.stack = target :: below)
      (hposes : (ev.engine ev.catalog.has source target.scope).Poses (ev.callTemplate again)
        { s with calls := s.calls ++ [(source, target.scope)] } template args s')
      (h : Reaches ev again (ev.callTemplate again template args) s' v) :
      Reaches ev again (ev.evaluateSource again source) s v

/-- **An error of what is reached is the outcome**, as it is, if the engine hands on errors. -/
theorem Reaches.hands_on
    (hengine : ∀ source scope, (ev.engine ev.catalog.has source scope).HandsOn) {α : Type}
    {x : Evaluation α} {s : Session} {v : Visit} (h : ev.Reaches again x s v) {e : TemplateError}
    (herror : v.outcome again = .error (.template e)) : x.outcome s = .error (.template e) := by
  induction h with
  | here name scope s => exact herror
  | first _ ih => rw [outcome_bind_error (ih herror)]
  | next hx _ ih => rw [outcome_bind_ok hx, ih herror]
  | asked hs hposes _ ih =>
    rw [outcome, run_evaluateSource hs]
    exact hposes.hands_on (hengine _ _) (ih herror)

/-! ## Every depth -/

/-- **The second visit is made while the first one is going on**, at any depth, and not for a
guard. -/
inductive Within (ev : Evaluator) : Visit → Visit → Prop
  | self (v : Visit) : Within ev v v
  | through {u w v : Visit} {t : Template} (hfind : ev.catalog.find? u.name = some t)
      (hon : ¬ u.session.IsOn u.name)
      (h : ev.Reaches ev.evaluate (ev.renderBody ev.evaluate t.body)
        (bodySession u.session u.name u.scope) w)
      (h' : Within ev w v) : Within ev u v

theorem outcome_evaluate_eq_enter (v : Visit) :
    v.outcome ev.evaluate = v.outcome (ev.enter ev.evaluate) := by
  rw [Visit.outcome, outcome, run_evaluate_eq_enter]
  rfl

/-- A template that can be entered gives what its body gives. -/
theorem outcome_evaluate_free {v : Visit} {t : Template}
    (hfind : ev.catalog.find? v.name = some t) (hon : ¬ v.session.IsOn v.name) :
    v.outcome ev.evaluate =
      (ev.renderBody ev.evaluate t.body).outcome (bodySession v.session v.name v.scope) := by
  rw [outcome_evaluate_eq_enter]
  exact (ev.enter_free hfind hon ev.evaluate v.scope).1

/-- **An error at any depth is the outcome at the top**, as it is. -/
theorem Within.hands_on
    (hengine : ∀ source scope, (ev.engine ev.catalog.has source scope).HandsOn) {u v : Visit}
    (h : ev.Within u v) {e : TemplateError}
    (herror : v.outcome ev.evaluate = .error (.template e)) :
    u.outcome ev.evaluate = .error (.template e) := by
  induction h with
  | self v => exact herror
  | through hfind hon hreaches _ ih =>
    rw [outcome_evaluate_free hfind hon]
    exact hreaches.hands_on hengine (ih herror)

/-! ## Where errors come from -/

/-- **Errors have a source**: on a stack, which is left as it is, an error of the language that the
computation fails with is one of `own`, or that of a visit that it comes to on the same stack. -/
structure Sourced (ev : Evaluator) (again : Recursion) (stack : List Target)
    (own : TemplateError → Prop) {α : Type} (x : Evaluation α) : Prop where
  stays : ∀ s, s.stack = stack → (x.final s).stack = stack
  source : ∀ s, s.stack = stack → ∀ e, x.outcome s = .error (.template e) →
    own e ∨ ∃ v, ev.Reaches again x s v ∧ v.session.stack = stack ∧
      v.outcome again = .error (.template e)

namespace Sourced

variable {α β : Type} {stack : List Target} {own : TemplateError → Prop}

theorem pure (a : α) : Sourced ev again stack own (Pure.pure a : Evaluation α) where
  stays _ hs := hs
  source _ _ _ h := by cases h

theorem throwTemplate {e : TemplateError} (he : own e) :
    Sourced ev again stack own (throw (.template e) : Evaluation α) where
  stays _ hs := hs
  source _ _ _ h := by
    cases h
    exact .inl he

/-- A failure that is no error of the language has no source to be told. -/
theorem throw {f : Failure} (hf : ∀ e, f ≠ .template e) :
    Sourced ev again stack own (MonadExcept.throw f : Evaluation α) where
  stays _ hs := hs
  source _ _ e h := by
    cases h
    exact absurd rfl (hf e)

/-- One computation after another, where only results in `P` come out of the first. -/
theorem bind_of {x : Evaluation α} {f : α → Evaluation β} {P : α → Prop}
    (hx : Sourced ev again stack own x)
    (hP : ∀ s, s.stack = stack → ∀ a, x.outcome s = .ok a → P a)
    (hf : ∀ a, P a → Sourced ev again stack own (f a)) : Sourced ev again stack own (x >>= f) where
  stays s hs := by
    rw [final_bind]
    cases hout : x.outcome s with
    | ok a => exact (hf a (hP s hs a hout)).stays _ (hx.stays s hs)
    | error e => exact hx.stays s hs
  source s hs e herror := by
    cases hout : x.outcome s with
    | ok a =>
      rw [outcome_bind_ok hout] at herror
      refine ((hf a (hP s hs a hout)).source _ (hx.stays s hs) e herror).imp_right ?_
      rintro ⟨v, hreaches, hv⟩
      exact ⟨v, .next hout hreaches, hv⟩
    | error g =>
      rw [outcome_bind_error hout] at herror
      refine (hx.source s hs e (hout.trans (by cases herror; rfl))).imp_right ?_
      rintro ⟨v, hreaches, hv⟩
      exact ⟨v, .first hreaches, hv⟩

theorem bind {x : Evaluation α} {f : α → Evaluation β} (hx : Sourced ev again stack own x)
    (hf : ∀ a, Sourced ev again stack own (f a)) : Sourced ev again stack own (x >>= f) :=
  hx.bind_of (P := fun _ => True) (fun _ _ _ _ => trivial) fun a _ => hf a

theorem update {f : Session → Session} (hstack : ∀ s, (f s).stack = s.stack) :
    Sourced ev again stack own (modify f : Evaluation PUnit) where
  stays s hs := (hstack s).trans hs
  source _ _ _ h := by cases h

theorem attempt {x : Evaluation α} (hx : Sourced ev again stack own x) :
    Sourced ev again stack own (Evaluation.attempt x) where
  stays := hx.stays
  source _ _ _ h := by cases h

/-- What is read off the session, which is left as it is. -/
theorem read {x : Evaluation α} (hfinal : ∀ s, s.stack = stack → x.final s = s)
    (herror : ∀ s, s.stack = stack → ∀ e, x.outcome s = .error (.template e) → own e) :
    Sourced ev again stack own x where
  stays s hs := by rw [hfinal s hs, hs]
  source s hs e h := .inl (herror s hs e h)

theorem visit (hagain : ∀ name scope s, s.stack = stack → ((again name scope).final s).stack = stack)
    (name : Text) (scope : Value) : Sourced ev again stack own (again name scope) where
  stays := hagain name scope
  source s hs _ h := .inr ⟨⟨name, scope, s⟩, .here name scope s, hs, h⟩

end Sourced

end Evaluator

end Phrasebook
