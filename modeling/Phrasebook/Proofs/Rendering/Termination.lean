import Mathlib.Logic.Function.Iterate
import Phrasebook.Proofs.Rendering.Entering

/-!
# Evaluations end and leave the stack alone

Templates may refer to each other in cycles, and nothing in the recursion of an evaluation gets
smaller but the number of templates that are not on the stack.  Unfolding the recursion once more
often than there are such templates therefore reaches every call there is: what the recursion is
started from at the bottom makes no difference.  Whatever happens on the way, also an error that a
guard swallows, each template that is entered is left again.

* `Evaluator.Clean`: what an evaluation leaves behind, and which stacks it makes;
* `Evaluator.alike_enter`: two recursions that are alike for a number of free templates are alike
  for one more after a step;
* `Evaluator.evaluate_ends`: an evaluation ends, leaves the stack alone and enters every template
  once at most.
-/

namespace Phrasebook.Evaluator

open Evaluation

variable {ev : Evaluator}

/-! ## What an evaluation leaves behind -/

/-- The stack `frame` has just been made by entering a template, somewhere above `base`: the
template is one of the catalog and was not on the stack, and the height has grown by no more than
the number of templates that could be entered. -/
structure Grown (ev : Evaluator) (base frame : List Target) : Prop where
  entered : ∃ target below, frame = target :: below ∧ base <:+ below ∧
    ev.catalog.has target.name = true ∧ ∀ u ∈ below, u.name ≠ target.name
  height : frame.length + ev.budget frame ≤ base.length + ev.budget base

theorem Grown.single {base : List Target} {target : Target}
    (hhas : ev.catalog.has target.name = true) (hfree : ∀ u ∈ base, u.name ≠ target.name) :
    ev.Grown base (target :: base) where
  entered := ⟨target, base, rfl, List.suffix_rfl, hhas, hfree⟩
  height := by
    have := ev.budget_cons_lt hhas hfree
    rw [List.length_cons]
    omega

theorem Grown.trans {base middle frame : List Target} (h : ev.Grown base middle)
    (h' : ev.Grown middle frame) : ev.Grown base frame where
  entered := by
    obtain ⟨target, below, hframe, hsuffix, hhas, hfree⟩ := h'.entered
    obtain ⟨target', below', rfl, hbase, -⟩ := h.entered
    exact ⟨target, below, hframe, (hbase.trans (List.suffix_cons _ _)).trans hsuffix, hhas, hfree⟩
  height := Nat.le_trans h'.height h.height

/-- **What an evaluation leaves behind**: the stack as it was, stacks that each came from entering a
template that was not on the stack, and the loops found before. -/
structure Clean (ev : Evaluator) (s s' : Session) : Prop where
  stack : s'.stack = s.stack
  frames : ∃ new, s'.frames = s.frames ++ new ∧ ∀ frame ∈ new, ev.Grown s.stack frame
  loops : s.loops <+: s'.loops

theorem Clean.of_eq {s s' : Session} (hstack : s'.stack = s.stack)
    (hframes : s'.frames = s.frames) (hloops : s.loops <+: s'.loops) : ev.Clean s s' where
  stack := hstack
  frames := ⟨[], by rw [hframes, List.append_nil], by simp⟩
  loops := hloops

theorem Clean.refl (s : Session) : ev.Clean s s := .of_eq rfl rfl List.prefix_rfl

theorem Clean.trans {s s' s'' : Session} (h : ev.Clean s s') (h' : ev.Clean s' s'') :
    ev.Clean s s'' where
  stack := h'.stack.trans h.stack
  frames := by
    obtain ⟨new, hnew, hgrown⟩ := h.frames
    obtain ⟨new', hnew', hgrown'⟩ := h'.frames
    refine ⟨new ++ new', by rw [hnew', hnew, List.append_assoc], ?_⟩
    intro frame hframe
    rcases List.mem_append.1 hframe with hframe | hframe
    · exact hgrown frame hframe
    · exact h.stack ▸ hgrown' frame hframe
  loops := h.loops.trans h'.loops

/-! ## Recursions that are alike -/

/-- Two recursions give the same, and leave a clean session, where at most `k` templates can be
entered. -/
def Alike (ev : Evaluator) (k : Nat) (again again' : Recursion) : Prop :=
  ∀ s, ev.budget s.stack ≤ k → ∀ name scope,
    (again name scope).run s = (again' name scope).run s ∧ ev.Clean s ((again name scope).final s)

/-- A run that leaves a clean session behind, however it ends. -/
def cleanRun (ev : Evaluator) (s : Session) : Link := single (ev.Clean s) fun _ _ => True

theorem tied_cleanRun {may : Text → Text → Prop} (s : Session) : Tied (ev.cleanRun s) may ev ev :=
  tied_single ev
    (fun _ _ h ht => ht.trans (.of_eq h.stack h.frames (h.loops ▸ List.prefix_rfl)))
    (fun _ _ _ _ _ => trivial) fun _ _ _ _ => trivial

/-- A body is rendered alike by recursions that are alike. -/
theorem Alike.renderBody {k : Nat} {again again' : Recursion} (h : ev.Alike k again again')
    (b : Body) {s : Session} (hs : ev.budget s.stack ≤ k) :
    (ev.renderBody again b).run s = (ev.renderBody again' b).run s ∧
      ev.Clean s ((ev.renderBody again b).final s) := by
  have hagain : ∀ name scope, InStep (ev.cleanRun s) (again name scope) (again' name scope) := by
    intro name scope
    refine ⟨fun _ h => h, ?_⟩
    rintro t _ ⟨rfl, ht⟩
    obtain ⟨hrun, hclean⟩ := h t (by rw [ht.stack]; exact hs) name scope
    rw [run_eq, run_eq, Prod.mk.injEq] at hrun
    exact .inr ⟨hrun.1, ⟨hrun.2, ht.trans hclean⟩, fun _ _ => trivial, fun _ _ => trivial⟩
  have hbody : InStep (ev.cleanRun s) (ev.renderBody again b) (ev.renderBody again' b) :=
    (tied_cleanRun s).renderBody (fun _ _ => .top _) (fun _ _ _ _ _ => trivial)
      fun name _ scope => hagain name scope
  have hagree := agreement_of_single hbody (.refl s)
  exact ⟨Prod.ext hagree.outcome hagree.final.1, hagree.final.2⟩

theorem Clean.of_body {s s' : Session} {name : Text} {scope : Value}
    (hhas : ev.catalog.has name = true) (hon : ¬ s.IsOn name)
    (h : ev.Clean (bodySession s name scope) s') :
    ev.Clean s { s' with stack := s'.stack.tail } where
  stack := by
    show s'.stack.tail = s.stack
    rw [h.stack, bodySession_stack, List.tail_cons]
  frames := by
    have hfirst : ev.Grown s.stack (⟨name, scope⟩ :: s.stack) :=
      .single hhas fun u hu hname => hon ⟨u, hu, hname⟩
    obtain ⟨new, hnew, hgrown⟩ := h.frames
    refine ⟨(⟨name, scope⟩ :: s.stack) :: new, ?_, ?_⟩
    · show s'.frames = _
      rw [hnew, bodySession_frames, List.append_assoc, List.singleton_append]
    · intro frame hframe
      rcases List.mem_cons.1 hframe with rfl | hframe
      · exact hfirst
      · exact hfirst.trans (hgrown frame hframe)
  loops := h.loops

/-- One step of the recursion, given that its body is rendered alike wherever a template can be
entered. -/
theorem enter_step {again again' : Recursion} {s : Session} (name : Text) (scope : Value)
    (hbody : ∀ t, ev.catalog.find? name = some t → ¬ s.IsOn name →
      (ev.renderBody again t.body).run (bodySession s name scope) =
          (ev.renderBody again' t.body).run (bodySession s name scope) ∧
        ev.Clean (bodySession s name scope)
          ((ev.renderBody again t.body).final (bodySession s name scope))) :
    (ev.enter again name scope).run s = (ev.enter again' name scope).run s ∧
      ev.Clean s ((ev.enter again name scope).final s) := by
  rw [run_eq, run_eq]
  cases hfind : ev.catalog.find? name with
  | none =>
    obtain ⟨hfinal, f, hout, -⟩ := ev.check_unknown hfind s
    obtain ⟨hout₁, hfinal₁⟩ := ev.enter_refused hout again scope
    obtain ⟨hout₂, hfinal₂⟩ := ev.enter_refused hout again' scope
    rw [hout₁, hout₂, hfinal₁, hfinal₂, hfinal]
    exact ⟨rfl, .refl s⟩
  | some t =>
    by_cases hon : s.IsOn name
    · obtain ⟨hout, hfinal⟩ := ev.check_loop hfind hon
      obtain ⟨hout₁, hfinal₁⟩ := ev.enter_refused hout again scope
      obtain ⟨hout₂, hfinal₂⟩ := ev.enter_refused hout again' scope
      rw [hout₁, hout₂, hfinal₁, hfinal₂, hfinal]
      exact ⟨rfl, .of_eq rfl rfl (List.prefix_append _ _)⟩
    · obtain ⟨hrun, hclean⟩ := hbody t hfind hon
      obtain ⟨hout₁, hfinal₁⟩ := ev.enter_free hfind hon again scope
      obtain ⟨hout₂, hfinal₂⟩ := ev.enter_free hfind hon again' scope
      rw [run_eq, run_eq, Prod.mk.injEq] at hrun
      rw [hout₁, hout₂, hfinal₁, hfinal₂, ← hrun.1, ← hrun.2]
      exact ⟨rfl, .of_body (has_of_find? hfind) hon hclean⟩

/-- Where no template can be entered, all recursions are alike after a step. -/
theorem alike_enter_zero (again again' : Recursion) :
    ev.Alike 0 (ev.enter again) (ev.enter again') := by
  intro s hs name scope
  refine enter_step name scope fun t hfind hon => ?_
  have := ev.budget_body_lt hfind hon scope
  omega

/-- **Recursions that are alike for some number of free templates are alike for one more after a
step**: the step puts a template on the stack. -/
theorem alike_enter {k : Nat} {again again' : Recursion} (h : ev.Alike k again again') :
    ev.Alike (k + 1) (ev.enter again) (ev.enter again') := by
  intro s hs name scope
  refine enter_step name scope fun t hfind hon => h.renderBody t.body ?_
  have := ev.budget_body_lt hfind hon scope
  rw [bodySession_stack]
  omega

/-! ## Unfolding the recursion -/

/-- With the budget spent, a step finds no template that it could enter. -/
theorem alike_evaluateWithin_zero (again : Recursion) :
    ev.Alike 0 (ev.evaluateWithin 0) (ev.enter again) := by
  intro s hs name scope
  have hrefused : ∃ f, (ev.check name).outcome s = .error f := by
    cases hfind : ev.catalog.find? name with
    | none =>
      obtain ⟨-, f, hout, -⟩ := ev.check_unknown hfind s
      exact ⟨f, hout⟩
    | some t =>
      by_cases hon : s.IsOn name
      · exact ⟨_, (ev.check_loop hfind hon).1⟩
      · have := ev.budget_body_lt hfind hon scope
        omega
  obtain ⟨f, hout⟩ := hrefused
  obtain ⟨hout', hfinal'⟩ := ev.enter_refused hout again scope
  have hrun : (ev.evaluateWithin 0 name scope).run s = (ev.enter again name scope).run s := by
    rw [run_eq, run_eq, hout', hfinal', evaluateWithin, outcome_bind_error hout,
      final_bind_error hout]
  refine ⟨hrun, ?_⟩
  rw [final, hrun]
  exact (alike_enter_zero again again s hs name scope).2

/-- The budget cuts no evaluation short. -/
theorem alike_evaluateWithin (bottom : Recursion) (k : Nat) :
    ∀ n, k < n → ev.Alike k (ev.evaluateWithin k) (ev.enter^[n] bottom) := by
  induction k with
  | zero =>
    intro n hn
    obtain ⟨m, rfl⟩ : ∃ m, n = m + 1 := ⟨n - 1, by omega⟩
    rw [Function.iterate_succ_apply']
    exact alike_evaluateWithin_zero _
  | succ k ih =>
    intro n hn
    obtain ⟨m, rfl⟩ : ∃ m, n = m + 1 := ⟨n - 1, by omega⟩
    rw [Function.iterate_succ_apply']
    exact alike_enter (ih m (by omega))

theorem run_evaluate (name : Text) (scope : Value) (s : Session) :
    (ev.evaluate name scope).run s = (ev.evaluateWithin (ev.budget s.stack) name scope).run s := by
  unfold evaluate
  rw [run_eq, outcome_bind_ok (outcome_get s), final_bind_ok (outcome_get s)]
  rfl

/-- An evaluation is the recursion unfolded more often than templates can be entered. -/
theorem run_evaluate_eq_iterate (bottom : Recursion) (name : Text) (scope : Value) (s : Session)
    {n : Nat} (hn : ev.budget s.stack < n) :
    (ev.evaluate name scope).run s = (ev.enter^[n] bottom name scope).run s := by
  rw [run_evaluate]
  exact (alike_evaluateWithin bottom _ n hn s (Nat.le_refl _) name scope).1

theorem clean_evaluate (name : Text) (scope : Value) (s : Session) :
    ev.Clean s ((ev.evaluate name scope).final s) := by
  rw [final, run_evaluate]
  exact (alike_evaluateWithin ev.evaluate _ _ (Nat.lt_succ_self _) s (Nat.le_refl _) name scope).2

/-- Evaluation satisfies the equation of the recursion, in which no budget occurs. -/
theorem run_evaluate_eq_enter (name : Text) (scope : Value) (s : Session) :
    (ev.evaluate name scope).run s = (ev.enter ev.evaluate name scope).run s := by
  rw [run_evaluate_eq_iterate ev.evaluate name scope s (Nat.lt_succ_self _),
    Function.iterate_succ_apply']
  refine (enter_step name scope fun t hfind hon => ?_).1
  have hlike : ev.Alike (ev.budget (⟨name, scope⟩ :: s.stack)) (ev.enter^[ev.budget s.stack]
      ev.evaluate) ev.evaluate := ?_
  · exact hlike.renderBody t.body (Nat.le_refl _)
  intro u hu n sc
  have hrun := run_evaluate_eq_iterate ev.evaluate n sc u
    (Nat.lt_of_le_of_lt hu (ev.budget_body_lt hfind hon scope))
  refine ⟨hrun.symm, ?_⟩
  rw [final, ← hrun]
  exact clean_evaluate n sc u

/-! ## Every evaluation ends -/

/-- **Every evaluation ends and leaves the stack alone.**  For every catalog, engine and random
source and from every session, also one with targets entered by hand:

* unfolding the recursion more often than there are templates that can be entered gives the
  outcome and the session of the evaluation, from whatever bottom the recursion is started;
* the evaluation satisfies the unbounded recursion;
* with every outcome the stack is what it was;
* each stack made on the way has a template of the catalog on top that was not on it before, stands
  on the stack of the beginning, and is higher by the number of templates at most. -/
theorem evaluate_ends (ev : Evaluator) (name : Text) (scope : Value) (s : Session) :
    (∀ bottom n, ev.budget s.stack < n →
        (ev.enter^[n] bottom name scope).run s = (ev.evaluate name scope).run s) ∧
      ev.budget s.stack ≤ ev.catalog.templates.length ∧
      (ev.evaluate name scope).run s = (ev.enter ev.evaluate name scope).run s ∧
      ((ev.evaluate name scope).final s).stack = s.stack ∧
      ∃ new, ((ev.evaluate name scope).final s).frames = s.frames ++ new ∧
        ∀ frame ∈ new, (∃ target below, frame = target :: below ∧ s.stack <:+ below ∧
            target.name ∈ ev.catalog.names ∧ target.name ∉ below.map (·.name)) ∧
          frame.length ≤ s.stack.length + ev.catalog.templates.length := by
  have hclean := @clean_evaluate ev name scope s
  refine ⟨fun bottom n hn => (run_evaluate_eq_iterate bottom name scope s hn).symm,
    ev.budget_le _, run_evaluate_eq_enter name scope s, hclean.stack, ?_⟩
  obtain ⟨new, hnew, hgrown⟩ := hclean.frames
  refine ⟨new, hnew, fun frame hframe => ⟨?_, ?_⟩⟩
  · obtain ⟨target, below, hcons, hsuffix, hhas, hfree⟩ := (hgrown frame hframe).entered
    refine ⟨target, below, hcons, hsuffix, (ev.catalog.has_iff _).1 hhas, ?_⟩
    simpa using hfree
  · have hheight := (hgrown frame hframe).height
    have hbudget := ev.budget_le s.stack
    omega

end Phrasebook.Evaluator
