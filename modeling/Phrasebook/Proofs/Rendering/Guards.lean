import Phrasebook.Proofs.Rendering.Asking

/-!
# Guards, one after the other

A conditional body tries its rules in order.  A guard may call templates, make choices and fail in
every way there is; all that is kept of it is whether it holds.  A rule that has no alternatives is
passed over even when its guard holds, so the guards in front of the first rule that applies and has
alternatives are evaluated, no others are, and each of them once.

* `Evaluator.Judged`: one guard, and the session that it leaves;
* `Evaluator.PassedOver`: rules in turn, none of which is taken;
* `Evaluator.Judged.run`, `Evaluator.exists_judged`: one step of trying rules;
* `Evaluator.PassedOver.run`: any number of them;
* `Evaluator.renderBody_conditional`: what a conditional body does.
-/

namespace Phrasebook

/-- The values that let a guard hold: all but nothing, false and the integer zero. -/
def Value.LetsPass (v : Value) : Prop := v ≠ .null ∧ v ≠ .bool false ∧ v ≠ .int 0

theorem Result.isTruthy_value_iff (v : Value) : (Result.value v).isTruthy = true ↔ v.LetsPass := by
  unfold Value.LetsPass
  cases v with
  | bool b => cases b <;> simp [isTruthy]
  | _ => simp [isTruthy]

/-- The session with a record of the evaluator in its log. -/
def Session.noted (s : Session) (message : Text) : Session :=
  { s with log := s.log ++ [⟨.debug, "lgen.evaluator", message⟩] }

/-- The expressions of the guards among rules, in order. -/
def Rule.guards (rules : List Rule) : List Text :=
  rules.filterMap fun r => r.condition.map stripBraces

namespace Evaluator

open Evaluation

variable (ev : Evaluator) (target : Target)

/-- What is noted about a guard that has no value. -/
def guardNote (source : Text) : Text :=
  "Condition ".toList ++ Text.quoted source ++ " in template " ++ target.name ++
    " evaluated as false"

/-! ## One guard -/

/-- **One rule is judged** in a session: does it apply, and which session does that leave?  Its
guard is put to the engine once, and an error or a failure counts as false. -/
inductive Judged (r : Rule) : Session → Bool → Session → Prop
  | unguarded {s : Session} (hr : r.condition = none) : Judged r s true s
  | holds {s s' : Session} {condition : Text} {v : Value} (hr : r.condition = some condition)
      (hask : (ev.ask target.scope (stripBraces condition)).run s = (.ok (.value v), s'))
      (hv : v.LetsPass) : Judged r s true s'
  | fails {s s' : Session} {condition : Text} {v : Value} (hr : r.condition = some condition)
      (hask : (ev.ask target.scope (stripBraces condition)).run s = (.ok (.value v), s'))
      (hv : ¬ v.LetsPass) : Judged r s false s'
  | reports {s s' : Session} {condition message : Text} (hr : r.condition = some condition)
      (hask : (ev.ask target.scope (stripBraces condition)).run s = (.ok (.error message), s')) :
      Judged r s false (s'.noted (guardNote target (stripBraces condition) ++ ": " ++ message))
  | breaks {s s' : Session} {condition : Text} {f : Failure} (hr : r.condition = some condition)
      (hask : (ev.ask target.scope (stripBraces condition)).run s = (.error f, s')) :
      Judged r s false (s'.noted (guardNote target (stripBraces condition) ++
        " due to exception: " ++ f.message))

/-- Rules are tried in turn, and none of them is taken: it does not apply or has no alternatives. -/
inductive PassedOver : List Rule → Session → Session → Prop
  | nil (s : Session) : PassedOver [] s s
  | cons {r : Rule} {rest : List Rule} {s s' s'' : Session} {holds : Bool}
      (hjudged : ev.Judged target r s holds s') (hr : holds = true → r.body = none)
      (hrest : PassedOver rest s' s'') : PassedOver (r :: rest) s s''

variable {ev target} {r : Rule} {rules rest : List Rule} {holds : Bool} {s s' : Session}
  {below : List Target}

/-- A guard that is asked leaves the stack as it was, and its call. -/
theorem leaves_of_ask {condition : Text} {outcome : Except Failure Result}
    (hr : r.condition = some condition)
    (hask : (ev.ask target.scope (stripBraces condition)).run s = (outcome, s')) :
    s'.stack = s.stack ∧
      ∃ new, s'.calls = s.calls ++ new ∧ Asked target.scope (Rule.guards [r]) new := by
  have hguards : Rule.guards [r] = [stripBraces condition] := by
    rw [Rule.guards, List.filterMap_cons, hr]
    rfl
  rw [hguards]
  exact leaves_of_run hask

/-- **What judging a rule leaves behind**: the stack as it was, and the call of its guard. -/
theorem Judged.leaves (h : ev.Judged target r s holds s') :
    s'.stack = s.stack ∧
      ∃ new, s'.calls = s.calls ++ new ∧ Asked target.scope (Rule.guards [r]) new := by
  cases h with
  | unguarded hr =>
    refine ⟨rfl, [], (List.append_nil _).symm, ?_⟩
    rw [Rule.guards, List.filterMap_cons, hr]
    exact .nil
  | holds hr hask hv => exact leaves_of_ask hr hask
  | fails hr hask hv => exact leaves_of_ask hr hask
  | reports hr hask =>
    obtain ⟨hstack, hcalls⟩ := leaves_of_ask hr hask
    exact ⟨hstack, hcalls⟩
  | breaks hr hask =>
    obtain ⟨hstack, hcalls⟩ := leaves_of_ask hr hask
    exact ⟨hstack, hcalls⟩

/-- What comes of a guard with this outcome, and the session that is left. -/
def settleGuard (target : Target) (source : Text) (s : Session) :
    Except Failure Result → Bool × Session
  | .error f => (false, s.noted (guardNote target source ++ " due to exception: " ++ f.message))
  | .ok (.error message) => (false, s.noted (guardNote target source ++ ": " ++ message))
  | .ok (.value v) => ((Result.value v).isTruthy, s)

/-- The guard of a rule under the innermost template, put to the engine. -/
theorem ruleApplies_guarded {condition : Text} {outcome : Except Failure Result}
    (hs : s.stack = target :: below) (hr : r.condition = some condition)
    (hask : (ev.ask target.scope (stripBraces condition)).run s = (outcome, s')) :
    (ev.ruleApplies ev.evaluate r).run s =
      (.ok (settleGuard target (stripBraces condition) s' outcome).1,
        (settleGuard target (stripBraces condition) s' outcome).2) := by
  obtain ⟨hout, hfinal⟩ := run_source hs hask
  have hs' : s'.stack = target :: below := (leaves_of_ask hr hask).1.trans hs
  obtain ⟨htarget, hsame⟩ := currentTarget_cons hs'
  unfold ruleApplies
  rw [hr]
  dsimp only
  rw [Evaluation.run_bind, outcome_attempt, final_attempt, hout, hfinal]
  match outcome with
  | .error f =>
    dsimp only
    rw [Evaluation.run_bind, htarget, hsame]
    rfl
  | .ok (.error message) =>
    dsimp only
    rw [Evaluation.run_bind, htarget, hsame]
    rfl
  | .ok (.value v) => rfl

/-- **One step of trying rules** gives what the rule is judged to be. -/
theorem Judged.run (hs : s.stack = target :: below) (h : ev.Judged target r s holds s') :
    (ev.ruleApplies ev.evaluate r).run s = (.ok holds, s') := by
  cases h with
  | unguarded hr =>
    unfold ruleApplies
    rw [hr]
    rfl
  | @holds _ _ v hr hask hv =>
    have htrue : (Result.value v).isTruthy = true := (Result.isTruthy_value_iff v).2 hv
    rw [ruleApplies_guarded hs hr hask, settleGuard, htrue]
  | @fails _ _ v hr hask hv =>
    have hfalse : (Result.value v).isTruthy = false :=
      Bool.eq_false_iff.2 fun htrue => hv ((Result.isTruthy_value_iff v).1 htrue)
    rw [ruleApplies_guarded hs hr hask, settleGuard, hfalse]
  | reports hr hask => rw [ruleApplies_guarded hs hr hask, settleGuard]
  | breaks hr hask => rw [ruleApplies_guarded hs hr hask, settleGuard]

/-- Every rule is judged in some way. -/
theorem exists_judged (ev : Evaluator) (target : Target) (r : Rule) (s : Session) :
    ∃ holds s', ev.Judged target r s holds s' := by
  cases hr : r.condition with
  | none => exact ⟨_, _, .unguarded hr⟩
  | some condition =>
    have hask := run_eq (ev.ask target.scope (stripBraces condition)) s
    match hout : (ev.ask target.scope (stripBraces condition)).outcome s with
    | .error f => exact ⟨_, _, .breaks hr (hout ▸ hask)⟩
    | .ok (.error message) => exact ⟨_, _, .reports hr (hout ▸ hask)⟩
    | .ok (.value v) =>
      by_cases hv : v.LetsPass
      · exact ⟨_, _, .holds hr (hout ▸ hask) hv⟩
      · exact ⟨_, _, .fails hr (hout ▸ hask) hv⟩

/-! ## Guards in turn -/

/-- The guards of rules that are passed over leave the stack as it was, and their calls in order. -/
theorem PassedOver.leaves (h : ev.PassedOver target rules s s') :
    s'.stack = s.stack ∧
      ∃ new, s'.calls = s.calls ++ new ∧ Asked target.scope (Rule.guards rules) new := by
  induction h with
  | nil s => exact ⟨rfl, [], (List.append_nil _).symm, .nil⟩
  | @cons r rest s s' s'' holds hjudged _ _ ih =>
    obtain ⟨hstack, new, hcalls, hasked⟩ := hjudged.leaves
    obtain ⟨hstack', new', hcalls', hasked'⟩ := ih
    refine ⟨hstack'.trans hstack, new ++ new', ?_, ?_⟩
    · rw [hcalls', hcalls, List.append_assoc]
    · have hguards : Rule.guards (r :: rest) = Rule.guards [r] ++ Rule.guards rest :=
        List.filterMap_append (l := [r])
      rw [hguards]
      exact hasked.append hasked'

/-- **Rules that are passed over only leave their session**: what comes after them is tried in it. -/
theorem PassedOver.run (h : ev.PassedOver target rules s s') (hs : s.stack = target :: below)
    (rest : List Rule) :
    (ev.renderRules ev.evaluate (rules ++ rest)).run s = (ev.renderRules ev.evaluate rest).run s' := by
  induction h with
  | nil s => rfl
  | @cons r before s s' s'' holds hjudged hr _ ih =>
    obtain ⟨hout, hfinal⟩ := run_eq_iff.1 (hjudged.run hs)
    have hnext := ih (hjudged.leaves.1.trans hs)
    rw [List.cons_append, renderRules, Evaluation.run_bind, hout, hfinal, ← hnext]
    cases holds with
    | false => rfl
    | true => simp only [if_true, hr rfl]

/-- The first rule that applies and has alternatives is taken. -/
theorem Judged.run_renderRules (h : ev.Judged target r s true s') (hs : s.stack = target :: below)
    {alternatives : List Alternative} (hr : r.body = some alternatives) (rest : List Rule) :
    (ev.renderRules ev.evaluate (r :: rest)).run s =
      (ev.renderBody ev.evaluate (.normal alternatives)).run s' := by
  obtain ⟨hout, hfinal⟩ := run_eq_iff.1 (h.run hs)
  rw [renderRules, Evaluation.run_bind, hout, hfinal]
  simp only [if_true, hr]
  rfl

/-- Either all rules are passed over, or there is a first one that is taken. -/
theorem passedOver_or_taken (ev : Evaluator) (target : Target) (rules : List Rule) (s : Session) :
    (∃ s', ev.PassedOver target rules s s') ∨
      ∃ before r after alternatives s₁ s₂, rules = before ++ r :: after ∧
        ev.PassedOver target before s s₁ ∧ ev.Judged target r s₁ true s₂ ∧
        r.body = some alternatives := by
  induction rules generalizing s with
  | nil => exact .inl ⟨s, .nil s⟩
  | cons r rest ih =>
    obtain ⟨holds, s', hjudged⟩ := ev.exists_judged target r s
    by_cases hr : holds = true → r.body = none
    · refine (ih s').imp ?_ ?_
      · rintro ⟨s'', hrest⟩
        exact ⟨s'', .cons hjudged hr hrest⟩
      · rintro ⟨before, r', after, alternatives, s₁, s₂, rfl, hbefore, hr'⟩
        exact ⟨r :: before, r', after, alternatives, s₁, s₂, rfl, .cons hjudged hr hbefore, hr'⟩
    · obtain ⟨rfl, hbody⟩ := Classical.not_imp.1 hr
      obtain ⟨alternatives, halternatives⟩ := Option.ne_none_iff_exists'.1 hbody
      exact .inr ⟨[], r, rest, alternatives, s, s', rfl, .nil s, hjudged, halternatives⟩

theorem renderNormal_ne_none (alternatives : List Alternative) (s : Session) :
    (ev.renderBody ev.evaluate (.normal alternatives)).outcome s ≠ .ok none := by
  unfold renderBody
  dsimp only
  rw [outcome_bind]
  cases (ev.renderAlternatives ev.evaluate alternatives).outcome s <;> simp

/-- **Conditional bodies.**  The rules are tried in order under the innermost template.

* Either some are passed over and the next one applies and has alternatives.  Then the guards up to
  and including its own have been put to the engine, in order, and the body gives what these
  alternatives give, on the stack as it was.
* Or all of them are passed over, all guards have been put to the engine, and there is no text.

There is no text in no other way, and only rendering the alternatives can fail. -/
theorem renderBody_conditional (ev : Evaluator) (rules : List Rule)
    (hs : s.stack = target :: below) :
    ((∃ before r after alternatives s₁ s₂, rules = before ++ r :: after ∧
        ev.PassedOver target before s s₁ ∧ ev.Judged target r s₁ true s₂ ∧
        r.body = some alternatives ∧ s₂.stack = s.stack ∧
        (∃ new, s₂.calls = s.calls ++ new ∧
          Asked target.scope (Rule.guards (before ++ [r])) new) ∧
        (ev.renderBody ev.evaluate (.conditional rules)).run s =
          (ev.renderBody ev.evaluate (.normal alternatives)).run s₂) ∨
      ∃ s', ev.PassedOver target rules s s' ∧ s'.stack = s.stack ∧
        (∃ new, s'.calls = s.calls ++ new ∧ Asked target.scope (Rule.guards rules) new) ∧
        (ev.renderBody ev.evaluate (.conditional rules)).run s = (.ok none, s')) ∧
    ((ev.renderBody ev.evaluate (.conditional rules)).outcome s = .ok none ↔
      ∃ s', ev.PassedOver target rules s s') := by
  have hnone : ∀ s', ev.PassedOver target rules s s' →
      (ev.renderBody ev.evaluate (.conditional rules)).run s = (.ok none, s') := by
    intro s' h
    have hrun := h.run hs []
    rw [List.append_nil] at hrun
    exact hrun
  rcases ev.passedOver_or_taken target rules s with
    ⟨s', hpassed⟩ | ⟨before, r, after, alternatives, s₁, s₂, rfl, hbefore, hjudged, hr⟩
  · obtain ⟨hstack, hcalls⟩ := hpassed.leaves
    refine ⟨.inr ⟨s', hpassed, hstack, hcalls, hnone s' hpassed⟩, fun _ => ⟨s', hpassed⟩, ?_⟩
    rintro -
    exact congrArg Prod.fst (hnone s' hpassed)
  · obtain ⟨hstack, new, hcalls, hasked⟩ := hbefore.leaves
    obtain ⟨hstack', new', hcalls', hasked'⟩ := hjudged.leaves
    have hrun : (ev.renderBody ev.evaluate (.conditional (before ++ r :: after))).run s =
        (ev.renderBody ev.evaluate (.normal alternatives)).run s₂ :=
      (hbefore.run hs (r :: after)).trans (hjudged.run_renderRules (hstack.trans hs) hr after)
    have hsome : (ev.renderBody ev.evaluate (.normal alternatives)).outcome s₂ ≠ .ok none :=
      renderNormal_ne_none alternatives s₂
    refine ⟨.inl ⟨before, r, after, alternatives, s₁, s₂, rfl, hbefore, hjudged, hr,
      hstack'.trans hstack, ⟨new ++ new', ?_, ?_⟩, hrun⟩, fun h => ?_, ?_⟩
    · rw [hcalls', hcalls, List.append_assoc]
    · rw [Rule.guards, List.filterMap_append]
      exact hasked.append hasked'
    · exact absurd ((congrArg Prod.fst hrun).symm.trans h) hsome
    · rintro ⟨s', hpassed⟩
      exact absurd ((congrArg Prod.fst hrun).symm.trans (congrArg Prod.fst (hnone s' hpassed))) hsome

/-- A guard that fails because it calls its own template, a guard without alternatives, and a guard
whose value is the empty text. -/
theorem renderBody_conditional_third :
    ∃ (ev : Evaluator) (rules : List Rule) (s : Session), s.stack = [⟨"t", .null⟩] ∧
      Rule.guards rules = ["t()".toList, "1".toList, "''".toList] ∧
      ((ev.renderBody ev.evaluate (.conditional rules)).outcome s).toOption =
        some (some "x".toList) ∧
      ((ev.renderBody ev.evaluate (.conditional rules)).final s).calls.map Prod.fst =
        ["t()".toList, "1".toList, "''".toList] ∧
      ¬ ∃ s', ev.PassedOver ⟨"t", .null⟩ rules s s' := by
  let line : Text → Alternative := fun text => ⟨[⟨.text, text, ⟨1, 1⟩⟩], 1⟩
  let rules : List Rule := [⟨.ifWord, some "\x7bt()\x7d".toList, some [line "a"], 1⟩,
    ⟨.elseIfWord, some "\x7b1\x7d".toList, none, 2⟩,
    ⟨.elseIfWord, some "\x7b''\x7d".toList, some [line "x"], 3⟩, ⟨.elseWord, none, some [line "b"], 4⟩]
  let c : Catalog := ⟨[⟨"t", [], .conditional rules, "d", 1⟩], by decide⟩
  let ev : Evaluator := ⟨c, .sandboxed .empty [], fun turn _ => turn⟩
  let s : Session := Session.fresh.push ⟨"t", .null⟩
  have hstack : s.stack = [⟨"t", .null⟩] := rfl
  have houtcome : ((ev.renderBody ev.evaluate (.conditional rules)).outcome s).toOption =
      some (some "x".toList) := by decide +kernel
  refine ⟨ev, rules, s, hstack, by decide +kernel, houtcome, by decide +kernel, fun hpassed => ?_⟩
  rw [(renderBody_conditional ev rules hstack).2.2 hpassed] at houtcome
  cases houtcome

end Evaluator

end Phrasebook
