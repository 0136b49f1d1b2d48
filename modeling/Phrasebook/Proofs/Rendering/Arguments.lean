import Phrasebook.Proofs.Document.Referring
import Phrasebook.Proofs.Rendering.Asking
import Phrasebook.Proofs.Value.Binding

/-!
# Arguments, one after the other

A reference with arguments checks that there is a template of the name, puts the texts of the
arguments to the engine in order and in the scope of the caller, and renders the template in a scope
made of their values.  The first argument that has no value ends it.

* `Evaluator.Answered`: arguments in turn, all of which have values;
* `Evaluator.answered_or_stopped`: what can become of arguments;
* `CallScope`, `Evaluator.constructScope_callScope`: the scope made of values;
* `Evaluator.renderFragment_arguments`: a reference with arguments, from its text to the rendering of
  the template.
-/

namespace Phrasebook

/-- The scope that a template with these parameters is rendered in when it is given values: the
value itself where there is one and no parameter, and otherwise the parameters bound to the values,
as far as there are both. -/
inductive CallScope (parameters : List Text) (vs : List Value) : Value → Prop
  | value {v : Value} (hparameters : parameters = []) (hvs : vs = [v]) : CallScope parameters vs v
  | mapping {entries : List (Value × Value)} (hmore : ¬ (parameters = [] ∧ vs.length = 1))
      (hbinds : Value.Binds (parameters.zip vs) entries) : CallScope parameters vs (.dict entries)

namespace Evaluator

open Evaluation
open Text (join trim)

variable (ev : Evaluator)

/-! ## Errors -/

/-- The error of a reference to a template that there is not. -/
def unknownError (target : Target) (caller : Template) (n : Text) : TemplateError :=
  .ofKind .notFound ("[" ++ n ++ "] not found") ⟨some caller.source, none, none, some n⟩
    (some ("Referenced from template '" ++ target.name ++ "'."))

/-- The error of an argument that the engine reports an error for; it names the argument without
the blanks around it. -/
def argumentError (target : Target) (caller : Template) (source message : Text) : TemplateError :=
  .ofKind (.expression (trim source))
    ("Error occurs when evaluating argument '" ++ trim source ++ "' in template '" ++ target.name ++
      "': " ++ message)
    ⟨some caller.source, none, none, some target.name⟩ none

section

variable {ev} {target : Target} {below : List Target} {caller : Template} {s : Session}

/-- The innermost template is the caller. -/
theorem run_currentTemplate (hs : s.stack = target :: below)
    (hcaller : ev.catalog.find? target.name = some caller) :
    ev.currentTemplate.outcome s = .ok caller ∧ ev.currentTemplate.final s = s := by
  have hinnermost : ev.innermost s = .ok caller := by
    rw [innermost, hs]
    dsimp only
    rw [hcaller]
  rw [← hinnermost]
  exact ev.currentTemplate_eq s

/-- Errors are told to be in the document of the caller, and in the caller. -/
theorem run_here (hs : s.stack = target :: below)
    (hcaller : ev.catalog.find? target.name = some caller) :
    ev.here.outcome s = .ok ⟨some caller.source, none, none, some target.name⟩ ∧
      ev.here.final s = s := by
  obtain ⟨htarget, hstill⟩ := currentTarget_cons hs
  obtain ⟨htemplate, hsame⟩ := run_currentTemplate hs hcaller
  unfold here
  rw [outcome_bind_ok htarget, final_bind_ok htarget, hstill, outcome_bind_ok htemplate,
    final_bind_ok htemplate, hsame]
  exact ⟨rfl, rfl⟩

theorem run_require_unknown (hs : s.stack = target :: below)
    (hcaller : ev.catalog.find? target.name = some caller) {n : Text}
    (hn : ev.catalog.find? n = none) :
    (ev.require n).outcome s = .error (.template (unknownError target caller n)) ∧
      (ev.require n).final s = s := by
  obtain ⟨htemplate, hsame⟩ := run_currentTemplate hs hcaller
  have herror : (ev.notFound n).outcome s = .ok (unknownError target caller n) ∧
      (ev.notFound n).final s = s := by
    unfold notFound
    rw [outcome_bind_ok (outcome_get s), final_bind_ok (outcome_get s), final_get, hs]
    dsimp only
    rw [outcome_bind_ok htemplate, final_bind_ok htemplate, hsame]
    exact ⟨rfl, rfl⟩
  unfold require
  rw [Catalog.has_eq_isSome_find?, hn, if_neg (by simp), outcome_bind_ok herror.1,
    final_bind_ok herror.1, herror.2]
  exact ⟨rfl, rfl⟩

theorem run_argumentError (hs : s.stack = target :: below)
    (hcaller : ev.catalog.find? target.name = some caller) (source message : Text) :
    (ev.expressionError "argument" (trim source) message).outcome s =
        .ok (argumentError target caller source message) ∧
      (ev.expressionError "argument" (trim source) message).final s = s := by
  obtain ⟨hplace, hsame⟩ := run_here hs hcaller
  unfold expressionError
  rw [outcome_bind_ok hplace, final_bind_ok hplace, hsame]
  exact ⟨rfl, rfl⟩

end

/-! ## Arguments in turn -/

/-- **Arguments are put to the engine one after the other**, each in the session that the one before
has left, and all of them have values. -/
inductive Answered (scope : Value) : List Text → Session → List Value → Session → Prop
  | nil (s : Session) : Answered scope [] s [] s
  | cons {source : Text} {rest : List Text} {s s' s'' : Session} {v : Value} {vs : List Value}
      (hask : (ev.ask scope source).run s = (.ok (.value v), s'))
      (hrest : Answered scope rest s' vs s'') : Answered scope (source :: rest) s (v :: vs) s''

variable {ev} {scope : Value} {sources : List Text} {vs : List Value} {s s' : Session}
  {target : Target} {below : List Target} {caller : Template}

/-- Arguments that have values leave the stack as it was, and their calls in order. -/
theorem Answered.leaves (h : ev.Answered scope sources s vs s') :
    s'.stack = s.stack ∧ ∃ new, s'.calls = s.calls ++ new ∧ Asked scope sources new := by
  induction h with
  | nil s => exact ⟨rfl, [], (List.append_nil _).symm, .nil⟩
  | cons hask _ ih =>
    obtain ⟨hstack, new, hcalls, hasked⟩ := leaves_of_run hask
    obtain ⟨hstack', new', hcalls', hasked'⟩ := ih
    refine ⟨hstack'.trans hstack, new ++ new', ?_, hasked.append hasked'⟩
    rw [hcalls', hcalls, List.append_assoc]

theorem Answered.length (h : ev.Answered scope sources s vs s') : vs.length = sources.length := by
  induction h with
  | nil s => rfl
  | cons _ _ ih => rw [List.length_cons, List.length_cons, ih]

/-- **Arguments that have values are taken in turn**: what follows them is evaluated in the session
that they leave. -/
theorem Answered.run (h : ev.Answered target.scope sources s vs s') (hs : s.stack = target :: below)
    (rest : List Text) :
    (ev.evaluateArguments ev.evaluate (sources ++ rest)).outcome s =
        ((ev.evaluateArguments ev.evaluate rest).outcome s').map (vs ++ ·) ∧
      (ev.evaluateArguments ev.evaluate (sources ++ rest)).final s =
        (ev.evaluateArguments ev.evaluate rest).final s' := by
  induction h with
  | nil s =>
    refine ⟨?_, rfl⟩
    cases houtcome : (ev.evaluateArguments ev.evaluate rest).outcome s <;>
      rw [List.nil_append, houtcome] <;> rfl
  | @cons source sources s s₁ s₂ v vs hask _ ih =>
    obtain ⟨hout, hfinal⟩ := run_source hs hask
    obtain ⟨houtcome, hleft⟩ := ih ((leaves_of_run hask).1.trans hs)
    rw [List.cons_append, evaluateArguments, outcome_bind_ok hout, final_bind_ok hout, hfinal]
    dsimp only
    rw [outcome_bind, final_bind, houtcome, hleft]
    cases (ev.evaluateArguments ev.evaluate rest).outcome s₂ <;> exact ⟨rfl, rfl⟩

/-- All arguments have values. -/
theorem Answered.run_all (h : ev.Answered target.scope sources s vs s')
    (hs : s.stack = target :: below) :
    (ev.evaluateArguments ev.evaluate sources).run s = (.ok vs, s') := by
  obtain ⟨hout, hfinal⟩ := h.run hs []
  rw [List.append_nil] at hout hfinal
  rw [run_eq, hout, hfinal]
  show (Except.ok (vs ++ []), s') = _
  rw [List.append_nil]

/-- An argument that the engine reports an error for ends the rest. -/
theorem run_reported (hs : s.stack = target :: below)
    (hcaller : ev.catalog.find? target.name = some caller) {a message : Text}
    (hask : (ev.ask target.scope a).run s = (.ok (.error message), s')) (after : List Text) :
    (ev.evaluateArguments ev.evaluate (a :: after)).run s =
      (.error (.template (argumentError target caller a message)), s') := by
  obtain ⟨hout, hfinal⟩ := run_source hs hask
  obtain ⟨herror, hstill⟩ := run_argumentError ((leaves_of_run hask).1.trans hs) hcaller a message
  rw [evaluateArguments, Evaluation.run_bind, hout, hfinal]
  dsimp only
  rw [Evaluation.run_bind, herror, hstill]
  rfl

/-- An argument that the engine fails at ends the rest. -/
theorem run_failed (hs : s.stack = target :: below) {a : Text} {e : Failure}
    (hask : (ev.ask target.scope a).run s = (.error e, s')) (after : List Text) :
    (ev.evaluateArguments ev.evaluate (a :: after)).run s = (.error e, s') := by
  obtain ⟨hout, hfinal⟩ := run_source hs hask
  rw [evaluateArguments, Evaluation.run_bind, hout, hfinal]

/-- What ends the rest of the arguments ends whatever uses them. -/
theorem Answered.run_stopped {α : Type} {s₂ : Session} {e : Failure} {rest : List Text}
    (h : ev.Answered target.scope sources s vs s') (hs : s.stack = target :: below)
    (hstop : (ev.evaluateArguments ev.evaluate rest).run s' = (.error e, s₂))
    (next : List Value → Evaluation α) :
    (ev.evaluateArguments ev.evaluate (sources ++ rest) >>= next).run s = (.error e, s₂) := by
  obtain ⟨hout, hfinal⟩ := h.run hs rest
  obtain ⟨hstop₁, hstop₂⟩ := run_eq_iff.1 hstop
  rw [Evaluation.run_bind, hout, hfinal, hstop₁, hstop₂]
  rfl

/-- **What can become of arguments**: all of them have values, or there is a first one that the
engine reports an error for or fails at. -/
theorem answered_or_stopped (ev : Evaluator) (scope : Value) (sources : List Text) (s : Session) :
    (∃ vs s', ev.Answered scope sources s vs s') ∨
      ∃ before a after vs s₁ s₂, sources = before ++ a :: after ∧
        ev.Answered scope before s vs s₁ ∧
        ((∃ message, (ev.ask scope a).run s₁ = (.ok (.error message), s₂)) ∨
          ∃ e, (ev.ask scope a).run s₁ = (.error e, s₂)) := by
  induction sources generalizing s with
  | nil => exact .inl ⟨[], s, .nil s⟩
  | cons source rest ih =>
    have hask := run_eq (ev.ask scope source) s
    match hout : (ev.ask scope source).outcome s with
    | .error e =>
      rw [hout] at hask
      exact .inr ⟨[], source, rest, [], s, _, rfl, .nil s, .inr ⟨e, hask⟩⟩
    | .ok (.error message) =>
      rw [hout] at hask
      exact .inr ⟨[], source, rest, [], s, _, rfl, .nil s, .inl ⟨message, hask⟩⟩
    | .ok (.value v) =>
      rw [hout] at hask
      rcases ih ((ev.ask scope source).final s) with
        ⟨vs, s', hrest⟩ | ⟨before, a, after, vs, s₁, s₂, rfl, hbefore, hstopped⟩
      · exact .inl ⟨v :: vs, s', .cons hask hrest⟩
      · exact .inr ⟨source :: before, a, after, v :: vs, s₁, s₂, rfl, .cons hask hbefore, hstopped⟩

/-! ## Scopes -/

/-- **The scope of a called template** is what its parameters and the values make of each other. -/
theorem constructScope_callScope {n : Text} {t : Template} (hn : ev.catalog.find? n = some t)
    (hvs : vs ≠ []) :
    ∃ scope, CallScope t.parameters vs scope ∧ ev.constructScope n vs = pure scope := by
  obtain ⟨v, rest, rfl⟩ := List.exists_cons_of_ne_nil hvs
  unfold constructScope
  dsimp only
  rw [templateNamed_of_find? hn, pure_bind]
  split
  · rename_i w heq hparameters
    cases heq
    exact ⟨v, .value hparameters rfl, rfl⟩
  · rename_i hmore
    obtain ⟨entries, hnames, hbinds⟩ := Value.ofNames_binds (t.parameters.zip (v :: rest))
    refine ⟨.dict entries, .mapping ?_ hbinds, by rw [hnames]⟩
    rintro ⟨hparameters, hlength⟩
    obtain ⟨w, hw⟩ := List.length_eq_one_iff.1 hlength
    exact hmore w hw hparameters

/-! ## References with arguments -/

/-- The text of a template in a scope; nothing counts as the empty text. -/
def textOf (ev : Evaluator) (n : Text) (scope : Value) : Evaluation Text := do
  return (← ev.evaluate n scope).getD []

/-- A reference with arguments as it is rendered. -/
theorem renderFragment_span {n : Text} {as : List Text} (hn : n.IsTemplateName)
    (has : Reference.AreArguments as) {f : Fragment}
    (hf : f.content = (.reference, Reference.span n as)) :
    ev.renderFragment ev.evaluate f =
      ev.require n >>= fun _ => ev.evaluateArguments ev.evaluate as >>= fun vs =>
        ev.callTemplate ev.evaluate n vs := by
  obtain ⟨kind, text, position⟩ := f
  cases hf
  show ev.renderReference ev.evaluate (Reference.ofSpan (Reference.span n as)) = _
  rw [Reference.ofSpan_span hn has]
  unfold renderReference
  dsimp only
  rw [Reference.argumentTexts_join has]

/-- **References with arguments.**  The name is one that a declaration gives, and the texts hold no
comma, no bracket and no line end.

* In a body line, at any place and before anything, the reference is one token.
* The document of one template with this line is read as one alternative with this one fragment.
* When there is no template of the name, rendering the fragment fails and nothing has happened.
* When there is one, the texts are put to the engine in order and in the scope of the caller.  Either
  all have values, and the template is rendered in the scope made of them; or the first that the
  engine reports an error for or fails at ends it, with an error that names the text without the
  blanks around it, or with the failure. -/
theorem renderFragment_arguments (ev : Evaluator) {n : Text} {as : List Text}
    (hn : n.IsTemplateName) (has : Reference.AreArguments as) :
    (∀ (fresh : Bool) (place : Position) (w : Text),
      Token.scanFrom (.body fresh) place (Reference.span n as ++ w) =
        (Token.scanFrom (.body false) (place.after (Reference.span n as)) w).map
          (⟨.reference, Reference.span n as, place⟩ :: ·)) ∧
    (∀ label, ∃ t a,
      Template.readDocument label (Template.onlyLine (Reference.span n as)) = .ok [t] ∧
        t.name = "t".toList ∧ t.body = .normal [a] ∧
        a.fragments.map Fragment.content = [(.reference, Reference.span n as)]) ∧
    ∀ (f : Fragment) (s : Session) (target : Target) (below : List Target) (caller : Template),
      f.content = (.reference, Reference.span n as) → s.stack = target :: below →
      ev.catalog.find? target.name = some caller →
      (ev.catalog.find? n = none → (ev.renderFragment ev.evaluate f).run s =
        (.error (.template (unknownError target caller n)), s)) ∧
      ∀ t, ev.catalog.find? n = some t →
        (∃ vs s' scope, ev.Answered target.scope as s vs s' ∧ s'.stack = s.stack ∧
          (∃ new, s'.calls = s.calls ++ new ∧ Asked target.scope as new) ∧
          CallScope t.parameters vs scope ∧
          (ev.renderFragment ev.evaluate f).run s = (ev.textOf n scope).run s') ∨
        ∃ before a after vs s₁ s₂, as = before ++ a :: after ∧
          ev.Answered target.scope before s vs s₁ ∧
          ((∃ message, (ev.ask target.scope a).run s₁ = (.ok (.error message), s₂) ∧
              (ev.renderFragment ev.evaluate f).run s =
                (.error (.template (argumentError target caller a message)), s₂)) ∨
            ∃ e, (ev.ask target.scope a).run s₁ = (.error e, s₂) ∧
              (ev.renderFragment ev.evaluate f).run s = (.error e, s₂)) := by
  refine ⟨Reference.scanFrom_span hn has, Reference.readDocument_span hn has, ?_⟩
  intro f s target below caller hf hs hcaller
  rw [renderFragment_span hn has hf]
  refine ⟨fun hunknown => ?_, fun t hknown => ?_⟩
  · obtain ⟨hout, hfinal⟩ := run_require_unknown hs hcaller hunknown
    rw [Evaluation.run_bind, hout, hfinal]
  · rw [ev.require_known hknown, pure_bind]
    rcases ev.answered_or_stopped target.scope as s with
      ⟨vs, s', hanswered⟩ | ⟨before, a, after, vs, s₁, s₂, rfl, hbefore, hstopped⟩
    · left
      have hvs : vs ≠ [] := by
        rintro rfl
        exact has.nonempty (List.length_eq_zero_iff.1 hanswered.length.symm)
      obtain ⟨scope, hscope, hconstruct⟩ := constructScope_callScope hknown hvs
      obtain ⟨hout, hfinal⟩ := run_eq_iff.1 (hanswered.run_all hs)
      obtain ⟨hstack, hcalls⟩ := hanswered.leaves
      refine ⟨vs, s', scope, hanswered, hstack, hcalls, hscope, ?_⟩
      rw [Evaluation.run_bind, hout, hfinal]
      dsimp only
      rw [callTemplate, hconstruct, pure_bind, textOf]
    · right
      have hs₁ : s₁.stack = target :: below := hbefore.leaves.1.trans hs
      refine ⟨before, a, after, vs, s₁, s₂, rfl, hbefore, hstopped.imp ?_ ?_⟩
      · rintro ⟨message, hask⟩
        exact ⟨message, hask, hbefore.run_stopped hs (run_reported hs₁ hcaller hask after) _⟩
      · rintro ⟨e, hask⟩
        exact ⟨e, hask, hbefore.run_stopped hs (run_failed hs₁ hask after) _⟩

/-- A parameter that is given two values, and a parenthesis that closes nothing. -/
theorem renderFragment_arguments_repeated :
    ∃ (ev : Evaluator) (n : Text) (as : List Text) (f : Fragment) (s s' : Session) (t : Template)
      (vs : List Value) (entries : List (Value × Value)),
      n.IsTemplateName ∧ Reference.AreArguments as ∧ f.content = (.reference, Reference.span n as) ∧
      Reference.span n as = "[a-b.c( 1,')(')]".toList ∧ t.parameters = ["p".toList, "p".toList] ∧
      ev.Answered .null as s vs s' ∧ Value.Binds (t.parameters.zip vs) entries ∧
      (ev.renderFragment ev.evaluate f).run s = (ev.textOf n (.dict entries)).run s' ∧
      ((ev.renderFragment ev.evaluate f).outcome s).toOption = some ")(".toList := by
  let line : Alternative := ⟨[⟨.expression, "\x7bp\x7d", ⟨1, 1⟩⟩], 1⟩
  let t : Template := ⟨"a-b.c", ["p", "p"], .normal [line], "d", 1⟩
  let c : Catalog := ⟨[t, ⟨"u", [], .normal [], "d", 3⟩], by decide⟩
  let ev : Evaluator := ⟨c, .sandboxed .empty [], fun turn _ => turn⟩
  let as : List Text := [" 1", "')('"]
  let f : Fragment := ⟨.reference, Reference.span "a-b.c" as, ⟨1, 1⟩⟩
  let s : Session := Session.fresh.push ⟨"u", .null⟩
  have hn : Text.IsTemplateName "a-b.c" := by
    refine ⟨"a-b", ["c"], rfl, fun p hp => ?_⟩
    rcases List.mem_cons.1 hp with rfl | hp
    · exact ⟨'a', "-b", rfl, by decide, List.all_eq_true.1 (by decide)⟩
    · rw [List.mem_singleton.1 hp]
      exact ⟨'c', [], rfl, by decide, List.forall_mem_nil _⟩
  have hplain : (as.all fun a => a.all (· ∉ [',', '[', ']', '\r', '\n'])) = true := by decide
  have has : Reference.AreArguments as := {
    nonempty := by decide
    plain := fun a ha c hc =>
      of_decide_eq_true (List.all_eq_true.1 (List.all_eq_true.1 hplain a ha) c hc)
    notBlank := fun _ h => absurd (congrArg List.length h) (by simp [as]) }
  have houtcome : ((ev.renderFragment ev.evaluate f).outcome s).toOption = some ")(".toList := by
    decide +kernel
  have hrefused : ∀ e s₂, (ev.renderFragment ev.evaluate f).run s ≠ (.error e, s₂) := by
    intro e s₂ hrun
    rw [(run_eq_iff.1 hrun).1] at houtcome
    cases houtcome
  obtain ⟨-, hknown⟩ := (renderFragment_arguments ev hn has).2.2 f s ⟨"u", .null⟩ []
    ⟨"u", [], .normal [], "d", 3⟩ rfl rfl rfl
  rcases hknown t rfl with ⟨vs, s', scope, hanswered, -, -, hscope, hrun⟩ |
    ⟨_, _, _, _, _, _, _, _, hstopped⟩
  · cases hscope with
    | value hparameters _ => cases hparameters
    | mapping _ hbinds =>
      exact ⟨ev, "a-b.c", as, f, s, s', t, vs, _, hn, has, rfl, rfl, rfl, hanswered, hbinds, hrun,
        houtcome⟩
  · rcases hstopped with ⟨_, -, hrun⟩ | ⟨_, -, hrun⟩ <;> exact absurd hrun (hrefused _ _)

end Evaluator

end Phrasebook
