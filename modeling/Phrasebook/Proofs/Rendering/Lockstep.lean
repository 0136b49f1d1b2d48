import Phrasebook.Proofs.Rendering.InStep
import Phrasebook.Proofs.Value.Faults

/-!
# Rendering in step

The pieces of a template call other templates in a few ways only: by a reference, or by an
expression that asks for a template.  What a body may call is read off its text, given what each
expression may ask for.

Two evaluators that agree on the headings of templates, the engine and the choices render a body in
step as soon as the templates that the body may call are evaluated in step.

* `Fragment.Calls`, `Rule.Calls`, `Body.Calls`: what may be called;
* `Evaluator.EndsIn`: how rendering ends by itself;
* `Evaluator.Tied`: what two evaluators have to agree on;
* `Evaluator.Tied.renderBody`: bodies are rendered in step;
* `Evaluator.tied_single`: an invariant of a single run, as two runs in step.
-/

namespace Phrasebook

/-! ## What a body calls -/

/-- What may be called by a reference: the template it names, and whatever its arguments ask
for. -/
def Reference.Calls (may : Text → Text → Prop) (name : Text) : Reference → Prop
  | .plain callee => name = callee
  | .applied callee arguments =>
    name = callee ∨ ∃ source ∈ Reference.argumentTexts arguments, may source name
  | .malformed _ => False

/-- What may be called by a piece of an alternative. -/
def Fragment.Calls (may : Text → Text → Prop) (f : Fragment) (name : Text) : Prop :=
  match f.kind with
  | .expression => may (stripBraces f.text) name
  | .reference => (Reference.ofSpan f.text).Calls may name
  | .multiLine =>
    ∃ source, .expression source ∈ blockPieces (blockInside f.text) ∧ may source name
  | _ => False

/-- What may be called by alternatives. -/
def Alternative.Call (may : Text → Text → Prop) (alternatives : List Alternative) (name : Text) :
    Prop :=
  ∃ a ∈ alternatives, ∃ f ∈ a.fragments, f.Calls may name

/-- What may be called by a rule, in its guard or in its alternatives. -/
def Rule.Calls (may : Text → Text → Prop) (r : Rule) (name : Text) : Prop :=
  (∃ condition, r.condition = some condition ∧ may (stripBraces condition) name) ∨
    ∃ alternatives, r.body = some alternatives ∧ Alternative.Call may alternatives name

/-- What may be called by a body. -/
def Body.Calls (may : Text → Text → Prop) (name : Text) : Body → Prop
  | .normal alternatives => Alternative.Call may alternatives name
  | .conditional rules => ∃ r ∈ rules, r.Calls may name

/-! ## Evaluators that are tied together -/

/-- Is it the error of a loop? -/
def Failure.IsLoop (f : Failure) : Prop := ∃ e chain, f = .template e ∧ e.kind = .cycle chain

/-- What is looked at in a template that is not entered: its parameters and its document. -/
def Template.heading (t : Template) : List Text × Text := (t.parameters, t.source)

theorem Catalog.has_eq_isSome_find? (c : Catalog) (name : Text) :
    c.has name = (c.find? name).isSome := by
  rw [Bool.eq_iff_iff, c.has_iff, Option.isSome_iff_ne_none, Ne, c.find?_eq_none_iff,
    Decidable.not_not]

namespace Evaluator

open Evaluation

theorem kind_of_notFound (ev : Evaluator) (name : Text) (s : Session) (e : TemplateError)
    (h : (ev.notFound name).outcome s = .ok e) : e.kind = .notFound := by
  unfold notFound at h
  rw [outcome_bind_ok (outcome_get s), final_get] at h
  cases hs : s.stack with
  | nil =>
    rw [hs] at h
    cases h
    rfl
  | cons target below =>
    rw [hs] at h
    dsimp only at h
    rw [outcome_bind] at h
    cases hout : ev.currentTemplate.outcome s with
    | error f => rw [hout] at h; cases h
    | ok t => rw [hout] at h; cases h; rfl

theorem kind_of_expressionError (ev : Evaluator) (what source result : Text) (s : Session)
    (e : TemplateError) (h : (ev.expressionError what source result).outcome s = .ok e) :
    e.kind = .expression source := by
  unfold expressionError at h
  rw [outcome_bind] at h
  cases hout : ev.here.outcome s with
  | error f => rw [hout] at h; cases h
  | ok loc => rw [hout] at h; cases h; rfl

/-- A name that is required is one of the catalog. -/
theorem has_of_require {ev : Evaluator} {name : Text} {s : Session} {u : Unit}
    (h : (ev.require name).outcome s = .ok u) : ev.catalog.has name = true := by
  cases hhas : ev.catalog.has name with
  | true => rfl
  | false =>
    rw [require, hhas, if_neg (by decide), outcome_bind] at h
    cases hout : (ev.notFound name).outcome s <;> rw [hout] at h <;> cases h

/-- The innermost template, or what is missing for want of it. -/
def innermost (ev : Evaluator) (s : Session) : Except Failure Template :=
  match s.stack with
  | [] => .error (.fault ⟨.index, "list index out of range"⟩)
  | target :: _ =>
    match ev.catalog.find? target.name with
    | some t => .ok t
    | none => .error (.fault ⟨.key, Text.quoted target.name⟩)

theorem currentTemplate_eq (ev : Evaluator) (s : Session) :
    ev.currentTemplate.outcome s = ev.innermost s ∧ ev.currentTemplate.final s = s := by
  unfold currentTemplate innermost
  cases hs : s.stack with
  | nil =>
    obtain ⟨hout, hfinal⟩ := currentTarget_nil hs
    rw [outcome_bind_error hout, final_bind_error hout]
    exact ⟨rfl, hfinal⟩
  | cons target below =>
    obtain ⟨hout, hfinal⟩ := currentTarget_cons hs
    rw [outcome_bind_ok hout, final_bind_ok hout, hfinal, templateNamed]
    dsimp only
    cases ev.catalog.find? target.name <;> exact ⟨rfl, rfl⟩

/-- **How rendering ends by itself** in a session, when expressions may ask for some templates: in an
error other than that of a loop, in an integer that is too long to be written, for want of a target,
or for want of the innermost template or of one that is asked for. -/
inductive EndsIn (ev : Evaluator) (may : Text → Text → Prop) (s : Session) : Failure → Prop
  | told {e : TemplateError} (hkind : ∀ chain, e.kind ≠ .cycle chain) : ev.EndsIn may s (.template e)
  | tooLong : ev.EndsIn may s (.fault tooLongToWrite)
  | noTarget (hs : s.stack = []) :
    ev.EndsIn may s (.fault ⟨.index, "list index out of range"⟩)
  | noCurrent {target : Target} (hs : s.stack.head? = some target)
    (hfind : ev.catalog.find? target.name = none) :
    ev.EndsIn may s (.fault ⟨.key, Text.quoted target.name⟩)
  | noAsked {source name : Text} (hname : may source name) (hfind : ev.catalog.find? name = none) :
    ev.EndsIn may s (.fault ⟨.key, Text.quoted name⟩)

theorem endsIn_of_innermost {ev : Evaluator} (may : Text → Text → Prop) {s : Session} {f : Failure}
    (h : ev.innermost s = .error f) : ev.EndsIn may s f := by
  unfold innermost at h
  split at h
  · rename_i hs
    cases h
    exact .noTarget hs
  · rename_i target below hs
    split at h
    · cases h
    · rename_i hfind
      cases h
      exact .noCurrent (by rw [hs]; rfl) hfind

theorem EndsIn.not_isLoop {ev : Evaluator} {may : Text → Text → Prop} {s : Session} {f : Failure}
    (h : ev.EndsIn may s f) : ¬ f.IsLoop := by
  rintro ⟨e, chain, rfl, hkind⟩
  cases h with
  | told hne => exact hne chain hkind

/-- **What two evaluators have to agree on** to render in step: the innermost target, the headings
of the templates, what the engine does and how many alternatives are chosen from.  The marks that
calls of the engine, log records and choices leave must keep the sessions related, and every failure
that rendering ends in by itself must be accounted for, when expressions ask for what they may. -/
structure Tied (L : Link) (may : Text → Text → Prop) (ev ev' : Evaluator) : Prop where
  head : ∀ s t, L.related s t → s.stack.head? = t.stack.head?
  find : ∀ name, (ev.catalog.find? name).map Template.heading =
    (ev'.catalog.find? name).map Template.heading
  engine : ∀ source scope,
    ev.engine ev.catalog.has source scope = ev'.engine ev'.catalog.has source scope
  call : ∀ c : Text × Value, InStep L (modify fun s => { s with calls := s.calls ++ [c] })
    (modify fun s => { s with calls := s.calls ++ [c] })
  record : ∀ message, InStep L (Evaluation.record message) (Evaluation.record message)
  choose : ∀ count, InStep L (ev.choose count) (ev'.choose count)
  account : ∀ s t, L.related s t → ∀ f, ev.EndsIn may s f → L.accounted s f

namespace Tied

variable {L : Link} {ev ev' : Evaluator} {may : Text → Text → Prop} {raises : Failure → Prop}
  {again again' : Recursion}

/-! ### Templates and errors -/

theorem throwTemplate {α : Type} (h : Tied L may ev ev') {e : TemplateError}
    (he : ∀ chain, e.kind ≠ .cycle chain) :
    InStep L (throw (.template e) : Evaluation α) (throw (.template e)) :=
  .throw fun s t hst => h.account s t hst _ (.told he)

theorem written (h : Tied L may ev ev') (v : Value) :
    InStep L (Evaluation.ofExcept (Fault.orFail v.written))
      (Evaluation.ofExcept (Fault.orFail v.written)) := by
  have htooLong := v.tooLong_written
  cases hv : v.written with
  | ok t => exact .pure t
  | error f =>
    rw [htooLong f hv]
    exact .throw fun s t hst => h.account s t hst _ .tooLong

theorem currentTarget (h : Tied L may ev ev') :
    InStep L Evaluation.currentTarget Evaluation.currentTarget :=
  .currentTarget h.head fun s t hst hs => h.account s t hst _ (.noTarget hs)

theorem find_none (h : Tied L may ev ev') {name : Text} (hfind : ev.catalog.find? name = none) :
    ev'.catalog.find? name = none := by
  have hboth := h.find name
  rwa [hfind, Option.map_none, eq_comm, Option.map_eq_none_iff] at hboth

theorem find_some (h : Tied L may ev ev') {name : Text} {t : Template}
    (hfind : ev.catalog.find? name = some t) :
    ∃ t', ev'.catalog.find? name = some t' ∧ t.heading = t'.heading := by
  have hboth := h.find name
  rw [hfind, Option.map_some, eq_comm, Option.map_eq_some_iff] at hboth
  obtain ⟨t', hfind', hheading⟩ := hboth
  exact ⟨t', hfind', hheading.symm⟩

/-- The innermost templates have the same heading, or both are missing alike. -/
theorem innermost (h : Tied L may ev ev') {s t : Session} (hst : L.related s t) :
    (∃ e, ev.innermost s = .error e ∧ ev'.innermost t = .error e) ∨
      ∃ u u', ev.innermost s = .ok u ∧ ev'.innermost t = .ok u' ∧ u.heading = u'.heading := by
  have hhead := h.head s t hst
  unfold Evaluator.innermost
  cases hs : s.stack with
  | nil =>
    rw [hs] at hhead
    have ht : t.stack = [] := List.head?_eq_none_iff.1 hhead.symm
    exact .inl ⟨_, rfl, by rw [ht]⟩
  | cons target below =>
    rw [hs] at hhead
    obtain ⟨below', ht⟩ := List.head?_eq_some_iff.1 hhead.symm
    rw [ht]
    dsimp only
    cases hfind : ev.catalog.find? target.name with
    | none =>
      rw [h.find_none hfind]
      exact .inl ⟨_, rfl, rfl⟩
    | some u =>
      obtain ⟨u', hfind', hheading⟩ := h.find_some hfind
      rw [hfind']
      exact .inr ⟨u, u', rfl, rfl, hheading⟩

/-- What goes on with the innermost template is in step if it is so with any two of the same
heading. -/
theorem bindCurrent {α : Type} (h : Tied L may ev ev') {f g : Template → Evaluation α}
    (hf : ∀ t t', t.heading = t'.heading → InStep L (f t) (g t')) :
    InStep L (ev.currentTemplate >>= f) (ev'.currentTemplate >>= g) where
  stays s hs := by
    obtain ⟨hout, hfinal⟩ := ev.currentTemplate_eq s
    rw [final_bind, hout, hfinal]
    cases ev.innermost s with
    | error f => exact hs
    | ok t => exact (hf t t rfl).stays s hs
  agrees s t hst := by
    obtain ⟨hout, hfinal⟩ := ev.currentTemplate_eq s
    obtain ⟨hout', hfinal'⟩ := ev'.currentTemplate_eq t
    rcases h.innermost hst with ⟨e, he, he'⟩ | ⟨u, u', hu, hu', hheading⟩
    · rw [he] at hout
      rw [he'] at hout'
      right
      constructor
      · rw [outcome_bind_error hout, outcome_bind_error hout']
      · rw [final_bind_error hout, final_bind_error hout', hfinal, hfinal']
        exact hst
      · rw [final_bind_error hout, hfinal]
        exact fun _ hf => hf
      · rw [outcome_bind_error hout, final_bind_error hout, hfinal]
        rintro _ ⟨⟩
        exact h.account s t hst _ (endsIn_of_innermost may he)
    · rw [hu] at hout
      rw [hu'] at hout'
      refine ((hf u u' hheading).agrees s t hst).imp (fun hbroken => ?_) fun hagree => ?_
      · rw [final_bind_ok hout, hfinal]
        exact hbroken
      · constructor
        · rw [outcome_bind_ok hout, outcome_bind_ok hout', hfinal, hfinal']
          exact hagree.outcome
        · rw [final_bind_ok hout, final_bind_ok hout', hfinal, hfinal']
          exact hagree.final
        · rw [final_bind_ok hout, hfinal]
          exact hagree.keeps
        · rw [outcome_bind_ok hout, final_bind_ok hout, hfinal]
          exact hagree.accounts

theorem constructScope (h : Tied L may ev ev') {name : Text}
    (hname : ev.catalog.has name = true ∨ ∃ source, may source name) (args : List Value) :
    InStep L (ev.constructScope name args) (ev'.constructScope name args) := by
  unfold Evaluator.constructScope
  cases args with
  | nil => exact .bind h.currentTarget fun target => .pure _
  | cons v rest =>
    unfold Evaluator.templateNamed
    dsimp only
    cases hfind : ev.catalog.find? name with
    | none =>
      rw [h.find_none hfind]
      refine .bind (.throw fun s t hst => ?_) fun _ => by split <;> exact .pure _
      obtain ⟨source, hasked⟩ : ∃ source, may source name := hname.resolve_left fun hhas => by
        rw [Catalog.has_eq_isSome_find?, hfind] at hhas
        cases hhas
      exact h.account s t hst _ (.noAsked hasked hfind)
    | some t =>
      obtain ⟨t', hfind', hheading⟩ := h.find_some hfind
      have hparameters : t.parameters = t'.parameters := congrArg Prod.fst hheading
      rw [hfind', pure_bind, pure_bind, hparameters]
      split <;> exact .pure _

/-- The stack is looked at only for its innermost target. -/
theorem matchStack {α : Type} (h : Tied L may ev ev') {x y : Evaluation α}
    {f g : Target → Evaluation α} (hx : InStep L x y) (hf : ∀ t, InStep L (f t) (g t)) :
    InStep L
      (get >>= fun s => match s.stack with | [] => x | target :: _ => f target)
      (get >>= fun s => match s.stack with | [] => y | target :: _ => g target) where
  stays s hs := by
    rw [final_bind_ok (outcome_get s), final_get]
    split
    · exact hx.stays s hs
    · exact (hf _).stays s hs
  agrees s t hst := by
    have hhead := h.head s t hst
    cases hs : s.stack with
    | nil =>
      rw [hs] at hhead
      have ht : t.stack = [] := List.head?_eq_none_iff.1 hhead.symm
      refine (hx.agrees s t hst).imp ?_ ?_
      · rw [final_bind_ok (outcome_get s), final_get, hs]
        exact id
      · rintro ⟨h1, h2, h3, h4⟩
        constructor <;> simpa only [final_bind_ok (outcome_get _), outcome_bind_ok (outcome_get _),
          final_get, hs, ht]
    | cons target below =>
      rw [hs] at hhead
      obtain ⟨below', ht⟩ := List.head?_eq_some_iff.1 hhead.symm
      refine ((hf target).agrees s t hst).imp ?_ ?_
      · rw [final_bind_ok (outcome_get s), final_get, hs]
        exact id
      · rintro ⟨h1, h2, h3, h4⟩
        constructor <;> simpa only [final_bind_ok (outcome_get _), outcome_bind_ok (outcome_get _),
          final_get, hs, ht]

theorem notFound (h : Tied L may ev ev') (name : Text) :
    InStep L (ev.notFound name) (ev'.notFound name) :=
  h.matchStack (.pure _) fun _ => h.bindCurrent fun t t' hheading => by
    have hsource : t.source = t'.source := congrArg Prod.snd hheading
    rw [hsource]
    exact .pure _

theorem has (h : Tied L may ev ev') (name : Text) : ev.catalog.has name = ev'.catalog.has name := by
  rw [Catalog.has_eq_isSome_find?, Catalog.has_eq_isSome_find?, ← Option.isSome_map, h.find name,
    Option.isSome_map]

theorem require (h : Tied L may ev ev') (name : Text) :
    InStep L (ev.require name) (ev'.require name) := by
  unfold Evaluator.require
  rw [h.has name]
  split
  · exact .pure _
  · exact .bind_of (h.notFound name) (kind_of_notFound ev name) fun e he =>
      h.throwTemplate (by rw [he]; rintro chain hc; cases hc)

theorem here (h : Tied L may ev ev') : InStep L ev.here ev'.here := by
  refine .bind h.currentTarget fun _ => h.bindCurrent fun t t' hheading => ?_
  have hsource : t.source = t'.source := congrArg Prod.snd hheading
  rw [hsource]
  exact .pure _

theorem throwExpressionError {α : Type} (h : Tied L may ev ev') (what source result : Text) :
    InStep L (ev.expressionError what source result >>= fun e => throw (.template e) : Evaluation α)
      (ev'.expressionError what source result >>= fun e => throw (.template e)) := by
  have herror : InStep L (ev.expressionError what source result)
      (ev'.expressionError what source result) := .bind h.here fun _ => .pure _
  exact .bind_of herror (kind_of_expressionError ev what source result) fun e he =>
    h.throwTemplate (by rw [he]; rintro chain hc; cases hc)

/-! ### Expressions and references -/

theorem callTemplate (h : Tied L may ev ev') {name : Text}
    (hname : ev.catalog.has name = true ∨ ∃ source, may source name)
    (hagain : ∀ scope, InStep L (again name scope) (again' name scope)) (args : List Value) :
    InStep L (ev.callTemplate again name args) (ev'.callTemplate again' name args) :=
  .bind (h.constructScope hname args) fun scope => .bind (hagain scope) fun _ => .pure _

variable
  (hmay : ∀ source scope,
    (ev.engine ev.catalog.has source scope).Keeps (may source) (fun _ => True) raises)
  (hraises : ∀ f, raises f → ∀ s t, L.related s t → L.accounted s f)

include hmay hraises

theorem evaluateSource (h : Tied L may ev ev') {source : Text}
    (hagain : ∀ name, may source name → ∀ scope,
      InStep L (again name scope) (again' name scope)) :
    InStep L (ev.evaluateSource again source) (ev'.evaluateSource again' source) := by
  refine .bind h.currentTarget fun target => .bind (h.call _) fun _ => ?_
  rw [← h.engine source target.scope]
  exact .carryOut (hmay source target.scope) hraises fun name hname args =>
    h.callTemplate (.inr ⟨source, hname⟩) (hagain name hname) args

theorem renderExpression (h : Tied L may ev ev') {source : Text}
    (hagain : ∀ name, may source name → ∀ scope,
      InStep L (again name scope) (again' name scope)) :
    InStep L (ev.renderExpression again source) (ev'.renderExpression again' source) := by
  refine .bind (h.evaluateSource hmay hraises hagain) fun result => ?_
  cases result with
  | error message => exact h.throwExpressionError _ _ _
  | value v =>
    cases v with
    | null => exact h.throwExpressionError _ _ _
    | _ => exact h.written _

theorem evaluateArguments (h : Tied L may ev ev') {sources : List Text}
    (hagain : ∀ name, (∃ source ∈ sources, may source name) → ∀ scope,
      InStep L (again name scope) (again' name scope)) :
    InStep L (ev.evaluateArguments again sources) (ev'.evaluateArguments again' sources) := by
  induction sources with
  | nil => exact .pure _
  | cons source rest ih =>
    refine .bind (h.evaluateSource hmay hraises fun name hname =>
      hagain name ⟨source, List.mem_cons_self, hname⟩) fun result => ?_
    cases result with
    | error message => exact h.throwExpressionError _ _ _
    | value v =>
      refine .bind (ih fun name hname => hagain name ?_) fun _ => .pure _
      obtain ⟨source', hmem, hcall⟩ := hname
      exact ⟨source', List.mem_cons_of_mem _ hmem, hcall⟩

theorem renderReference (h : Tied L may ev ev') {r : Reference}
    (hagain : ∀ name, r.Calls may name → ∀ scope,
      InStep L (again name scope) (again' name scope)) :
    InStep L (ev.renderReference again r) (ev'.renderReference again' r) := by
  cases r with
  | plain name =>
    exact .bind h.currentTarget fun target => .bind (hagain name rfl _) fun _ => .pure _
  | applied name arguments =>
    refine .bind_of (h.require name) (P := fun _ => ev.catalog.has name = true)
      (fun s u hu => has_of_require hu) fun _ hhas => .bind ?_ fun args => ?_
    · exact h.evaluateArguments hmay hraises fun callee hcallee => hagain callee (.inr hcallee)
    · exact h.callTemplate (.inl hhas) (hagain name (.inl rfl)) args
  | malformed text => exact .bind h.here fun _ => h.throwTemplate (by rintro chain hc; cases hc)

/-! ### Alternatives -/

theorem renderBlock (h : Tied L may ev ev') {pieces : List BlockPiece}
    (hagain : ∀ name, (∃ source, .expression source ∈ pieces ∧ may source name) → ∀ scope,
      InStep L (again name scope) (again' name scope)) :
    InStep L (ev.renderBlock again pieces) (ev'.renderBlock again' pieces) := by
  induction pieces with
  | nil => exact .pure _
  | cons piece rest ih =>
    have hrest : InStep L (ev.renderBlock again rest) (ev'.renderBlock again' rest) := by
      refine ih fun name hname => hagain name ?_
      obtain ⟨source, hmem, hcall⟩ := hname
      exact ⟨source, List.mem_cons_of_mem _ hmem, hcall⟩
    cases piece with
    | literal c => exact .bind hrest fun _ => .pure _
    | expression source =>
      refine .bind (h.renderExpression hmay hraises fun name hname => ?_) fun t =>
        .bind hrest fun _ => .pure _
      exact hagain name ⟨source, List.mem_cons_self, hname⟩

theorem renderFragment (h : Tied L may ev ev') {f : Fragment}
    (hagain : ∀ name, f.Calls may name → ∀ scope,
      InStep L (again name scope) (again' name scope)) :
    InStep L (ev.renderFragment again f) (ev'.renderFragment again' f) := by
  unfold Evaluator.renderFragment
  unfold Fragment.Calls at hagain
  cases hkind : f.kind with
  | expression => rw [hkind] at hagain; exact h.renderExpression hmay hraises hagain
  | reference => rw [hkind] at hagain; exact h.renderReference hmay hraises hagain
  | multiLine => rw [hkind] at hagain; exact h.renderBlock hmay hraises hagain
  | _ => exact .pure _

theorem renderFragments (h : Tied L may ev ev') {fragments : List Fragment}
    (hagain : ∀ name, (∃ f ∈ fragments, f.Calls may name) → ∀ scope,
      InStep L (again name scope) (again' name scope)) :
    InStep L (ev.renderFragments again fragments) (ev'.renderFragments again' fragments) := by
  induction fragments with
  | nil => exact .pure _
  | cons f rest ih =>
    refine .bind (h.renderFragment hmay hraises fun name hname =>
      hagain name ⟨f, List.mem_cons_self, hname⟩) fun t => .bind (ih fun name hname => ?_)
      fun _ => .pure _
    obtain ⟨f', hmem, hcall⟩ := hname
    exact hagain name ⟨f', List.mem_cons_of_mem _ hmem, hcall⟩

/-! ### Bodies -/

theorem renderAlternatives (h : Tied L may ev ev') {alternatives : List Alternative}
    (hagain : ∀ name, Alternative.Call may alternatives name → ∀ scope,
      InStep L (again name scope) (again' name scope)) :
    InStep L (ev.renderAlternatives again alternatives)
      (ev'.renderAlternatives again' alternatives) := by
  have hone : ∀ a ∈ alternatives, InStep L (ev.renderFragments again a.fragments)
      (ev'.renderFragments again' a.fragments) := fun a ha =>
    h.renderFragments hmay hraises fun name hname => hagain name ⟨a, ha, hname⟩
  match alternatives, hone with
  | [], _ => exact .bind h.here fun _ => h.throwTemplate (by rintro chain hc; cases hc)
  | [a], hone => exact hone a List.mem_cons_self
  | a :: b :: rest, hone =>
    refine .bind (h.choose _) fun i => hone _ ?_
    cases hi : (a :: b :: rest)[i % (a :: b :: rest).length]? with
    | none => exact List.mem_cons_self
    | some c => exact List.mem_of_getElem? hi

theorem ruleApplies (h : Tied L may ev ev') {r : Rule}
    (hagain : ∀ name, r.Calls may name → ∀ scope,
      InStep L (again name scope) (again' name scope)) :
    InStep L (ev.ruleApplies again r) (ev'.ruleApplies again' r) := by
  unfold Evaluator.ruleApplies
  cases hcondition : r.condition with
  | none => exact .pure _
  | some condition =>
    refine .bind (.attempt (h.evaluateSource hmay hraises fun name hname =>
      hagain name (.inl ⟨condition, hcondition, hname⟩))) fun result => ?_
    match result with
    | .error f => exact .bind h.currentTarget fun _ => .bind (h.record _) fun _ => .pure _
    | .ok (.error message) =>
      exact .bind h.currentTarget fun _ => .bind (h.record _) fun _ => .pure _
    | .ok (.value v) => exact .pure _

theorem renderRules (h : Tied L may ev ev') {rules : List Rule}
    (hagain : ∀ name, (∃ r ∈ rules, r.Calls may name) → ∀ scope,
      InStep L (again name scope) (again' name scope)) :
    InStep L (ev.renderRules again rules) (ev'.renderRules again' rules) := by
  induction rules with
  | nil => exact .pure _
  | cons r rest ih =>
    have hrest : InStep L (ev.renderRules again rest) (ev'.renderRules again' rest) := by
      refine ih fun name hname => hagain name ?_
      obtain ⟨r', hmem, hcall⟩ := hname
      exact ⟨r', List.mem_cons_of_mem _ hmem, hcall⟩
    refine .bind (h.ruleApplies hmay hraises fun name hname =>
      hagain name ⟨r, List.mem_cons_self, hname⟩) fun applies => ?_
    cases applies with
    | false => exact hrest
    | true =>
      cases hbody : r.body with
      | none => simpa only [if_true] using hrest
      | some alternatives =>
        simp only [if_true]
        refine .bind (h.renderAlternatives hmay hraises fun name hname => ?_) fun _ => .pure _
        exact hagain name ⟨r, List.mem_cons_self, .inr ⟨alternatives, hbody, hname⟩⟩

/-- **Bodies are rendered in step** when the templates that they may call are evaluated in
step. -/
theorem renderBody (h : Tied L may ev ev') {b : Body}
    (hagain : ∀ name, b.Calls may name → ∀ scope,
      InStep L (again name scope) (again' name scope)) :
    InStep L (ev.renderBody again b) (ev'.renderBody again' b) := by
  cases b with
  | normal alternatives => exact .bind (h.renderAlternatives hmay hraises hagain) fun _ => .pure _
  | conditional rules => exact h.renderRules hmay hraises hagain

end Tied

/-! ## One run -/

/-- A single run with an invariant, seen as two runs in the same session. -/
def single (P : Session → Prop) (accounted : Session → Failure → Prop) : Link where
  broken _ := False
  related s t := s = t ∧ P s
  accounted := accounted

/-- A computation that keeps the invariant is in step with itself. -/
theorem inStep_single {α : Type} {P : Session → Prop} {accounted : Session → Failure → Prop}
    {x : Evaluation α} (hP : ∀ s, P s → P (x.final s))
    (hkeeps : ∀ s, P s → ∀ f, accounted s f → accounted (x.final s) f)
    (haccounts : ∀ s, P s → ∀ f, x.outcome s = .error f → accounted (x.final s) f) :
    InStep (single P accounted) x x := by
  refine ⟨fun _ h => h, ?_⟩
  rintro s _ ⟨rfl, hs⟩
  exact .inr ⟨rfl, ⟨rfl, hP s hs⟩, hkeeps s hs, haccounts s hs⟩

theorem agreement_of_single {α : Type} {P : Session → Prop} {accounted : Session → Failure → Prop}
    {x y : Evaluation α} (h : InStep (single P accounted) x y) {s : Session} (hs : P s) :
    Agreement (single P accounted) x y s s :=
  (h.agrees s s ⟨rfl, hs⟩).resolve_left id

/-- The sessions differ in their calls, choices and log only. -/
structure SameMarks (s s' : Session) : Prop where
  stack : s'.stack = s.stack
  frames : s'.frames = s.frames
  loops : s'.loops = s.loops

/-- An evaluator is tied to itself by an invariant that says nothing about calls, choices and
log records. -/
theorem tied_single {P : Session → Prop} {accounted : Session → Failure → Prop}
    {may : Text → Text → Prop} (ev : Evaluator)
    (hP : ∀ s s', SameMarks s s' → P s → P s')
    (hkeeps : ∀ s s' f, SameMarks s s' → accounted s f → accounted s' f)
    (haccount : ∀ s, P s → ∀ f, ev.EndsIn may s f → accounted s f) :
    Tied (single P accounted) may ev ev := by
  have hupdate : ∀ mark : Session → Session, (∀ s, SameMarks s (mark s)) →
      InStep (single P accounted) (modify mark) (modify mark) := by
    intro mark hmark
    refine .update (fun _ h => h) ?_ fun s f => hkeeps s _ f (hmark s)
    rintro s _ ⟨rfl, hs⟩
    exact ⟨rfl, hP s _ (hmark s) hs⟩
  refine ⟨?_, fun _ => rfl, fun _ _ => rfl, fun c => hupdate _ fun _ => ⟨rfl, rfl, rfl⟩,
    fun message => hupdate _ fun _ => ⟨rfl, rfl, rfl⟩, fun count => ?_,
    fun s _ hst => haccount s hst.2⟩
  · rintro s _ ⟨rfl, -⟩
    rfl
  · refine ⟨fun _ h => h, ?_⟩
    rintro s _ ⟨rfl, hs⟩
    have hmarks : SameMarks s ((ev.choose count).final s) := ⟨rfl, rfl, rfl⟩
    exact .inr ⟨rfl, ⟨rfl, hP s _ hmarks hs⟩, fun f => hkeeps s _ f hmarks,
      by rintro f hf; cases hf⟩

end Evaluator

end Phrasebook
