import Mathlib.Tactic.Choose
import Phrasebook.Proofs.Rendering.Bond
import Phrasebook.Proofs.Rendering.Course

/-!
# Choices of an evaluation

The random source is asked in one place only, where a body has two or more alternatives.  So an
evaluation follows a course, whatever engine it puts its expressions to: through references, through
templates that an expression calls, and past guards that fail.

* `Evaluator.Charted`: computations that follow a course, with a law for each way of putting them
  together;
* `Evaluator.Charted.renderBody`: bodies follow a course when the templates in them do;
* `Evaluator.charted_evaluate`: whole evaluations follow one;
* `Evaluator.evaluate_choices`: what the choices of an evaluation are, and that nothing else varies.
-/

namespace Phrasebook.Evaluator

open Evaluation

variable {α β : Type} {c : Catalog} {engine : Engine} {σ : List Target}

/-- A computation follows a course on the stack `σ`, whatever the random source is. -/
def Charted (c : Catalog) (engine : Engine) (σ : List Target) (x : RandomSource → Evaluation α) :
    Prop :=
  ∀ s, s.stack = σ → ∃ course : Course α, course.Drawn c engine σ s.choices ∧
    ∀ r, (x r).run s = course.follow r

namespace Charted

/-! ## Ways of putting computations together -/

/-- What makes no choice follows a course. -/
theorem still {x : Evaluation α} (hstack : ∀ s, s.stack = σ → (x.final s).stack = s.stack)
    (hchoices : ∀ s, s.stack = σ → (x.final s).choices = s.choices) :
    Charted c engine σ fun _ => x := by
  intro s hs
  exact ⟨.ends (x.outcome s) (x.final s), .ends ((hstack s hs).trans hs) (hchoices s hs),
    fun _ => rfl⟩

theorem pure (a : α) : Charted c engine σ fun _ => (Pure.pure a : Evaluation α) :=
  still (fun _ _ => rfl) fun _ _ => rfl

theorem throw (f : Failure) : Charted c engine σ fun _ => (MonadExcept.throw f : Evaluation α) :=
  still (fun _ _ => rfl) fun _ _ => rfl

theorem update {f : Session → Session} (hstack : ∀ s, (f s).stack = s.stack)
    (hchoices : ∀ s, (f s).choices = s.choices) :
    Charted c engine σ fun _ => (modify f : Evaluation PUnit) :=
  still (fun s _ => hstack s) fun s _ => hchoices s

theorem currentTarget : Charted c engine σ fun _ => Evaluation.currentTarget := by
  have hsame : ∀ s, Evaluation.currentTarget.final s = s := by
    intro s
    cases hs : s.stack with
    | nil => exact (currentTarget_nil hs).2
    | cons target below => exact (currentTarget_cons hs).2
  exact still (fun s _ => by rw [hsame]) fun s _ => by rw [hsame]

theorem bind {x : RandomSource → Evaluation α} {f : RandomSource → α → Evaluation β}
    (hx : Charted c engine σ x) (hf : ∀ a, Charted c engine σ fun r => f r a) :
    Charted c engine σ fun r => x r >>= f r := by
  intro s hs
  obtain ⟨course, hdrawn, hrun⟩ := hx s hs
  -- a course for what follows each result and failure, from each session with that stack
  have hrest : ∀ (outcome : Except Failure α) (t : Session), ∃ rest : Course β, t.stack = σ →
      rest.Drawn c engine σ t.choices ∧
        ∀ r, (Evaluation.ofExcept outcome >>= f r).run t = rest.follow r := by
    intro outcome t
    by_cases ht : t.stack = σ
    · cases outcome with
      | ok a =>
        obtain ⟨rest, hrest⟩ := hf a t ht
        exact ⟨rest, fun _ => hrest⟩
      | error e => exact ⟨.ends (.error e) t, fun ht => ⟨.ends ht rfl, fun _ => rfl⟩⟩
    · exact ⟨.ends (.error .wrongType) t, fun ht' => absurd ht' ht⟩
  choose rest hrest using hrest
  refine ⟨course.andThen rest, hdrawn.andThen fun outcome t ht => (hrest outcome t ht).1,
    fun r => ?_⟩
  have hstack := (hdrawn.follow_end r).1
  rw [Course.follow_andThen, ← (hrest _ _ hstack).2 r, ← hrun r, Evaluation.run_bind]
  change _ = (Evaluation.ofExcept ((x r).outcome s) >>= f r).run ((x r).final s)
  cases (x r).outcome s <;> rfl

theorem attempt {x : RandomSource → Evaluation α} (hx : Charted c engine σ x) :
    Charted c engine σ fun r => Evaluation.attempt (x r) := by
  intro s hs
  obtain ⟨course, hdrawn, hrun⟩ := hx s hs
  refine ⟨course.andThen fun outcome t => .ends (.ok outcome) t,
    hdrawn.andThen fun outcome t ht => .ends ht rfl, fun r => ?_⟩
  rw [Course.follow_andThen, ← hrun r]
  rfl

/-- Dialogues follow a course when the calls that they make do. -/
theorem carryOut {call : RandomSource → Text → List Value → Evaluation Text}
    (hcall : ∀ name args, Charted c engine σ fun r => call r name args) (d : Dialogue α) :
    Charted c engine σ fun r => Evaluation.carryOut (call r) d := by
  induction d with
  | done a => exact pure a
  | fail f => exact throw f
  | ask template args resume ih => exact bind (attempt (hcall template args)) ih

/-! ## Templates and errors -/

theorem templateNamed (name : Text) :
    Charted c engine σ fun r => Evaluator.templateNamed ⟨c, engine, r⟩ name := by
  unfold Evaluator.templateNamed
  dsimp only
  cases c.find? name with
  | none => exact throw _
  | some t => exact pure t

theorem currentTemplate : Charted c engine σ fun r => Evaluator.currentTemplate ⟨c, engine, r⟩ :=
  bind currentTarget fun target => templateNamed target.name

theorem here : Charted c engine σ fun r => Evaluator.here ⟨c, engine, r⟩ :=
  bind currentTarget fun _ => bind currentTemplate fun _ => pure _

theorem notFound (name : Text) :
    Charted c engine σ fun r => Evaluator.notFound ⟨c, engine, r⟩ name := by
  have hget : Charted c engine σ fun _ => (get : Evaluation Session) :=
    still (fun _ _ => rfl) fun _ _ => rfl
  refine bind hget fun s => ?_
  cases s.stack with
  | nil => exact pure _
  | cons target below => exact bind currentTemplate fun _ => pure _

theorem require (name : Text) :
    Charted c engine σ fun r => Evaluator.require ⟨c, engine, r⟩ name := by
  unfold Evaluator.require
  by_cases hhas : c.has name = true
  · simp only [if_pos hhas]
    exact pure _
  · simp only [if_neg hhas]
    exact bind (notFound name) fun e => throw _

theorem throwExpressionError (what source outcome : Text) :
    Charted c engine σ fun r => (Evaluator.expressionError ⟨c, engine, r⟩ what source outcome >>=
      fun e => MonadExcept.throw (.template e) : Evaluation α) :=
  bind (bind here fun _ => pure _) fun _ => throw _

theorem constructScope (name : Text) (args : List Value) :
    Charted c engine σ fun r => Evaluator.constructScope ⟨c, engine, r⟩ name args := by
  unfold Evaluator.constructScope
  cases args with
  | nil => exact bind currentTarget fun _ => pure _
  | cons v args => exact bind (templateNamed name) fun t => by dsimp only; split <;> exact pure _

/-! ## Expressions and references -/

section

variable (hagain : ∀ name scope, Charted c engine σ fun r => evaluate ⟨c, engine, r⟩ name scope)

include hagain

theorem callTemplate (name : Text) (args : List Value) : Charted c engine σ fun r =>
    Evaluator.callTemplate ⟨c, engine, r⟩ (evaluate ⟨c, engine, r⟩) name args :=
  bind (constructScope name args) fun scope => bind (hagain name scope) fun _ => pure _

theorem evaluateSource (source : Text) : Charted c engine σ fun r =>
    Evaluator.evaluateSource ⟨c, engine, r⟩ (evaluate ⟨c, engine, r⟩) source :=
  bind currentTarget fun target => bind (update (fun _ => rfl) fun _ => rfl) fun _ =>
    carryOut (callTemplate hagain) (engine c.has source target.scope)

theorem renderExpression (source : Text) : Charted c engine σ fun r =>
    Evaluator.renderExpression ⟨c, engine, r⟩ (evaluate ⟨c, engine, r⟩) source := by
  have hwritten : ∀ v : Value,
      Charted c engine σ fun _ => Evaluation.ofExcept (Fault.orFail v.written) := by
    intro v
    cases Fault.orFail v.written with
    | ok t => exact pure t
    | error f => exact throw f
  refine bind (evaluateSource hagain source) fun result => ?_
  cases result with
  | error message => exact throwExpressionError _ _ _
  | value v =>
    cases v with
    | null => exact throwExpressionError _ _ _
    | _ => exact hwritten _

theorem evaluateArguments (sources : List Text) : Charted c engine σ fun r =>
    Evaluator.evaluateArguments ⟨c, engine, r⟩ (evaluate ⟨c, engine, r⟩) sources := by
  induction sources with
  | nil => exact pure _
  | cons source rest ih =>
    refine bind (evaluateSource hagain source) fun result => ?_
    cases result with
    | error message => exact throwExpressionError _ _ _
    | value v => exact bind ih fun _ => pure _

theorem renderReference (reference : Reference) : Charted c engine σ fun r =>
    Evaluator.renderReference ⟨c, engine, r⟩ (evaluate ⟨c, engine, r⟩) reference := by
  cases reference with
  | plain name => exact bind currentTarget fun target => bind (hagain name _) fun _ => pure _
  | applied name arguments =>
    exact bind (require name) fun _ => bind (evaluateArguments hagain _) fun args =>
      callTemplate hagain name args
  | malformed text => exact bind here fun _ => throw _

/-! ## Alternatives -/

theorem renderBlock (pieces : List BlockPiece) : Charted c engine σ fun r =>
    Evaluator.renderBlock ⟨c, engine, r⟩ (evaluate ⟨c, engine, r⟩) pieces := by
  induction pieces with
  | nil => exact pure _
  | cons piece rest ih =>
    cases piece with
    | literal t => exact bind ih fun _ => pure _
    | expression source =>
      exact bind (renderExpression hagain source) fun _ => bind ih fun _ => pure _

theorem renderFragment (f : Fragment) : Charted c engine σ fun r =>
    Evaluator.renderFragment ⟨c, engine, r⟩ (evaluate ⟨c, engine, r⟩) f := by
  unfold Evaluator.renderFragment
  cases f.kind with
  | expression => exact renderExpression hagain _
  | reference => exact renderReference hagain _
  | multiLine => exact renderBlock hagain _
  | _ => exact pure _

theorem renderFragments (fragments : List Fragment) : Charted c engine σ fun r =>
    Evaluator.renderFragments ⟨c, engine, r⟩ (evaluate ⟨c, engine, r⟩) fragments := by
  induction fragments with
  | nil => exact pure _
  | cons f rest ih => exact bind (renderFragment hagain f) fun _ => bind ih fun _ => pure _

/-! ## Bodies -/

/-- **Where alternatives are chosen from, the course has a draw.** -/
theorem renderAlternatives {alternatives : List Alternative} (hoffers : c.Offers σ alternatives) :
    Charted c engine σ fun r =>
      Evaluator.renderAlternatives ⟨c, engine, r⟩ (evaluate ⟨c, engine, r⟩) alternatives := by
  match alternatives, hoffers with
  | [], _ => exact bind here fun _ => throw _
  | [a], _ => exact renderFragments hagain a.fragments
  | a :: b :: more, hoffers =>
    intro s hs
    let alternatives := a :: b :: more
    have hpicked : ∀ i, ∃ picked, alternatives[i % alternatives.length]? = some picked := fun i =>
      ⟨_, List.getElem?_eq_getElem (Nat.mod_lt i (List.length_pos_of_mem List.mem_cons_self))⟩
    choose picked hpicked using hpicked
    choose inner hdrawn hrun using fun i => renderFragments hagain (picked i).fragments
      { s with choices := s.choices ++ [alternatives.length] } hs
    have hinner : ∀ i a' r, alternatives[i % alternatives.length]? = some a' →
        a'.rendered c engine s alternatives.length r = (inner i).follow r := by
      intro i a' r ha'
      obtain rfl : picked i = a' := Option.some.inj ((hpicked i).symm.trans ha')
      exact hrun i r
    have hends : ∀ (outcome : Except Failure Text) (s' : Session), s'.stack = s.stack →
        (Course.ends outcome s').Drawn c engine σ s'.choices :=
      fun _ _ hs' => .ends (hs'.trans hs) rfl
    have hmany : 2 ≤ alternatives.length := by
      rw [List.length_cons, List.length_cons]
      omega
    refine ⟨.draws s alternatives inner, .draws (hs ▸ hoffers) hmany hinner hends
      (fun i => (Course.andThen_ends _).symm) hdrawn, fun r => ?_⟩
    have hindex := hrun (r s.choices.length alternatives.length) r
    have hfragments := congrArg (fun o : Option Alternative => (o.getD a).fragments)
      (hpicked (r s.choices.length alternatives.length))
    dsimp only at hindex hfragments
    rw [Option.getD_some] at hfragments
    rw [← hfragments] at hindex
    exact hindex

theorem ruleApplies (rule : Rule) : Charted c engine σ fun r =>
    Evaluator.ruleApplies ⟨c, engine, r⟩ (evaluate ⟨c, engine, r⟩) rule := by
  have hrecord : ∀ message, Charted c engine σ fun _ => Evaluation.record message :=
    fun _ => update (fun _ => rfl) fun _ => rfl
  unfold Evaluator.ruleApplies
  cases rule.condition with
  | none => exact pure _
  | some condition =>
    refine bind (attempt (evaluateSource hagain _)) fun outcome => ?_
    match outcome with
    | .error f => exact bind currentTarget fun _ => bind (hrecord _) fun _ => pure _
    | .ok (.error message) => exact bind currentTarget fun _ => bind (hrecord _) fun _ => pure _
    | .ok (.value v) => exact pure _

theorem renderRules {rules : List Rule}
    (hoffers : ∀ rule ∈ rules, ∀ alternatives, rule.body = some alternatives →
      c.Offers σ alternatives) : Charted c engine σ fun r =>
    Evaluator.renderRules ⟨c, engine, r⟩ (evaluate ⟨c, engine, r⟩) rules := by
  induction rules with
  | nil => exact pure _
  | cons rule rest ih =>
    have hrest := ih fun later hlater => hoffers later (List.mem_cons_of_mem _ hlater)
    refine bind (ruleApplies hagain rule) fun applies => ?_
    cases applies with
    | false => exact hrest
    | true =>
      cases hbody : rule.body with
      | none => simpa only [if_true] using hrest
      | some alternatives =>
        have hrender := renderAlternatives hagain (hoffers rule List.mem_cons_self _ hbody)
        simpa only [if_true] using bind hrender fun t => pure (some t)

/-- **Bodies follow a course** when the templates that are evaluated in them do. -/
theorem renderBody {target : Target} {below : List Target} {t : Template}
    (hσ : σ = target :: below) (hfind : c.find? target.name = some t) : Charted c engine σ fun r =>
    Evaluator.renderBody ⟨c, engine, r⟩ (evaluate ⟨c, engine, r⟩) t.body := by
  have hoffers : ∀ alternatives, t.body.Offers alternatives → c.Offers σ alternatives :=
    fun alternatives h => ⟨target, below, t, hσ, hfind, h⟩
  cases hbody : t.body with
  | normal alternatives =>
    rw [hbody] at hoffers
    exact bind (renderAlternatives hagain (hoffers alternatives rfl)) fun _ => pure _
  | conditional rules =>
    rw [hbody] at hoffers
    exact renderRules hagain fun rule hrule alternatives h => hoffers alternatives ⟨rule, hrule, h⟩

end

end Charted

/-! ## Whole evaluations -/

/-- A step that is refused makes no choice, and one that is not follows the course of the body. -/
theorem charted_enter {name : Text} {scope : Value}
    (hbody : ∀ t, c.find? name = some t → (∀ u ∈ σ, u.name ≠ name) →
      Charted c engine (⟨name, scope⟩ :: σ) fun r =>
        renderBody ⟨c, engine, r⟩ (evaluate ⟨c, engine, r⟩) t.body) :
    Charted c engine σ fun r => enter ⟨c, engine, r⟩ (evaluate ⟨c, engine, r⟩) name scope := by
  rintro s rfl
  -- whether the template can be entered is told without the source
  have hrefused : ∀ f, (∀ r, (check ⟨c, engine, r⟩ name).outcome s = .error f) → ∀ s',
      (∀ r, (check ⟨c, engine, r⟩ name).final s = s') → s'.stack = s.stack →
      s'.choices = s.choices → ∃ course : Course (Option Text),
        course.Drawn c engine s.stack s.choices ∧ ∀ r,
          (enter ⟨c, engine, r⟩ (evaluate ⟨c, engine, r⟩) name scope).run s = course.follow r := by
    intro f hf s' hs' hstack hchoices
    refine ⟨.ends (.error f) s', .ends hstack hchoices, fun r => run_eq_iff.2 ?_⟩
    obtain ⟨hout, hfinal⟩ := enter_refused ⟨c, engine, r⟩ (hf r) (evaluate ⟨c, engine, r⟩) scope
    exact ⟨hout, hfinal.trans (hs' r)⟩
  cases hfind : c.find? name with
  | none =>
    obtain ⟨hfinal, f, hf, -⟩ := check_unknown ⟨c, engine, fun _ _ => 0⟩ hfind s
    exact hrefused f (fun _ => hf) s (fun _ => hfinal) rfl rfl
  | some t =>
    by_cases hon : s.IsOn name
    · obtain ⟨hout, hfinal⟩ := check_loop ⟨c, engine, fun _ _ => 0⟩ hfind hon
      exact hrefused _ (fun _ => hout) _ (fun _ => hfinal) rfl rfl
    · have hfree : ∀ u ∈ s.stack, u.name ≠ name := fun u hu hname => hon ⟨u, hu, hname⟩
      obtain ⟨course, hdrawn, hrun⟩ := hbody t hfind hfree (bodySession s name scope) rfl
      refine ⟨course.andThen fun outcome s' => .ends outcome { s' with stack := s'.stack.tail },
        hdrawn.andThen fun outcome s' hs' => .ends ?_ rfl, fun r => ?_⟩
      · show s'.stack.tail = _
        rw [hs', List.tail_cons]
      · obtain ⟨hout, hfinal⟩ :=
          enter_free ⟨c, engine, r⟩ hfind hon (evaluate ⟨c, engine, r⟩) scope
        rw [Course.follow_andThen, ← hrun r]
        exact run_eq_iff.2 ⟨hout, hfinal⟩

/-- **Evaluations follow a course.** -/
theorem charted_evaluate (k : Nat) : ∀ σ, budget ⟨c, engine, fun _ _ => 0⟩ σ < k →
    ∀ name scope, Charted c engine σ fun r => evaluate ⟨c, engine, r⟩ name scope := by
  -- the budget bounds how many templates can be entered above the stack
  induction k with
  | zero => exact fun σ hk => absurd hk (Nat.not_lt_zero _)
  | succ k ih =>
    intro σ hk name scope
    have henter : (fun r => evaluate ⟨c, engine, r⟩ name scope) =
        fun r => enter ⟨c, engine, r⟩ (evaluate ⟨c, engine, r⟩) name scope :=
      funext fun r => evaluate_eq_enter ⟨c, engine, r⟩ name scope
    rw [henter]
    refine charted_enter fun t hfind hfree => Charted.renderBody (ih _ ?_) rfl hfind
    have hless : budget ⟨c, engine, fun _ _ => 0⟩ (⟨name, scope⟩ :: σ) <
        budget ⟨c, engine, fun _ _ => 0⟩ σ :=
      budget_cons_lt ⟨c, engine, fun _ _ => 0⟩ (has_of_find? hfind) hfree
    omega

/-- **Randomness enters through choices only.**  For every catalog, engine, template and scope, and
every session that an evaluation is made in:

* Two random sources that give the same index at each choice that the evaluation makes with the
  first one lead to the same outcome and the same session, with its choices and calls.
* Each choice is one of two or more alternatives that the innermost template offers at that moment;
  the alternative at the index is rendered, and so each of them can be made to be.
* Where no body and no rule of the catalog has two alternatives, no choice is made, and every source
  leads to the same. -/
theorem evaluate_choices (c : Catalog) (engine : Engine) (name : Text) (scope : Value)
    (s : Session) :
    let run : RandomSource → Except Failure (Option Text) × Session :=
      fun r => (evaluate ⟨c, engine, r⟩ name scope).run s
    (∀ r r', (∀ k n, s.choices.length ≤ k → (run r).2.choices[k]? = some n → r' k n = r k n) →
      run r' = run r) ∧
    (∀ r k n, s.choices.length ≤ k → (run r).2.choices[k]? = some n →
      IsChoice c engine s.stack s.choices run r k n) ∧
    ((∀ t ∈ c.templates, ∀ alternatives, t.body.Offers alternatives → alternatives.length ≤ 1) →
      ∀ r r', (run r).2.choices = s.choices ∧ run r' = run r) := by
  intro run
  have hcharted : Charted c engine s.stack fun r => evaluate ⟨c, engine, r⟩ name scope :=
    charted_evaluate _ s.stack (Nat.lt_succ_self _) name scope
  obtain ⟨course, hdrawn, hcourse⟩ := hcharted s rfl
  have hrun : run = fun r => course.follow r := funext hcourse
  rw [hrun]
  exact ⟨fun _ _ hsame => hdrawn.follow_congr hsame, fun _ _ _ hk hn => hdrawn.isChoice hk hn,
    hdrawn.no_choices⟩

/-- A guard calls a template that chooses, and then the host chooses: the first index is that of the
template, although nothing of it is rendered, and the second one decides on the text. -/
example :
    let line : Text → Alternative := fun text => ⟨[⟨.text, text, ⟨1, 1⟩⟩], 1⟩
    let pair := [line "x", line "y"]
    let guarded : Rule := ⟨.ifWord, some "\x7ba()\x7d".toList, some pair, 1⟩
    let c : Catalog :=
      ⟨[⟨"m", [], .conditional [guarded], "d", 1⟩, ⟨"a", [], .normal pair, "d", 2⟩], by decide⟩
    let run := fun indexes : List Nat =>
      (evaluate ⟨c, .sandboxed .empty [], fun turn _ =>
        indexes.getD turn 0⟩ "m" .null).run .fresh
    (run [0, 1]).1.toOption = some (some "y".toList) ∧ (run [0, 1]).2.choices = [2, 2] ∧
      (run [1, 0]).1.toOption = some (some "x".toList) := by
  decide +kernel

end Phrasebook.Evaluator
