import Phrasebook.Proofs.Expression.Congruence
import Phrasebook.Proofs.Rendering.Guards
import Phrasebook.Proofs.Rendering.History

/-!
# Templates shadow functions

Whatever is called by its name alone is looked for among the templates first, then among the
registered functions and the built-in ones.  Every expression of a template is put to the engine
with the names of all templates, so a function that has the name of a template is never run.

* `Registry.SameBut`: registries that differ under one name only;
* `Engine.sandboxed_sameBut`: an expression, where that name is the name of a template;
* `Evaluation.carryOut_bind`, `Evaluation.carryOut_attempt`: dialogues carried out one after another;
* `Evaluator.BareCall`: a call of a template by its name alone, as it is carried out;
* `Evaluator.evaluate_shadowed`: whole evaluations, and what the four kinds of expressions run.
-/

namespace Phrasebook

namespace Registry

variable {F F' : Registry} {n : Text}

/-- The same functions are registered, except for one name. -/
def SameBut (n : Text) (F F' : Registry) : Prop :=
  ∀ name, name ≠ n →
    (F.find? (·.1 = name)).map (·.2) = (F'.find? (·.1 = name)).map (·.2)

/-- A registry without a name. -/
def without (F : Registry) (n : Text) : Registry := F.filter (·.1 ≠ n)

theorem sameBut_without (F : Registry) (n : Text) : F.SameBut n (F.without n) := by
  intro name hname
  have hboth : (fun e : Text × Text =>
      decide (decide (e.1 ≠ n) = true ∧ decide (e.1 = name) = true)) =
        fun e => decide (e.1 = name) := by
    funext e
    by_cases he : e.1 = name <;> simp [he, hname]
  rw [without, List.find?_filter, hboth]

theorem sameBut_register {v : Value} (h : F.register n v = .ok F') : F.SameBut n F' := by
  intro name hname
  obtain ⟨f, -, hfind⟩ := find?_register h
  rw [hfind, if_neg (Ne.symm hname), Option.none_or]

end Registry

/-! ## One expression -/

/-- A name that is called means a template, a registered function or a built-in function, in this
order. -/
theorem Context.callee_eq (ctx : Context) (id : Text) : ctx.callee id =
    if isHidden id then .error (.refused ("Name '" ++ id ++ "' is not permitted"))
    else if ctx.known id then .ok (.template id)
    else match (ctx.functions.find? (·.1 = id)).map (·.2) with
      | some f => .ok (.host f)
      | none => if isBuiltin id then .ok (.builtin id)
        else .error (.refused ("Unknown function '" ++ id ++ "'")) := by
  unfold callee
  cases ctx.functions.find? (·.1 = id) <;> rfl

/-- **A function with the name of a template makes no difference** to an expression. -/
theorem Engine.sandboxed_sameBut (lib : Library) {F F' : Registry} {known : Text → Bool} {n : Text}
    (hF : F.SameBut n F') (hn : known n = true) (source : Text) (scope : Value) :
    sandboxed lib F known source scope = sandboxed lib F' known source scope := by
  have hcallee : ∀ id, Context.callee ⟨scope, F, lib, known⟩ id =
      Context.callee ⟨scope, F', lib, known⟩ id := by
    intro id
    rw [Context.callee_eq, Context.callee_eq]
    by_cases hid : id = n
    · rw [hid, if_pos hn, if_pos hn]
    · dsimp only
      rw [hF id hid]
  refine sandboxed_of_sameEval fun e _ => Expr.sameEval_of_parts e (.inl rfl) (fun id _ => ?_) ?_
  · unfold Expr.SameEval
    rw [Expr.eval, Expr.eval]
    rfl
  · intro callee args keywords _ howner hargs hkeywords
    exact Expr.sameEval_call rfl (fun id _ => hcallee id) howner hargs hkeywords

theorem isHidden_of_isBuiltin {n : Text} (h : isBuiltin n = true) : Context.isHidden n = false := by
  have hnames : ∀ name ∈ builtinNames, Context.isHidden name.toList = false := by decide
  obtain ⟨name, hmem, hname⟩ := List.any_eq_true.1 h
  rw [← of_decide_eq_true hname]
  exact hnames name hmem

/-- **A call of a template**, wherever it stands in an expression: its arguments are evaluated, and
the template is asked for. -/
theorem Expr.eval_call_template {ctx : Context} {n : Text} (hn : ctx.known n = true)
    (hvisible : Context.isHidden n = false) (args : List Expr)
    (keywords : List (Option Text × Expr)) :
    eval ctx (call (name n) args keywords) = (do
      let items ← evalItems ctx args
      let args ← evalKeywords ctx (.ofList items) keywords
      (Callee.template n).run ctx.library args) := by
  have hcallee : ctx.callee n = .ok (.template n) := by
    rw [Context.callee, hvisible, if_neg Bool.false_ne_true, if_pos hn]
  rw [eval, evalCallee, hcallee]
  rfl

/-- The standard engine evaluates the expression that it reads. -/
theorem Engine.sandboxed_of_read (lib : Library) (functions : Registry) (known : Text → Bool)
    {source : Text} {e : Expr} (hread : Expr.ofText? (Text.trim source) = some e)
    (hplain : '\x00' ∉ Text.trim source) (scope : Value) :
    sandboxed lib functions known source scope =
      (e.eval ⟨scope, functions, lib, known⟩).attempt >>= settle := by
  have hne : Text.trim source ≠ [] := by
    intro hnil
    rw [hnil] at hread
    cases hread
  have hnull : (Text.trim source).contains '\x00' = false := by
    rw [List.contains_eq_mem, decide_eq_false_iff_not]
    exact hplain
  unfold sandboxed
  simp only [if_neg hne, hnull, Bool.false_eq_true, if_false, hread]

/-! ## Carrying out dialogues -/

namespace Evaluation

variable {α β : Type} (call : Text → List Value → Evaluation Text)

/-- A dialogue after another one is carried out after it. -/
theorem carryOut_bind (d : Dialogue α) (next : α → Dialogue β) :
    carryOut call (d >>= next) = carryOut call d >>= fun a => carryOut call (next a) := by
  induction d with
  | done a => exact (pure_bind a fun a => carryOut call (next a)).symm
  | fail f => rfl
  | ask template args resume ih =>
    show (attempt (call template args) >>= fun answer =>
      carryOut call (resume answer >>= next)) = _
    rw [carryOut, bind_assoc]
    exact congrArg _ (funext ih)

/-- A dialogue that hands over its failure is carried out as an attempt. -/
theorem carryOut_attempt (d : Dialogue α) :
    carryOut call d.attempt = attempt (carryOut call d) := by
  induction d with
  | done a => rfl
  | fail f => rfl
  | ask template args resume ih =>
    show (attempt (call template args) >>= fun answer => carryOut call (resume answer).attempt) = _
    rw [carryOut, funext ih]
    rfl

end Evaluation

namespace Evaluator

open Evaluation

/-! ## Bare calls -/

/-- In a session, `source` is put to the engine and read as a call of `n` by its name alone.  The
arguments have values, and evaluating the template `n` with them gives `answer`. -/
inductive BareCall (ev : Evaluator) (lib : Library) (F : Registry) (n : Text) (scope : Value)
    (source : Text) (s : Session) (answer : Except Failure Text) (s' : Session) : Prop
  | intro {args : List Expr} {vs : List Value} {s₁ : Session} (hplain : '\x00' ∉ Text.trim source)
      (hread : Expr.ofText? (Text.trim source) = some (.call (.name n) args []))
      (hargs : (carryOut (ev.callTemplate ev.evaluate)
        (Expr.evalItems ⟨scope, F, lib, ev.catalog.has⟩ args)).run
          { s with calls := s.calls ++ [(source, scope)] } = (.ok vs, s₁))
      (hanswer : (ev.callTemplate ev.evaluate n vs).run s₁ = (answer, s'))

/-- Where a call gives a text, it stands for the text: it is rendered as a span and in a block, it is
a guard that holds, and it is a value among the arguments. -/
structure StandsFor (ev : Evaluator) (source : Text) (s : Session) (t : Text) (s' : Session) :
    Prop where
  span : ∀ f : Fragment, f.kind = .expression → stripBraces f.text = source →
    (ev.renderFragment ev.evaluate f).run s = (.ok t, s')
  guard : ∀ (r : Rule) (condition : Text), r.condition = some condition →
    stripBraces condition = source → (ev.ruleApplies ev.evaluate r).run s = (.ok true, s')
  argument : ∀ rest, (ev.evaluateArguments ev.evaluate (source :: rest)).run s =
    (do return .text t :: (← ev.evaluateArguments ev.evaluate rest) : Evaluation _).run s'
  block : ∀ rest, (ev.renderBlock ev.evaluate (.expression source :: rest)).run s =
    (do return t ++ (← ev.renderBlock ev.evaluate rest) : Evaluation _).run s'

/-- Where a call fails with an error of the language, all of these fail with it, but for a guard,
which does not hold. -/
structure FailsWith (ev : Evaluator) (source : Text) (s : Session) (e : TemplateError)
    (s' : Session) : Prop where
  span : ∀ f : Fragment, f.kind = .expression → stripBraces f.text = source →
    (ev.renderFragment ev.evaluate f).run s = (.error (.template e), s')
  guard : ∀ (r : Rule) (condition : Text), r.condition = some condition →
    stripBraces condition = source → ∃ message,
      (ev.ruleApplies ev.evaluate r).run s = (.ok false, s'.noted message)
  argument : ∀ rest, (ev.evaluateArguments ev.evaluate (source :: rest)).run s =
    (.error (.template e), s')
  block : ∀ rest, (ev.renderBlock ev.evaluate (.expression source :: rest)).run s =
    (.error (.template e), s')

section

variable {ev : Evaluator} {source : Text} {s s' : Session} {target : Target} {below : List Target}
  {t : Text} {e : TemplateError}

/-- An expression whose value is a text stands for it. -/
theorem standsFor_of_ask (hs : s.stack = target :: below)
    (hask : (ev.ask target.scope source).run s = (.ok (.value (.text t)), s')) :
    ev.StandsFor source s t s' := by
  obtain ⟨hout, hfinal⟩ := run_source hs hask
  have hspan : (ev.renderExpression ev.evaluate source).run s = (.ok t, s') := by
    unfold renderExpression
    rw [Evaluation.run_bind, hout, hfinal]
    rfl
  obtain ⟨hspanOut, hspanFinal⟩ := run_eq_iff.1 hspan
  constructor
  · rintro f hkind rfl
    rw [renderFragment, hkind]
    exact hspan
  · rintro r condition hr rfl
    rw [ruleApplies_guarded hs hr hask]
    rfl
  · intro rest
    rw [evaluateArguments, Evaluation.run_bind, hout, hfinal]
  · intro rest
    rw [renderBlock, Evaluation.run_bind, hspanOut, hspanFinal]

theorem failsWith_of_ask (hs : s.stack = target :: below)
    (hask : (ev.ask target.scope source).run s = (.error (.template e), s')) :
    ev.FailsWith source s e s' := by
  obtain ⟨hout, hfinal⟩ := run_source hs hask
  have hspan : (ev.renderExpression ev.evaluate source).run s = (.error (.template e), s') := by
    unfold renderExpression
    rw [Evaluation.run_bind, hout, hfinal]
  obtain ⟨hspanOut, hspanFinal⟩ := run_eq_iff.1 hspan
  constructor
  · rintro f hkind rfl
    rw [renderFragment, hkind]
    exact hspan
  · rintro r condition hr rfl
    rw [ruleApplies_guarded hs hr hask]
    exact ⟨_, rfl⟩
  · intro rest
    rw [evaluateArguments, Evaluation.run_bind, hout, hfinal]
  · intro rest
    rw [renderBlock, Evaluation.run_bind, hspanOut, hspanFinal]

end

/-- **What the engine gives for a bare call** is what it makes of the text of the template, or of the
failure. -/
theorem BareCall.run_ask {ev : Evaluator} {lib : Library} {F : Registry} {n source : Text}
    {scope : Value} {s s' : Session} {answer : Except Failure Text}
    (hengine : ev.engine = .sandboxed lib F) (hn : ev.catalog.has n = true)
    (hvisible : Context.isHidden n = false) (h : ev.BareCall lib F n scope source s answer s') :
    (ev.ask scope source).run s =
      (carryOut (ev.callTemplate ev.evaluate)
        (Engine.settle ((answer.map Value.text).mapError Callee.failed))).run s' := by
  obtain @⟨args, vs, s₁, hplain, hread, hargs, hanswer⟩ := h
  obtain ⟨hout, hfinal⟩ := run_eq_iff.1 hargs
  obtain ⟨hout', hfinal'⟩ := run_eq_iff.1 hanswer
  let ctx : Context := ⟨scope, F, lib, ev.catalog.has⟩
  have heval : Expr.eval ctx (.call (.name n) args []) = Expr.evalItems ctx args >>= fun items =>
      .ask n items fun answer =>
        .ofExcept ((answer.map Value.text).mapError Callee.failed) := by
    have hknown : ctx.known n = true := hn
    rw [Expr.eval_call_template hknown hvisible]
    simp only [Expr.evalKeywords]
    rfl
  have hcall : (carryOut (ev.callTemplate ev.evaluate)
      (Expr.eval ctx (.call (.name n) args []))).run
        { s with calls := s.calls ++ [(source, scope)] } =
          ((answer.map Value.text).mapError Callee.failed, s') := by
    rw [heval, carryOut_bind, Evaluation.run_bind, hout, hfinal]
    dsimp only
    rw [carryOut, Evaluation.run_bind, outcome_attempt, final_attempt, hout', hfinal']
    cases answer <;> rfl
  obtain ⟨hresult, hleft⟩ := run_eq_iff.1 hcall
  unfold ask
  rw [Evaluation.run_bind, outcome_modify, final_modify, hengine,
    Engine.sandboxed_of_read lib F _ hread hplain scope]
  dsimp only
  rw [carryOut_bind, carryOut_attempt, Evaluation.run_bind, outcome_attempt, final_attempt, hresult,
    hleft]

/-! ## Whole evaluations -/

/-- Functions with the name of a template make no difference to an evaluation. -/
theorem evaluate_sameBut (c : Catalog) (lib : Library) {F F' : Registry} (random : RandomSource)
    {n : Text} (hn : c.has n = true) (hF : F.SameBut n F') (name : Text) (scope : Value)
    (s : Session) :
    let x := evaluate ⟨c, .sandboxed lib F, random⟩ name scope
    let x' := evaluate ⟨c, .sandboxed lib F', random⟩ name scope
    x.outcome s = x'.outcome s ∧ (x.final s).choices = (x'.final s).choices ∧
      (x.final s).calls = (x'.final s).calls := by
  intro x x'
  let ev : Evaluator := ⟨c, .sandboxed lib F, random⟩
  let ev' : Evaluator := ⟨c, .sandboxed lib F', random⟩
  have hfind : ∀ callee, ev.catalog.find? callee = ev'.catalog.find? callee := fun _ => rfl
  have hengine : ∀ source scope,
      ev.engine ev.catalog.has source scope = ev'.engine ev'.catalog.has source scope :=
    fun source scope => Engine.sandboxed_sameBut lib hF hn source scope
  obtain ⟨houtcome, hparallel⟩ :=
    evaluate_alongside hfind hengine (fun _ _ => rfl) (Eq.refl s.names) name scope (.inl rfl)
  exact ⟨houtcome, hparallel.choices_eq rfl, hparallel.calls_eq rfl⟩

/-- **Templates shadow functions.**  For every catalog, every registry and every name of a template:

* Every evaluation has the same outcome and makes the same choices and the same calls of the engine,
  in every scope and session, whether a function is registered under that name, another one, or
  none.
* Where the name is that of a built-in function, or any other that is not hidden, a call of it by its
  name alone evaluates its arguments and asks for the template, wherever it stands in an expression.
  A whole expression of that kind stands for the text of the template in spans, guards, arguments
  and blocks alike, or fails with its error, whatever templates are being evaluated. -/
theorem evaluate_shadowed (c : Catalog) (lib : Library) (F : Registry) (random : RandomSource)
    {n : Text} (hn : c.has n = true) :
    (∀ F', (F' = F.without n ∨ ∃ f, F.register n f = .ok F') → ∀ name scope s,
      let x := evaluate ⟨c, .sandboxed lib F, random⟩ name scope
      let x' := evaluate ⟨c, .sandboxed lib F', random⟩ name scope
      x.outcome s = x'.outcome s ∧ (x.final s).choices = (x'.final s).choices ∧
        (x.final s).calls = (x'.final s).calls) ∧
    ((isBuiltin n = true ∨ Context.isHidden n = false) →
      let ev : Evaluator := ⟨c, .sandboxed lib F, random⟩
      (∀ scope args keywords,
        Expr.eval ⟨scope, F, lib, c.has⟩ (.call (.name n) args keywords) = (do
          let items ← Expr.evalItems ⟨scope, F, lib, c.has⟩ args
          let args ← Expr.evalKeywords ⟨scope, F, lib, c.has⟩ (.ofList items) keywords
          (Callee.template n).run lib args)) ∧
      ∀ source target below s answer s', s.stack = target :: below →
        ev.BareCall lib F n target.scope source s answer s' →
        (∀ t, answer = .ok t → ev.StandsFor source s t s') ∧
          ∀ e, answer = .error (.template e) → ev.FailsWith source s e s') := by
  refine ⟨fun F' hF' => evaluate_sameBut c lib random hn ?_, fun hvisible => ?_⟩
  · rcases hF' with rfl | ⟨f, hf⟩
    · exact F.sameBut_without n
    · exact Registry.sameBut_register hf
  · have hvisible : Context.isHidden n = false := hvisible.elim isHidden_of_isBuiltin id
    refine ⟨fun scope args keywords => Expr.eval_call_template hn hvisible args keywords, ?_⟩
    intro source target below s answer s' hs hcall
    have hask := hcall.run_ask rfl hn hvisible
    constructor
    · rintro t rfl
      exact standsFor_of_ask hs hask
    · rintro e rfl
      exact failsWith_of_ask hs hask

/-- A template with the name of a built-in function, which a function is registered under too. -/
theorem evaluate_shadowed_builtin :
    ∃ (ev ev' : Evaluator) (lib : Library) (F : Registry) (s s' : Session),
      isBuiltin "len".toList = true ∧ F = [("len".toList, "shout".toList)] ∧
      ev.engine = .sandboxed lib F ∧
      ev' = ⟨ev.catalog, .sandboxed lib (F.without "len"), ev.random⟩ ∧
      ((ev'.evaluate "m" .null).outcome .fresh).toOption = some (some "n".toList) ∧
      ev.StandsFor "len()".toList s "n".toList s' := by
  let callee : Template := ⟨"len", [], .normal [⟨[⟨.text, "n", ⟨4, 2⟩⟩], 4⟩], "d", 3⟩
  let host : Template := ⟨"m", [], .normal [⟨[⟨.expression, "\x7blen()\x7d", ⟨2, 2⟩⟩], 2⟩], "d", 1⟩
  let c : Catalog := ⟨[host, callee], by decide⟩
  let lib : Library := .empty
  let F : Registry := [("len".toList, "shout".toList)]
  let ev : Evaluator := ⟨c, .sandboxed lib F, fun turn _ => turn⟩
  obtain ⟨hevaluate, hcalls⟩ :=
    evaluate_shadowed c lib F (fun turn _ => turn) (n := "len") (by decide)
  obtain ⟨houtcome, -, -⟩ := hevaluate (F.without "len") (.inl rfl) "m" .null .fresh
  obtain ⟨-, hcall⟩ := hcalls (.inl (by decide))
  have hbare : ev.BareCall lib F "len" .null "len()" (Session.fresh.push ⟨"m", .null⟩)
      (.ok "n".toList) _ :=
    .intro (by decide) rfl rfl rfl
  refine ⟨ev, _, lib, F, _, _, by decide, rfl, rfl, rfl, ?_,
    (hcall "len()" ⟨"m", .null⟩ [] _ _ _ rfl hbare).1 _ rfl⟩
  rw [← houtcome]
  decide +kernel

end Evaluator

end Phrasebook
