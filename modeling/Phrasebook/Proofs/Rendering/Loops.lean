import Mathlib.Data.List.Chain
import Mathlib.Logic.Relation
import Phrasebook.Proofs.Expression.Calls
import Phrasebook.Proofs.Rendering.Termination

/-!
# Loops

A template that is entered while it is being evaluated is a loop.  The names on the stack are
always a path of static calls: each one is called somewhere in the text of the template before it,
by a reference or by a bare name in an expression.  The error of a loop tells this path and the
name that closes it, so where no template calls itself through others no loop is ever found.

* `Catalog.StaticCall`: one template calls another in its text;
* `Catalog.Path`: distinct templates, each calling the next;
* `Evaluator.tracesFrom`: from a path, every loop that is found closes a path;
* `Evaluator.evaluate_loops`: what loops in a fresh session are.
-/

namespace Phrasebook

/-! ## Static calls -/

/-- The text of the template `x` holds a reference to `y`, or an expression with a call of `y` by
its bare name: in a span, a guard, an argument of a reference or an expression of a block. -/
def Catalog.StaticCall (c : Catalog) (x y : Text) : Prop :=
  ∃ t, c.find? x = some t ∧ t.body.Calls SourceCalls y

/-- Distinct templates of a catalog, each of which calls the next one. -/
structure Catalog.Path (c : Catalog) (names : List Text) : Prop where
  known : ∀ n ∈ names, n ∈ c.names
  distinct : names.Nodup
  calls : names.IsChain c.StaticCall

theorem Catalog.path_nil (c : Catalog) : c.Path [] := ⟨by simp, List.nodup_nil, .nil⟩

theorem Catalog.isChain_concat {c : Catalog} {names : List Text} {name : Text}
    (h : names.IsChain c.StaticCall) (hcall : ∀ x ∈ names.getLast?, c.StaticCall x name) :
    (names ++ [name]).IsChain c.StaticCall := by
  refine h.append (.singleton name) fun x hx y hy => ?_
  cases hy
  exact hcall x hx

theorem Catalog.Path.concat {c : Catalog} {names : List Text} {name : Text} (h : c.Path names)
    (hknown : name ∈ c.names) (hfresh : name ∉ names)
    (hcall : ∀ x ∈ names.getLast?, c.StaticCall x name) : c.Path (names ++ [name]) where
  known n hn := by
    rcases List.mem_append.1 hn with hn | hn
    · exact h.known n hn
    · rw [List.mem_singleton.1 hn]
      exact hknown
  distinct := by
    refine List.nodup_append.2 ⟨h.distinct, by simp, ?_⟩
    rintro a ha b hb rfl
    exact hfresh (List.mem_singleton.1 hb ▸ ha)
  calls := Catalog.isChain_concat h.calls hcall

/-- **A loop that closes a path**: its error tells the names on the stack, outermost first, and
then the name asked for; these are templates of the catalog, each calls the next one, and only the
last one occurs before. -/
structure Loop.Closes (c : Catalog) (l : Loop) : Prop where
  error : ∃ location hint, l.error = .cycle (l.names ++ [l.asked]) location hint
  known : ∀ n ∈ l.names ++ [l.asked], n ∈ c.names
  distinct : l.names.Nodup
  repeated : l.asked ∈ l.names
  calls : (l.names ++ [l.asked]).IsChain c.StaticCall

/-- A loop that closes a path leads from a template to itself. -/
theorem Loop.Closes.cyclic {c : Catalog} {l : Loop} (h : l.Closes c) :
    Relation.TransGen c.StaticCall l.asked l.asked := by
  obtain ⟨before, after, hnames⟩ := List.append_of_mem h.repeated
  have hcalls := h.calls
  rw [hnames, List.append_assoc, List.cons_append, List.isChain_split] at hcalls
  cases hafter : after ++ [l.asked] with
  | nil => simp at hafter
  | cons x rest =>
    rw [hafter, List.isChain_cons_cons] at hcalls
    refine Relation.TransGen.head' hcalls.2.1
      (List.relationReflTransGen_of_exists_isChain_cons rest hcalls.2.2 ?_)
    simp only [← hafter, List.getLast_append_singleton]

namespace Evaluator

open Evaluation

variable {ev : Evaluator} {host : TemplateError → Prop}

/-! ## What an evaluation leaves behind -/

/-- The stack is what it was, and every loop found since closes a path. -/
structure Traced (c : Catalog) (s s' : Session) : Prop where
  stack : s'.stack = s.stack
  loops : ∃ new, s'.loops = s.loops ++ new ∧ ∀ l ∈ new, l.Closes c

theorem Traced.of_eq {c : Catalog} {s s' : Session} (hstack : s'.stack = s.stack)
    (hloops : s'.loops = s.loops) : Traced c s s' where
  stack := hstack
  loops := ⟨[], by rw [hloops, List.append_nil], by simp⟩

theorem Traced.trans {c : Catalog} {s s' s'' : Session} (h : Traced c s s') (h' : Traced c s' s'') :
    Traced c s s'' where
  stack := h'.stack.trans h.stack
  loops := by
    obtain ⟨new, hnew, hclose⟩ := h.loops
    obtain ⟨new', hnew', hclose'⟩ := h'.loops
    refine ⟨new ++ new', by rw [hnew', hnew, List.append_assoc], fun l hl => ?_⟩
    rcases List.mem_append.1 hl with hl | hl
    · exact hclose l hl
    · exact hclose' l hl

theorem Traced.mem_loops {c : Catalog} {s s' : Session} (h : Traced c s s') {l : Loop}
    (hl : l ∈ s.loops) : l ∈ s'.loops := by
  obtain ⟨new, hnew, -⟩ := h.loops
  rw [hnew]
  exact List.mem_append_left _ hl

/-- The error of a loop has been found as a loop, or is one that the host raises. -/
def Accounted (host : TemplateError → Prop) (s : Session) (f : Failure) : Prop :=
  ∀ e chain, f = .template e → e.kind = .cycle chain → (∃ l ∈ s.loops, l.error = e) ∨ host e

theorem Accounted.mono {s s' : Session} {f : Failure} (h : Accounted host s f)
    (hloops : ∀ l ∈ s.loops, l ∈ s'.loops) : Accounted host s' f := by
  intro e chain he hkind
  exact (h e chain he hkind).imp_left fun ⟨l, hl, herror⟩ => ⟨l, hloops l hl, herror⟩

theorem accounted_of_not_isLoop {s : Session} {f : Failure} (h : ¬ f.IsLoop) :
    Accounted host s f :=
  fun e chain he hkind => absurd ⟨e, chain, he, hkind⟩ h

/-- A run that finds only loops that close a path, and accounts for them. -/
def tracedRun (c : Catalog) (host : TemplateError → Prop) (s : Session) : Link :=
  single (Traced c s) (Accounted host)

theorem tied_tracedRun {may : Text → Text → Prop} (s : Session) :
    Tied (tracedRun ev.catalog host s) may ev ev :=
  tied_single ev (fun _ _ h ht => ht.trans (.of_eq h.stack h.loops))
    (fun _ _ _ h hf => hf.mono fun l hl => by rw [h.loops]; exact hl)
    fun _ _ _ hf => accounted_of_not_isLoop hf.not_isLoop

/-! ## Loops close paths -/

/-- A loop that the check finds on a path closes it. -/
theorem closes_of_isOn {s : Session} {name : Text} {t : Template}
    (hpath : ev.catalog.Path s.names) (hfind : ev.catalog.find? name = some t)
    (hon : s.IsOn name) (hcall : ∀ x ∈ s.names.getLast?, ev.catalog.StaticCall x name) :
    (⟨s.names, name, loopErrorOf s name t⟩ : Loop).Closes ev.catalog where
  error := ⟨_, _, rfl⟩
  known n hn := by
    rcases List.mem_append.1 hn with hn | hn
    · exact hpath.known n hn
    · rw [List.mem_singleton.1 hn]
      exact (ev.catalog.has_iff name).1 (has_of_find? hfind)
  distinct := hpath.distinct
  repeated := (s.isOn_iff name).1 hon
  calls := Catalog.isChain_concat hpath.calls hcall

theorem names_bodySession (s : Session) (name : Text) (scope : Value) :
    (bodySession s name scope).names = s.names ++ [name] := by
  simp [Session.names]

/-- From a session whose stack is a path, the evaluation of whatever the innermost template calls
finds only loops that close a path, and accounts for them. -/
def TracesFrom (ev : Evaluator) (host : TemplateError → Prop) (s : Session) : Prop :=
  ev.catalog.Path s.names → ∀ name scope,
    (∀ x ∈ s.names.getLast?, ev.catalog.StaticCall x name) →
      Traced ev.catalog s ((ev.evaluate name scope).final s) ∧
        ∀ f, (ev.evaluate name scope).outcome s = .error f →
          Accounted host ((ev.evaluate name scope).final s) f

/-- The body of a template traces loops when whatever is evaluated above it does. -/
theorem renderBody_traced
    (hengine : ∀ source scope, (ev.engine ev.catalog.has source scope).Keeps (SourceCalls source)
      (fun _ => True) fun f => ∀ e, f = .template e → host e)
    {s : Session} {name : Text} {t : Template} (hpath : ev.catalog.Path s.names)
    (hlast : s.names.getLast? = some name) (hfind : ev.catalog.find? name = some t)
    (habove : ∀ s', s'.stack = s.stack → ev.TracesFrom host s') :
    Traced ev.catalog s ((ev.renderBody ev.evaluate t.body).final s) ∧
      ∀ f, (ev.renderBody ev.evaluate t.body).outcome s = .error f →
        Accounted host ((ev.renderBody ev.evaluate t.body).final s) f := by
  have hagain : ∀ callee, t.body.Calls SourceCalls callee → ∀ scope,
      InStep (tracedRun ev.catalog host s) (ev.evaluate callee scope) (ev.evaluate callee scope) := by
    intro callee hcallee scope
    have hcallees : ∀ s', Traced ev.catalog s s' →
        Traced ev.catalog s' ((ev.evaluate callee scope).final s') ∧
          ∀ f, (ev.evaluate callee scope).outcome s' = .error f →
            Accounted host ((ev.evaluate callee scope).final s') f := by
      intro s' hs'
      have hnames : s'.names = s.names := by rw [Session.names, Session.names, hs'.stack]
      refine habove s' hs'.stack (hnames ▸ hpath) callee scope ?_
      rw [hnames, hlast]
      rintro x hx
      cases hx
      exact ⟨t, hfind, hcallee⟩
    refine inStep_single (fun s' hs' => hs'.trans (hcallees s' hs').1) ?_
      fun s' hs' => (hcallees s' hs').2
    exact fun s' hs' f hf => hf.mono fun l => (hcallees s' hs').1.mem_loops
  have hbody := (tied_tracedRun s).renderBody hengine
    (fun f hf _ _ _ => fun e chain he _ => .inr (hf e he)) hagain
  have hagree := agreement_of_single hbody (.of_eq rfl rfl)
  exact ⟨hagree.final.2, hagree.accounts⟩

/-- One step of the recursion traces loops when whatever is evaluated on a higher stack does. -/
theorem tracesFrom_of_above
    (hengine : ∀ source scope, (ev.engine ev.catalog.has source scope).Keeps (SourceCalls source)
      (fun _ => True) fun f => ∀ e, f = .template e → host e)
    {s : Session} (habove : ∀ s', ev.budget s'.stack < ev.budget s.stack → ev.TracesFrom host s') :
    ev.TracesFrom host s := by
  intro hpath name scope hcall
  have hrun : (ev.evaluate name scope).run s = (ev.enter ev.evaluate name scope).run s :=
    run_evaluate_eq_enter name scope s
  rw [run_eq, run_eq, Prod.mk.injEq] at hrun
  rw [hrun.1, hrun.2]
  cases hfind : ev.catalog.find? name with
  | none =>
    obtain ⟨hfinal, f, hout, hf⟩ := ev.check_unknown hfind s
    obtain ⟨hout', hfinal'⟩ := ev.enter_refused hout ev.evaluate scope
    rw [hfinal', hfinal, hout']
    refine ⟨.of_eq rfl rfl, ?_⟩
    rintro g hg
    cases hg
    exact accounted_of_not_isLoop hf
  | some t =>
    by_cases hon : s.IsOn name
    · obtain ⟨hout, hfinal⟩ := ev.check_loop hfind hon
      obtain ⟨hout', hfinal'⟩ := ev.enter_refused hout ev.evaluate scope
      rw [hfinal', hfinal, hout']
      refine ⟨⟨rfl, [_], rfl, ?_⟩, ?_⟩
      · intro l hl
        rw [List.mem_singleton.1 hl]
        exact closes_of_isOn hpath hfind hon hcall
      · rintro f hf e chain rfl -
        cases hf
        exact .inl ⟨_, List.mem_append_right _ (List.mem_singleton_self _), rfl⟩
    · obtain ⟨hout, hfinal⟩ := ev.enter_free hfind hon ev.evaluate scope
      have hknown : name ∈ ev.catalog.names := (ev.catalog.has_iff name).1 (has_of_find? hfind)
      have hfresh : name ∉ s.names := fun h => hon ((s.isOn_iff name).2 h)
      obtain ⟨htraced, haccount⟩ := renderBody_traced hengine (s := bodySession s name scope)
        (names_bodySession s name scope ▸ hpath.concat hknown hfresh hcall)
        (by rw [names_bodySession, List.getLast?_append, List.getLast?_singleton]; rfl) hfind
        fun s' hs' => habove s' (by
          rw [hs', bodySession_stack]
          exact ev.budget_body_lt hfind hon scope)
      rw [hout, hfinal]
      refine ⟨⟨?_, htraced.loops⟩, haccount⟩
      show List.tail _ = _
      rw [htraced.stack, bodySession_stack, List.tail_cons]

/-- **From a path, every loop that is found closes a path**, and every error of a loop that comes
out has been found as one, unless the host raises it. -/
theorem tracesFrom
    (hengine : ∀ source scope, (ev.engine ev.catalog.has source scope).Keeps (SourceCalls source)
      (fun _ => True) fun f => ∀ e, f = .template e → host e)
    (k : Nat) : ∀ s, ev.budget s.stack < k → ev.TracesFrom host s := by
  -- the budget bounds how many templates can be entered above the stack of `s`
  induction k with
  | zero => intro s hs; omega
  | succ k ih => exact fun s hs => tracesFrom_of_above hengine fun s' hs' => ih s' (by omega)

/-! ## Loops in a fresh session -/

/-- **What loops in a fresh session are.**  With the standard engine, for every catalog, library,
random source, template and scope:

* every loop that is found, also one whose error a guard swallows, closes a path of static calls;
* wherever the check of a template fails with the error of a loop, the error tells the names on
  the stack, outermost first, and the name asked for, and the loop is kept in the session;
* the error of a loop that comes out has been found as a loop, or a function of the host raises it;
* where no template calls itself through others in the text of the catalog, no loop is found. -/
theorem evaluate_loops (c : Catalog) (lib : Library) (functions : Registry) (random : RandomSource)
    (name : Text) (scope : Value) :
    let ev : Evaluator := ⟨c, Engine.sandboxed lib functions, random⟩
    let s := (ev.evaluate name scope).final .fresh
    (∀ l ∈ s.loops, l.Closes c) ∧
      (∀ t asked e chain, (ev.check asked).outcome t = .error (.template e) →
        e.kind = .cycle chain → chain = t.names ++ [asked] ∧ asked ∈ t.names ∧
          ((ev.check asked).final t).loops = t.loops ++ [⟨t.names, asked, e⟩]) ∧
      (∀ e chain, (ev.evaluate name scope).outcome .fresh = .error (.template e) →
        e.kind = .cycle chain → (∃ l ∈ s.loops, l.error = e) ∨ lib.CanRaise e) ∧
      ((∀ x, ¬ Relation.TransGen c.StaticCall x x) → s.loops = []) := by
  intro ev s
  have hengine : ∀ source scope, (ev.engine ev.catalog.has source scope).Keeps (SourceCalls source)
      (fun _ => True) fun f => ∀ e, f = .template e → lib.CanRaise e :=
    fun source scope => Engine.keeps_sandboxed lib functions _ source scope
  obtain ⟨htraced, haccount⟩ := tracesFrom hengine _ Session.fresh (Nat.lt_succ_self _)
    c.path_nil name scope (by rintro x hx; cases hx)
  have hcloses : ∀ l ∈ s.loops, l.Closes c := by
    obtain ⟨new, hnew, hclose⟩ := htraced.loops
    intro l hl
    exact hclose l (by rwa [hnew, Session.fresh, List.nil_append] at hl)
  refine ⟨hcloses, ?_, fun e chain hout hkind => haccount _ hout e chain rfl hkind, fun hacyclic => ?_⟩
  · intro t asked e chain hout hkind
    cases hfind : ev.catalog.find? asked with
    | none =>
      obtain ⟨-, f, hout', hf⟩ := ev.check_unknown hfind t
      rw [hout'] at hout
      cases hout
      exact absurd ⟨e, chain, rfl, hkind⟩ hf
    | some found =>
      by_cases hon : t.IsOn asked
      · obtain ⟨hout', hfinal⟩ := ev.check_loop hfind hon
        rw [hout'] at hout
        cases hout
        cases hkind
        exact ⟨rfl, (t.isOn_iff asked).1 hon, by rw [hfinal]⟩
      · rw [(ev.check_free hfind hon).1] at hout
        cases hout
  · refine List.eq_nil_iff_forall_not_mem.2 fun l hl => ?_
    exact hacyclic l.asked (hcloses l hl).cyclic

end Evaluator

end Phrasebook
