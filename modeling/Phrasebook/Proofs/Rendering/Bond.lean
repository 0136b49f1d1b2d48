import Phrasebook.Proofs.Rendering.Termination

/-!
# Two evaluations side by side

Two evaluators that agree in the engine and in the headings of their templates are followed from
stacks that need not be the same.  The stacks belong together as long as the first one has every
name of the second, for then a template that can be entered in the first run can be entered in the
second.  Where they find a loop they tell the same names, or the first run is no longer compared.
What is left is that a body and its counterpart are rendered in step above such stacks.

* `Bond`: what is followed through two evaluations, and `Bond.on`: what is followed between two
  changes of the stacks;
* `Bond.Joins`: what has to hold for one step of two evaluators;
* `Bond.Bodies`: bodies are rendered in step when what they evaluate is in step;
* `Bond.Joins.inStep`, `Bond.Joins.agrees`: whole evaluations are in step.
-/

namespace Phrasebook

/-- The stacks and loops that a session has kept are still there. -/
structure Session.Later (s s' : Session) : Prop where
  frames : s.frames <+: s'.frames
  loops : s.loops <+: s'.loops

theorem Session.Later.of_eq {s s' : Session} (hframes : s'.frames = s.frames)
    (hloops : s'.loops = s.loops) : s.Later s' := by
  constructor
  · exact hframes ▸ List.prefix_rfl
  · exact hloops ▸ List.prefix_rfl

/-- No choice has been made since, and the engine has not been called. -/
structure Session.Quiet (s s' : Session) : Prop extends s.Later s' where
  choices : s'.choices = s.choices
  calls : s'.calls = s.calls

namespace Session.Quiet

theorem of_eq {s s' : Session} (hframes : s'.frames = s.frames) (hloops : s'.loops = s.loops)
    (hchoices : s'.choices = s.choices) (hcalls : s'.calls = s.calls) : s.Quiet s' :=
  ⟨.of_eq hframes hloops, hchoices, hcalls⟩

theorem loop (s : Session) (l : Loop) : s.Quiet { s with loops := s.loops ++ [l] } :=
  ⟨⟨List.prefix_rfl, List.prefix_append _ _⟩, rfl, rfl⟩

theorem leave (s : Session) : s.Quiet { s with stack := s.stack.tail } := .of_eq rfl rfl rfl rfl

end Session.Quiet

namespace Evaluator

open Evaluation

theorem Clean.later {ev : Evaluator} {s s' : Session} (h : ev.Clean s s') : s.Later s' := by
  obtain ⟨new, hnew, -⟩ := h.frames
  exact ⟨⟨new, hnew.symm⟩, h.loops⟩

theorem later_evaluate (ev : Evaluator) (name : Text) (scope : Value) (s : Session) :
    s.Later ((ev.evaluate name scope).final s) := (clean_evaluate name scope s).later

theorem clean_renderBody (ev : Evaluator) (b : Body) (s : Session) :
    ev.Clean s ((ev.renderBody ev.evaluate b).final s) := by
  have halike : ev.Alike (ev.budget s.stack) ev.evaluate ev.evaluate :=
    fun t _ name scope => ⟨rfl, clean_evaluate name scope t⟩
  exact (halike.renderBody b (Nat.le_refl _)).2

theorem quiet_bodySession (s : Session) (name : Text) (scope : Value) :
    s.Quiet (bodySession s name scope) := ⟨⟨List.prefix_append _ _, List.prefix_rfl⟩, rfl, rfl⟩

theorem evaluate_eq_enter (ev : Evaluator) (name : Text) (scope : Value) :
    ev.evaluate name scope = ev.enter ev.evaluate name scope :=
  funext fun s => run_evaluate_eq_enter name scope s

/-! ## What is followed -/

/-- What is followed through two evaluations. -/
structure Bond where
  /-- When the first evaluation is no longer compared. -/
  broken : Session → Prop
  /-- Which stacks belong together. -/
  matched : List Target → List Target → Prop
  /-- Which sessions belong together, as far as their choices and calls go. -/
  marks : Session → Session → Prop

namespace Bond

variable {B : Bond} {ev ev' : Evaluator} {σ τ : List Target}

/-- What is followed on two stacks, as long as they do not change. -/
def on (B : Bond) (σ τ : List Target) : Link where
  broken := B.broken
  related s t := s.stack = σ ∧ t.stack = τ ∧ B.marks s t
  accounted _ _ := True

/-- **What joins two evaluators.**  They have the same engine and templates of the same headings,
and choose alike.  What else is kept in the meantime makes no difference.  Stacks that belong
together do so with a target on both, and whatever is on the second is on the first.  A loop that is
found in the first run breaks it off, unless the stacks have the same names. -/
structure Joins (B : Bond) (ev ev' : Evaluator) : Prop where
  find : ∀ name, (ev.catalog.find? name).map Template.heading =
    (ev'.catalog.find? name).map Template.heading
  engine : ∀ source scope,
    ev.engine ev.catalog.has source scope = ev'.engine ev'.catalog.has source scope
  stays : ∀ s s', s.Later s' → B.broken s → B.broken s'
  quiet : ∀ s s' t t', s.Quiet s' → t.Quiet t' → B.marks s t → B.marks s' t'
  call : ∀ s t c, B.marks s t →
    B.marks { s with calls := s.calls ++ [c] } { t with calls := t.calls ++ [c] }
  choose : ∀ s t count, B.marks s t →
    ev.random s.choices.length count = ev'.random t.choices.length count ∧
      B.marks { s with choices := s.choices ++ [count] } { t with choices := t.choices ++ [count] }
  push : ∀ σ τ target, B.matched σ τ → B.matched (target :: σ) (target :: τ)
  free : ∀ σ τ, B.matched σ τ → ∀ u ∈ τ, ∃ v ∈ σ, v.name = u.name
  loop : ∀ s t l, B.matched s.stack t.stack → B.marks s t →
    B.broken { s with loops := s.loops ++ [l] } ∨ s.names = t.names

/-- Above stacks that belong together, the bodies of a template that is entered are rendered in step
when all evaluations in them are in step. -/
def Bodies (B : Bond) (ev ev' : Evaluator) : Prop :=
  ∀ s τ name scope t t', B.matched s.stack τ → ev.catalog.find? name = some t →
    ev'.catalog.find? name = some t' → ¬ s.IsOn name → ¬ B.broken (bodySession s name scope) →
    (∀ callee sc, InStep (B.on (⟨name, scope⟩ :: s.stack) (⟨name, scope⟩ :: τ))
      (ev.evaluate callee sc) (ev'.evaluate callee sc)) →
    InStep (B.on (⟨name, scope⟩ :: s.stack) (⟨name, scope⟩ :: τ)) (ev.renderBody ev.evaluate t.body)
      (ev'.renderBody ev'.evaluate t'.body)

namespace Joins

/-! ## Between two changes of the stacks -/

theorem update (h : B.Joins ev ev') {f : Session → Session}
    (hsame : ∀ s, (f s).stack = s.stack ∧ (f s).frames = s.frames ∧ (f s).loops = s.loops)
    (hmarks : ∀ s t, B.marks s t → B.marks (f s) (f t)) :
    InStep (B.on σ τ) (modify f : Evaluation PUnit) (modify f) := by
  refine .update ?_ ?_ fun _ _ he => he
  · intro s hs
    exact h.stays s _ (.of_eq (hsame s).2.1 (hsame s).2.2) hs
  · rintro s t ⟨hs, ht, hst⟩
    exact ⟨(hsame s).1.trans hs, (hsame t).1.trans ht, hmarks s t hst⟩

/-- **On stacks with the same innermost target the evaluators are tied together.** -/
theorem tied (h : B.Joins ev ev') (hhead : σ.head? = τ.head?) :
    Tied (B.on σ τ) (fun _ _ => True) ev ev' where
  head s t hst := by rw [hst.1, hst.2.1, hhead]
  find := h.find
  engine := h.engine
  call c := h.update (fun _ => ⟨rfl, rfl, rfl⟩) fun s t => h.call s t c
  record message := h.update (fun _ => ⟨rfl, rfl, rfl⟩) fun s t =>
    h.quiet s _ t _ (.of_eq rfl rfl rfl rfl) (.of_eq rfl rfl rfl rfl)
  choose count := by
    have hfinal : ∀ s, (ev.choose count).final s =
        { s with choices := s.choices ++ [count] } := fun _ => rfl
    refine ⟨fun s hs => h.stays s _ (.of_eq rfl rfl) hs, ?_⟩
    rintro s t ⟨hs, ht, hst⟩
    obtain ⟨hrandom, hmarks⟩ := h.choose s t count hst
    refine .inr ⟨?_, ⟨hs, ht, hmarks⟩, fun _ he => he, by rintro f hf; cases hf⟩
    show Except.ok (ev.random s.choices.length count) = .ok (ev'.random t.choices.length count)
    rw [hrandom]
  account _ _ _ _ _ := trivial

/-- A body that both evaluators have is rendered in step when all evaluations in it are in step. -/
theorem renderBody (h : B.Joins ev ev') (hhead : σ.head? = τ.head?)
    (hagain : ∀ callee sc, InStep (B.on σ τ) (ev.evaluate callee sc) (ev'.evaluate callee sc))
    (b : Body) :
    InStep (B.on σ τ) (ev.renderBody ev.evaluate b) (ev'.renderBody ev'.evaluate b) :=
  (h.tied hhead).renderBody (fun _ _ => .top _) (fun _ _ _ _ _ => trivial)
    fun callee _ sc => hagain callee sc

/-- Evaluators with the same templates have their bodies rendered in step. -/
theorem bodies_of_find (h : B.Joins ev ev')
    (hfind : ∀ name, ev.catalog.find? name = ev'.catalog.find? name) : B.Bodies ev ev' := by
  intro s τ name scope t t' _ ht ht' _ _ hagain
  have hsame : t = t' := by
    rw [hfind name, ht'] at ht
    exact (Option.some.inj ht).symm
  rw [← hsame]
  exact h.renderBody (by rw [List.head?_cons, List.head?_cons]) hagain t.body

/-! ## One step of the recursion -/

theorem source_eq (h : B.Joins ev ev') {name : Text} {t t' : Template}
    (ht : ev.catalog.find? name = some t) (ht' : ev'.catalog.find? name = some t') :
    t.source = t'.source := by
  have hheading := h.find name
  rw [ht, ht', Option.map_some, Option.map_some, Option.some.injEq] at hheading
  exact congrArg Prod.snd hheading

/-- A name that no template has is refused alike where the innermost targets are the same. -/
theorem enter_unknown (h : B.Joins ev ev') (hhead : σ.head? = τ.head?) {name : Text}
    (hfind : ev.catalog.find? name = none) (again again' : Recursion) (scope : Value) :
    InStep (B.on σ τ) (ev.enter again name scope) (ev'.enter again' name scope) := by
  -- nothing after the first check is reached
  have hnever : ∀ s u, (ev.require name).outcome s = .ok u → False := by
    intro s u hu
    obtain ⟨-, f, hf, -⟩ := ev.require_unknown hfind s
    rw [hf] at hu
    cases hu
  have hcheck : InStep (B.on σ τ) (ev.check name) (ev'.check name) :=
    .bind_of ((h.tied hhead).require name) hnever fun _ hfalse => hfalse.elim
  refine .bind_of (P := fun _ => False) hcheck ?_ fun _ hfalse => hfalse.elim
  intro s u hu
  obtain ⟨-, f, hf, -⟩ := ev.check_unknown hfind s
  rw [hf] at hu
  cases hu

/-- A template that is on the first stack is a loop in both runs, or the first run is broken off. -/
theorem enter_loop (h : B.Joins ev ev') {name : Text} {template template' : Template}
    (hfind : ev.catalog.find? name = some template)
    (hfind' : ev'.catalog.find? name = some template') {s t : Session}
    (hstacks : B.matched s.stack t.stack) (hmarks : B.marks s t) (hon : s.IsOn name)
    (again again' : Recursion) (scope : Value) :
    B.broken ((ev.enter again name scope).final s) ∨
      Agreement (B.on s.stack t.stack) (ev.enter again name scope) (ev'.enter again' name scope)
        s t := by
  obtain ⟨hout, hfinal⟩ := ev.check_loop hfind hon
  obtain ⟨houtcome, hleft⟩ := ev.enter_refused hout again scope
  rw [hleft, hfinal]
  rcases h.loop s t ⟨s.names, name, loopErrorOf s name template⟩ hstacks hmarks with hbroken | hnames
  · exact .inl hbroken
  · right
    have hon' : t.IsOn name := by
      rw [Session.isOn_iff] at hon ⊢
      rwa [← hnames]
    obtain ⟨hout', hfinal'⟩ := ev'.check_loop hfind' hon'
    obtain ⟨houtcome', hright⟩ := ev'.enter_refused hout' again' scope
    have herror : loopErrorOf s name template = loopErrorOf t name template' := by
      rw [loopErrorOf, loopErrorOf, hnames, h.source_eq hfind hfind']
    constructor
    · rw [houtcome, houtcome', herror]
    · rw [hleft, hfinal, hright, hfinal']
      exact ⟨rfl, rfl, h.quiet s _ t _ (.loop s _) (.loop t _) hmarks⟩
    · exact fun _ he => he
    · rw [houtcome]
      exact fun _ _ => trivial

/-- A template that is not on the first stack is entered in both runs. -/
theorem enter_free (h : B.Joins ev ev') {name : Text} {template template' : Template}
    (hfind : ev.catalog.find? name = some template)
    (hfind' : ev'.catalog.find? name = some template') {s t : Session}
    (hstacks : B.matched s.stack t.stack) (hmarks : B.marks s t) (hon : ¬ s.IsOn name)
    {scope : Value}
    (hbody : ¬ B.broken (bodySession s name scope) →
      InStep (B.on (⟨name, scope⟩ :: s.stack) (⟨name, scope⟩ :: t.stack))
        (ev.renderBody ev.evaluate template.body) (ev'.renderBody ev'.evaluate template'.body)) :
    B.broken ((ev.enter ev.evaluate name scope).final s) ∨
      Agreement (B.on s.stack t.stack) (ev.enter ev.evaluate name scope)
        (ev'.enter ev'.evaluate name scope) s t := by
  have hon' : ¬ t.IsOn name := by
    rintro ⟨u, hu, hname⟩
    obtain ⟨v, hv, hsame⟩ := h.free _ _ hstacks u hu
    exact hon ⟨v, hv, hsame.trans hname⟩
  obtain ⟨hout, hfinal⟩ := ev.enter_free hfind hon ev.evaluate scope
  obtain ⟨hout', hfinal'⟩ := ev'.enter_free hfind' hon' ev'.evaluate scope
  by_cases hstart : B.broken (bodySession s name scope)
  · -- entering the template has broken the first run off, and its body leaves it so
    left
    rw [hfinal]
    refine h.stays _ _ (Session.Quiet.leave _).toLater (h.stays _ _ ?_ hstart)
    exact (ev.clean_renderBody template.body (bodySession s name scope)).later
  · have hmarks' : B.marks (bodySession s name scope) (bodySession t name scope) :=
      h.quiet s _ t _ (quiet_bodySession s name scope) (quiet_bodySession t name scope) hmarks
    rcases (hbody hstart).agrees _ _ ⟨rfl, rfl, hmarks'⟩ with hbroken | hagree
    · left
      rw [hfinal]
      exact h.stays _ _ (Session.Quiet.leave _).toLater hbroken
    · right
      obtain ⟨hstack, hstack', hdone⟩ := hagree.final
      constructor
      · rw [hout, hout', hagree.outcome]
      · rw [hfinal, hfinal']
        refine ⟨?_, ?_, h.quiet _ _ _ _ (.leave _) (.leave _) hdone⟩
        · show List.tail _ = _
          rw [hstack, List.tail_cons]
        · show List.tail _ = _
          rw [hstack', List.tail_cons]
      · exact fun _ he => he
      · exact fun _ _ => trivial

/-! ## Whole evaluations -/

/-- **Evaluations from stacks that belong together are in step**, when the stacks have the same
innermost target or the name is one of the catalog. -/
theorem inStep (h : B.Joins ev ev') (hbodies : B.Bodies ev ev') (k : Nat) :
    ∀ σ τ, B.matched σ τ → ev.budget σ < k → ∀ name scope,
      σ.head? = τ.head? ∨ ev.catalog.has name = true →
      InStep (B.on σ τ) (ev.evaluate name scope) (ev'.evaluate name scope) := by
  -- the budget bounds how many templates can be entered above the first stack
  induction k with
  | zero => intro σ τ _ hk; omega
  | succ k ih =>
    intro σ τ hstacks hk name scope hname
    refine ⟨fun s => h.stays s _ (ev.later_evaluate name scope s), ?_⟩
    rw [ev.evaluate_eq_enter, ev'.evaluate_eq_enter]
    rintro s t hst
    have hboth := h.find name
    cases hfind : ev.catalog.find? name with
    | none =>
      have hhead : σ.head? = τ.head? := by
        refine hname.resolve_right fun hhas => ?_
        rw [Catalog.has_eq_isSome_find?, hfind] at hhas
        cases hhas
      exact (h.enter_unknown hhead hfind _ _ scope).agrees s t hst
    | some template =>
      rw [hfind, Option.map_some, eq_comm, Option.map_eq_some_iff] at hboth
      obtain ⟨template', hfind', -⟩ := hboth
      obtain ⟨rfl, rfl, hmarks⟩ := hst
      by_cases hon : s.IsOn name
      · exact h.enter_loop hfind hfind' hstacks hmarks hon _ _ scope
      · refine h.enter_free hfind hfind' hstacks hmarks hon fun hstart =>
          hbodies s _ name scope template template' hstacks hfind hfind' hon hstart ?_
        intro callee sc
        have hless := ev.budget_body_lt hfind hon scope
        refine ih _ _ (h.push _ _ _ hstacks) (by omega) callee sc (.inl ?_)
        rw [List.head?_cons, List.head?_cons]

/-- **Two evaluations side by side.**  The first one is broken off, or both have the same outcome
and leave sessions that belong together. -/
theorem agrees (h : B.Joins ev ev') (hbodies : B.Bodies ev ev') {s t : Session}
    (hstacks : B.matched s.stack t.stack) (hmarks : B.marks s t) {name : Text} (scope : Value)
    (hname : s.stack.head? = t.stack.head? ∨ ev.catalog.has name = true) :
    B.broken ((ev.evaluate name scope).final s) ∨
      ((ev.evaluate name scope).outcome s = (ev'.evaluate name scope).outcome t ∧
        B.marks ((ev.evaluate name scope).final s) ((ev'.evaluate name scope).final t)) := by
  have hboth := h.inStep hbodies _ s.stack t.stack hstacks (Nat.lt_succ_self _) name scope hname
  refine (hboth.agrees s t ⟨rfl, rfl, hmarks⟩).imp_right fun hagree => ?_
  exact ⟨hagree.outcome, hagree.final.2.2⟩

end Joins

end Bond

end Evaluator

end Phrasebook
