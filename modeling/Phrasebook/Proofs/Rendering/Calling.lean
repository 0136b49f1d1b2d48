import Phrasebook.Proofs.Expression.NamedCall
import Phrasebook.Proofs.Rendering.History
import Phrasebook.Proofs.Rendering.Swap

/-!
# Two ways of calling a template

A template is called by a reference or by an expression.  The reference splits its arguments at
commas and evaluates each of them; the expression is read as a whole and asks for the template when
it comes to the call.  With names as arguments both come to the same values, call the template in
the same scope, and hand on its text or the error of the language that it ends in.

* `Reference.ofSpan_call`, `Reference.argumentTexts_names`: how a reference is taken apart;
* `Evaluator.renderReference_call`, `Evaluator.renderExpression_call`: what the two fragments do;
* `Evaluator.calls_agree`: documents that call a template in one way and in the other.
-/

namespace Phrasebook

open Text (callOf join trim)

/-! ## References with names as arguments -/

namespace Reference

variable {n : Text} {xs : List Text}

theorem inside_eq {t : Text} (hopen : '[' ∉ t) (hclose : ']' ∉ t) (htrim : trim t = t) :
    inside ('[' :: (t ++ [']'])) = t := by
  rw [inside, Text.strip_between hopen hclose (by decide), htrim]

/-- A name between brackets refers to the template alone. -/
theorem ofSpan_name (hn : n.IsPlainName) : ofSpan ('[' :: (n ++ [']'])) = .plain n := by
  have hcut : Text.cut? ['('] n = none := by
    rw [Text.cut?_eq_none_iff]
    intro h
    exact hn.ne_of_mem (h.subset List.mem_cons_self) (by decide) rfl
  have hopen : '[' ∉ n := fun h => hn.ne_of_mem h (by decide) rfl
  have hclose : ']' ∉ n := fun h => hn.ne_of_mem h (by decide) rfl
  rw [ofSpan]
  simp only [inside_eq hopen hclose hn.trim_eq, hcut]

/-- A call between brackets refers to the template with what stands between the parentheses. -/
theorem ofSpan_call (hn : n.IsPlainName) (hxs : ∀ x ∈ xs, x.IsPlainName) :
    ofSpan ('[' :: (callOf n xs ++ [']'])) = .applied n (join ", " xs) := by
  have hopen : '[' ∉ callOf n xs := Text.notMem_callOf hn hxs (by decide) (by decide)
  have hclose : ']' ∉ callOf n xs := Text.notMem_callOf hn hxs (by decide) (by decide)
  have hcut : Text.cut? ['('] (callOf n xs) = some (n, join ", " xs ++ [')']) :=
    Text.cut?_of_notMem (fun h => hn.ne_of_mem h (by decide) rfl) _
  have hlast : beforeLastClose? (join ", " xs ++ [')']) = some (join ", " xs) := by
    rw [beforeLastClose?, List.reverse_append, List.reverse_singleton, List.singleton_append,
      List.dropWhile_cons_of_neg (by simp)]
    simp only [List.reverse_reverse]
  obtain ⟨c, rest, hsplit, -⟩ := hn.split
  rw [ofSpan]
  simp only [inside_eq hopen hclose (Text.trim_callOf hn xs), hcut]
  rw [hsplit]
  simp only [hlast]
  rw [← hsplit, hn.trim_eq]

/-- Names between commas are the arguments, but for blanks around them. -/
theorem argumentTexts_names (hxs : ∀ x ∈ xs, x.IsPlainName) :
    List.Forall₂ (fun source x => trim source = x) (argumentTexts (join ", " xs)) xs := by
  cases xs with
  | nil => exact .nil
  | cons x rest =>
    have hx := hxs x List.mem_cons_self
    have hnotBlank : trim (join ", " (x :: rest)) ≠ [] := by
      obtain ⟨c, more, rfl, -⟩ := hx.split
      have hc := hx.isBlank_of_mem (List.mem_cons_self (a := c))
      cases rest with
      | nil => exact Text.trim_ne_nil hc more
      | cons y rest => exact Text.trim_ne_nil hc _
    have hcomma : ∀ y ∈ x :: rest, ',' ∉ y := fun y hy h => (hxs y hy).ne_of_mem h (by decide) rfl
    have hsplit : Text.split ',' (join ", " (x :: rest)) = x :: rest.map (" ".toList ++ ·) :=
      Text.split_join (by decide) hcomma
    rw [argumentTexts, if_neg hnotBlank, hsplit]
    refine .cons hx.trim_eq ?_
    rw [List.forall₂_map_left_iff, List.forall₂_same]
    intro y hy
    exact (hxs y (List.mem_cons_of_mem x hy)).trim_eq

end Reference

/-- Blanks around an expression make no difference to the standard engine. -/
theorem Engine.sandboxed_of_trim (lib : Library) (functions : Registry) (known : Text → Bool)
    (scope : Value) {a b : Text} (h : trim a = trim b) :
    sandboxed lib functions known a scope = sandboxed lib functions known b scope := by
  unfold sandboxed
  rw [h]

namespace Evaluator

open Evaluation

/-! ## What the two fragments do -/

section

variable (ev : Evaluator) (again : Recursion) {target : Target} {below : List Target} {s : Session}

/-- An expression that needs no template has its value at once. -/
theorem run_evaluateSource_done {source : Text} {result : Result} (hs : s.stack = target :: below)
    (hengine : ev.engine ev.catalog.has source target.scope = .done result) :
    (ev.evaluateSource again source).run s =
      (.ok result, { s with calls := s.calls ++ [(source, target.scope)] }) := by
  rw [run_evaluateSource hs, hengine]
  rfl

/-- Arguments that need no template have their values, and each of them is a call of the engine. -/
theorem run_evaluateArguments {sources : List Text} {vs : List Value}
    (hs : s.stack = target :: below)
    (hengine : List.Forall₂ (fun source v =>
      ev.engine ev.catalog.has source target.scope = .done (.value v)) sources vs) :
    (ev.evaluateArguments again sources).run s = (.ok vs,
      { s with calls := s.calls ++ sources.map fun source => (source, target.scope) }) := by
  induction hengine generalizing s with
  | nil =>
    rw [List.map_nil, List.append_nil]
    rfl
  | @cons source v sources vs hv _ ih =>
    have hfirst := run_evaluateSource_done ev again hs hv
    rw [run_eq, Prod.mk.injEq] at hfirst
    unfold evaluateArguments
    rw [Evaluation.run_bind, hfirst.1, hfirst.2]
    dsimp only
    have hrest := ih (s := { s with calls := s.calls ++ [(source, target.scope)] }) hs
    rw [run_eq, Prod.mk.injEq] at hrest
    rw [Evaluation.run_bind, hrest.1, hrest.2, List.map_cons, List.append_assoc]
    rfl

/-- **What a reference does**: it evaluates its arguments and calls the template. -/
theorem renderReference_call {n arguments : Text} {vs : List Value} (hs : s.stack = target :: below)
    (hknown : ev.catalog.has n = true)
    (hengine : List.Forall₂ (fun source v =>
      ev.engine ev.catalog.has source target.scope = .done (.value v))
      (Reference.argumentTexts arguments) vs) :
    ∃ calls, (ev.renderReference again (.applied n arguments)).run s =
      (ev.callTemplate again n vs).run { s with calls := calls } := by
  have harguments := run_evaluateArguments ev again hs hengine
  rw [run_eq, Prod.mk.injEq] at harguments
  obtain ⟨t, hfind⟩ : ∃ t, ev.catalog.find? n = some t := by
    rwa [Catalog.has_eq_isSome_find?, Option.isSome_iff_exists] at hknown
  refine ⟨s.calls ++ (Reference.argumentTexts arguments).map fun source => (source, target.scope), ?_⟩
  unfold renderReference
  dsimp only
  rw [ev.require_known hfind, pure_bind, Evaluation.run_bind, harguments.1, harguments.2]

/-- **What an expression does** that calls a template: it calls the template and hands on the text,
or the error of the language. -/
theorem renderExpression_call {source n : Text} {vs : List Value} (hs : s.stack = target :: below)
    (hengine : ev.engine ev.catalog.has source target.scope = .ask n vs fun answer =>
      Engine.settle ((answer.map Value.text).mapError Callee.failed)) :
    ∃ calls, (∀ text, (ev.callTemplate again n vs).outcome { s with calls := calls } = .ok text →
        (ev.renderExpression again source).run s =
          (ev.callTemplate again n vs).run { s with calls := calls }) ∧
      ∀ e, (ev.callTemplate again n vs).outcome { s with calls := calls } = .error (.template e) →
        (ev.renderExpression again source).run s =
          (.error (.template e), (ev.callTemplate again n vs).final { s with calls := calls }) := by
  have hsource : (ev.evaluateSource again source).run s = _ := run_evaluateSource hs source
  rw [hengine] at hsource
  refine ⟨s.calls ++ [(source, target.scope)], fun text htext => ?_, fun e he => ?_⟩
  · rw [carryOut, Evaluation.run_bind, outcome_attempt, final_attempt, htext] at hsource
    obtain ⟨hresult, hleft⟩ := Prod.mk.inj ((run_eq _ _).symm.trans hsource)
    unfold renderExpression
    rw [Evaluation.run_bind, hresult, hleft, run_eq (ev.callTemplate again n vs), htext]
    rfl
  · rw [carryOut, Evaluation.run_bind, outcome_attempt, final_attempt, he] at hsource
    obtain ⟨hresult, hleft⟩ := Prod.mk.inj ((run_eq _ _).symm.trans hsource)
    unfold renderExpression
    rw [Evaluation.run_bind, hresult, hleft]

/-- Without arguments a reference does the same with parentheses and without. -/
theorem renderReference_plain {n : Text} (hknown : ev.catalog.has n = true) :
    ev.renderReference again (.applied n []) = ev.renderReference again (.plain n) := by
  obtain ⟨t, hfind⟩ : ∃ t, ev.catalog.find? n = some t := by
    rwa [Catalog.has_eq_isSome_find?, Option.isSome_iff_exists] at hknown
  unfold renderReference
  dsimp only
  rw [ev.require_known hfind, pure_bind]
  show pure [] >>= (fun args => ev.callTemplate again n args) = _
  rw [pure_bind]
  unfold callTemplate constructScope
  simp only [bind_assoc, pure_bind]

end

/-! ## The fragments -/

end Evaluator

namespace Content

/-- A reference with names as arguments. -/
def reference (n : Text) (xs : List Text) : Content := (.reference, '[' :: (callOf n xs ++ [']']))

/-- An expression that is a call with names as arguments. -/
def expression (n : Text) (xs : List Text) : Content :=
  (.expression, '\x7b' :: (callOf n xs ++ ['\x7d']))

/-- A reference without parentheses. -/
def name (n : Text) : Content := (.reference, '[' :: (n ++ [']']))

end Content

namespace Evaluator

open Evaluation

section

variable {ev : Evaluator} {again : Recursion} {n : Text} {xs : List Text} {f : Fragment}

theorem renderFragment_reference (hn : n.IsPlainName) (hxs : ∀ x ∈ xs, x.IsPlainName)
    (hf : f.content = Content.reference n xs) :
    ev.renderFragment again f = ev.renderReference again (.applied n (join ", " xs)) := by
  obtain ⟨kind, text, position⟩ := f
  cases hf
  rw [← Reference.ofSpan_call hn hxs]
  rfl

theorem renderFragment_expression (hn : n.IsPlainName) (hxs : ∀ x ∈ xs, x.IsPlainName)
    (hf : f.content = Content.expression n xs) :
    ev.renderFragment again f = ev.renderExpression again (callOf n xs) := by
  have hbraces : stripBraces ('\x7b' :: (callOf n xs ++ ['\x7d'])) = callOf n xs :=
    Text.strip_between (Text.notMem_callOf hn hxs (by decide) (by decide))
      (Text.notMem_callOf hn hxs (by decide) (by decide)) (by decide)
  obtain ⟨kind, text, position⟩ := f
  cases hf
  show ev.renderExpression again (stripBraces _) = _
  rw [hbraces]

theorem renderFragment_name (hn : n.IsPlainName) (hf : f.content = Content.name n) :
    ev.renderFragment again f = ev.renderReference again (.plain n) := by
  obtain ⟨kind, text, position⟩ := f
  cases hf
  rw [← Reference.ofSpan_name hn]
  rfl

end

/-! ## Following choices on the same stack -/

/-- Two evaluations on the same stack, followed in what they choose. -/
def chosen (broken : Session → Prop) (P : List Target → Prop) : Bond where
  broken := broken
  matched σ τ := σ = τ ∧ P σ
  marks s t := s.choices = t.choices

/-- Evaluators with the same headings, engine and random source are joined by their choices. -/
theorem joins_chosen {broken : Session → Prop} {P : List Target → Prop} {c c' : Catalog}
    (engine : Engine) (random : RandomSource)
    (hfind : ∀ name, (c.find? name).map Template.heading = (c'.find? name).map Template.heading)
    (hstays : ∀ s s', s.Later s' → broken s → broken s')
    (hpush : ∀ σ target, P σ → P (target :: σ)) :
    (chosen broken P).Joins ⟨c, engine, random⟩ ⟨c', engine, random⟩ where
  find := hfind
  engine source scope := by
    have hhas : c.has = c'.has := by
      funext name
      rw [Catalog.has_eq_isSome_find?, Catalog.has_eq_isSome_find?, ← Option.isSome_map, hfind name,
        Option.isSome_map]
    dsimp only
    rw [hhas]
  stays := hstays
  quiet s s' t t' hs ht hmarks := by
    show s'.choices = t'.choices
    rw [hs.choices, ht.choices]
    exact hmarks
  call _ _ _ hmarks := hmarks
  choose s t count hmarks := by
    have hchoices : s.choices = t.choices := hmarks
    refine ⟨?_, ?_⟩
    · rw [hchoices]
    · show s.choices ++ [count] = t.choices ++ [count]
      rw [hchoices]
  push σ τ target hστ := ⟨by rw [hστ.1], hpush σ target hστ.2⟩
  free σ τ hστ u hu := ⟨u, hστ.1 ▸ hu, rfl⟩
  loop s t l hst _ := by
    right
    rw [Session.names, hst.1, Session.names]

/-- From such sessions the second computation gives the text of the first, or the error of the
language that it ends in, and makes the same choices. -/
structure HandsOn (x y : Evaluation Text) (s t : Session) : Prop where
  text : ∀ text, x.outcome s = .ok text → y.outcome t = .ok text ∧ (x.final s).SameTurn (y.final t)
  error : ∀ e, x.outcome s = .error (.template e) →
    y.outcome t = .error (.template e) ∧ (x.final s).SameTurn (y.final t)

/-- From such sessions both computations have the same outcome, and leave sessions that agree in the
stack and the choices. -/
structure SameEnd {α : Type} (x y : Evaluation α) (s t : Session) : Prop where
  outcome : x.outcome s = y.outcome t
  final : (x.final s).SameTurn (y.final t)

theorem SameEnd.of_inStep {α : Type} {x y : Evaluation α} {s t : Session} {P : List Target → Prop}
    (h : InStep ((chosen (fun _ => False) P).on s.stack s.stack) x y) (hst : s.SameTurn t) :
    SameEnd x y s t := by
  rcases h.agrees s t ⟨rfl, hst.stack.symm, hst.choices⟩ with hfalse | hagree
  · exact hfalse.elim
  · obtain ⟨hs, ht, hchoices⟩ := hagree.final
    exact ⟨hagree.outcome, hs.trans ht.symm, hchoices⟩

theorem SameEnd.handsOn {x y z : Evaluation Text} {s t u : Session} (h : SameEnd x y s t)
    (h' : HandsOn y z t u) : HandsOn x z s u where
  text text hgives := by
    obtain ⟨hgives', hturn⟩ := h'.text text (h.outcome ▸ hgives)
    exact ⟨hgives', h.final.trans hturn⟩
  error e hends := by
    obtain ⟨hends', hturn⟩ := h'.error e (h.outcome ▸ hends)
    exact ⟨hends', h.final.trans hturn⟩

section

variable {c c' : Catalog} {lib : Library} {functions : Registry} {random : RandomSource} {n : Text}
  {xs : List Text} {f f' : Fragment}

/-- Arguments that are names with blanks around them have what the names are bound to as values. -/
theorem sandboxed_names {known : Text → Bool} {sources : List Text} {entries : List (Value × Value)}
    {vs : List Value} (hxs : ∀ x ∈ xs, x.IsPlainName)
    (hsources : List.Forall₂ (fun source x => trim source = x) sources xs)
    (hvs : List.Forall₂ (fun x v => Value.lookupName? entries x = some v) xs vs) :
    List.Forall₂ (fun source v => Engine.sandboxed lib functions known source (.dict entries) =
      .done (.value v)) sources vs := by
  induction hsources generalizing vs with
  | nil =>
    cases hvs
    exact .nil
  | @cons source x sources xs hsource _ ih =>
    cases hvs with
    | cons hv hvs =>
      have hx := hxs x List.mem_cons_self
      refine .cons ?_ (ih (fun y hy => hxs y (List.mem_cons_of_mem x hy)) hvs)
      rw [Engine.sandboxed_of_trim lib functions known _ (hsource.trans hx.trim_eq.symm)]
      exact Engine.sandboxed_name lib functions known hx hv

theorem exists_values {entries : List (Value × Value)}
    (h : ∀ x ∈ xs, ∃ v, Value.lookupName? entries x = some v) :
    ∃ vs, List.Forall₂ (fun x v => Value.lookupName? entries x = some v) xs vs := by
  induction xs with
  | nil => exact ⟨[], .nil⟩
  | cons x xs ih =>
    obtain ⟨v, hv⟩ := h x List.mem_cons_self
    obtain ⟨vs, hvs⟩ := ih fun y hy => h y (List.mem_cons_of_mem x hy)
    exact ⟨v :: vs, .cons hv hvs⟩

/-- **The expression hands on what the reference gives**, as long as the template that both call is
evaluated in step. -/
theorem handsOn_of_inStep {broken : Session → Prop} {P : List Target → Prop} (hn : n.IsPlainName)
    (hxs : ∀ x ∈ xs, x.IsPlainName)
    (h : (chosen broken P).Joins ⟨c, .sandboxed lib functions, random⟩
      ⟨c', .sandboxed lib functions, random⟩)
    (hknown : c.has n = true) (hf : f.content = Content.reference n xs)
    (hf' : f'.content = Content.expression n xs)
    {host : Text} {entries : List (Value × Value)} {below : List Target}
    (hbinds : ∀ x ∈ xs, ∃ v, Value.lookupName? entries x = some v) {s t : Session}
    (hst : s.SameTurn t) (hs : s.stack = ⟨host, .dict entries⟩ :: below)
    (hagain : ∀ sc, InStep ((chosen broken P).on s.stack s.stack)
      (Evaluator.evaluate ⟨c, .sandboxed lib functions, random⟩ n sc)
      (Evaluator.evaluate ⟨c', .sandboxed lib functions, random⟩ n sc)) :
    let ev : Evaluator := ⟨c, .sandboxed lib functions, random⟩
    let ev' : Evaluator := ⟨c', .sandboxed lib functions, random⟩
    broken ((ev.renderFragment ev.evaluate f).final s) ∨
      ((ev.renderFragment ev.evaluate f).final s).stack = s.stack ∧
        HandsOn (ev.renderFragment ev.evaluate f) (ev'.renderFragment ev'.evaluate f') s t := by
  intro ev ev'
  obtain ⟨vs, hvs⟩ := exists_values hbinds
  have ht : t.stack = ⟨host, .dict entries⟩ :: below := hst.stack ▸ hs
  have hknown' : c'.has n = true := (h.tied (σ := []) rfl).has n ▸ hknown
  obtain ⟨calls, hreference⟩ := renderReference_call ev ev.evaluate hs hknown
    (sandboxed_names hxs (Reference.argumentTexts_names hxs) hvs)
  obtain ⟨calls', htext, herror⟩ := renderExpression_call ev' ev'.evaluate ht
    (Engine.sandboxed_call hn hxs hknown' hvs)
  obtain ⟨hout, hfinal⟩ := Prod.mk.inj ((run_eq _ _).symm.trans hreference)
  have hcall := (h.tied rfl).callTemplate (.inl hknown) hagain vs
  rw [renderFragment_reference hn hxs hf, renderFragment_expression hn hxs hf']
  refine (hcall.agrees { s with calls := calls } { t with calls := calls' }
    ⟨rfl, hst.stack.symm, hst.choices⟩).imp (fun hbroken => ?_) fun hagree => ?_
  · rw [hfinal]
    exact hbroken
  · obtain ⟨hstack, hstack', hchoices⟩ := hagree.final
    have hturn := Session.SameTurn.mk (hstack.trans hstack'.symm) hchoices
    refine ⟨?_, ?_, ?_⟩
    · rw [hfinal]
      exact hstack
    · intro text hgives
      have hgives' := hagree.outcome.symm.trans (hout.symm.trans hgives)
      obtain ⟨hout', hfinal'⟩ := Prod.mk.inj ((run_eq _ _).symm.trans (htext text hgives'))
      rw [hout', hfinal, hfinal']
      exact ⟨hgives', hturn⟩
    · intro e hends
      have hends' := hagree.outcome.symm.trans (hout.symm.trans hends)
      obtain ⟨hout', hfinal'⟩ := Prod.mk.inj ((run_eq _ _).symm.trans (herror e hends'))
      rw [hout', hfinal, hfinal']
      exact ⟨rfl, hturn⟩

/-! ## Whole documents -/

/-- On this stack, with the scope innermost, a reference to `n` finds its arguments bound, and fails
in no way but with an error of the language. -/
structure Ready (ev : Evaluator) (n : Text) (xs : List Text) (host : Text) (scope : Value)
    (below : List Target) : Prop where
  binds : ∃ entries, scope = .dict entries ∧ ∀ x ∈ xs, ∃ v, Value.lookupName? entries x = some v
  calm : ∀ s : Session, s.stack = ⟨host, scope⟩ :: below → ∀ failure,
    (ev.renderReference ev.evaluate (.applied n (join ", " xs))).outcome s = .error failure →
      ∃ e, failure = .template e

/-- The host has been entered on a stack on which it is not ready to call `n`. -/
def Unready (ev : Evaluator) (n : Text) (xs : List Text) (host : Text) (s : Session) : Prop :=
  ∃ scope below, (⟨host, scope⟩ :: below) ∈ s.frames ∧ ¬ ev.Ready n xs host scope below

section

variable {before after : List Template} {p p' : Template} {k k' : Content}

theorem heading_of_swaps (hc : c.templates = before ++ p :: after)
    (hc' : c'.templates = before ++ p' :: after) (hp : p.Swaps k k' p') (name : Text) :
    (c.find? name).map Template.heading = (c'.find? name).map Template.heading := by
  by_cases hname : name = p.name
  · have hfind' : c'.find? p.name = some p' := hp.name ▸ Catalog.find?_changed hc'
    rw [hname, Catalog.find?_changed hc, hfind', Option.map_some, Option.map_some, hp.heading]
  · rw [Catalog.find?_of_oneChange hc hc' hp.name hname]

/-- While the changed template is being evaluated, nothing that is changed is entered. -/
theorem bodies_on_host {engine : Engine} {broken : Session → Prop}
    (hc : c.templates = before ++ p :: after) (hc' : c'.templates = before ++ p' :: after)
    (hname : p'.name = p.name)
    (h : (chosen broken fun σ => ∃ u ∈ σ, u.name = p.name).Joins ⟨c, engine, random⟩
      ⟨c', engine, random⟩) :
    (chosen broken fun σ => ∃ u ∈ σ, u.name = p.name).Bodies ⟨c, engine, random⟩
      ⟨c', engine, random⟩ := by
  intro s τ name scope t t' hστ ht ht' hon _ hagain
  have hne : name ≠ p.name := by
    rintro rfl
    exact hon hστ.2
  have hsame : t = t' := by
    have hfind := Catalog.find?_of_oneChange hc hc' hname hne
    exact Option.some.inj (ht.symm.trans (hfind.trans ht'))
  rw [← hsame]
  exact h.renderBody (by rw [List.head?_cons, List.head?_cons]) hagain t.body

/-- Wherever a template is entered, its body is rendered in step: it is the same, or it differs in
fragments that are rendered in step. -/
theorem bodies_of_swaps {engine : Engine} {broken : Session → Prop}
    (hc : c.templates = before ++ p :: after) (hc' : c'.templates = before ++ p' :: after)
    (hp : p.Swaps k k' p')
    (h : (chosen broken fun _ => True).Joins ⟨c, engine, random⟩ ⟨c', engine, random⟩)
    (hswap : ∀ (s : Session) (scope : Value), ¬ broken (bodySession s p.name scope) →
      ∀ f f' : Fragment, f.content = k → f'.content = k' →
        (∀ callee sc, InStep
          ((chosen broken fun _ => True).on (⟨p.name, scope⟩ :: s.stack) (⟨p.name, scope⟩ :: s.stack))
          (Evaluator.evaluate ⟨c, engine, random⟩ callee sc)
          (Evaluator.evaluate ⟨c', engine, random⟩ callee sc)) →
        InStep
          ((chosen broken fun _ => True).on (⟨p.name, scope⟩ :: s.stack) (⟨p.name, scope⟩ :: s.stack))
          (Evaluator.renderFragment ⟨c, engine, random⟩ (Evaluator.evaluate ⟨c, engine, random⟩) f)
          (Evaluator.renderFragment ⟨c', engine, random⟩ (Evaluator.evaluate ⟨c', engine, random⟩)
            f')) :
    (chosen broken fun _ => True).Bodies ⟨c, engine, random⟩ ⟨c', engine, random⟩ := by
  intro s τ name scope t t' hστ ht ht' hon hstart hagain
  obtain ⟨rfl, -⟩ := hστ
  by_cases hname : name = p.name
  · subst hname
    have hfind' : c'.find? p.name = some p' := hp.name ▸ Catalog.find?_changed hc'
    have htp : p = t := Option.some.inj ((Catalog.find?_changed hc).symm.trans ht)
    have htp' : p' = t' := Option.some.inj (hfind'.symm.trans ht')
    rw [← htp, ← htp']
    exact h.renderBody_of_swaps rfl hagain
      (fun f f' hf hf' => hswap s scope hstart f f' hf hf' hagain) hp.2
  · have hsame : t = t' := by
      have hfind := Catalog.find?_of_oneChange hc hc' hp.name hname
      exact Option.some.inj (ht.symm.trans (hfind.trans ht'))
    rw [← hsame]
    exact h.renderBody rfl hagain t.body

/-- Each time the host renders the fragment, the expression hands on what the reference gives. -/
theorem handsOn_of_swaps (hn : n.IsPlainName) (hxs : ∀ x ∈ xs, x.IsPlainName)
    (hc : c.templates = before ++ p :: after) (hc' : c'.templates = before ++ p' :: after)
    (hp : p.Swaps k k' p') (hknown : c.has n = true)
    (hf : f.content = Content.reference n xs) (hf' : f'.content = Content.expression n xs)
    {entries : List (Value × Value)} {below : List Target}
    (hbinds : ∀ x ∈ xs, ∃ v, Value.lookupName? entries x = some v) {s t : Session}
    (hst : s.SameTurn t) (hs : s.stack = ⟨p.name, .dict entries⟩ :: below) :
    let ev : Evaluator := ⟨c, .sandboxed lib functions, random⟩
    let ev' : Evaluator := ⟨c', .sandboxed lib functions, random⟩
    HandsOn (ev.renderFragment ev.evaluate f) (ev'.renderFragment ev'.evaluate f') s t := by
  intro ev ev'
  have hjoins : (chosen (fun _ => False) fun σ => ∃ u ∈ σ, u.name = p.name).Joins ev ev' := by
    refine joins_chosen _ random (heading_of_swaps hc hc' hp) (fun _ _ _ hfalse => hfalse) ?_
    rintro σ target ⟨u, hu, hname⟩
    exact ⟨u, List.mem_cons_of_mem _ hu, hname⟩
  have hhost : ∃ u ∈ s.stack, u.name = p.name := by
    rw [hs]
    exact ⟨_, List.mem_cons_self, rfl⟩
  have hbodies := bodies_on_host hc hc' hp.name hjoins
  have hagain : ∀ sc, InStep
      ((chosen (fun _ => False) fun σ => ∃ u ∈ σ, u.name = p.name).on s.stack s.stack)
      (ev.evaluate n sc) (ev'.evaluate n sc) := fun sc =>
    hjoins.inStep hbodies _ s.stack s.stack ⟨rfl, hhost⟩ (Nat.lt_succ_self _) n sc (.inl rfl)
  rcases handsOn_of_inStep hn hxs hjoins hknown hf hf' hbinds hst hs hagain with
    hfalse | ⟨-, hhands⟩
  · exact hfalse.elim
  · exact hhands

/-- Where the host is always ready, whole evaluations agree. -/
theorem evaluate_of_ready (hn : n.IsPlainName) (hxs : ∀ x ∈ xs, x.IsPlainName)
    (hc : c.templates = before ++ p :: after) (hc' : c'.templates = before ++ p' :: after)
    (hp : p.Swaps (Content.reference n xs) (Content.expression n xs) p') (hknown : c.has n = true)
    {s t : Session} (hst : s.SameTurn t) (name : Text) (scope : Value) :
    let ev : Evaluator := ⟨c, .sandboxed lib functions, random⟩
    let ev' : Evaluator := ⟨c', .sandboxed lib functions, random⟩
    ¬ ev.Unready n xs p.name ((ev.evaluate name scope).final s) →
      SameEnd (ev.evaluate name scope) (ev'.evaluate name scope) s t := by
  intro ev ev' hready
  have hjoins : (chosen (ev.Unready n xs p.name) fun _ => True).Joins ev ev' := by
    refine joins_chosen _ random (heading_of_swaps hc hc' hp) ?_ fun _ _ htrue => htrue
    rintro u u' hlater ⟨sc, below, hmem, hnot⟩
    exact ⟨sc, below, hlater.frames.subset hmem, hnot⟩
  have hbodies : (chosen (ev.Unready n xs p.name) fun _ => True).Bodies ev ev' := by
    refine bodies_of_swaps hc hc' hp hjoins fun u sc hstart f f' hf hf' hagain => ?_
    have hsc : ev.Ready n xs p.name sc u.stack := by
      by_contra hnot
      refine hstart ⟨sc, u.stack, ?_, hnot⟩
      rw [bodySession_frames]
      exact List.mem_append_right _ (List.mem_singleton_self _)
    obtain ⟨entries, rfl, hbinds⟩ := hsc.binds
    refine ⟨(hjoins.renderFragment rfl hagain f).stays, ?_⟩
    rintro v w ⟨hv, hw, hchoices⟩
    refine (handsOn_of_inStep hn hxs hjoins hknown hf hf' hbinds ⟨hv.trans hw.symm, hchoices⟩ hv
      (hv ▸ hagain n)).imp_right ?_
    rintro ⟨hstack, hhands⟩
    have hboth : ((ev.renderFragment ev.evaluate f).outcome v =
        (ev'.renderFragment ev'.evaluate f').outcome w) ∧
        ((ev.renderFragment ev.evaluate f).final v).SameTurn
          ((ev'.renderFragment ev'.evaluate f').final w) := by
      cases hout : (ev.renderFragment ev.evaluate f).outcome v with
      | ok text => exact ⟨(hhands.text text hout).1.symm, (hhands.text text hout).2⟩
      | error failure =>
        obtain ⟨e, rfl⟩ := hsc.calm v hv failure (renderFragment_reference hn hxs hf ▸ hout)
        exact ⟨(hhands.error e hout).1.symm, (hhands.error e hout).2⟩
    have hfinal := hstack.trans hv
    exact ⟨hboth.1, ⟨hfinal, hboth.2.stack ▸ hfinal, hboth.2.choices⟩, fun _ he => he,
      fun _ _ => trivial⟩
  rcases hjoins.agrees hbodies ⟨hst.stack, trivial⟩ hst.choices scope (.inl (by rw [hst.stack]))
    with hunready | ⟨houtcome, hchoices⟩
  · exact absurd hunready hready
  · refine ⟨houtcome, ?_, hchoices⟩
    rw [(clean_evaluate name scope s).stack, (clean_evaluate name scope t).stack, hst.stack]

/-- A template that is being evaluated is not entered again: no later stack has it innermost. -/
theorem frames_of_self (ev : Evaluator) {s : Session} {t : Template} {name : Text} (scope : Value)
    (hfind : ev.catalog.find? name = some t) (hfree : ¬ s.IsOn name) {sc : Value}
    {below : List Target} (hmem : (⟨name, sc⟩ :: below) ∈ ((ev.evaluate name scope).final s).frames) :
    (⟨name, sc⟩ :: below) ∈ s.frames ∨ sc = scope ∧ below = s.stack := by
  rw [ev.evaluate_eq_enter, (ev.enter_free hfind hfree ev.evaluate scope).2] at hmem
  obtain ⟨new, hnew, hgrown⟩ := (ev.clean_renderBody t.body (bodySession s name scope)).frames
  dsimp only at hmem
  rw [hnew, bodySession_frames, List.mem_append, List.mem_append, List.mem_singleton] at hmem
  rcases hmem with (hmem | hmem) | hmem
  · exact .inl hmem
  · obtain ⟨hhead, hbelow⟩ := List.cons.inj hmem
    exact .inr ⟨congrArg Target.scope hhead, hbelow⟩
  · obtain ⟨target, below', hframe, hsuffix, -, hdistinct⟩ := (hgrown _ hmem).entered
    obtain ⟨rfl, rfl⟩ := List.cons.inj hframe
    refine absurd rfl (hdistinct ⟨name, scope⟩ (hsuffix.subset ?_))
    rw [bodySession_stack]
    exact List.mem_cons_self

/-- A reference without parentheses and one with nothing between them are rendered alike, and so are
whole documents. -/
theorem plain_agrees {p₀ : Template} {c₀ : Catalog} (hn : n.IsPlainName)
    (hc₀ : c₀.templates = before ++ p₀ :: after) (hc : c.templates = before ++ p :: after)
    (hp : p₀.Swaps (Content.name n) (Content.reference n []) p) (hknown : c.has n = true)
    (engine : Engine) (random : RandomSource) {s t : Session} (hst : s.SameTurn t) :
    let ev₀ : Evaluator := ⟨c₀, engine, random⟩
    let ev : Evaluator := ⟨c, engine, random⟩
    (∀ f₀ f : Fragment, f₀.content = Content.name n → f.content = Content.reference n [] →
        SameEnd (ev₀.renderFragment ev₀.evaluate f₀) (ev.renderFragment ev.evaluate f) s t) ∧
      ∀ name scope, SameEnd (ev₀.evaluate name scope) (ev.evaluate name scope) s t := by
  intro ev₀ ev
  have hjoins : (chosen (fun _ => False) fun _ => True).Joins ev₀ ev :=
    joins_chosen engine random (heading_of_swaps hc₀ hc hp) (fun _ _ _ hfalse => hfalse)
      fun _ _ htrue => htrue
  have hfragments : ∀ {σ : List Target},
      (∀ callee sc, InStep ((chosen (fun _ => False) fun _ => True).on σ σ) (ev₀.evaluate callee sc)
        (ev.evaluate callee sc)) → ∀ f₀ f : Fragment, f₀.content = Content.name n →
      f.content = Content.reference n [] →
      InStep ((chosen (fun _ => False) fun _ => True).on σ σ)
        (ev₀.renderFragment ev₀.evaluate f₀) (ev.renderFragment ev.evaluate f) := by
    intro σ hagain f₀ f hf₀ hf
    rw [renderFragment_name hn hf₀, renderFragment_reference hn (List.forall_mem_nil _) hf]
    have hplain := renderReference_plain ev ev.evaluate hknown
    exact hplain ▸ (hjoins.tied rfl).renderReference (fun _ _ => .top _) (fun _ _ _ _ _ => trivial)
      fun callee _ sc => hagain callee sc
  have hbodies : (chosen (fun _ => False) fun _ => True).Bodies ev₀ ev :=
    bodies_of_swaps hc₀ hc hp hjoins fun _ _ _ f₀ f hf₀ hf hagain => hfragments hagain f₀ f hf₀ hf
  have hall : ∀ callee sc, InStep ((chosen (fun _ => False) fun _ => True).on s.stack s.stack)
      (ev₀.evaluate callee sc) (ev.evaluate callee sc) := fun callee sc =>
    hjoins.inStep hbodies _ _ _ ⟨rfl, trivial⟩ (Nat.lt_succ_self _) callee sc (.inl rfl)
  exact ⟨fun f₀ f hf₀ hf => .of_inStep (hfragments hall f₀ f hf₀ hf) hst,
    fun name scope => .of_inStep (hall name scope) hst⟩

/-- **A reference and an expression agree on a call.**  In two documents that differ in one fragment
of one body line, a template `n` is called with names as arguments, by a reference in the first and
by an expression in the second.

* Each time the fragment comes to be rendered with the arguments bound, the expression gives the text
  that the reference gives, or ends in the error of the language that the reference ends in, after
  the same choices.
* Whole evaluations have the same outcome after the same choices, if the arguments are bound and no
  fault of values comes up whenever the reference is rendered.
* Without arguments the reference may also do without parentheses: it agrees with both, and whole
  evaluations of the two documents with references agree in any case. -/
theorem calls_agree {before after : List Template} {p p' : Template} {c c' : Catalog}
    (lib : Library) (functions : Registry) (random : RandomSource) {n : Text} {xs : List Text}
    (hn : n.IsPlainName) (hxs : ∀ x ∈ xs, x.IsPlainName)
    (hp : p.Swaps (Content.reference n xs) (Content.expression n xs) p')
    (hc : Catalog.ofList (before ++ p :: after) = .ok c)
    (hc' : Catalog.ofList (before ++ p' :: after) = .ok c') (hknown : c.has n = true) :
    let ev : Evaluator := ⟨c, .sandboxed lib functions, random⟩
    let ev' : Evaluator := ⟨c', .sandboxed lib functions, random⟩
    (∀ f f' : Fragment, f.content = Content.reference n xs → f'.content = Content.expression n xs →
      ∀ (s t : Session) entries below, s.SameTurn t → s.stack = ⟨p.name, .dict entries⟩ :: below →
        (∀ x ∈ xs, ∃ v, Value.lookupName? entries x = some v) →
        HandsOn (ev.renderFragment ev.evaluate f) (ev'.renderFragment ev'.evaluate f') s t) ∧
    (∀ name scope (s t : Session), s.SameTurn t →
      ¬ ev.Unready n xs p.name ((ev.evaluate name scope).final s) →
        SameEnd (ev.evaluate name scope) (ev'.evaluate name scope) s t) ∧
    (xs = [] → ∀ p₀ c₀, p₀.Swaps (Content.name n) (Content.reference n []) p →
      Catalog.ofList (before ++ p₀ :: after) = .ok c₀ →
      let ev₀ : Evaluator := ⟨c₀, .sandboxed lib functions, random⟩
      (∀ f₀ f f' : Fragment, f₀.content = Content.name n → f.content = Content.reference n [] →
        f'.content = Content.expression n [] → ∀ s t : Session, s.SameTurn t →
          SameEnd (ev₀.renderFragment ev₀.evaluate f₀) (ev.renderFragment ev.evaluate f) s t ∧
          ∀ entries below, s.stack = ⟨p.name, .dict entries⟩ :: below →
            HandsOn (ev₀.renderFragment ev₀.evaluate f₀) (ev'.renderFragment ev'.evaluate f') s t) ∧
      ∀ name scope (s t : Session), s.SameTurn t →
        SameEnd (ev₀.evaluate name scope) (ev.evaluate name scope) s t) := by
  intro ev ev'
  rw [Catalog.ofList_iff] at hc hc'
  refine ⟨?_, ?_, ?_⟩
  · intro f f' hf hf' s t entries below hst hs hbinds
    exact handsOn_of_swaps hn hxs hc hc' hp hknown hf hf' hbinds hst hs
  · intro name scope s t hst hready
    exact evaluate_of_ready hn hxs hc hc' hp hknown hst name scope hready
  · rintro rfl p₀ c₀ hp₀ hc₀ ev₀
    rw [Catalog.ofList_iff] at hc₀
    refine ⟨fun f₀ f f' hf₀ hf hf' s t hst => ?_, fun name scope s t hst => ?_⟩
    · have hplain := (plain_agrees hn hc₀ hc hp₀ hknown (.sandboxed lib functions) random
        (.refl s)).1 f₀ f hf₀ hf
      refine ⟨(plain_agrees hn hc₀ hc hp₀ hknown _ _ hst).1 f₀ f hf₀ hf, fun entries below hs => ?_⟩
      exact hplain.handsOn (handsOn_of_swaps hn (List.forall_mem_nil _) hc hc' hp hknown hf hf'
        (List.forall_mem_nil _) hst hs)
    · exact (plain_agrees hn hc₀ hc hp₀ hknown _ _ hst).2 name scope

/-- The template that is called has the name of a built-in function. -/
theorem calls_agree_builtin :
    ∃ (ev ev' : Evaluator) (scope : Value),
      (Template.readDocument "d" "#m\n-[len(x)]\n#len(y)\n-n\x7by\x7d".toList).toOption =
        some ev.catalog.templates ∧
      (Template.readDocument "d" "#m\n-\x7blen(x)\x7d\n#len(y)\n-n\x7by\x7d".toList).toOption =
        some ev'.catalog.templates ∧
      (ev'.evaluate "m" scope).outcome .fresh = .ok (some "nb".toList) := by
  let line : List Fragment → Body := fun fragments => .normal [⟨fragments, 2⟩]
  let callee : Template := ⟨"len", ["y".toList],
    .normal [⟨[⟨.text, "n", ⟨4, 2⟩⟩, ⟨.expression, "\x7by\x7d", ⟨4, 3⟩⟩], 4⟩], "d", 3⟩
  let p : Template := ⟨"m", [], line [⟨.reference, "[len(x)]", ⟨2, 2⟩⟩], "d", 1⟩
  let p' : Template := ⟨"m", [], line [⟨.expression, "\x7blen(x)\x7d", ⟨2, 2⟩⟩], "d", 1⟩
  let c : Catalog := ⟨[p, callee], by decide⟩
  let c' : Catalog := ⟨[p', callee], by decide⟩
  let sc : Value := .dict [(.text "x", .text "b")]
  have hn : Text.IsPlainName "len" := ⟨by simp, by decide, by decide, by decide⟩
  have hx : Text.IsPlainName "x" := ⟨by simp, by decide, by decide, by decide⟩
  have hxs : ∀ x ∈ ["x".toList], Text.IsPlainName x := by
    rintro x hmem
    rwa [List.mem_singleton.1 hmem]
  have hp : p.Swaps (Content.reference "len" ["x".toList]) (Content.expression "len" ["x".toList]) p' :=
    ⟨rfl, [], _, _, [], rfl, rfl, rfl, [], _, _, [], rfl, rfl, rfl, rfl⟩
  have hc : Catalog.ofList ([] ++ p :: [callee]) = .ok c := Catalog.ofList_iff.2 rfl
  have hc' : Catalog.ofList ([] ++ p' :: [callee]) = .ok c' := Catalog.ofList_iff.2 rfl
  obtain ⟨-, hwhole, -⟩ := calls_agree .empty [] (fun turn _ => turn) hn hxs hp
    hc hc' (by decide)
  let ev : Evaluator := ⟨c, .sandboxed .empty [], fun turn _ => turn⟩
  let ev' : Evaluator := ⟨c', .sandboxed .empty [], fun turn _ => turn⟩
  -- the host is entered once, and its callee fails in no session with that stack
  have hready : ¬ ev.Unready "len" ["x".toList] "m" ((ev.evaluate "m" sc).final .fresh) := by
    rintro ⟨scope, below, hmem, hnot⟩
    have hfree : ¬ Session.fresh.IsOn "m" := nofun
    have hhost := frames_of_self ev sc (t := p) rfl hfree hmem
    obtain ⟨rfl, rfl⟩ := hhost.resolve_left nofun
    refine hnot ⟨⟨_, rfl, by simpa using ⟨.text "b", rfl⟩⟩, ?_⟩
    rintro ⟨stack, choices, calls, log, frames, loops⟩ rfl failure hfails
    have hgives : (ev.renderReference ev.evaluate (.applied "len" "x")).outcome
        ⟨[⟨"m", sc⟩], choices, calls, log, frames, loops⟩ = .ok "nb".toList := rfl
    cases hgives.symm.trans hfails
  refine ⟨ev, ev', sc, by decide +kernel, by decide +kernel, ?_⟩
  rw [← (hwhole "m" sc .fresh .fresh (.refl _) hready).outcome]
  decide +kernel

end

end

end Evaluator

end Phrasebook
