import Phrasebook.Proofs.Rendering.Bond

/-!
# What an evaluation looks at

A session keeps many things, but an evaluation looks at two of them: the names on the stack and
what the random source gives from now on.  The scopes on the stack are its callers' own, and so is
what has been called, chosen and logged before.  The names are looked at to find loops only, so an
evaluation that finds none gives what it would give in a session with nothing on the stack.

* `Session.Parallel`: two sessions that have gone on by the same choices and calls of the engine;
* `Evaluator.alongside`, `Evaluator.joins_alongside`: following these;
* `Evaluator.evaluate_alongside`: evaluations on stacks with the same names;
* `Evaluator.evaluate_sameTurn`: evaluations on the same stack;
* `Evaluator.evaluate_isolated`: evaluations above other templates, and alone.
-/

namespace Phrasebook

/-- From `s` to `s'` and from `t` to `t'` the same choices have been made, one after the other, and
the engine has been called for the same expressions in the same scopes. -/
structure Session.Parallel (s t s' t' : Session) : Prop where
  choices : ∃ new, s'.choices = s.choices ++ new ∧ t'.choices = t.choices ++ new
  calls : ∃ new, s'.calls = s.calls ++ new ∧ t'.calls = t.calls ++ new

namespace Session.Parallel

variable {s t s' t' s'' t'' : Session}

theorem refl (s t : Session) : s.Parallel t s t :=
  ⟨⟨[], by rw [List.append_nil], by rw [List.append_nil]⟩,
    ⟨[], by rw [List.append_nil], by rw [List.append_nil]⟩⟩

theorem quiet (h : s.Parallel t s' t') (hs : s'.Quiet s'') (ht : t'.Quiet t'') :
    s.Parallel t s'' t'' where
  choices := by
    rw [hs.choices, ht.choices]
    exact h.choices
  calls := by
    rw [hs.calls, ht.calls]
    exact h.calls

theorem call (h : s.Parallel t s' t') (c : Text × Value) :
    s.Parallel t { s' with calls := s'.calls ++ [c] } { t' with calls := t'.calls ++ [c] } where
  choices := h.choices
  calls := by
    obtain ⟨new, hs, ht⟩ := h.calls
    refine ⟨new ++ [c], ?_, ?_⟩
    · rw [hs, List.append_assoc]
    · rw [ht, List.append_assoc]

theorem choose (h : s.Parallel t s' t') (count : Nat) :
    s.Parallel t { s' with choices := s'.choices ++ [count] }
      { t' with choices := t'.choices ++ [count] } where
  choices := by
    obtain ⟨new, hs, ht⟩ := h.choices
    refine ⟨new ++ [count], ?_, ?_⟩
    · rw [hs, List.append_assoc]
    · rw [ht, List.append_assoc]
  calls := h.calls

theorem choices_eq (h : s.Parallel t s' t') (hchoices : s.choices = t.choices) :
    s'.choices = t'.choices := by
  obtain ⟨new, hs, ht⟩ := h.choices
  rw [hs, ht, hchoices]

theorem calls_eq (h : s.Parallel t s' t') (hcalls : s.calls = t.calls) : s'.calls = t'.calls := by
  obtain ⟨new, hs, ht⟩ := h.calls
  rw [hs, ht, hcalls]

end Session.Parallel

namespace Evaluator

variable {ev ev' : Evaluator} {s₀ t₀ : Session}

/-! ## Following choices and calls -/

/-- Two evaluations from sessions that need not be alike, followed in what they choose and call. -/
def alongside (s₀ t₀ : Session) (broken : Session → Prop)
    (matched : List Target → List Target → Prop) : Bond where
  broken := broken
  matched := matched
  marks s t := s₀.Parallel t₀ s t ∧ s₀.loops <+: s.loops

/-- Evaluators with the same templates and engine, whose random sources give the same from the two
sessions on, are joined by what can be followed on the stacks. -/
theorem joins_alongside {broken : Session → Prop} {matched : List Target → List Target → Prop}
    (hfind : ∀ name, ev.catalog.find? name = ev'.catalog.find? name)
    (hengine : ∀ source scope,
      ev.engine ev.catalog.has source scope = ev'.engine ev'.catalog.has source scope)
    (hrandom : ∀ turn count, ev'.random (t₀.choices.length + turn) count =
      ev.random (s₀.choices.length + turn) count)
    (hstays : ∀ s s', s.Later s' → broken s → broken s')
    (hpush : ∀ σ τ target, matched σ τ → matched (target :: σ) (target :: τ))
    (hfree : ∀ σ τ, matched σ τ → ∀ u ∈ τ, ∃ v ∈ σ, v.name = u.name)
    (hloop : ∀ (s t : Session) (l : Loop), matched s.stack t.stack → s₀.loops <+: s.loops →
      broken { s with loops := s.loops ++ [l] } ∨ s.names = t.names) :
    (alongside s₀ t₀ broken matched).Joins ev ev' where
  find name := by rw [hfind name]
  engine := hengine
  stays := hstays
  quiet s s' t t' hs ht hmarks := ⟨hmarks.1.quiet hs ht, hmarks.2.trans hs.loops⟩
  call s t c hmarks := ⟨hmarks.1.call c, hmarks.2⟩
  choose s t count hmarks := by
    refine ⟨?_, hmarks.1.choose count, hmarks.2⟩
    obtain ⟨new, hs, ht⟩ := hmarks.1.choices
    rw [hs, ht, List.length_append, List.length_append, hrandom]
  push := hpush
  free := hfree
  loop s t l hstacks hmarks := hloop s t l hstacks hmarks.2

/-! ## Stacks with the same names -/

theorem isOn_of_names {σ τ : List Target} (h : σ.map (·.name) = τ.map (·.name)) {u : Target}
    (hu : u ∈ τ) : ∃ v ∈ σ, v.name = u.name := by
  have hmem : u.name ∈ σ.map (·.name) := h ▸ List.mem_map_of_mem hu
  exact List.mem_map.1 hmem

theorem map_stack_of_names {s t : Session} (h : s.names = t.names) :
    s.stack.map (·.name) = t.stack.map (·.name) := List.reverse_inj.1 h

/-- **Evaluations on stacks with the same names** have the same outcome and make the same choices
and calls. -/
theorem evaluate_alongside {s t : Session}
    (hfind : ∀ name, ev.catalog.find? name = ev'.catalog.find? name)
    (hengine : ∀ source scope,
      ev.engine ev.catalog.has source scope = ev'.engine ev'.catalog.has source scope)
    (hrandom : ∀ turn count, ev'.random (t.choices.length + turn) count =
      ev.random (s.choices.length + turn) count)
    (hnames : s.names = t.names) (name : Text) (scope : Value)
    (hname : s.stack.head? = t.stack.head? ∨ ev.catalog.has name = true) :
    (ev.evaluate name scope).outcome s = (ev'.evaluate name scope).outcome t ∧
      s.Parallel t ((ev.evaluate name scope).final s) ((ev'.evaluate name scope).final t) := by
  have hjoins : (alongside s t (fun _ => False)
      fun σ τ => σ.map (·.name) = τ.map (·.name)).Joins ev ev' := by
    refine joins_alongside hfind hengine hrandom (fun _ _ _ hfalse => hfalse) ?_ ?_ ?_
    · intro σ τ target hστ
      rw [List.map_cons, List.map_cons, hστ]
    · exact fun σ τ hστ u hu => isOn_of_names hστ hu
    · intro s' t' l hst _
      right
      rw [Session.names, hst, Session.names]
  rcases hjoins.agrees (hjoins.bodies_of_find hfind) (map_stack_of_names hnames)
    ⟨.refl s t, List.prefix_rfl⟩ scope hname with hfalse | ⟨houtcome, hmarks⟩
  · exact hfalse.elim
  · exact ⟨houtcome, hmarks.1⟩

end Evaluator

/-- The sessions agree in the stack and the choices. -/
structure Session.SameTurn (s t : Session) : Prop where
  stack : s.stack = t.stack
  choices : s.choices = t.choices

theorem Session.SameTurn.refl (s : Session) : s.SameTurn s := ⟨rfl, rfl⟩

theorem Session.SameTurn.trans {s t u : Session} (h : s.SameTurn t) (h' : t.SameTurn u) :
    s.SameTurn u := ⟨h.stack.trans h'.stack, h.choices.trans h'.choices⟩

theorem Session.SameTurn.names {s t : Session} (h : s.SameTurn t) : s.names = t.names := by
  rw [Session.names, h.stack, Session.names]

namespace Evaluator

variable {ev : Evaluator}

/-- **What an evaluation gives depends on the stack and the choices alone**, and so do the stack and
the choices that it leaves. -/
theorem evaluate_sameTurn (ev : Evaluator) (name : Text) (scope : Value) {s t : Session}
    (hst : s.SameTurn t) :
    (ev.evaluate name scope).outcome s = (ev.evaluate name scope).outcome t ∧
      ((ev.evaluate name scope).final s).SameTurn ((ev.evaluate name scope).final t) := by
  have hrandom : ∀ turn count, ev.random (t.choices.length + turn) count =
      ev.random (s.choices.length + turn) count := by
    intro turn count
    rw [hst.choices]
  obtain ⟨houtcome, hparallel⟩ := evaluate_alongside (fun _ => rfl) (fun _ _ => rfl) hrandom
    hst.names name scope (.inl (by rw [hst.stack]))
  refine ⟨houtcome, ?_, hparallel.choices_eq hst.choices⟩
  rw [(clean_evaluate name scope s).stack, (clean_evaluate name scope t).stack, hst.stack]

/-! ## Above other templates, and alone -/

/-- An evaluation that finds no loop goes on alike on an empty stack. -/
theorem evaluate_alone {ev' : Evaluator} {s t : Session}
    (hfind : ∀ name, ev.catalog.find? name = ev'.catalog.find? name)
    (hengine : ∀ source scope,
      ev.engine ev.catalog.has source scope = ev'.engine ev'.catalog.has source scope)
    (hrandom : ∀ turn count, ev'.random (t.choices.length + turn) count =
      ev.random (s.choices.length + turn) count)
    (ht : t.stack = []) {name : Text} (hname : ev.catalog.has name = true) (scope : Value)
    (hloops : ((ev.evaluate name scope).final s).loops = s.loops) :
    (ev.evaluate name scope).outcome s = (ev'.evaluate name scope).outcome t ∧
      s.Parallel t ((ev.evaluate name scope).final s) ((ev'.evaluate name scope).final t) := by
  have hjoins : (alongside s t (fun u => s.loops.length < u.loops.length)
      fun σ τ => ∀ u ∈ τ, ∃ v ∈ σ, v.name = u.name).Joins ev ev' := by
    refine joins_alongside hfind hengine hrandom ?_ ?_ (fun _ _ hστ => hστ) ?_
    · intro u u' hlater hu
      exact Nat.lt_of_lt_of_le hu hlater.loops.length_le
    · intro σ τ target hστ u hu
      rcases List.mem_cons.1 hu with rfl | hu
      · exact ⟨u, List.mem_cons_self, rfl⟩
      · obtain ⟨v, hv, hsame⟩ := hστ u hu
        exact ⟨v, List.mem_cons_of_mem _ hv, hsame⟩
    · -- a loop that is found is one more than there were
      intro u u' l _ hprefix
      left
      show s.loops.length < (u.loops ++ [l]).length
      have hle := hprefix.length_le
      rw [List.length_append, List.length_singleton]
      omega
  have hstacks : ∀ u ∈ t.stack, ∃ v ∈ s.stack, v.name = u.name := by
    rw [ht]
    rintro u hu
    cases hu
  rcases hjoins.agrees (hjoins.bodies_of_find hfind) hstacks ⟨.refl s t, List.prefix_rfl⟩ scope
    (.inr hname) with hbroken | ⟨houtcome, hmarks⟩
  · have hgrown : s.loops.length < ((ev.evaluate name scope).final s).loops.length := hbroken
    rw [hloops] at hgrown
    exact absurd hgrown (Nat.lt_irrefl _)
  · exact ⟨houtcome, hmarks.1⟩

/-- **Frames are isolated.**  A template of the catalog is evaluated in two sessions whose random
sources give the same from then on.

* Where the stacks have the same names in the same order, both evaluations have the same outcome and
  make the same choices and the same calls of the engine, whatever the scopes on the stacks are.
* Where the second session has nothing on its stack and the first evaluation finds no loop, also none
  whose error a guard swallows, they do so too. -/
theorem evaluate_isolated (ev : Evaluator) (random : RandomSource) {name : Text}
    (hname : ev.catalog.has name = true) (scope : Value) (s t : Session)
    (hrandom : ∀ turn count,
      random (t.choices.length + turn) count = ev.random (s.choices.length + turn) count) :
    let ev' : Evaluator := ⟨ev.catalog, ev.engine, random⟩
    let s' := (ev.evaluate name scope).final s
    let t' := (ev'.evaluate name scope).final t
    (s.names = t.names →
        (ev.evaluate name scope).outcome s = (ev'.evaluate name scope).outcome t ∧
          s.Parallel t s' t') ∧
      (t.stack = [] → s'.loops = s.loops →
        (ev.evaluate name scope).outcome s = (ev'.evaluate name scope).outcome t ∧
          s.Parallel t s' t') := by
  intro ev' s' t'
  have hfind : ∀ callee, ev.catalog.find? callee = ev'.catalog.find? callee := fun _ => rfl
  have hengine : ∀ source sc,
      ev.engine ev.catalog.has source sc = ev'.engine ev'.catalog.has source sc := fun _ _ => rfl
  constructor
  · intro hnames
    exact evaluate_alongside hfind hengine hrandom hnames name scope (.inr hname)
  · intro ht hloops
    exact evaluate_alone hfind hengine hrandom ht hname scope hloops

/-- A template with two alternatives above another one, after a choice, and alone. -/
theorem evaluate_isolated_above :
    ∃ (ev ev' : Evaluator) (s t : Session), ev.catalog.names = ["m".toList, "a".toList] ∧
      ev'.catalog = ev.catalog ∧ s.stack = [⟨"m", .int 1⟩] ∧ t.stack = [⟨"m", .null⟩] ∧
      ((ev.evaluate "a" .null).outcome s).toOption = some (some "y".toList) ∧
      (ev.evaluate "a" .null).outcome s = (ev'.evaluate "a" .null).outcome t ∧
      (ev.evaluate "a" .null).outcome s = (ev'.evaluate "a" .null).outcome .fresh := by
  let line : Text → Alternative := fun text => ⟨[⟨.text, text, ⟨1, 1⟩⟩], 1⟩
  let c : Catalog := ⟨[⟨"m", [], .normal [line "x"], "d", 1⟩,
    ⟨"a", [], .normal [line "x", line "y"], "d", 2⟩], by decide⟩
  let ev : Evaluator := ⟨c, .sandboxed .empty [], fun turn _ => turn⟩
  let s : Session := ⟨[⟨"m", .int 1⟩], [2], [], [], [], []⟩
  let t : Session := Session.fresh.push ⟨"m", .null⟩
  have hname : ev.catalog.has "a" = true := by decide
  have hrandom : ∀ turn count : Nat, (0 + turn) + 1 = ev.random (1 + turn) count := by
    intro turn count
    show 0 + turn + 1 = 1 + turn
    omega
  have hloops : ((ev.evaluate "a" .null).final s).loops = s.loops := by decide +kernel
  have hguest := ev.evaluate_isolated (fun turn _ => turn + 1) hname .null s t hrandom
  have halone := ev.evaluate_isolated (fun turn _ => turn + 1) hname .null s .fresh hrandom
  exact ⟨ev, ⟨c, ev.engine, fun turn _ => turn + 1⟩, s, t, rfl, rfl, rfl, rfl, by decide +kernel, (hguest.1 rfl).1,
    (halone.2 rfl hloops).1⟩

end Evaluator

end Phrasebook
