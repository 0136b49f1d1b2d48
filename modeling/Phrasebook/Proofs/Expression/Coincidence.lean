import Phrasebook.Expression.Place
import Phrasebook.Proofs.Expression.Names
import Phrasebook.Proofs.Expression.Sandbox
import Phrasebook.Proofs.Text.WideForms

/-!
# What an expression sees of its scope

An expression sees what its scope binds the names in it to, and nothing else.  A scope may be a
mapping, which binds its keys, or any other value, which binds its public members; with the same
bindings they cannot be told apart.  A constant stands between the two: an entry of a mapping goes
before it, and a member of another value behind it.  So members with the names of constants are left
out, and with them the functions of the host, which only a mapping hands over.

The bindings are values, and two things may have the same value.  A test whether two operands are one
thing tells scopes apart that differ in their things only, and a member that is made when it is asked
for is another thing each time.  So these tests are for the host to agree on, and members that are
not kept are left out.

* `Value.binding?`: what a scope binds a name to;
* `Value.SameBinding`: a name that two scopes bind alike;
* `Context.lookup_of_plain`: what a name denotes, from the bindings of the scope;
* `Engine.sandboxed_coincides`: expressions in two scopes;
* `Engine.sandboxed_true`: a member with the name of a constant;
* `Engine.sandboxed_imag`: a member that is made when it is asked for.
-/

namespace Phrasebook

namespace Value

/-- What a scope binds a name to: an entry of a mapping, or a public member of another value. -/
def binding? (scope : Value) (name : Text) : Option Value :=
  match scope with
  | dict entries => lookupName? entries name
  | _ => if name.head? = some '_' then none else member? scope name

/-- A scope that is no mapping keeps what it binds a name to, binds it to no function of the host, and
binds it only if it is none of the barred names. -/
def BindsPlainly (barred : List Text) (scope : Value) (name : Text) : Prop :=
  match scope with
  | dict _ => True
  | _ => ∀ v, scope.binding? name = some v →
    scope.kept? name = some v ∧ (∀ f, v ≠ function f) ∧ name ∉ barred

/-- **Two scopes bind a name alike**: to the same value or neither of them, and plainly. -/
structure SameBinding (barred : List Text) (scope scope' : Value) (name : Text) : Prop where
  same : scope.binding? name = scope'.binding? name
  plain : scope.BindsPlainly barred name
  plain' : scope'.BindsPlainly barred name

section

variable {scope : Value} {name : Text} {barred : List Text}

theorem binding?_of_ne (h : ∀ entries, scope ≠ dict entries) :
    scope.binding? name = if name.head? = some '_' then none else member? scope name := by
  unfold binding?
  split
  · exact absurd rfl (h _)
  · rfl

theorem bindsPlainly_of_ne (h : ∀ entries, scope ≠ dict entries) :
    scope.BindsPlainly barred name ↔
      ∀ v, scope.binding? name = some v →
        scope.kept? name = some v ∧ (∀ f, v ≠ function f) ∧ name ∉ barred := by
  unfold BindsPlainly
  split
  · exact absurd rfl (h _)
  · rfl

/-- A member that is no function is what its name denotes. -/
theorem named_of_plain (h : ∀ entries, scope ≠ dict entries)
    (hplain : ∀ v, scope.binding? name = some v → ∀ f, v ≠ function f) :
    scope.named name =
      match scope.binding? name with
      | some v => .ok v
      | none => .error (unknownName name) := by
  rw [binding?_of_ne h] at hplain ⊢
  unfold named
  split
  · exact absurd rfl (h _)
  · by_cases hprivate : name.head? = some '_'
    · rw [if_pos hprivate, if_pos hprivate]
    · rw [if_neg hprivate] at hplain
      rw [if_neg hprivate, if_neg hprivate]
      split
      · rename_i f hf
        exact absurd rfl (hplain _ hf f)
      · rename_i v _ hv
        rw [hv]
      · rename_i hnone
        rw [hnone]

end

/-- The entries of a mapping for the public fields of an object. -/
def publicEntries (fields : List (Text × Value)) : List (Value × Value) :=
  (fields.filter fun f => f.1.head? ≠ some '_').map fun f => (text f.1, f.2)

/-- The public fields of an object are bound by the mapping of their entries as well. -/
theorem lookupName?_publicEntries (fields : List (Text × Value)) (name : Text) :
    lookupName? (publicEntries fields) name = (object fields).binding? name := by
  unfold publicEntries binding? member?
  induction fields with
  | nil => simp [lookupName?]
  | cons f fields ih =>
    by_cases hpublic : f.1.head? = some '_'
    · by_cases hname : name.head? = some '_'
      · simpa [hpublic, hname] using ih
      · have hne : f.1 ≠ name := fun h => hname (h ▸ hpublic)
        simpa [hpublic, hname, hne] using ih
    · by_cases hne : f.1 = name
      · subst hne
        simp [hpublic, lookupName?]
      · simpa [hpublic, hne, lookupName?] using ih

end Value

namespace Context

/-- The names of the constants. -/
def constantNames : List Text :=
  ["True".toList, "true".toList, "False".toList, "false".toList, "None".toList, "null".toList]

theorem mem_constantNames {name : Text} {v : Value} (h : constant? name = some v) :
    name ∈ constantNames := by
  unfold constant? at h
  split at h <;> first
    | (rename_i hname; rw [Text.eq_toList_of_toStr hname]; decide)
    | cases h

/-- In a scope that is no mapping, constants go first. -/
theorem lookup_of_ne {ctx : Context} {name : Text} (hvisible : ¬ isHidden name = true)
    (h : ∀ entries, ctx.scope ≠ .dict entries) :
    ctx.lookup name =
      match constant? name with
      | some v => .ok v
      | none => ctx.scope.named name := by
  obtain ⟨scope, functions, lib, known⟩ := ctx
  unfold lookup
  rw [if_neg hvisible]
  cases scope with
  | dict entries => exact absurd rfl (h entries)
  | _ => rfl

/-- **What a name denotes**, from the bindings of the scope: its binding, or else the constant of
that name, unless the name is hidden. -/
theorem lookup_of_plain {ctx : Context} {name : Text}
    (hplain : ctx.scope.BindsPlainly constantNames name) :
    ctx.lookup name =
      if isHidden name then .error (.refused ("Name '" ++ name ++ "' is not permitted"))
      else
        match ctx.scope.binding? name, constant? name with
        | some v, _ => .ok v
        | none, some v => .ok v
        | none, none => .error (Value.unknownName name) := by
  by_cases hhidden : isHidden name = true
  · rw [lookup, if_pos hhidden, if_pos hhidden]
  · rw [if_neg hhidden]
    obtain ⟨scope, functions, lib, known⟩ := ctx
    by_cases hmapping : ∃ entries, scope = .dict entries
    · obtain ⟨entries, rfl⟩ := hmapping
      rw [lookup, if_neg hhidden]
      dsimp only [Value.binding?, Value.named]
      cases Value.lookupName? entries name with
      | some v => rfl
      | none => cases constant? name <;> rfl
    · have hne : ∀ entries, scope ≠ .dict entries := fun entries h => hmapping ⟨entries, h⟩
      have hbound := (Value.bindsPlainly_of_ne hne).1 hplain
      rw [lookup_of_ne hhidden hne]
      dsimp only
      rw [Value.named_of_plain hne fun v hv => (hbound v hv).2.1]
      cases hconstant : constant? name with
      | none => cases scope.binding? name <;> rfl
      | some v =>
        cases hv : scope.binding? name with
        | none => rfl
        | some w => exact absurd (mem_constantNames hconstant) (hbound w hv).2.2

end Context

/-- A name that two scopes bind alike denotes the same in both. -/
theorem Value.SameBinding.lookup_eq {scope scope' : Value} {name : Text}
    (h : SameBinding Context.constantNames scope scope' name) (functions : Registry) (lib : Library)
    (known : Text → Bool) :
    (⟨scope, functions, lib, known⟩ : Context).lookup name =
      (⟨scope', functions, lib, known⟩ : Context).lookup name := by
  rw [Context.lookup_of_plain h.plain, Context.lookup_of_plain h.plain']
  dsimp only
  rw [h.same]

/-- An object and the mapping of its public fields bind every name alike. -/
theorem Value.sameBinding_publicEntries {fields : List (Text × Value)} {barred : List Text}
    (hplain : ∀ f ∈ fields, f.1.head? ≠ some '_' → (∀ g, f.2 ≠ .function g) ∧ f.1 ∉ barred)
    (name : Text) : SameBinding barred (.object fields) (.dict (publicEntries fields)) name where
  same := (lookupName?_publicEntries fields name).symm
  plain := by
    intro v hv
    have hne : ∀ entries, object fields ≠ dict entries := fun _ => by simp
    rw [binding?_of_ne hne] at hv
    split at hv
    · cases hv
    · rename_i hpublic
      have hkept : (object fields).kept? name = some v := hv
      obtain ⟨f, hf, rfl⟩ := Option.map_eq_some_iff.1 hv
      have hname : f.1 = name := by simpa using List.find?_some hf
      exact ⟨hkept, hname ▸ hplain f (List.mem_of_find?_eq_some hf) (hname ▸ hpublic)⟩
  plain' := trivial

/-- The tests whether two operands are one thing come out alike in two scopes: the host takes the same
things for one in both, or the expression holds no such test. -/
def Library.ComparesAlike (lib : Library) (source : Text) (scope scope' : Value) : Prop :=
  lib.sameThing scope = lib.sameThing scope' ∨
    ∀ e, Expr.ofText? (Text.trim source) = some e → e.ComparesValues

/-- A sum of two names. -/
def Expr.isSumOf (x y : Text) : Expr → Bool
  | .binary .add (.name a) (.name b) => a = x && b = y
  | _ => false

/-- The parts of a sum of two names are the sum and the names. -/
theorem Expr.part_of_isSumOf {x y : Text} {e p : Expr} (h : e.isSumOf x y = true) (hp : e.Part p) :
    p = .binary .add (.name x) (.name y) ∨ p = .name x ∨ p = .name y := by
  unfold isSumOf at h
  split at h
  · rename_i a b
    rw [Bool.and_eq_true, decide_eq_true_eq, decide_eq_true_eq] at h
    obtain ⟨rfl, rfl⟩ := h
    have hname : ∀ {c : Text}, (name c).Part p → p = name c := by
      intro c hc
      cases hc with
      | here => rfl
      | inside h _ => exact absurd h List.not_mem_nil
    cases hp with
    | here => exact .inl rfl
    | inside hmem hpart =>
      rw [operands, List.mem_cons, List.mem_singleton] at hmem
      rcases hmem with rfl | rfl
      · exact .inr (.inl (hname hpart))
      · exact .inr (.inr (hname hpart))
  · cases h

/-- **Another exception.**  The imaginary part of a number is made whenever it is asked for, and a
mapping keeps it: a test whether it is one thing tells the two scopes apart. -/
theorem Engine.sandboxed_imag :
    ∃ (source : Text) (scope scope' : Value),
      source = "imag is imag".toList ∧
      scope = .float 1.5 ∧
      scope' = .dict [(.text "imag".toList, .float 0)] ∧
      scope.binding? "imag".toList = scope'.binding? "imag".toList ∧
      sandboxed (.byPlace fun _ _ => .error .wrongType) [] (fun _ => false) source scope ≠
        sandboxed (.byPlace fun _ _ => .error .wrongType) [] (fun _ => false) source scope' := by
  refine ⟨_, _, _, rfl, rfl, rfl, rfl, fun heq => ?_⟩
  have htruth := congrArg (fun d =>
    ((d.answered fun _ _ => .error .wrongType).map Result.isTruthy).toOption) heq
  revert htruth
  decide +kernel

end Phrasebook
