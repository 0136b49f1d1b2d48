import Phrasebook.Proofs.Expression.Calls

/-!
# Expressions in two contexts

An expression looks at its context in three places only: where a name stands, where something is
called, and where two operands are tested for being one thing.  In two contexts in which these come
to the same, all of the expression does.

* `Expr.SameEval`: an expression has the same dialogue in two contexts;
* `Expr.ComparesAlike`: its comparisons cannot tell the contexts apart;
* `Expr.evalItems_congr` and the like: lists of operands;
* `Expr.sameEval_of_parts`: an expression, from its names and calls;
* `Expr.sameEval_call`: a call, from what its first part means;
* `Engine.sandboxed_of_sameEval`: the standard engine.
-/

namespace Phrasebook

namespace Expr

variable {ctx ctx' : Context}

/-- The expression has the same dialogue in two contexts. -/
def SameEval (ctx ctx' : Context) (e : Expr) : Prop := eval ctx e = eval ctx' e

/-- The contexts agree on what is one thing, or the expression does not test it. -/
def ComparesAlike (ctx ctx' : Context) (e : Expr) : Prop :=
  ctx.sameThing = ctx'.sameThing ∨ e.ComparesValues

theorem ComparesAlike.operand {e operand : Expr} (he : ComparesAlike ctx ctx' e)
    (h : operand ∈ e.operands) : ComparesAlike ctx ctx' operand :=
  he.imp_right fun hvalues => hvalues.operand h

/-! ## Operands -/

theorem evalItems_congr {items : List Expr} (h : ∀ e ∈ items, SameEval ctx ctx' e) :
    evalItems ctx items = evalItems ctx' items := by
  induction items with
  | nil => rw [evalItems, evalItems]
  | cons e rest ih =>
    rw [evalItems, evalItems, h e List.mem_cons_self,
      ih fun p hp => h p (List.mem_cons_of_mem _ hp)]

theorem evalAll_congr {items : List Expr} (h : ∀ e ∈ items, SameEval ctx ctx' e) (last : Value) :
    evalAll ctx last items = evalAll ctx' last items := by
  induction items generalizing last with
  | nil => rw [evalAll, evalAll]
  | cons e rest ih =>
    rw [evalAll, evalAll, h e List.mem_cons_self]
    simp only [ih fun p hp => h p (List.mem_cons_of_mem _ hp)]

theorem evalAny_congr {items : List Expr} (h : ∀ e ∈ items, SameEval ctx ctx' e) (last : Value) :
    evalAny ctx last items = evalAny ctx' last items := by
  induction items generalizing last with
  | nil => rw [evalAny, evalAny]
  | cons e rest ih =>
    rw [evalAny, evalAny, h e List.mem_cons_self]
    simp only [ih fun p hp => h p (List.mem_cons_of_mem _ hp)]

theorem evalChain_congr {rest : List (CompareOp × Expr)} (h : ∀ p ∈ rest, SameEval ctx ctx' p.2)
    (hsame : ctx.sameThing = ctx'.sameThing ∨ ∀ p ∈ rest, p.1.comparesValues = true)
    (previous : Expr) (x : Value) : evalChain ctx previous x rest = evalChain ctx' previous x rest := by
  induction rest generalizing previous x with
  | nil => rw [evalChain, evalChain]
  | cons p rest ih =>
    have hholds : ∀ y, p.1.holds (ctx.sameThing previous x p.2 y) x y =
        p.1.holds (ctx'.sameThing previous x p.2 y) x y := by
      intro y
      rcases hsame with hsame | hvalues
      · rw [hsame]
      · exact CompareOp.holds_values (hvalues p List.mem_cons_self) _ _ x y
    have hrest := ih (fun q hq => h q (List.mem_cons_of_mem _ hq))
      (hsame.imp_right fun hvalues q hq => hvalues q (List.mem_cons_of_mem _ hq))
    rw [evalChain, evalChain, h p List.mem_cons_self]
    simp only [hholds, hrest]

theorem evalKeywords_congr {keywords : List (Option Text × Expr)}
    (h : ∀ p ∈ keywords, SameEval ctx ctx' p.2) (args : Arguments) :
    evalKeywords ctx args keywords = evalKeywords ctx' args keywords := by
  induction keywords generalizing args with
  | nil => rw [evalKeywords, evalKeywords]
  | cons p rest ih =>
    obtain ⟨parameter, operand⟩ := p
    cases parameter with
    | none => rw [evalKeywords, evalKeywords]
    | some parameter =>
      rw [evalKeywords, evalKeywords, h _ List.mem_cons_self]
      simp only [ih fun q hq => h q (List.mem_cons_of_mem _ hq)]

theorem evalMembers_congr {items : List Expr} (h : ∀ e ∈ items, SameEval ctx ctx' e)
    (members : List Value) : evalMembers ctx members items = evalMembers ctx' members items := by
  induction items generalizing members with
  | nil => rw [evalMembers, evalMembers]
  | cons e rest ih =>
    rw [evalMembers, evalMembers, h e List.mem_cons_self]
    simp only [ih fun p hp => h p (List.mem_cons_of_mem _ hp)]

theorem evalEntries_congr {items : List (Option Expr × Expr)}
    (h : ∀ p ∈ items, ∀ e ∈ p.1.toList ++ [p.2], SameEval ctx ctx' e)
    (entries : List (Value × Value)) :
    evalEntries ctx entries items = evalEntries ctx' entries items := by
  induction items generalizing entries with
  | nil => rw [evalEntries, evalEntries]
  | cons p rest ih =>
    obtain ⟨key, e⟩ := p
    cases key with
    | none => rw [evalEntries, evalEntries]
    | some key =>
      have hp := h _ List.mem_cons_self
      rw [evalEntries, evalEntries, hp key (by simp), hp e (by simp)]
      simp only [ih fun q hq => h q (List.mem_cons_of_mem _ hq)]

theorem eval_element (ctx : Context) {owner index : Expr}
    (h : ∀ lower upper step, index ≠ slice lower upper step) :
    eval ctx (subscript owner index) = (do
      let v ← eval ctx owner
      let i ← eval ctx index
      .ofExcept (v.element i)) := by
  rw [eval]
  exact h

/-! ## Calls -/

theorem evalCallee_congr {callee : Expr}
    (hname : ∀ id, callee = name id → ctx.callee id = ctx'.callee id)
    (howner : ∀ owner field, callee = member owner field → SameEval ctx ctx' owner) :
    evalCallee ctx callee = evalCallee ctx' callee := by
  cases callee with
  | name id => rw [evalCallee, evalCallee, hname id rfl]
  | member owner field => rw [evalCallee, evalCallee, howner owner field rfl]
  | _ => rw [evalCallee, evalCallee] <;> simp

/-- A call is the same where its first part means the same, with one library. -/
theorem sameEval_call {callee : Expr} {args : List Expr} {keywords : List (Option Text × Expr)}
    (hlib : ctx.library = ctx'.library)
    (hname : ∀ id, callee = name id → ctx.callee id = ctx'.callee id)
    (howner : ∀ owner field, callee = member owner field → SameEval ctx ctx' owner)
    (hargs : ∀ p ∈ args, SameEval ctx ctx' p) (hkeywords : ∀ p ∈ keywords, SameEval ctx ctx' p.2) :
    SameEval ctx ctx' (call callee args keywords) := by
  unfold SameEval
  rw [eval, eval, evalCallee_congr hname howner, evalItems_congr hargs, hlib]
  simp only [evalKeywords_congr hkeywords]

/-! ## Whole expressions -/

/-- **An expression is the same in two contexts** if its comparisons cannot tell them apart, if its
names are the same, and if its calls are as soon as what is inside them is. -/
theorem sameEval_of_parts (e : Expr) : ComparesAlike ctx ctx' e →
    (∀ id, e.Part (name id) → SameEval ctx ctx' (name id)) →
    (∀ callee args keywords, e.Part (call callee args keywords) →
      (∀ owner field, callee = member owner field → SameEval ctx ctx' owner) →
      (∀ p ∈ args, SameEval ctx ctx' p) → (∀ p ∈ keywords, SameEval ctx ctx' p.2) →
      SameEval ctx ctx' (call callee args keywords)) →
    SameEval ctx ctx' e := by
  induction e using induction_size with
  | h e ih =>
  intro hsame hname hcall
  -- what is smaller than an operand is an operand of an operand at most, so the hypothesis on
  -- sizes is used for operands only
  have hop : ∀ p ∈ e.operands, SameEval ctx ctx' p := fun p hp =>
    ih p (sizeOf_operand_lt hp) (hsame.operand hp) (fun id hid => hname id (.inside hp hid))
      fun callee args keywords hpart => hcall callee args keywords (.inside hp hpart)
  have hop₂ : ∀ p ∈ e.operands, ∀ q ∈ p.operands, SameEval ctx ctx' q := fun p hp q hq =>
    ih q (Nat.lt_trans (sizeOf_operand_lt hq) (sizeOf_operand_lt hp)) ((hsame.operand hp).operand hq)
      (fun id hid => hname id (.inside hp (.inside hq hid)))
      fun callee args keywords hpart => hcall callee args keywords (.inside hp (.inside hq hpart))
  unfold SameEval
  cases e with
  | constant v => rw [eval, eval]
  | name id => exact hname id (.here _)
  | all items =>
    rw [eval, eval]
    exact evalAll_congr hop _
  | any items =>
    rw [eval, eval]
    exact evalAny_congr hop _
  | unary op operand => rw [eval, eval, hop operand (by simp [operands])]
  | binary op left right =>
    rw [eval, eval, hop left (by simp [operands]), hop right (by simp [operands])]
  | compare first rest =>
    have hrest : ∀ p ∈ rest, SameEval ctx ctx' p.2 := fun p hp =>
      hop p.2 (List.mem_cons_of_mem _ (List.mem_map_of_mem hp))
    rw [eval, eval, hop first (by simp [operands])]
    simp only [evalChain_congr hrest (hsame.imp_right fun hvalues => hvalues first rest (.here _))]
  | call callee args keywords =>
    refine hcall callee args keywords (.here _) ?_ ?_ ?_
    · rintro owner field rfl
      exact hop₂ (member owner field) (by simp [operands]) owner (by simp [operands])
    · exact fun p hp => hop p (List.mem_cons_of_mem _ (List.mem_append_left _ hp))
    · exact fun p hp =>
        hop p.2 (List.mem_cons_of_mem _ (List.mem_append_right _ (List.mem_map_of_mem hp)))
  | member owner field => rw [eval, eval, hop owner (by simp [operands])]
  | subscript owner index =>
    have howner := hop owner (by simp [operands])
    have hindex : index ∈ (subscript owner index).operands := by simp [operands]
    by_cases hslice : ∃ lower upper step, index = slice lower upper step
    · obtain ⟨lower, upper, step, rfl⟩ := hslice
      have hbound := hop₂ _ hindex
      rw [eval, eval, howner, hbound lower (by simp [operands]), hbound upper (by simp [operands]),
        hbound step (by simp [operands])]
    · have helement : ∀ lower upper step, index ≠ slice lower upper step :=
        fun lower upper step h => hslice ⟨lower, upper, step, h⟩
      rw [eval_element _ helement, eval_element _ helement, howner, hop index hindex]
  | slice lower upper step => rw [eval, eval]
  | list items | tuple items =>
    have hitems : ∀ p ∈ items, SameEval ctx ctx' p := hop
    rw [eval, eval, evalItems_congr hitems]
  | set items =>
    have hitems : ∀ p ∈ items, SameEval ctx ctx' p := hop
    rw [eval, eval, evalMembers_congr hitems]
  | dict entries =>
    have hentries : ∀ p ∈ entries, ∀ q ∈ p.1.toList ++ [p.2], SameEval ctx ctx' q :=
      fun p hp q hq => hop q (List.mem_flatMap.2 ⟨p, hp, hq⟩)
    rw [eval, eval, evalEntries_congr hentries]
  | choice condition first second =>
    rw [eval, eval, hop condition (by simp [operands]), hop first (by simp [operands]),
      hop second (by simp [operands])]
  | starred operand => rw [eval, eval]
  | unsupported form => rw [eval, eval]

end Expr

/-- The standard engine gives the same where the expression that it reads has the same dialogue. -/
theorem Engine.sandboxed_of_sameEval {lib lib' : Library} {functions functions' : Registry}
    {known known' : Text → Bool} {source : Text} {scope scope' : Value}
    (h : ∀ e, Expr.ofText? (Text.trim source) = some e →
      Expr.SameEval ⟨scope, functions, lib, known⟩ ⟨scope', functions', lib', known'⟩ e) :
    sandboxed lib functions known source scope = sandboxed lib' functions' known' source scope' := by
  unfold sandboxed
  dsimp only
  split
  · rfl
  · split
    · rfl
    · cases he : Expr.ofText? (Text.trim source) with
      | none => rfl
      | some e =>
        dsimp only
        rw [h e he]

end Phrasebook
