import Phrasebook.Proofs.Expression.Calls

/-!
# Chains of comparisons

A chain of comparisons is the conjunction of its comparisons, each of two neighbours.  In the
conjunction an operand between two operators is evaluated twice, and where nothing is called the
second time gives what the first time gave.

* `Expr.CallFree`: an expression without calls, which asks for nothing;
* `Expr.conjunction`: the comparisons of a chain, joined;
* `Expr.Hold`, `Expr.Decides`: how far a chain goes, and what ends it;
* `Expr.eval_compare_chain`: the value of a chain.
-/

namespace Phrasebook

namespace Expr

variable {ctx : Context}

/-! ## Expressions without calls -/

/-- Nothing is called in the expression. -/
def CallFree (e : Expr) : Prop := ∀ callee args keywords, ¬ e.Part (call callee args keywords)

theorem callFree_of_operands {e : Expr} (hcall : ∀ callee args keywords, e ≠ call callee args keywords)
    (h : ∀ p ∈ e.operands, p.CallFree) : e.CallFree := by
  intro callee args keywords hpart
  cases hpart with
  | here => exact hcall callee args keywords rfl
  | inside hmem hpart => exact h _ hmem callee args keywords hpart

/-- **What calls nothing asks for nothing**: it has a value or fails. -/
theorem CallFree.eval_eq {e : Expr} (h : e.CallFree) (ctx : Context) :
    ∃ r, eval ctx e = .ofExcept r := by
  have hasks : EvalAsks ctx (fun _ => False) e := by
    refine keeps_eval ctx e _ ?_
    rintro id ⟨args, keywords, hpart⟩ -
    exact h _ _ _ hpart
  unfold EvalAsks Asks at hasks
  cases hd : eval ctx e with
  | done v => exact ⟨.ok v, rfl⟩
  | fail f => exact ⟨.error f, rfl⟩
  | ask template args resume =>
    rw [hd] at hasks
    exact absurd hasks.1 id

/-! ## The conjunction -/

/-- The comparisons of a chain, each of two neighbours. -/
def comparisons (previous : Expr) : List (CompareOp × Expr) → List Expr
  | [] => []
  | (op, e) :: rest => compare previous [(op, e)] :: comparisons e rest

/-- The comparisons of a chain as a conjunction; a single one stands for itself. -/
def conjunction (first : Expr) (rest : List (CompareOp × Expr)) : Expr :=
  match comparisons first rest with
  | [only] => only
  | parts => all parts

section

variable {previous e : Expr} {op : CompareOp} {x y : Value} {f : Failure}
  {rest : List (CompareOp × Expr)}

/-- One more comparison of a chain, when its operand has a value. -/
theorem evalChain_done (hy : eval ctx e = .done y) (previous : Expr) (x : Value) (op : CompareOp)
    (rest : List (CompareOp × Expr)) :
    evalChain ctx previous x ((op, e) :: rest) =
      match op.holds (ctx.sameThing previous x e y) x y with
      | .error f => .fail f
      | .ok true => evalChain ctx e y rest
      | .ok false => .done false := by
  rw [evalChain, hy]
  show Dialogue.bind (.ofExcept _) _ = _
  cases op.holds (ctx.sameThing previous x e y) x y with
  | error f => rfl
  | ok b => cases b <;> rfl

theorem evalChain_fail (hy : eval ctx e = .fail f) (previous : Expr) (x : Value) (op : CompareOp)
    (rest : List (CompareOp × Expr)) : evalChain ctx previous x ((op, e) :: rest) = .fail f := by
  rw [evalChain, hy]
  rfl

theorem eval_compare_done (hx : eval ctx previous = .done x) (rest : List (CompareOp × Expr)) :
    eval ctx (compare previous rest) = evalChain ctx previous x rest >>= fun b => .done (.bool b) := by
  rw [eval, hx]
  rfl

theorem eval_compare_fail (hx : eval ctx previous = .fail f) (rest : List (CompareOp × Expr)) :
    eval ctx (compare previous rest) = .fail f := by
  rw [eval, hx]
  rfl

theorem evalAll_fail {c : Expr} (hc : eval ctx c = .fail f) (last : Value) (cs : List Expr) :
    evalAll ctx last (c :: cs) = .fail f := by
  rw [evalAll, hc]
  rfl

/-- A conjunction goes on behind a comparison that holds, and ends with one that does not. -/
theorem evalAll_bool {c : Expr} {b : Bool} (hc : eval ctx c = .done (.bool b)) (last : Value)
    (cs : List Expr) : evalAll ctx last (c :: cs) =
      if b then evalAll ctx (.bool true) cs else .done (.bool false) := by
  rw [evalAll, hc]
  cases b <;> rfl

/-- **The rest of a chain is the conjunction of the comparisons in it.**  The value that is carried
from one comparison to the next is what the operand between them gives once more. -/
theorem evalChain_eq_evalAll (hfree : ∀ p ∈ rest, p.2.CallFree) (hx : eval ctx previous = .done x) :
    (evalChain ctx previous x rest >>= fun b => .done (.bool b)) =
      evalAll ctx (.bool true) (comparisons previous rest) := by
  induction rest generalizing previous x with
  | nil =>
    rw [evalChain, comparisons, evalAll]
    rfl
  | cons p rest ih =>
    obtain ⟨op, e⟩ := p
    have hrest : ∀ p ∈ rest, p.2.CallFree := fun p hp => hfree p (List.mem_cons_of_mem _ hp)
    have hsingle := eval_compare_done hx [(op, e)]
    rw [comparisons]
    obtain ⟨r, hr⟩ := (hfree _ List.mem_cons_self).eval_eq ctx
    cases r with
    | error f =>
      rw [evalChain_fail hr] at hsingle ⊢
      exact (evalAll_fail hsingle _ _).symm
    | ok y =>
      rw [evalChain_done hr] at hsingle ⊢
      cases hholds : op.holds (ctx.sameThing previous x e y) x y with
      | error f =>
        rw [hholds] at hsingle
        exact (evalAll_fail hsingle _ _).symm
      | ok b =>
        rw [hholds] at hsingle
        cases b with
        | false => exact (evalAll_bool hsingle _ _).symm
        | true =>
          rw [evalChain] at hsingle
          rw [evalAll_bool hsingle, if_pos rfl, ← ih hrest hr]

/-- **A chain of comparisons is the conjunction of its comparisons.** -/
theorem eval_compare_eq_conjunction (hfree : ∀ p ∈ rest, p.2.CallFree)
    (hfirst : previous.CallFree) (hne : rest ≠ []) :
    eval ctx (compare previous rest) = eval ctx (conjunction previous rest) := by
  match rest, hne with
  | [(op, e)], _ => rfl
  | (op, e) :: second :: rest, _ =>
    have hall : conjunction previous ((op, e) :: second :: rest) =
        all (comparisons previous ((op, e) :: second :: rest)) := rfl
    rw [hall]
    obtain ⟨r, hr⟩ := hfirst.eval_eq ctx
    cases r with
    | error f =>
      rw [eval_compare_fail hr, eval, comparisons]
      exact (evalAll_fail (eval_compare_fail hr _) _ _).symm
    | ok x => rw [eval_compare_done hr, evalChain_eq_evalAll hfree hr, eval]

end

/-! ## How far a chain goes -/

/-- The comparisons of a chain hold, from one value up to that of the last operand. -/
inductive Hold (ctx : Context) : Value → List (CompareOp × Expr) → Value → Prop
  | nil (x : Value) : Hold ctx x [] x
  | cons {x y z : Value} {op : CompareOp} {e : Expr} {rest : List (CompareOp × Expr)} :
      eval ctx e = .done y → op.holds false x y = .ok true → Hold ctx y rest z →
        Hold ctx x ((op, e) :: rest) z

/-- What ends a chain at a comparison of a value with an operand: the operand fails, or the
comparison does, or it is false. -/
inductive Decides (ctx : Context) (x : Value) (op : CompareOp) (e : Expr) :
    Except Failure Value → Prop
  | operand {f : Failure} : eval ctx e = .fail f → Decides ctx x op e (.error f)
  | comparison {y : Value} {f : Failure} :
      eval ctx e = .done y → op.holds false x y = .error f → Decides ctx x op e (.error f)
  | isFalse {y : Value} :
      eval ctx e = .done y → op.holds false x y = .ok false → Decides ctx x op e (.ok (.bool false))

section

variable {previous e : Expr} {op : CompareOp} {x y z : Value} {f : Failure}
  {r : Except Failure Value} {front rest : List (CompareOp × Expr)}

/-- A chain that goes on behind a comparison. -/
theorem evalChain_next (hop : op.comparesValues = true) (hy : eval ctx e = .done y)
    (hholds : op.holds false x y = .ok true) (previous : Expr) (rest : List (CompareOp × Expr)) :
    evalChain ctx previous x ((op, e) :: rest) = evalChain ctx e y rest := by
  rw [evalChain_done hy, CompareOp.holds_values hop _ false, hholds]

/-- What ends a chain is its outcome, whatever follows. -/
theorem Decides.evalChain (h : Decides ctx x op e r) (hop : op.comparesValues = true) (previous : Expr)
    (back : List (CompareOp × Expr)) :
    (evalChain ctx previous x ((op, e) :: back) >>= fun b => .done (.bool b)) = .ofExcept r := by
  cases h with
  | operand he =>
    rw [evalChain_fail he]
    rfl
  | comparison he hholds =>
    rw [evalChain_done he, CompareOp.holds_values hop _ false, hholds]
    rfl
  | isFalse he hholds =>
    rw [evalChain_done he, CompareOp.holds_values hop _ false, hholds]
    rfl

/-- **How a chain goes**: its comparisons hold to the end, or some of them up to the one that ends
it, and what follows that one has no influence. -/
theorem evalChain_course (hfree : ∀ p ∈ rest, p.2.CallFree)
    (hops : ∀ p ∈ rest, p.1.comparesValues = true) (previous : Expr) (x : Value) :
    (∃ y, Hold ctx x rest y ∧ evalChain ctx previous x rest = .done true) ∨
      ∃ front op e back y r, rest = front ++ (op, e) :: back ∧ Hold ctx x front y ∧
        Decides ctx y op e r ∧ ∀ back',
          (evalChain ctx previous x (front ++ (op, e) :: back') >>= fun b => .done (.bool b)) =
            .ofExcept r := by
  induction rest generalizing previous x with
  | nil => exact .inl ⟨x, .nil x, by rw [evalChain]⟩
  | cons p rest ih =>
    obtain ⟨op, e⟩ := p
    have hop : op.comparesValues = true := hops _ List.mem_cons_self
    have hstop : ∀ r, Decides ctx x op e r → ∃ front op' e' back y r, (op, e) :: rest =
        front ++ (op', e') :: back ∧ Hold ctx x front y ∧ Decides ctx y op' e' r ∧ ∀ back',
          (evalChain ctx previous x (front ++ (op', e') :: back') >>= fun b => .done (.bool b)) =
            .ofExcept r := fun r h =>
      ⟨[], op, e, rest, x, r, rfl, .nil x, h, fun back' => h.evalChain hop previous back'⟩
    obtain ⟨r, hr⟩ := (hfree _ List.mem_cons_self).eval_eq ctx
    cases r with
    | error f => exact .inr (hstop _ (.operand hr))
    | ok y =>
      cases hholds : op.holds false x y with
      | error f => exact .inr (hstop _ (.comparison hr hholds))
      | ok b =>
        cases b with
        | false => exact .inr (hstop _ (.isFalse hr hholds))
        | true =>
          have hnext := evalChain_next hop hr hholds previous
          rcases ih (fun p hp => hfree p (List.mem_cons_of_mem _ hp))
            (fun p hp => hops p (List.mem_cons_of_mem _ hp)) e y with
            ⟨z, hhold, htrue⟩ | ⟨front, op', e', back, z, r, rfl, hhold, hstops, hback⟩
          · exact .inl ⟨z, .cons hr hholds hhold, (hnext rest).trans htrue⟩
          · refine .inr ⟨(op, e) :: front, op', e', back, z, r, rfl, .cons hr hholds hhold, hstops,
              fun back' => ?_⟩
            rw [List.cons_append, hnext]
            exact hback back'

end

/-- **A chain of comparisons of operands that call nothing.**  It has the outcome of the conjunction
of its comparisons.  If the first operand fails, that is the outcome.  Else the comparisons all hold
and the chain is true, or they hold up to one whose operand fails, that fails itself or that is
false; this is the outcome then, whatever operands follow. -/
theorem eval_compare_chain (ctx : Context) (first : Expr) (rest : List (CompareOp × Expr))
    (hfree : ∀ e ∈ first :: rest.map (·.2), e.CallFree)
    (hops : ∀ p ∈ rest, p.1.comparesValues = true) (hne : rest ≠ []) :
    eval ctx (compare first rest) = eval ctx (conjunction first rest) ∧
      ((∃ f, eval ctx first = .fail f ∧ ∀ rest', eval ctx (compare first rest') = .fail f) ∨
        ∃ x, eval ctx first = .done x ∧
          ((∃ y, Hold ctx x rest y ∧ eval ctx (compare first rest) = .done (.bool true)) ∨
            ∃ front op e back y r, rest = front ++ (op, e) :: back ∧ Hold ctx x front y ∧
              Decides ctx y op e r ∧
                ∀ back', eval ctx (compare first (front ++ (op, e) :: back')) = .ofExcept r)) := by
  have hfirst : first.CallFree := hfree first List.mem_cons_self
  have hrest : ∀ p ∈ rest, p.2.CallFree := fun p hp =>
    hfree p.2 (List.mem_cons_of_mem _ (List.mem_map_of_mem hp))
  refine ⟨eval_compare_eq_conjunction hrest hfirst hne, ?_⟩
  obtain ⟨r, hr⟩ := hfirst.eval_eq ctx
  cases r with
  | error f => exact .inl ⟨f, hr, fun rest' => eval_compare_fail hr rest'⟩
  | ok x =>
    refine .inr ⟨x, hr, ?_⟩
    rcases evalChain_course hrest hops first x with
      ⟨y, hhold, htrue⟩ | ⟨front, op, e, back, y, r, heq, hhold, hstops, hback⟩
    · refine .inl ⟨y, hhold, ?_⟩
      rw [eval_compare_done hr, htrue]
      rfl
    · refine .inr ⟨front, op, e, back, y, r, heq, hhold, hstops, fun back' => ?_⟩
      rw [eval_compare_done hr]
      exact hback back'

/-- A chain that ends at its second comparison, in front of an operand that nothing binds. -/
theorem eval_compare_chain_second :
    eval ⟨.null, [], .empty, fun _ => false⟩ (compare (constant (.int 1))
        [(.relation .lt, constant (.int 2)), (.relation .gt, constant (.int 3)), (.isIn, name "x")]) =
      eval ⟨.null, [], .empty, fun _ => false⟩
        (all [compare (constant (.int 1)) [(.relation .lt, constant (.int 2))],
          compare (constant (.int 2)) [(.relation .gt, constant (.int 3))],
          compare (constant (.int 3)) [(.isIn, name "x")]]) ∧
    eval ⟨.null, [], .empty, fun _ => false⟩ (compare (constant (.int 1))
        [(.relation .lt, constant (.int 2)), (.relation .gt, constant (.int 3)), (.isIn, name "x")]) =
      .done (.bool false) := by
  have hfree : ∀ e ∈ [constant (.int 1), constant (.int 2), constant (.int 3), name "x"],
      e.CallFree := by
    simp only [List.mem_cons, List.not_mem_nil, or_false]
    rintro e (rfl | rfl | rfl | rfl) <;>
      exact callFree_of_operands (by rintro _ _ _ ⟨⟩) (by simp [operands])
  refine ⟨(eval_compare_chain _ _ _ hfree (by decide) (List.cons_ne_nil _ _)).1, ?_⟩
  rw [eval_compare_done (x := .int 1) (by rw [eval]), evalChain_done (y := .int 2) (by rw [eval])]
  show (evalChain _ _ _ _ >>= _ : Dialogue Value) = _
  rw [evalChain_done (y := .int 3) (by rw [eval])]
  rfl

end Expr

end Phrasebook
