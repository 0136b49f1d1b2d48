import Phrasebook.Proofs.Expression.Calls

/-!
# Errors pass through expressions

A template that an expression calls may fail with an error of the language.  No form of the
expression language goes on after that, whatever the call stands in: the expression fails with the
very same error, and so does the engine.

* `Dialogue.HandsOn`: dialogues that end in any error that they are answered;
* `Expr.handsOn_eval`: expressions are such dialogues;
* `Engine.handsOn_sandboxed`: so is what the standard engine makes of them.
-/

namespace Phrasebook

namespace Dialogue

variable {α β : Type}

/-- **A dialogue that hands on errors**: when the template that it asks for fails with an error of
the language, it fails with the same one at once. -/
def HandsOn : Dialogue α → Prop
  | done _ | fail _ => True
  | ask _ _ resume =>
    (∀ e, resume (.error (.template e)) = fail (.template e)) ∧ ∀ answer, HandsOn (resume answer)

namespace HandsOn

theorem ofExcept (x : Except Failure α) : (Dialogue.ofExcept x).HandsOn := by
  cases x <;> trivial

theorem ofFault (x : Except Fault α) : (Dialogue.ofFault x).HandsOn := by
  cases x <;> trivial

theorem bind {d : Dialogue α} {next : α → Dialogue β} (hd : d.HandsOn)
    (hnext : ∀ a, (next a).HandsOn) : (d >>= next).HandsOn := by
  induction d with
  | done a => exact hnext a
  | fail f => trivial
  | ask template args resume ih =>
    refine ⟨fun e => ?_, fun answer => ih answer (hd.2 answer)⟩
    show (resume (.error (.template e))).bind next = _
    rw [hd.1 e]
    rfl

/-- What follows an attempt hands on errors if it fails with every error that the attempt has. -/
theorem bind_attempt {d : Dialogue α} {next : Except Failure α → Dialogue β} (hd : d.HandsOn)
    (hnext : ∀ x, (next x).HandsOn)
    (herror : ∀ e, next (.error (.template e)) = fail (.template e)) :
    (d.attempt >>= next).HandsOn := by
  induction d with
  | done a => exact hnext (.ok a)
  | fail f => exact hnext (.error f)
  | ask template args resume ih =>
    refine ⟨fun e => ?_, fun answer => ih answer (hd.2 answer)⟩
    show (resume (.error (.template e))).attempt.bind next = _
    rw [hd.1 e]
    exact herror e

end HandsOn

end Dialogue

open Dialogue

/-! ## Expressions -/

namespace Expr

variable {ctx : Context}

theorem handsOn_run (lib : Library) (callee : Callee) (args : Arguments) :
    (callee.run lib args).HandsOn := by
  cases callee with
  | template id =>
    unfold Callee.run
    dsimp only
    split
    · exact ⟨fun e => rfl, fun answer => .ofExcept _⟩
    · trivial
  | host id => exact .ofExcept _
  | builtin id => exact .ofExcept _
  | method owner id => exact .ofFault _

/-! ### Operands -/

theorem handsOn_evalItems {items : List Expr} (h : ∀ e ∈ items, (eval ctx e).HandsOn) :
    (evalItems ctx items).HandsOn := by
  induction items with
  | nil => rw [evalItems]; trivial
  | cons e rest ih =>
    rw [evalItems]
    refine .bind (h e List.mem_cons_self) fun v => ?_
    exact .bind (ih fun p hp => h p (List.mem_cons_of_mem _ hp)) fun _ => trivial

theorem handsOn_evalAll {items : List Expr} (h : ∀ e ∈ items, (eval ctx e).HandsOn)
    (last : Value) : (evalAll ctx last items).HandsOn := by
  induction items generalizing last with
  | nil => rw [evalAll]; trivial
  | cons e rest ih =>
    rw [evalAll]
    refine .bind (h e List.mem_cons_self) fun v => ?_
    split
    · exact ih (fun p hp => h p (List.mem_cons_of_mem _ hp)) v
    · trivial

theorem handsOn_evalAny {items : List Expr} (h : ∀ e ∈ items, (eval ctx e).HandsOn)
    (last : Value) : (evalAny ctx last items).HandsOn := by
  induction items generalizing last with
  | nil => rw [evalAny]; trivial
  | cons e rest ih =>
    rw [evalAny]
    refine .bind (h e List.mem_cons_self) fun v => ?_
    split
    · trivial
    · exact ih (fun p hp => h p (List.mem_cons_of_mem _ hp)) v

theorem handsOn_evalChain {rest : List (CompareOp × Expr)} (h : ∀ p ∈ rest, (eval ctx p.2).HandsOn)
    (previous : Expr) (x : Value) : (evalChain ctx previous x rest).HandsOn := by
  induction rest generalizing previous x with
  | nil => rw [evalChain]; trivial
  | cons p rest ih =>
    rw [evalChain]
    refine .bind (h p List.mem_cons_self) fun y => .bind (.ofExcept _) fun holds => ?_
    split
    · exact ih (fun q hq => h q (List.mem_cons_of_mem _ hq)) p.2 y
    · trivial

theorem handsOn_evalKeywords {keywords : List (Option Text × Expr)}
    (h : ∀ p ∈ keywords, (eval ctx p.2).HandsOn) (args : Arguments) :
    (evalKeywords ctx args keywords).HandsOn := by
  induction keywords generalizing args with
  | nil => rw [evalKeywords]; trivial
  | cons p rest ih =>
    obtain ⟨parameter, e⟩ := p
    cases parameter with
    | none => rw [evalKeywords]; trivial
    | some parameter =>
      rw [evalKeywords]
      refine .bind (h _ List.mem_cons_self) fun v => ?_
      exact ih (fun q hq => h q (List.mem_cons_of_mem _ hq)) _

theorem handsOn_evalMembers {items : List Expr} (h : ∀ e ∈ items, (eval ctx e).HandsOn)
    (members : List Value) : (evalMembers ctx members items).HandsOn := by
  induction items generalizing members with
  | nil => rw [evalMembers]; trivial
  | cons e rest ih =>
    rw [evalMembers]
    refine .bind (h e List.mem_cons_self) fun v => ?_
    split
    · exact ih (fun p hp => h p (List.mem_cons_of_mem _ hp)) _
    · trivial

theorem handsOn_evalEntries {items : List (Option Expr × Expr)}
    (h : ∀ p ∈ items, ∀ e ∈ p.1.toList ++ [p.2], (eval ctx e).HandsOn)
    (entries : List (Value × Value)) : (evalEntries ctx entries items).HandsOn := by
  induction items generalizing entries with
  | nil => rw [evalEntries]; trivial
  | cons p rest ih =>
    obtain ⟨key, e⟩ := p
    cases key with
    | none => rw [evalEntries]; trivial
    | some key =>
      have hp := h _ List.mem_cons_self
      rw [evalEntries]
      refine .bind (hp key (by simp)) fun k => .bind (hp e (by simp)) fun v => ?_
      split
      · exact ih (fun q hq => h q (List.mem_cons_of_mem _ hq)) _
      · trivial

theorem handsOn_evalCallee {callee : Expr}
    (howner : ∀ owner field, callee = member owner field → (eval ctx owner).HandsOn) :
    (evalCallee ctx callee).HandsOn := by
  cases callee with
  | name id => rw [evalCallee]; exact .ofExcept _
  | member owner field =>
    rw [evalCallee]
    exact .bind (howner owner field rfl) fun _ => .ofExcept _
  | _ => rw [evalCallee] <;> first | trivial | simp

/-! ### Expressions -/

/-- **An expression hands on the error of a template that it calls.** -/
theorem handsOn_eval (ctx : Context) (e : Expr) : (eval ctx e).HandsOn := by
  induction e using induction_size with
  | h e ih =>
  -- the hypothesis on sizes is used for operands and for operands of an operand
  have hop : ∀ p ∈ e.operands, (eval ctx p).HandsOn := fun p hp => ih p (sizeOf_operand_lt hp)
  cases e with
  | constant v => rw [eval]; trivial
  | name id => rw [eval]; exact .ofExcept _
  | all items => rw [eval]; exact handsOn_evalAll hop _
  | any items => rw [eval]; exact handsOn_evalAny hop _
  | unary op operand =>
    rw [eval]
    exact .bind (hop operand (by simp [operands])) fun _ => .ofExcept _
  | binary op left right =>
    rw [eval]
    refine .bind (hop left (by simp [operands])) fun x => ?_
    exact .bind (hop right (by simp [operands])) fun y => .ofExcept _
  | compare first rest =>
    rw [eval]
    refine .bind (hop first (by simp [operands])) fun x => ?_
    refine .bind (handsOn_evalChain (fun p hp => hop p.2 ?_) first x) fun _ => trivial
    exact List.mem_cons_of_mem _ (List.mem_map_of_mem hp)
  | call callee args keywords =>
    rw [eval]
    refine .bind (handsOn_evalCallee ?_) fun f => ?_
    · rintro owner field rfl
      have howner : owner ∈ (member owner field).operands := by simp [operands]
      have hcallee : member owner field ∈ (call (member owner field) args keywords).operands := by
        simp [operands]
      exact ih owner (Nat.lt_trans (sizeOf_operand_lt howner) (sizeOf_operand_lt hcallee))
    · refine .bind (handsOn_evalItems fun p hp => hop p ?_) fun items => ?_
      · exact List.mem_cons_of_mem _ (List.mem_append_left _ hp)
      refine .bind (handsOn_evalKeywords (fun p hp => hop p.2 ?_) _) fun args => handsOn_run _ _ _
      exact List.mem_cons_of_mem _ (List.mem_append_right _ (List.mem_map_of_mem hp))
  | member owner field =>
    rw [eval]
    exact .bind (hop owner (by simp [operands])) fun _ => .ofExcept _
  | subscript owner index =>
    have howner := hop owner (by simp [operands])
    have hindex : index ∈ (subscript owner index).operands := by simp [operands]
    cases index with
    | slice lower upper step =>
      have hbound : ∀ p ∈ (slice lower upper step).operands, (eval ctx p).HandsOn := fun p hp =>
        ih p (Nat.lt_trans (sizeOf_operand_lt hp) (sizeOf_operand_lt hindex))
      rw [eval]
      refine .bind howner fun v => ?_
      refine .bind (hbound lower (by simp [operands])) fun l => ?_
      refine .bind (hbound upper (by simp [operands])) fun u => ?_
      exact .bind (hbound step (by simp [operands])) fun s => .ofFault _
    | _ =>
      rw [eval]
      · exact .bind howner fun v => .bind (hop _ hindex) fun i => .ofExcept _
      · simp
  | slice lower upper step => rw [eval]; trivial
  | list items | tuple items =>
    rw [eval]
    exact .bind (handsOn_evalItems hop) fun _ => trivial
  | set items =>
    rw [eval]
    exact .bind (handsOn_evalMembers hop _) fun _ => trivial
  | dict entries =>
    rw [eval]
    split
    · trivial
    · refine .bind (handsOn_evalEntries (fun p hp q hq => hop q ?_) _) fun _ => trivial
      exact List.mem_flatMap.2 ⟨p, hp, hq⟩
  | choice condition first second =>
    rw [eval]
    refine .bind (hop condition (by simp [operands])) fun v => ?_
    split
    · exact hop first (by simp [operands])
    · exact hop second (by simp [operands])
  | starred operand => rw [eval]; trivial
  | unsupported form => rw [eval]; trivial

end Expr

/-! ## The standard engine -/

/-- **The standard engine hands on the error of a template that an expression calls.** -/
theorem Engine.handsOn_sandboxed (lib : Library) (functions : Registry) (known : Text → Bool)
    (source : Text) (scope : Value) :
    (Engine.sandboxed lib functions known source scope).HandsOn := by
  unfold Engine.sandboxed
  dsimp only
  split
  · trivial
  · split
    · trivial
    · split
      · trivial
      · refine .bind_attempt (Expr.handsOn_eval _ _) (fun x => ?_) fun e => rfl
        unfold Engine.settle
        split
        · trivial
        · trivial
        · split <;> trivial
        · trivial
        · trivial

end Phrasebook
