import Phrasebook.Engine
import Phrasebook.Proofs.Expression.Failures
import Phrasebook.Proofs.Rendering.InStep

/-!
# The calls of an expression

An expression asks for a template only where it has a call by a bare name, and the name is that of
the template.  What an expression may ask for can therefore be read off its form, whatever its
operands turn out to be.

* `Expr.Part`: the expressions inside an expression;
* `Expr.ComparesValues`: expressions that test no identity;
* `Expr.CallsByName`: the bare names that are called somewhere inside;
* `Expr.keeps_eval`: an expression asks for nothing but the known templates that it calls by name;
* `Engine.keeps_sandboxed`: neither does the standard engine.
-/

namespace Phrasebook

/-! ## Comparisons of values -/

/-- Does an operator compare values? The other two test whether they are one thing. -/
def CompareOp.comparesValues : CompareOp → Bool
  | same | notSame => false
  | eq | ne | relation _ | isIn | notIn => true

theorem CompareOp.holds_values {op : CompareOp} (h : op.comparesValues = true)
    (sameThing sameThing' : Bool) (x y : Value) : op.holds sameThing x y = op.holds sameThing' x y := by
  cases op <;> first | rfl | cases h

/-! ## The parts of an expression -/

namespace Expr

/-- The operands of an expression. -/
def operands : Expr → List Expr
  | constant _ | name _ | unsupported _ => []
  | all items | any items | list items | tuple items | set items => items
  | unary _ operand => [operand]
  | binary _ left right => [left, right]
  | compare first rest => first :: rest.map (·.2)
  | call callee args keywords => callee :: (args ++ keywords.map (·.2))
  | member owner _ => [owner]
  | subscript owner index => [owner, index]
  | slice lower upper step => [lower, upper, step]
  | dict entries => entries.flatMap fun e => e.1.toList ++ [e.2]
  | choice condition first second => [condition, first, second]
  | starred operand => [operand]

/-- `e.Part p`: the expression `p` occurs in `e`. -/
inductive Part : Expr → Expr → Prop
  | here (e : Expr) : Part e e
  | inside {e operand p : Expr} (h : operand ∈ e.operands) (h' : Part operand p) : Part e p

/-- Somewhere in the expression a bare name is called. -/
def CallsByName (e : Expr) (id : Text) : Prop := ∃ args keywords, e.Part (call (name id) args keywords)

theorem CallsByName.of_operand {e operand : Expr} (h : operand ∈ e.operands) {id : Text}
    (hcall : operand.CallsByName id) : e.CallsByName id := by
  obtain ⟨args, keywords, hpart⟩ := hcall
  exact ⟨args, keywords, .inside h hpart⟩

/-- All comparisons in the expression are comparisons of values. -/
def ComparesValues (e : Expr) : Prop :=
  ∀ first rest, e.Part (compare first rest) → ∀ p ∈ rest, p.1.comparesValues = true

theorem ComparesValues.operand {e operand : Expr} (he : e.ComparesValues)
    (h : operand ∈ e.operands) : operand.ComparesValues :=
  fun first rest hpart => he first rest (.inside h hpart)

theorem sizeOf_snd_lt {α β : Type} [SizeOf α] [SizeOf β] {p : α × β} {items : List (α × β)}
    (h : p ∈ items) : sizeOf p.2 < sizeOf items := by
  have hlt := List.sizeOf_lt_of_mem h
  have hp : sizeOf p = 1 + sizeOf p.1 + sizeOf p.2 := rfl
  omega

theorem sizeOf_operand_lt {e operand : Expr} (h : operand ∈ e.operands) :
    sizeOf operand < sizeOf e := by
  cases e with
  | constant v => simp [operands] at h
  | name id => simp [operands] at h
  | unsupported form => simp [operands] at h
  | all items | any items | list items | tuple items | set items =>
    have hlt := List.sizeOf_lt_of_mem h
    simp only [operands, all.sizeOf_spec, any.sizeOf_spec, list.sizeOf_spec, tuple.sizeOf_spec,
      set.sizeOf_spec] at *
    omega
  | unary op operand =>
    rw [operands, List.mem_singleton] at h
    rw [h, unary.sizeOf_spec]
    omega
  | member owner field =>
    rw [operands, List.mem_singleton] at h
    rw [h, member.sizeOf_spec]
    omega
  | starred operand =>
    rw [operands, List.mem_singleton] at h
    rw [h, starred.sizeOf_spec]
    omega
  | binary op left right =>
    simp only [operands, List.mem_cons, List.not_mem_nil, or_false] at h
    rcases h with rfl | rfl
    all_goals
      simp only [binary.sizeOf_spec]
      omega
  | subscript owner index =>
    simp only [operands, List.mem_cons, List.not_mem_nil, or_false] at h
    rcases h with rfl | rfl
    all_goals
      simp only [subscript.sizeOf_spec]
      omega
  | slice lower upper step =>
    simp only [operands, List.mem_cons, List.not_mem_nil, or_false] at h
    rcases h with rfl | rfl | rfl
    all_goals
      simp only [slice.sizeOf_spec]
      omega
  | choice condition first second =>
    simp only [operands, List.mem_cons, List.not_mem_nil, or_false] at h
    rcases h with rfl | rfl | rfl
    all_goals
      simp only [choice.sizeOf_spec]
      omega
  | compare first rest =>
    rcases List.mem_cons.1 h with rfl | h
    · simp; omega
    · obtain ⟨p, hp, rfl⟩ := List.mem_map.1 h
      have := sizeOf_snd_lt hp
      simp only [compare.sizeOf_spec]
      omega
  | call callee args keywords =>
    rcases List.mem_cons.1 h with rfl | h
    · simp; omega
    · rcases List.mem_append.1 h with h | h
      · have := List.sizeOf_lt_of_mem h
        simp only [call.sizeOf_spec]
        omega
      · obtain ⟨p, hp, rfl⟩ := List.mem_map.1 h
        have := sizeOf_snd_lt hp
        simp only [call.sizeOf_spec]
        omega
  | dict entries =>
    obtain ⟨⟨key, v⟩, hp, hmem⟩ := List.mem_flatMap.1 h
    have hlt := List.sizeOf_lt_of_mem hp
    have hsize : sizeOf (key, v) = 1 + sizeOf key + sizeOf v := rfl
    simp only [dict.sizeOf_spec]
    rcases List.mem_append.1 hmem with hmem | hmem
    · rw [Option.mem_toList] at hmem
      cases hmem
      have hkey : sizeOf (some operand) = 1 + sizeOf operand := rfl
      omega
    · rw [List.mem_singleton] at hmem
      subst hmem
      omega

/-- To show something of all expressions, show it of each one given that it holds of all smaller
ones. -/
theorem induction_size {P : Expr → Prop} (h : ∀ e, (∀ p, sizeOf p < sizeOf e → P p) → P e)
    (e : Expr) : P e :=
  h e fun p _ => induction_size h p
termination_by sizeOf e

/-! ## What an expression asks for -/

variable {ctx : Context} {may : Text → Prop}

/-- Any value, no failure but those of the expression itself and of the host, and of the failures
that come back as answers those only that a call hands on as they are. -/
def Asks (ctx : Context) (may : Text → Prop) {α : Type} (gives : α → Prop) (d : Dialogue α) : Prop :=
  d.Sifts (fun f => Callee.failed f = f) may gives ctx.library.LetsOut

section

variable {α β : Type} {gives : α → Prop} {gives' : β → Prop}

theorem asks_done {a : α} (h : gives a) : Asks ctx may gives (.done a) := h

theorem asks_refused (message : Text) : Asks ctx may gives (.fail (.refused message)) :=
  .inl trivial

theorem asks_wrongType : Asks ctx may gives (.fail .wrongType) := .inl rfl

theorem asks_bind {d : Dialogue α} {next : α → Dialogue β} (hd : Asks ctx may gives d)
    (hnext : ∀ a, gives a → Asks ctx may gives' (next a)) : Asks ctx may gives' (d >>= next) :=
  Dialogue.Sifts.bind hd hnext

theorem asks_ofExcept {x : Except Failure α} (hx : FailsIn ctx.library.LetsOut x)
    (hgives : ∀ a, x = .ok a → gives a) : Asks ctx may gives (Dialogue.ofExcept x) := by
  cases x with
  | ok a => exact hgives a rfl
  | error f => exact hx f rfl

theorem asks_own {x : Except Failure α} (hx : Own x) (hgives : ∀ a, x = .ok a → gives a) :
    Asks ctx may gives (Dialogue.ofExcept x) := asks_ofExcept (hx.mono fun _ => .inl) hgives

theorem asks_ofFault {x : Except Fault α} (hx : Ordinary x) (hgives : ∀ a, gives a) :
    Asks ctx may gives (Dialogue.ofFault x) := by
  cases x with
  | ok a => exact hgives a
  | error f => exact .inl (hx f rfl)

end

/-- A call asks for the template that is called, and for nothing else. -/
theorem asks_run {callee : Callee} (hcallee : ∀ id, callee = .template id → may id)
    (args : Arguments) : Asks ctx may (fun _ => True) (callee.run ctx.library args) := by
  cases callee with
  | template id =>
    unfold Callee.run
    dsimp only
    split
    · refine ⟨hcallee id rfl, fun answer => ?_⟩
      cases answer with
      | ok t => trivial
      | error f =>
        show ctx.library.LetsOut (Callee.failed f) ∨ _
        rcases Callee.failed_own_or_same f with hown | hsame
        · exact .inl (.inl hown)
        · rw [hsame]
          exact .inr ⟨rfl, hsame⟩
    · exact asks_wrongType
  | host id => exact asks_ofExcept (told_failed fun f hf => .inr ⟨_, _, hf⟩) fun _ _ => trivial
  | builtin id => exact asks_ofExcept (told_failed (told_callBuiltin _ _)) fun _ _ => trivial
  | method owner id => exact asks_ofFault (Value.ordinary_callMethod _ _ _) fun _ => trivial

/-! ### Operands -/

/-- The expression may call nothing but what is in `may`, whatever values it gives. -/
def EvalAsks (ctx : Context) (may : Text → Prop) (e : Expr) : Prop :=
  Asks ctx may (fun _ => True) (eval ctx e)

theorem asks_evalItems {items : List Expr} (h : ∀ e ∈ items, EvalAsks ctx may e) :
    Asks ctx may (fun _ => True) (evalItems ctx items) := by
  induction items with
  | nil => rw [evalItems]; trivial
  | cons e rest ih =>
    rw [evalItems]
    refine asks_bind (h e List.mem_cons_self) fun v _ => ?_
    exact asks_bind (ih fun p hp => h p (List.mem_cons_of_mem _ hp)) fun _ _ => asks_done trivial

theorem asks_evalAll {items : List Expr} (h : ∀ e ∈ items, EvalAsks ctx may e) (last : Value) :
    Asks ctx may (fun _ => True) (evalAll ctx last items) := by
  induction items generalizing last with
  | nil => rw [evalAll]; trivial
  | cons e rest ih =>
    rw [evalAll]
    refine asks_bind (h e List.mem_cons_self) fun v _ => ?_
    split
    · exact ih (fun p hp => h p (List.mem_cons_of_mem _ hp)) v
    · exact asks_done trivial

theorem asks_evalAny {items : List Expr} (h : ∀ e ∈ items, EvalAsks ctx may e) (last : Value) :
    Asks ctx may (fun _ => True) (evalAny ctx last items) := by
  induction items generalizing last with
  | nil => rw [evalAny]; trivial
  | cons e rest ih =>
    rw [evalAny]
    refine asks_bind (h e List.mem_cons_self) fun v _ => ?_
    split
    · exact asks_done trivial
    · exact ih (fun p hp => h p (List.mem_cons_of_mem _ hp)) v

theorem asks_evalChain {rest : List (CompareOp × Expr)} (h : ∀ p ∈ rest, EvalAsks ctx may p.2)
    (previous : Expr) (x : Value) :
    Asks ctx may (fun _ => True) (evalChain ctx previous x rest) := by
  induction rest generalizing previous x with
  | nil => rw [evalChain]; trivial
  | cons p rest ih =>
    rw [evalChain]
    refine asks_bind (h p List.mem_cons_self) fun y _ => ?_
    refine asks_bind (asks_own (own_holds _ _ _ _) fun _ _ => trivial) fun holds _ => ?_
    split
    · exact ih (fun q hq => h q (List.mem_cons_of_mem _ hq)) p.2 y
    · exact asks_done trivial

theorem asks_evalKeywords {keywords : List (Option Text × Expr)}
    (h : ∀ p ∈ keywords, EvalAsks ctx may p.2) (args : Arguments) :
    Asks ctx may (fun _ => True) (evalKeywords ctx args keywords) := by
  induction keywords generalizing args with
  | nil => rw [evalKeywords]; trivial
  | cons p rest ih =>
    obtain ⟨parameter, e⟩ := p
    cases parameter with
    | none => rw [evalKeywords]; exact asks_refused _
    | some parameter =>
      rw [evalKeywords]
      refine asks_bind (h _ List.mem_cons_self) fun v _ => ?_
      exact ih (fun q hq => h q (List.mem_cons_of_mem _ hq)) _

theorem asks_evalMembers {items : List Expr} (h : ∀ e ∈ items, EvalAsks ctx may e)
    (members : List Value) : Asks ctx may (fun _ => True) (evalMembers ctx members items) := by
  induction items generalizing members with
  | nil => rw [evalMembers]; trivial
  | cons e rest ih =>
    rw [evalMembers]
    refine asks_bind (h e List.mem_cons_self) fun v _ => ?_
    split
    · exact ih (fun p hp => h p (List.mem_cons_of_mem _ hp)) _
    · exact asks_wrongType

theorem asks_evalEntries {items : List (Option Expr × Expr)}
    (h : ∀ p ∈ items, ∀ e ∈ p.1.toList ++ [p.2], EvalAsks ctx may e)
    (entries : List (Value × Value)) :
    Asks ctx may (fun _ => True) (evalEntries ctx entries items) := by
  induction items generalizing entries with
  | nil => rw [evalEntries]; trivial
  | cons p rest ih =>
    obtain ⟨key, e⟩ := p
    cases key with
    | none => rw [evalEntries]; exact asks_refused _
    | some key =>
      have hp := h _ List.mem_cons_self
      rw [evalEntries]
      refine asks_bind (hp key (by simp)) fun k _ => asks_bind (hp e (by simp)) fun v _ => ?_
      split
      · exact ih (fun q hq => h q (List.mem_cons_of_mem _ hq)) _
      · exact asks_wrongType

/-! ### Expressions -/

theorem callee_template {id id' : Text} (h : ctx.callee id = .ok (.template id')) :
    id' = id ∧ ctx.known id = true := by
  unfold Context.callee at h
  split at h
  · cases h
  · split at h
    · rename_i hknown
      cases h
      exact ⟨rfl, hknown⟩
    · split at h
      · cases h
      · split at h <;> cases h

theorem calledMethod_template {owner : Value} {field id : Text} :
    owner.calledMethod field ≠ .ok (.template id) := by
  unfold Value.calledMethod
  split <;> rintro h <;> cases h

/-- A callee is a template only where a bare name is called that is known. -/
theorem asks_evalCallee {callee : Expr}
    (hname : ∀ id, callee = name id → ctx.known id = true → may id)
    (howner : ∀ owner field, callee = member owner field → EvalAsks ctx may owner) :
    Asks ctx may (fun f => ∀ id, f = .template id → may id) (evalCallee ctx callee) := by
  cases callee with
  | name id =>
    rw [evalCallee]
    refine asks_own (own_callee _ _) ?_
    rintro f hf id' rfl
    obtain ⟨rfl, hknown⟩ := callee_template hf
    exact hname id' rfl hknown
  | member owner field =>
    rw [evalCallee]
    refine asks_bind (howner owner field rfl) fun v _ => ?_
    refine asks_own (own_calledMethod _ _) ?_
    rintro f hf id rfl
    exact absurd hf calledMethod_template
  | _ => rw [evalCallee] <;> first | exact asks_refused _ | simp

/-- **An expression asks for nothing but the known templates that it calls by name**, and it ends in
an error of the language only when the host raises one or a template that it asked for does. -/
theorem keeps_eval (ctx : Context) (e : Expr) :
    ∀ may : Text → Prop, (∀ id, e.CallsByName id → ctx.known id = true → may id) →
      EvalAsks ctx may e := by
  induction e using induction_size with
  | h e ih =>
  intro may hmay
  -- what is smaller than an operand is an operand of an operand at most, so the hypothesis on
  -- sizes is used for operands only
  have hop : ∀ p ∈ e.operands, EvalAsks ctx may p := fun p hp =>
    ih p (sizeOf_operand_lt hp) may fun id hid => hmay id (hid.of_operand hp)
  unfold EvalAsks
  cases e with
  | constant v => rw [eval]; trivial
  | name id => rw [eval]; exact asks_own (own_lookup _ _) fun _ _ => trivial
  | all items => rw [eval]; exact asks_evalAll hop _
  | any items => rw [eval]; exact asks_evalAny hop _
  | unary op operand =>
    rw [eval]
    refine asks_bind (hop operand (by simp [operands])) fun v _ => ?_
    exact asks_own (own_unary _ _) fun _ _ => trivial
  | binary op left right =>
    rw [eval]
    refine asks_bind (hop left (by simp [operands])) fun x _ => ?_
    refine asks_bind (hop right (by simp [operands])) fun y _ => ?_
    exact asks_own (own_binary _ _ _) fun _ _ => trivial
  | compare first rest =>
    rw [eval]
    refine asks_bind (hop first (by simp [operands])) fun x _ => ?_
    refine asks_bind (asks_evalChain (fun p hp => hop p.2 ?_) first x) fun b _ => asks_done trivial
    exact List.mem_cons_of_mem _ (List.mem_map_of_mem hp)
  | call callee args keywords =>
    rw [eval]
    refine asks_bind (asks_evalCallee ?_ ?_) fun f hf => ?_
    · rintro id rfl
      exact hmay id ⟨args, keywords, .here _⟩
    · rintro owner field rfl
      have howner : owner ∈ (member owner field).operands := by simp [operands]
      have hcallee : member owner field ∈ (call (member owner field) args keywords).operands := by
        simp [operands]
      refine ih owner (Nat.lt_trans (sizeOf_operand_lt howner) (sizeOf_operand_lt hcallee)) may ?_
      exact fun id hid => hmay id ((hid.of_operand howner).of_operand hcallee)
    · refine asks_bind (asks_evalItems fun p hp => hop p ?_) fun items _ => ?_
      · exact List.mem_cons_of_mem _ (List.mem_append_left _ hp)
      refine asks_bind (asks_evalKeywords (fun p hp => hop p.2 ?_) _) fun args _ => asks_run hf _
      exact List.mem_cons_of_mem _ (List.mem_append_right _ (List.mem_map_of_mem hp))
  | member owner field =>
    rw [eval]
    refine asks_bind (hop owner (by simp [operands])) fun v _ => ?_
    exact asks_own (own_dotted _ _) fun _ _ => trivial
  | subscript owner index =>
    have howner := hop owner (by simp [operands])
    have hindex : index ∈ (subscript owner index).operands := by simp [operands]
    cases index with
    | slice lower upper step =>
      have hbound : ∀ p ∈ (slice lower upper step).operands, EvalAsks ctx may p := fun p hp =>
        ih p (Nat.lt_trans (sizeOf_operand_lt hp) (sizeOf_operand_lt hindex)) may fun id hid =>
          hmay id ((hid.of_operand hp).of_operand hindex)
      rw [eval]
      refine asks_bind howner fun v _ => ?_
      refine asks_bind (hbound lower (by simp [operands])) fun l _ => ?_
      refine asks_bind (hbound upper (by simp [operands])) fun u _ => ?_
      refine asks_bind (hbound step (by simp [operands])) fun s _ => ?_
      exact asks_ofFault (v.ordinary_part l u s) fun _ => trivial
    | _ =>
      rw [eval]
      · refine asks_bind howner fun v _ => asks_bind (hop _ hindex) fun i _ => ?_
        exact asks_own (own_element _ _) fun _ _ => trivial
      · simp
  | slice lower upper step => rw [eval]; exact asks_refused _
  | list items =>
    rw [eval]
    exact asks_bind (asks_evalItems hop) fun _ _ => asks_done trivial
  | tuple items =>
    rw [eval]
    exact asks_bind (asks_evalItems hop) fun _ _ => asks_done trivial
  | set items =>
    rw [eval]
    exact asks_bind (asks_evalMembers hop _) fun _ _ => asks_done trivial
  | dict entries =>
    rw [eval]
    split
    · exact asks_refused _
    · refine asks_bind (asks_evalEntries (fun p hp q hq => hop q ?_) _) fun _ _ => asks_done trivial
      exact List.mem_flatMap.2 ⟨p, hp, hq⟩
  | choice condition first second =>
    rw [eval]
    refine asks_bind (hop condition (by simp [operands])) fun v _ => ?_
    split
    · exact hop first (by simp [operands])
    · exact hop second (by simp [operands])
  | starred operand => rw [eval]; exact asks_refused _
  | unsupported form => rw [eval]; exact asks_refused _

end Expr

/-! ## The standard engine -/

/-- The text of an expression holds a call of a bare name. -/
def SourceCalls (source id : Text) : Prop :=
  ∃ e, Expr.ofText? (Text.trim source) = some e ∧ e.CallsByName id

/-- **The standard engine asks for nothing but what the text of the expression calls by name**, and
fails with an error of the language only when the host raises it or the answer is that error. -/
theorem Engine.keeps_sandboxed (lib : Library) (functions : Registry) (known : Text → Bool)
    (source : Text) (scope : Value) :
    (Engine.sandboxed lib functions known source scope).Keeps (SourceCalls source) (fun _ => True)
      fun f => ∀ e, f = .template e → lib.CanRaise e := by
  unfold Engine.sandboxed
  dsimp only
  split
  · trivial
  · split
    · rintro e he
      cases he
    · split
      · trivial
      · rename_i e he
        have heval : Expr.EvalAsks ⟨scope, functions, lib, known⟩ (SourceCalls source) e :=
          Expr.keeps_eval _ e _ fun id hid _ => ⟨e, he, hid⟩
        have hkeeps : (e.eval ⟨scope, functions, lib, known⟩).Keeps (SourceCalls source)
            (fun _ => True) fun f => ∀ e, f = .template e → lib.CanRaise e := by
          refine heval.keeps.mono ?_
          rintro f hf e rfl
          exact (hf.resolve_left id).1
        refine Dialogue.Keeps.bind_attempt hkeeps ?_ ?_
        · intro v _
          trivial
        · intro f
          cases f with
          | refused message => trivial
          | fault f =>
            unfold Engine.settle
            dsimp only
            split
            · trivial
            · exact .inl rfl
          | unwritable kind => exact .inr (by rintro e he; cases he)
          | template e => exact .inl rfl

end Phrasebook
