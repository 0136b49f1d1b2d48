import Phrasebook.Expression.Evaluation
import Phrasebook.Proofs.Layout.Faults

/-!
# Failures of expressions

An expression fails in few ways of its own: it is refused something, its data causes an ordinary
fault, or it looks for a missing key that cannot be written.  It never makes up an error of the
template language, nor any other fault: such a failure comes from a function of the host, or from a
template that was asked for.

* `Failure.IsOwn`, `Own`: the failures of expressions themselves;
* `Library.CanRaise`, `Library.Raises`: what functions of the host fail with;
* `Told`: a result that fails in a way of its own or as the host does;
* `told_callBuiltin`: the built-in functions are told in this way;
* `Callee.failed_own_or_same`: what a call makes of a failure.
-/

namespace Phrasebook

/-- A failure that an expression causes itself. -/
def Failure.IsOwn : Failure → Prop
  | .refused _ => True
  | .fault f => f.isOrdinary = true
  | .unwritable kind => kind = .key
  | .template _ => False

/-- The result is right, or a failure of the expression itself. -/
def Own {α : Type} (x : Except Failure α) : Prop := FailsIn Failure.IsOwn x

/-- Is this an error that some function of the host raises? -/
def Library.CanRaise (lib : Library) (e : TemplateError) : Prop :=
  ∃ name args, lib name args = .error (.template e)

/-- Some function of the host fails in this way. -/
def Library.Raises (lib : Library) (f : Failure) : Prop := ∃ name args, lib name args = .error f

/-- The result fails in a way of its own, or as a function of the host does. -/
def Told (lib : Library) {α : Type} (x : Except Failure α) : Prop :=
  FailsIn (fun f => f.IsOwn ∨ lib.Raises f) x

section

variable {lib : Library} {α : Type}

theorem own_refused (message : Text) : Own (.error (.refused message) : Except Failure α) :=
  .error trivial

theorem own_fault {f : Fault} (h : f.isOrdinary = true) :
    Own (.error (.fault f) : Except Failure α) := .error h

theorem own_orFail {x : Except Fault α} (h : Ordinary x) : Own (Fault.orFail x) :=
  .mapError h fun _ hf => hf

theorem Own.told {x : Except Failure α} (h : Own x) : Told lib x := h.mono fun _ => .inl

/-! ## Values -/

theorem own_named (scope : Value) (name : Text) : Own (scope.named name) := by
  unfold Value.named Value.unknownName
  split
  · split
    · exact .ok _
    · exact own_refused _
  · split
    · exact own_refused _
    · split
      · exact own_refused _
      · exact .ok _
      · exact own_refused _

theorem own_missingKey (key : Value) :
    Own (.error (Value.missingKey key) : Except Failure α) := by
  unfold Value.missingKey
  split
  · exact own_fault rfl
  · exact .error rfl

theorem own_element (owner index : Value) : Own (owner.element index) := by
  unfold Value.element
  dsimp only
  split
  -- texts, bytes, lists and tuples take an integer
  iterate 4
    · split
      · exact own_orFail (.map _ (Value.ordinary_elementAt _ _ _))
      · exact own_fault rfl
  · split
    · split
      · exact .ok _
      · exact own_missingKey _
    · exact own_fault rfl
  · exact own_fault rfl

/-! ## Layouts -/

theorem own_next (s : Supply) : Own s.next := by
  unfold Supply.next
  split
  · exact own_fault rfl
  · exact .ok _

theorem own_nextInteger (s : Supply) (limit : Nat) (name : Text) :
    Own (s.nextInteger limit name) := by
  refine .bind (own_next s) fun p => ?_
  dsimp only
  split
  · exact own_fault rfl
  · split
    · exact own_fault rfl
    · exact .ok _

theorem own_readSource (s : Supply) (t : Text) : Own (Conversion.readSource s t) := by
  unfold Conversion.readSource
  split
  · split
    · exact own_fault rfl
    · split
      · exact own_fault rfl
      · exact .bind (own_element _ _) fun _ => .ok _
  · exact .ok _

theorem own_readWidth (c : Conversion) (s : Supply) (t : Text) : Own (c.readWidth s t) := by
  unfold Conversion.readWidth
  split
  · refine .bind (own_nextInteger _ _ _) fun p => ?_
    dsimp only
    split
    · exact own_fault rfl
    · exact .ok _
  · split
    · split
      · dsimp only
        split
        · exact own_fault rfl
        · split
          · exact own_fault rfl
          · exact .ok _
      · exact .ok _
    · exact .ok _

theorem own_readPrecision (c : Conversion) (s : Supply) (t : Text) :
    Own (c.readPrecision s t) := by
  unfold Conversion.readPrecision
  split
  · exact .bind (own_nextInteger _ _ _) fun _ => .ok _
  · split
    split
    · exact own_fault rfl
    · exact .ok _
  · exact .ok _

theorem own_step (size : Nat) (s : Supply) (t : Text) : Own (Conversion.step size s t) := by
  refine .bind (own_readSource _ _) fun p => ?_
  refine .bind (own_readWidth _ _ _) fun q => ?_
  refine .bind (own_readPrecision _ _ _) fun ⟨c, s, t⟩ => ?_
  dsimp only
  split
  · exact own_fault rfl
  · refine .bind (own_next _) fun v => ?_
    split
    · exact .bind (own_orFail (Conversion.ordinary_apply _ _)) fun _ => .ok _
    · exact own_fault rfl

theorem own_percentFill (size rounds : Nat) (s : Supply) (t : Text) :
    Own (Conversion.fill size rounds s t) := by
  induction rounds generalizing s t with
  | zero => exact .ok _
  | succ rounds ih =>
    unfold Conversion.fill
    split
    · exact .ok _
    · exact .bind (ih _ _) fun _ => .ok _
    · exact .bind (own_step _ _ _) fun p => .bind (ih _ _) fun _ => .ok _
    · exact .bind (ih _ _) fun _ => .ok _

theorem own_percent (layout : Text) (v : Value) : Own (Value.percent layout v) := by
  refine .bind (own_percentFill _ _ _ _) fun p => ?_
  dsimp only
  split
  · exact own_fault rfl
  · exact .ok _

theorem own_fieldValue (values : List Value) (name : Text) :
    Own (Value.fieldValue values name) := by
  unfold Value.fieldValue
  split
  · refine .bind (own_orFail (Value.ordinary_readInteger _ _)) fun _ => ?_
    exact own_orFail (Value.ordinary_elementAt _ _ _)
  · exact own_refused _

theorem own_fillParts (values : List Value) (depth rounds : Nat) (n : Numbering) (t : Text)
    (hfill : ∀ rounds n t, Own (Value.fill values depth rounds n t)) :
    Own (Value.fillParts values depth rounds n t) := by
  induction rounds generalizing n t with
  | zero =>
    rw [Value.fillParts]
    exact .ok _
  | succ rounds ih =>
    rw [Value.fillParts]
    refine .bind (own_orFail (LayoutPart.ordinary_next? _)) fun p => ?_
    split
    · exact .ok _
    · extract_lets after
      have hafter : ∀ q, Own (after q) := fun q => .bind (ih _ _) fun _ => .ok _
      split
      · exact .bind (.ok _) hafter
      · refine .bind (own_orFail (Numbering.ordinary_resolve _ _)) fun q => ?_
        refine .bind (own_fieldValue _ _) fun v => ?_
        refine .bind (own_orFail (v.ordinary_converted _)) fun w => .bind (hfill _ _ _) fun r => ?_
        exact .bind (own_orFail (w.ordinary_shown _)) fun _ => .bind (.ok _) hafter

theorem own_fill (values : List Value) (depth rounds : Nat) (n : Numbering) (t : Text) :
    Own (Value.fill values depth rounds n t) := by
  induction depth generalizing rounds n t with
  | zero =>
    rw [Value.fill]
    exact own_fault rfl
  | succ depth ih =>
    rw [Value.fill]
    exact own_fillParts values depth rounds n t ih

/-! ## Built-in functions -/

namespace Builtin

theorem ordinary_writtenAll (items : List Value) : Ordinary (writtenAll items) :=
  .mapM Value.ordinary_written items

theorem ordinary_lengthOf (args : Arguments) : Ordinary (lengthOf args) := by
  refine .bind (args.ordinary_positional 1 1) fun items => ?_
  split
  · split
    · exact .ok _
    · exact .error rfl
  · exact .error rfl

theorem ordinary_integer (args : Arguments) : Ordinary (integer args) := by
  unfold integer
  split
  · exact .error rfl
  · split
    · exact .ok _
    · split
      · exact .error rfl
      · exact .bind (Value.ordinary_toInteger _) fun _ => .ok _
    · split
      · exact .error rfl
      · split
        · exact .error rfl
        · split
          · exact .bind (Value.ordinary_readInteger _ _) fun _ => .ok _
          · exact .bind (Value.ordinary_readIntegerBytes _ _) fun _ => .ok _
          · exact .error rfl

theorem ordinary_decoded (v encoding : Value) : Ordinary (decoded v encoding) := by
  unfold decoded
  split
  · exact .bind (Encoding.ordinary_named _) fun e => .bind (e.ordinary_decode _) fun _ => .ok _
  · exact .error rfl

theorem ordinary_textOf (args : Arguments) : Ordinary (textOf args) := by
  refine .bind (args.ordinary_bind _) fun bound => ?_
  split
  · exact .ok _
  · exact .bind (Value.ordinary_written _) fun _ => .ok _
  · exact ordinary_decoded _ _
  · exact .error rfl

theorem ordinary_only (parameter : String) (args : Arguments) : Ordinary (only parameter args) := by
  refine .bind (args.ordinary_bind _) fun bound => ?_
  split
  · exact .ok _
  · exact .error rfl

theorem ordinary_concat (args : Arguments) : Ordinary (concat args) := by
  unfold concat
  split
  · exact .error rfl
  · exact .bind (ordinary_writtenAll _) fun _ => .ok _

theorem own_elements (v : Value) : Own (elements v) := by
  unfold elements
  split
  · exact .ok _
  · exact own_fault rfl

theorem own_total (items : List Value) (start : Value) : Own (total items start) := by
  unfold total
  split
  · exact own_fault rfl
  · exact own_fault rfl
  · exact .foldlM (fun _ _ => own_orFail (Value.ordinary_add _ _)) _ _

theorem own_sum (args : Arguments) : Own (sum args) := by
  unfold sum
  split
  · exact .bind (own_elements _) fun _ => own_total _ _
  · exact .bind (own_elements _) fun _ => own_total _ _
  · split
    · exact .bind (own_elements _) fun _ => own_total _ _
    · exact own_fault rfl
  · exact own_fault rfl

theorem own_join (args : Arguments) : Own (join args) := by
  refine .bind (own_orFail (args.ordinary_bind _)) fun bound => ?_
  split
  · split
    · refine .bind (own_elements _) fun items => ?_
      exact .bind (own_orFail (ordinary_writtenAll items)) fun _ => .ok _
    · refine .bind (own_elements _) fun items => ?_
      split
      · exact .ok _
      · exact own_fault rfl
    · exact own_fault rfl
  · exact own_fault rfl

theorem own_fillTemplate (template : Value) (values : List Value) :
    Own (fillTemplate template values) :=
  .bind (own_orFail template.ordinary_written) fun _ =>
    .bind (.map _ (own_fill _ _ _ _ _)) fun _ => .ok _

theorem own_format (args : Arguments) : Own (format args) := by
  unfold format
  split
  · exact own_fillTemplate _ _
  · split
    · exact own_fillTemplate _ _
    · exact own_fault rfl
  · exact own_fault rfl

/-! ### Functions that are given as values -/

theorem told_apply (f : Value) (args : Arguments) : Told lib (lib.apply f args) := by
  unfold Library.apply
  split
  · exact fun e he => .inr ⟨_, _, he⟩
  · exact (own_orFail (Value.ordinary_callMethod _ _ _)).told
  · exact (own_fault rfl).told

theorem told_extreme (surpasses : Relation) {key : Value → Except Failure Value}
    (hkey : ∀ v, Told lib (key v)) (items : List Value) (best : Option (Value × Value)) :
    Told lib (extreme surpasses key best items) := by
  induction items generalizing best with
  | nil =>
    unfold extreme
    exact .ok _
  | cons v rest ih =>
    cases best with
    | none => exact .bind (hkey v) fun k => ih _
    | some best =>
      refine .bind (hkey v) fun k => ?_
      split
      · exact (own_fault rfl).told
      · exact ih _
      · exact ih _

theorem told_keyOf (f : Option Value) (v : Value) : Told lib (keyOf lib f v) := by
  unfold keyOf
  split
  · exact .ok _
  · exact .ok _
  · exact told_apply _ _

theorem told_select (name : Text) (surpasses : Relation) (args : Arguments) :
    Told lib (select lib name surpasses args) := by
  unfold select
  dsimp only
  split
  · exact (own_fault rfl).told
  · split
    · exact (own_fault rfl).told
    · refine .bind (own_elements _).told fun items => ?_
      refine .bind (told_extreme _ (told_keyOf _) _ _) fun best => ?_
      split
      · exact .ok _
      · exact .ok _
      · exact (own_fault rfl).told
    · split
      · exact (own_fault rfl).told
      · refine .bind (told_extreme _ (told_keyOf _) _ _) fun best => ?_
        split
        · exact .ok _
        · exact (own_fault rfl).told

end Builtin

/-- **Built-in functions fail in ways of their own**, unless they call a function of the host that
is handed to them. -/
theorem told_callBuiltin (name : Text) (args : Arguments) : Told lib (callBuiltin lib name args) := by
  have hplain : ∀ {x : Except Fault Value}, Ordinary x → Told lib (Fault.orFail x) :=
    fun h => (own_orFail h).told
  unfold callBuiltin
  dsimp only
  split
  · exact hplain (Builtin.ordinary_lengthOf args)
  · exact Builtin.told_select _ _ _
  · exact Builtin.told_select _ _ _
  · exact (Builtin.own_sum args).told
  · -- a number without its sign
    refine hplain (.bind (args.ordinary_positional 1 1) fun items => ?_)
    split
    · exact Value.ordinary_absolute _
    · exact .error rfl
  · -- a number rounded
    refine hplain (.bind (args.ordinary_bind _) fun bound => ?_)
    split
    · exact Value.ordinary_roundedTo _ _
    · exact .error rfl
  · exact hplain (Builtin.ordinary_integer args)
  · -- a double
    refine hplain (.bind (args.ordinary_positional 0 1) fun items => ?_)
    split
    · exact .bind (Value.ordinary_toDouble _) fun _ => .ok _
    · exact .ok _
  · exact hplain (Builtin.ordinary_textOf args)
  · -- a truth value
    refine hplain (.bind (args.ordinary_positional 0 1) fun items => ?_)
    split <;> exact .ok _
  -- capitals and small letters
  iterate 2
    · refine hplain (.bind (Builtin.ordinary_only _ args) fun v => ?_)
      exact .bind v.ordinary_written fun _ => .ok _
  · exact (Builtin.own_join args).told
  · exact hplain (Builtin.ordinary_concat args)
  · exact (Builtin.own_format args).told
  · exact (own_fault rfl).told

/-! ## Operators and names -/

theorem own_unary (op : UnaryOp) (v : Value) : Own (op.apply v) := by
  cases op with
  | plus => exact own_orFail v.ordinary_positive
  | minus => exact own_orFail v.ordinary_negative
  | negation => exact .ok _
  | complement => exact own_refused _

theorem own_binary (op : BinaryOp) (x y : Value) : Own (op.apply x y) := by
  cases op with
  | add => exact own_orFail (x.ordinary_add y)
  | sub => exact own_orFail (x.ordinary_sub y)
  | mul => exact own_orFail (x.ordinary_mul y)
  | div => exact own_orFail (Value.ordinary_arithmetic Number.ordinary_div x y)
  | floorDiv => exact own_orFail (Value.ordinary_arithmetic Number.ordinary_floorDiv x y)
  | mod =>
    unfold BinaryOp.apply
    dsimp only
    split
    · exact own_percent _ _
    · exact own_orFail (Value.ordinary_arithmetic Number.ordinary_mod _ y)
  | pow => exact own_orFail (Value.ordinary_arithmetic Number.ordinary_pow x y)
  | other => exact own_refused _

theorem own_holds (op : CompareOp) (sameThing : Bool) (x y : Value) :
    Own (op.holds sameThing x y) := by
  cases op with
  | relation r =>
    unfold CompareOp.holds
    dsimp only
    split
    · exact .ok _
    · exact own_fault rfl
  | isIn => exact own_orFail (y.ordinary_contains x)
  | notIn => exact own_orFail (.map _ (y.ordinary_contains x))
  | _ => exact .ok _

theorem own_lookup (ctx : Context) (name : Text) : Own (ctx.lookup name) := by
  unfold Context.lookup
  split
  · exact own_refused _
  · dsimp only
    split
    · exact .ok _
    · split
      · exact .ok _
      · exact own_named _ _

theorem own_callee (ctx : Context) (name : Text) : Own (ctx.callee name) := by
  unfold Context.callee
  split
  · exact own_refused _
  · split
    · exact .ok _
    · split
      · exact .ok _
      · split
        · exact .ok _
        · exact own_refused _

theorem own_dotted (owner : Value) (name : Text) : Own (owner.dotted name) := by
  unfold Value.dotted
  split
  · exact own_refused _
  · split
    · split
      · exact .ok _
      · exact own_refused _
    · exact own_named _ _

theorem own_calledMethod (owner : Value) (name : Text) : Own (owner.calledMethod name) := by
  unfold Value.calledMethod
  split
  · exact .ok _
  · exact own_refused _

/-! ## Calls -/

/-- **A call that fails** is told as a failure of the expression itself, or hands on the failure as
it is. -/
theorem Callee.failed_own_or_same (f : Failure) :
    (Callee.failed f).IsOwn ∨ Callee.failed f = f := by
  cases f with
  | refused message => exact .inl trivial
  | fault f =>
    unfold failed
    dsimp only
    split
    · exact .inr rfl
    · exact .inl trivial
  | unwritable kind =>
    unfold failed
    dsimp only
    split
    · exact .inr rfl
    · exact .inl rfl
  | template e => exact .inr rfl

/-- What an expression can fail with, if no template that it asks for fails: a failure of its own, or
one of the host that a call hands on as it is. -/
def Library.LetsOut (lib : Library) (f : Failure) : Prop :=
  f.IsOwn ∨ lib.Raises f ∧ Callee.failed f = f

theorem told_failed {x : Except Failure α} (hx : Told lib x) :
    FailsIn lib.LetsOut (x.mapError Callee.failed) := by
  refine .mapError hx fun f hf => ?_
  rcases Callee.failed_own_or_same f with hown | hsame
  · exact .inl hown
  · rw [hsame]
    exact hf.imp_right fun hraises => ⟨hraises, hsame⟩

end

end Phrasebook
