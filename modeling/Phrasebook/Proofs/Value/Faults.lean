import Phrasebook.Value.Access
import Phrasebook.Value.Method
import Phrasebook.Value.Numeral

/-!
# Faults of operations on values

Operations on values fail in few ways: bad data causes a fault that an expression reports, and what
would not fit into memory is not built.  Faults of files, and those that functions of the host make
up, never come from a value.

* `FailsIn`: a result that is right or an error in some class;
* `Fault.isOrdinary`: the faults that values cause;
* `ordinary_callMethod`, `ordinary_quoted` and so on: every operation on values causes no other.
-/

namespace Phrasebook

/-! ## Results that fail in some class -/

/-- If the result is an error, it is in the class. -/
def FailsIn {ε α : Type} (P : ε → Prop) (x : Except ε α) : Prop := ∀ e, x = .error e → P e

namespace FailsIn

variable {ε ε' α β : Type} {P Q : ε → Prop} {x : Except ε α}

theorem ok (a : α) : FailsIn P (.ok a) := nofun

theorem error {e : ε} (h : P e) : FailsIn P (.error e : Except ε α) := by
  rintro _ ⟨⟩
  exact h

theorem mono (hx : FailsIn P x) (h : ∀ e, P e → Q e) : FailsIn Q x := fun e he => h e (hx e he)

theorem bind {g : α → Except ε β} (hx : FailsIn P x) (hg : ∀ a, FailsIn P (g a)) :
    FailsIn P (x >>= g) := by
  cases x with
  | ok a => exact hg a
  | error e => exact .error (hx e rfl)

theorem map (g : α → β) (hx : FailsIn P x) : FailsIn P (x.map g) := by
  cases x with
  | ok a => exact .ok _
  | error e => exact .error (hx e rfl)

theorem mapError {R : ε' → Prop} {g : ε → ε'} (hx : FailsIn P x) (hg : ∀ e, P e → R (g e)) :
    FailsIn R (x.mapError g) := by
  cases x with
  | ok a => exact .ok _
  | error e => exact .error (hg e (hx e rfl))

theorem foldlM {g : β → α → Except ε β} (hg : ∀ b a, FailsIn P (g b a)) (items : List α)
    (start : β) : FailsIn P (items.foldlM g start) := by
  induction items generalizing start with
  | nil => exact .ok start
  | cons a rest ih => exact .bind (hg start a) ih

theorem mapM {g : α → Except ε β} (hg : ∀ a, FailsIn P (g a)) (items : List α) :
    FailsIn P (items.mapM g) := by
  induction items with
  | nil => exact .ok _
  | cons a rest ih =>
    rw [List.mapM_cons]
    exact .bind (hg a) fun _ => .bind ih fun _ => .ok _

end FailsIn

/-! ## Ordinary faults -/

/-- Faults that values cause: those of bad data, and a lack of memory. -/
def Fault.isOrdinary (f : Fault) : Bool := f.kind.isDataFault || f.kind = .memory

/-- The result is right, or a fault that values cause. -/
def Ordinary {α : Type} (x : Except Fault α) : Prop := FailsIn (·.isOrdinary = true) x


/-! ## Arithmetic -/

namespace Number

theorem ordinary_toFloat (n : Int) : Ordinary (toFloat n) := by
  unfold toFloat
  split
  · exact .ok _
  · exact .error rfl

theorem ordinary_toComplex (a : Number) : Ordinary a.toComplex := by
  cases a with
  | int n => exact .map _ (ordinary_toFloat n)
  | float x => exact .ok _
  | complex c => exact .ok _

theorem ordinary_pair (a b : Number) : Ordinary (pair a b) := by
  unfold pair
  split
  · exact .ok _
  · exact .bind (ordinary_toFloat _) fun _ => .ok _
  · exact .bind (ordinary_toFloat _) fun _ => .ok _
  · exact .ok _
  · exact .bind (ordinary_toComplex _) fun _ => .bind (ordinary_toComplex _) fun _ => .ok _

theorem ordinary_realPair (a b : Number) : Ordinary (realPair a b) := by
  unfold realPair
  split
  · exact .error rfl
  · exact .error rfl
  · exact ordinary_pair _ _

theorem ordinary_complexPower (c d : Complex) : Ordinary (complexPower c d) := by
  unfold complexPower
  split
  · exact .error rfl
  · split
    · exact .error rfl
    · exact .ok _

theorem ordinary_floatPower (x y : Float) : Ordinary (floatPower x y) := by
  unfold floatPower
  -- no exponent, no number, infinities
  iterate 5
    split
    · exact .ok _
  split
  · split
    · exact .error rfl
    · exact .ok _
  · split
    · exact ordinary_complexPower _ _
    · extract_lets negated size power
      split
      · exact .error rfl
      · exact .ok _

theorem ordinary_integerPower (m : Int) (n : Nat) : Ordinary (integerPower m n) := by
  unfold integerPower
  repeat' split
  all_goals first
    | exact .ok _
    | exact .error rfl

theorem ordinary_add (a b : Number) : Ordinary (a.add b) := by
  refine .bind (ordinary_pair a b) fun p => ?_
  cases p <;> exact .ok _

theorem ordinary_sub (a b : Number) : Ordinary (a.sub b) := by
  refine .bind (ordinary_pair a b) fun p => ?_
  cases p <;> exact .ok _

theorem ordinary_mul (a b : Number) : Ordinary (a.mul b) := by
  refine .bind (ordinary_pair a b) fun p => ?_
  cases p <;> exact .ok _

theorem ordinary_div (a b : Number) : Ordinary (a.div b) := by
  refine .bind (ordinary_pair a b) fun p => ?_
  cases p with
  | ints m n =>
    dsimp only
    split
    · exact .error rfl
    · split
      · exact .ok _
      · exact .error rfl
  | floats x y =>
    dsimp only
    split
    · exact .error rfl
    · exact .ok _
  | complexes c d =>
    dsimp only
    split
    · exact .ok _
    · exact .error rfl

theorem ordinary_floorDiv (a b : Number) : Ordinary (a.floorDiv b) := by
  refine .bind (ordinary_realPair a b) fun p => ?_
  cases p with
  | complexes c d => exact .error rfl
  | _ =>
    dsimp only
    split
    · exact .error rfl
    · exact .ok _

theorem ordinary_mod (a b : Number) : Ordinary (a.mod b) := by
  refine .bind (ordinary_realPair a b) fun p => ?_
  cases p with
  | complexes c d => exact .error rfl
  | _ =>
    dsimp only
    split
    · exact .error rfl
    · exact .ok _

theorem ordinary_pow (a b : Number) : Ordinary (a.pow b) := by
  refine .bind (ordinary_pair a b) fun p => ?_
  cases p with
  | ints m n =>
    dsimp only
    split
    · refine .bind (ordinary_toFloat m) fun _ => .bind (ordinary_toFloat _) fun _ => ?_
      exact ordinary_floatPower _ _
    · exact .bind (ordinary_integerPower m _) fun _ => .ok _
  | floats x y => exact ordinary_floatPower x y
  | complexes c d => exact ordinary_complexPower c d

end Number

namespace Value

theorem ordinary_arithmetic {op : Number → Number → Except Fault Number}
    (hop : ∀ a b, Ordinary (op a b)) (x y : Value) : Ordinary (arithmetic op x y) := by
  unfold arithmetic
  split
  · exact .map _ (hop _ _)
  · exact .error rfl

theorem ordinary_add (x y : Value) : Ordinary (x.add y) := by
  unfold add
  split
  · exact .ok _
  · exact .ok _
  · exact .ok _
  · exact .ok _
  · exact ordinary_arithmetic Number.ordinary_add _ _

theorem ordinary_sub (x y : Value) : Ordinary (x.sub y) := by
  unfold sub
  split
  · exact .ok _
  · split
    · split
      · split
        · exact .ok _
        · exact .error rfl
      · exact .error rfl
    · exact ordinary_arithmetic Number.ordinary_sub _ _

theorem ordinary_copies (length : Nat) (n : Int) {tooLong : Fault}
    (h : tooLong.isOrdinary = true) : Ordinary (copies length n tooLong) := by
  unfold copies
  split
  · exact .error rfl
  · split
    · exact .ok _
    · split
      · exact .error h
      · split
        · exact .error rfl
        · exact .ok _

theorem ordinary_repeat? {x : Value} {n : Int} {result : Except Fault Value}
    (h : repeat? x n = some result) : Ordinary result := by
  unfold repeat? at h
  dsimp only at h
  split at h
  case h_5 => cases h
  all_goals
    cases h
    exact .map _ (ordinary_copies _ n rfl)

theorem ordinary_mul (x y : Value) : Ordinary (x.mul y) := by
  have hrepeated : ∀ s n : Value, ∀ result, (integer? n).bind (repeat? s) = some result →
      Ordinary result := by
    intro s n result h
    obtain ⟨k, -, hk⟩ := Option.bind_eq_some_iff.1 h
    exact ordinary_repeat? hk
  unfold mul
  dsimp only
  split
  · exact hrepeated _ _ _ ‹_›
  · split
    · exact hrepeated _ _ _ ‹_›
    · exact ordinary_arithmetic Number.ordinary_mul _ _

theorem ordinary_negative (x : Value) : Ordinary x.negative := by
  unfold negative
  split
  · exact .ok _
  · exact .ok _
  · split
    · exact .ok _
    · exact .error rfl

theorem ordinary_positive (x : Value) : Ordinary x.positive := by
  unfold positive
  split
  · exact .ok _
  · exact .ok _
  · split
    · exact .ok _
    · exact .error rfl

theorem ordinary_absolute (x : Value) : Ordinary x.absolute := by
  unfold absolute
  split
  · exact .ok _
  · dsimp only
    split
    · exact .error rfl
    · exact .ok _
  · split
    · exact .ok _
    · exact .error rfl

end Value

/-! ## Values as text -/

/-- The result is right, or an integer is too long to be written. -/
def TooLong {α : Type} (x : Except Fault α) : Prop := FailsIn (· = tooLongToWrite) x

theorem TooLong.ordinary {α : Type} {x : Except Fault α} (h : TooLong x) : Ordinary x := by
  refine h.mono ?_
  rintro _ rfl
  rfl

theorem tooLong_integerText (n : Int) : TooLong (integerText n) := by
  unfold integerText
  split
  · exact .ok _
  · dsimp only
    split
    · exact .error rfl
    · exact .ok _

theorem ordinary_integerText (n : Int) : Ordinary (integerText n) := (tooLong_integerText n).ordinary

namespace Value

mutual

theorem tooLong_quoted (v : Value) : TooLong v.quoted := by
  cases v with
  | int n => rw [quoted]; exact tooLong_integerText n
  | list items => rw [quoted]; exact .bind (tooLong_quotedList items) fun _ => .ok _
  | tuple items =>
    rw [quoted]
    refine .bind (tooLong_quotedList items) fun ts => ?_
    split <;> exact .ok _
  | set items =>
    rw [quoted]
    refine .bind (tooLong_quotedList items) fun ts => ?_
    split <;> exact .ok _
  | dict entries => rw [quoted]; exact .bind (tooLong_quotedEntries entries) fun _ => .ok _
  | view kind entries =>
    rw [quoted]
    exact .bind (tooLong_quotedView kind entries) fun _ => .ok _
  | object fields => rw [quoted]; exact .bind (tooLong_quotedFields fields) fun _ => .ok _
  | _ => rw [quoted]; exact .ok _

theorem tooLong_quotedList (items : List Value) : TooLong (quotedList items) := by
  cases items with
  | nil => rw [quotedList]; exact .ok _
  | cons v rest =>
    rw [quotedList]
    exact .bind (tooLong_quoted v) fun _ => .bind (tooLong_quotedList rest) fun _ => .ok _

theorem tooLong_quotedEntries (entries : List (Value × Value)) :
    TooLong (quotedEntries entries) := by
  cases entries with
  | nil => rw [quotedEntries]; exact .ok _
  | cons e rest =>
    rw [quotedEntries]
    refine .bind (tooLong_quoted e.1) fun _ => .bind (tooLong_quoted e.2) fun _ => ?_
    exact .bind (tooLong_quotedEntries rest) fun _ => .ok _

theorem tooLong_quotedView (kind : ViewKind) (entries : List (Value × Value)) :
    TooLong (quotedView kind entries) := by
  cases entries with
  | nil => rw [quotedView]; exact .ok _
  | cons e rest =>
    have hrest := tooLong_quotedView kind rest
    unfold quotedView
    cases kind with
    | keys => exact .bind (tooLong_quoted e.1) fun _ => .bind hrest fun _ => .ok _
    | values => exact .bind (tooLong_quoted e.2) fun _ => .bind hrest fun _ => .ok _
    | items =>
      refine .bind (tooLong_quoted e.1) fun _ => .bind (tooLong_quoted e.2) fun _ => ?_
      exact .bind (.ok _) fun _ => .bind hrest fun _ => .ok _

theorem tooLong_quotedFields (fields : List (Text × Value)) : TooLong (quotedFields fields) := by
  cases fields with
  | nil => rw [quotedFields]; exact .ok _
  | cons e rest =>
    rw [quotedFields]
    exact .bind (tooLong_quoted e.2) fun _ => .bind (tooLong_quotedFields rest) fun _ => .ok _

end

theorem tooLong_written (v : Value) : TooLong v.written := by
  unfold written
  split
  · exact .ok _
  · exact .ok _
  · exact tooLong_quoted v

theorem ordinary_quoted (v : Value) : Ordinary v.quoted := v.tooLong_quoted.ordinary

theorem ordinary_written (v : Value) : Ordinary v.written := v.tooLong_written.ordinary

/-! ## Access and membership -/

theorem ordinary_elementAt {α : Type} (what : Text) (items : List α) (i : Int) :
    Ordinary (elementAt what items i) := by
  unfold elementAt
  split
  · exact .error rfl
  · split
    · exact .ok _
    · exact .error rfl

theorem ordinary_bound (v : Value) : Ordinary v.bound := by
  unfold bound
  split
  · exact .ok _
  · split
    · exact .ok _
    · exact .error rfl

theorem ordinary_part (owner lower upper step : Value) :
    Ordinary (owner.part lower upper step) := by
  unfold part
  extract_lets pick
  have hpick : ∀ {α : Type} (items : List α) (wrap : List α → Value),
      Ordinary (pick items wrap) := by
    intro α items wrap
    refine .bind (ordinary_bound step) fun s => ?_
    dsimp only
    split
    · exact .error rfl
    · exact .bind (ordinary_bound lower) fun _ => .bind (ordinary_bound upper) fun _ => .ok _
  split
  · exact hpick _ _
  · exact hpick _ _
  · exact hpick _ _
  · exact hpick _ _
  · exact .error rfl

theorem ordinary_contains (y x : Value) : Ordinary (y.contains x) := by
  unfold contains
  dsimp only
  repeat' split
  all_goals first
    | exact .ok _
    | exact .error rfl

/-! ## Numbers made from values -/

/-- A value that denotes no whole number: it is of another type, it spells none, or it is no finite
number. -/
def NotWhole (f : Fault) : Prop := f.kind = .type ∨ f.kind = .value ∨ f.kind = .overflow

theorem NotWhole.ordinary {f : Fault} (h : NotWhole f) : f.isOrdinary = true := by
  rcases h with h | h | h <;> simp [Fault.isOrdinary, FaultKind.isDataFault, h]

theorem notWhole_wholeOf (round : Float → Int) (x : Float) :
    FailsIn NotWhole (wholeOf round x) := by
  unfold wholeOf
  split
  · exact .error (.inr (.inl rfl))
  · split
    · exact .error (.inr (.inr rfl))
    · exact .ok _

theorem ordinary_wholeOf (round : Float → Int) (x : Float) : Ordinary (wholeOf round x) :=
  (notWhole_wholeOf round x).mono fun _ => NotWhole.ordinary

theorem value_readInteger (base : Int) (t : Text) :
    FailsIn (fun f => f.kind = .value) (readInteger base t) :=
  .mapError (P := fun _ => True) (fun _ _ => trivial) fun _ _ => rfl

theorem value_readIntegerBytes (base : Int) (b : List Nat) :
    FailsIn (fun f => f.kind = .value) (readIntegerBytes base b) :=
  .mapError (P := fun _ => True) (fun _ _ => trivial) fun _ _ => rfl

theorem ordinary_readInteger (base : Int) (t : Text) : Ordinary (readInteger base t) :=
  (value_readInteger base t).mono fun _ h => NotWhole.ordinary (.inr (.inl h))

theorem ordinary_readIntegerBytes (base : Int) (b : List Nat) :
    Ordinary (readIntegerBytes base b) :=
  (value_readIntegerBytes base b).mono fun _ h => NotWhole.ordinary (.inr (.inl h))

theorem notWhole_toInteger (v : Value) : FailsIn NotWhole v.toInteger := by
  unfold toInteger
  split
  · exact notWhole_wholeOf _ _
  · exact (value_readInteger _ _).mono fun _ h => .inr (.inl h)
  · exact (value_readIntegerBytes _ _).mono fun _ h => .inr (.inl h)
  · split
    · exact .ok _
    · exact .error (.inl rfl)

theorem ordinary_toInteger (v : Value) : Ordinary v.toInteger :=
  v.notWhole_toInteger.mono fun _ => NotWhole.ordinary

theorem ordinary_realNumber (v : Value) : Ordinary v.realNumber := by
  unfold realNumber
  split
  · exact .ok _
  · split
    · exact Number.ordinary_toFloat _
    · exact .error rfl

theorem ordinary_toDouble (v : Value) : Ordinary v.toDouble := by
  unfold toDouble
  split
  · split
    · exact .ok _
    · exact .error rfl
  · split
    · exact .ok _
    · exact .error rfl
  · exact ordinary_realNumber v

theorem ordinary_roundDoubleTo (x : Float) (places : Int) : Ordinary (roundDoubleTo x places) := by
  unfold roundDoubleTo
  dsimp only
  repeat' split
  all_goals first
    | exact .ok _
    | exact .error rfl

theorem ordinary_roundedTo (x places : Value) : Ordinary (x.roundedTo places) := by
  unfold roundedTo
  split
  · split
    · exact .bind (ordinary_wholeOf _ _) fun _ => .ok _
    · split
      · exact .bind (ordinary_roundDoubleTo _ _) fun _ => .ok _
      · exact .error rfl
  · split
    · exact .error rfl
    · split
      · exact .ok _
      · split
        · exact .ok _
        · exact .error rfl

end Value

/-! ## Arguments -/

namespace Arguments

theorem ordinary_positional (a : Arguments) (least most : Nat) :
    Ordinary (a.positional least most) := by
  unfold positional
  split
  · exact .ok _
  · exact .error rfl

theorem ordinary_bind (a : Arguments) (parameters : List Text) : Ordinary (a.bind parameters) := by
  unfold bind
  dsimp only
  split
  · exact .error rfl
  · split
    · exact .error rfl
    · exact .ok _

end Arguments

/-! ## Methods -/

namespace Value

theorem ordinary_limitOf (v : Option Value) : Ordinary (limitOf v) := by
  unfold limitOf
  split
  · exact .ok _
  · split
    · exact .error rfl
    · split
      · exact .error rfl
      · exact .ok _

theorem ordinary_stripped (first last : Bool) (t : Text) (args : Arguments) :
    Ordinary (stripped first last t args) := by
  refine .bind (args.ordinary_positional 0 1) fun items => ?_
  dsimp only
  split
  · exact .bind (.ok _) fun _ => .ok _
  · exact .bind (.ok _) fun _ => .ok _
  · exact .bind (.ok _) fun _ => .ok _
  · exact .error rfl

theorem ordinary_window (length : Nat) (bounds : List Value) : Ordinary (window length bounds) := by
  unfold window
  extract_lets clamp fromStart
  have hstart : ∀ start, Ordinary (fromStart start) := by
    intro start
    dsimp only [fromStart]
    split
    · exact .bind (ordinary_bound _) fun _ => .ok _
    · exact .bind (.ok _) fun _ => .ok _
  split
  · exact .bind (ordinary_bound _) hstart
  · exact .bind (.ok _) hstart

theorem ordinary_anyEdge (atEnd : Bool) (t : Text) (start stop : Nat) (marks : List Value) :
    Ordinary (anyEdge atEnd t start stop marks) := by
  induction marks with
  | nil => exact .ok _
  | cons mark rest ih =>
    unfold anyEdge
    split
    · cases ‹_›
    · rename_i heq
      cases heq
      split
      · exact .ok _
      · exact ih
    · exact .error rfl

theorem ordinary_edgeTest (atEnd : Bool) (t : Text) (args : Arguments) :
    Ordinary (edgeTest atEnd t args) := by
  refine .bind (args.ordinary_positional 1 3) fun items => ?_
  split
  · exact .error rfl
  · refine .bind (ordinary_window _ _) fun w => ?_
    dsimp only
    split
    · exact .ok _
    · exact .bind (ordinary_anyEdge _ _ _ _ _) fun _ => .ok _
    · exact .error rfl

theorem ordinary_textsOf (items : List Value) : Ordinary (textsOf items) := by
  induction items with
  | nil => exact .ok _
  | cons v rest ih =>
    unfold textsOf
    split
    · cases ‹_›
    · rename_i heq
      cases heq
      exact .bind ih fun _ => .ok _
    · exact .error rfl

theorem ordinary_placeOf (t : Text) (args : Arguments) : Ordinary (placeOf t args) := by
  refine .bind (args.ordinary_positional 1 3) fun items => ?_
  split
  · refine .bind (ordinary_window _ _) fun w => ?_
    dsimp only
    split
    · exact .ok _
    · exact .ok _
  · exact .error rfl

theorem ordinary_callTextMethod (t : Text) (name : String) (args : Arguments) :
    Ordinary (callTextMethod t name args) := by
  have hplain : ∀ f : Text → Text, Ordinary (do
      let _ ← args.positional 0 0
      return text (f t)) := fun f => .bind (args.ordinary_positional 0 0) fun _ => .ok _
  unfold callTextMethod
  dsimp only
  split
  · exact hplain _
  · exact hplain _
  · exact hplain _
  · exact hplain _
  · exact hplain _
  · exact ordinary_stripped _ _ _ _
  · exact ordinary_stripped _ _ _ _
  · exact ordinary_stripped _ _ _ _
  · exact ordinary_edgeTest _ _ _
  · exact ordinary_edgeTest _ _ _
  · -- replacing
    refine .bind (args.ordinary_positional 2 3) fun items => ?_
    split
    · exact .bind (ordinary_limitOf _) fun _ => .ok _
    · exact .error rfl
  · -- splitting
    refine .bind (args.ordinary_bind _) fun bound => ?_
    split
    · refine .bind (ordinary_limitOf _) fun limit => ?_
      split
      · exact .ok _
      · exact .ok _
      · exact .error rfl
      · exact .ok _
      · exact .error rfl
    · exact .error rfl
  · -- joining
    refine .bind (args.ordinary_positional 1 1) fun items => ?_
    split
    · split
      · exact .bind (ordinary_textsOf _) fun _ => .ok _
      · exact .error rfl
    · exact .error rfl
  · -- counting
    refine .bind (args.ordinary_positional 1 3) fun items => ?_
    split
    · exact .bind (ordinary_window _ _) fun _ => .ok _
    · exact .error rfl
  · -- finding
    refine .bind (ordinary_placeOf _ _) fun place => ?_
    split
    · exact .ok _
    · exact .ok _
  · refine .bind (ordinary_placeOf _ _) fun place => ?_
    split
    · exact .ok _
    · exact .error rfl
  · exact .error rfl

theorem ordinary_searchBound (length : Nat) (v : Value) : Ordinary (searchBound length v) := by
  unfold searchBound
  split
  · exact .ok _
  · exact .error rfl

theorem ordinary_callListMethod (items : List Value) {missing : Value → Except Fault Fault}
    (hmissing : ∀ x, Ordinary (missing x >>= fun f => .error f : Except Fault Value))
    (name : String) (args : Arguments) : Ordinary (callListMethod items missing name args) := by
  unfold callListMethod
  split
  · refine .bind (args.ordinary_positional 1 1) fun given => ?_
    split
    · exact .ok _
    · exact .error rfl
  · refine .bind (args.ordinary_positional 1 3) fun given => ?_
    split
    · refine .bind (.mapM (ordinary_searchBound _) _) fun bounds => ?_
      split
      · exact .ok _
      · exact hmissing _
    · exact .error rfl
  · exact .error rfl

theorem ordinary_callDictMethod (entries : List (Value × Value)) (name : String)
    (args : Arguments) : Ordinary (callDictMethod entries name args) := by
  have hview : ∀ kind : ViewKind, Ordinary (do
      let _ ← args.positional 0 0
      return view kind entries) := fun kind => .bind (args.ordinary_positional 0 0) fun _ => .ok _
  unfold callDictMethod
  dsimp only
  split
  · refine .bind (args.ordinary_positional 1 2) fun given => ?_
    split
    · split
      · exact .ok _
      · exact .error rfl
    · exact .error rfl
  · exact hview _
  · exact hview _
  · exact hview _
  · exact .error rfl

/-- **Methods of values fail with ordinary faults only.** -/
theorem ordinary_callMethod (owner : Value) (name : Text) (args : Arguments) :
    Ordinary (owner.callMethod name args) := by
  unfold callMethod
  dsimp only
  split
  · exact ordinary_callTextMethod _ _ _
  · refine ordinary_callListMethod _ (fun x => ?_) _ _
    have hx := ordinary_quoted x
    cases h : quoted x with
    | ok t => exact .error rfl
    | error f => exact .error (hx f h)
  · refine ordinary_callListMethod _ (fun x => ?_) _ _
    rintro _ ⟨⟩
    rfl
  · exact ordinary_callDictMethod _ _ _
  · exact .error rfl

end Value

end Phrasebook
