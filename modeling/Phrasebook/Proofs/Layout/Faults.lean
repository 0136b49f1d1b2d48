import Phrasebook.Layout.Fields
import Phrasebook.Layout.Percent
import Phrasebook.Proofs.Value.Faults
import Phrasebook.Text.Decoding

/-!
# Faults of layouts

Filling a layout with values, showing a value as its field says and decoding bytes fail with
ordinary faults only, like everything else that is done with values.

* `Value.ordinary_shown`: a value in the field of a layout;
* `Conversion.ordinary_apply`: a value under a percent conversion;
* `Encoding.ordinary_decode`: bytes as text.
-/

namespace Phrasebook

/-! ## Reading fields -/

namespace LayoutPart

theorem ordinary_readName (bracketed : Bool) (t : Text) : Ordinary (readName bracketed t) := by
  induction t generalizing bracketed with
  | nil => exact .error rfl
  | cons c rest ih =>
    unfold readName
    split
    · exact .map _ (ih _)
    · split
      · exact .error rfl
      · split
        · exact .ok _
        · exact .map _ (ih _)

theorem ordinary_readSpec (depth : Nat) (t : Text) : Ordinary (readSpec depth t) := by
  induction t generalizing depth with
  | nil => exact .error rfl
  | cons c rest ih =>
    unfold readSpec
    split
    · exact .ok _
    · exact .map _ (ih _)

theorem ordinary_readField (t : Text) : Ordinary (readField t) := by
  refine .bind (ordinary_readName false t) fun found => ?_
  dsimp only
  split
  · exact .bind (ordinary_readSpec 0 _) fun _ => .ok _
  · split
    · split
      · exact .error rfl
      · exact .ok _
      · exact .bind (ordinary_readSpec 0 _) fun _ => .ok _
      · exact .error rfl
      · exact .error rfl
    · exact .ok _

theorem ordinary_next? (t : Text) : Ordinary (next? t) := by
  unfold next?
  split
  · exact .ok _
  · dsimp only
    split
    · exact .ok _
    · exact .error rfl
    · split
      · exact .ok _
      · split
        · exact .error rfl
        · exact .map _ (ordinary_readField _)

end LayoutPart

theorem Numbering.ordinary_resolve (n : Numbering) (name : Text) : Ordinary (n.resolve name) := by
  unfold resolve
  split
  · split
    · exact .ok _
    · exact .error rfl
  · split
    · split
      · exact .error rfl
      · exact .ok _
    · exact .ok _

/-! ## Field specifications -/

namespace FieldSpec

theorem ordinary_readCount (t : Text) : Ordinary (readCount t) := by
  unfold readCount
  dsimp only
  split
  · exact .ok _
  · split
    · exact .error rfl
    · exact .ok _

theorem ordinary_readGrouping (t : Text) : Ordinary (readGrouping t) := by
  unfold readGrouping
  split
  · exact .error rfl
  · exact .error rfl
  · exact .ok _
  · exact .ok _
  · exact .ok _

theorem ordinary_readPrecision (t : Text) : Ordinary (readPrecision t) := by
  unfold readPrecision
  split
  · refine .bind (ordinary_readCount _) fun found => ?_
    split
    · exact .error rfl
    · exact .ok _
  · exact .ok _

theorem ordinary_ofText (typeName : Text) (alignDefault : Alignment) (standard : Option Char)
    (t : Text) : Ordinary (ofText typeName alignDefault standard t) := by
  unfold ofText
  dsimp only
  refine .bind (ordinary_readCount _) fun width => ?_
  refine .bind (ordinary_readGrouping _) fun grouping => ?_
  refine .bind (ordinary_readPrecision _) fun precision => ?_
  split
  case h_3 => exact .error rfl
  all_goals
    refine .bind (.ok _) fun letter => ?_
    split
    · exact .error rfl
    · split
      · exact .error rfl
      · exact .ok _

theorem ordinary_text (s : FieldSpec) (t : Text) : Ordinary (s.text t) := by
  unfold text
  dsimp only
  repeat' split
  all_goals first
    | exact .ok _
    | exact .error rfl

theorem ordinary_character (s : FieldSpec) (n : Int) : Ordinary (s.character n) := by
  unfold character
  repeat' split
  all_goals first
    | exact .ok _
    | exact .error rfl

theorem ordinary_integer (s : FieldSpec) (letter : Char) (n : Int) :
    Ordinary (s.integer letter n) := by
  unfold integer
  split
  · exact .error rfl
  · split
    · exact .error rfl
    · split
      · exact ordinary_character s n
      · dsimp only
        split
        · exact .bind (ordinary_integerText _) fun _ => .ok _
        · exact .bind (.ok _) fun _ => .ok _

theorem ordinary_double (s : FieldSpec) (x : Float) : Ordinary (s.double x) := by
  unfold double
  split
  · exact .error rfl
  · split <;> exact .ok _

theorem ordinary_complex (s : FieldSpec) (re im : Float) : Ordinary (s.complex re im) := by
  unfold complex
  split
  · exact .error rfl
  · split
    · exact .error rfl
    · split
      · exact .error rfl
      · exact .ok _

end FieldSpec

namespace Value

theorem ordinary_shownInteger (typeName : Text) (n : Int) (spec : Text) :
    Ordinary (shownInteger typeName n spec) := by
  refine .bind (FieldSpec.ordinary_ofText _ _ _ _) fun s => ?_
  split
  · exact .error rfl
  · split
    · exact s.ordinary_integer _ _
    · split
      · exact .bind (Number.ordinary_toFloat _) fun _ => s.ordinary_double _
      · exact .error rfl

/-- **A value shown as its field says** fails with ordinary faults only. -/
theorem ordinary_shown (v : Value) (spec : Text) : Ordinary (v.shown spec) := by
  unfold shown
  split
  · exact ordinary_written v
  · split
    · exact .bind (FieldSpec.ordinary_ofText _ _ _ _) fun s => s.ordinary_text _
    · exact ordinary_shownInteger _ _ _
    · exact ordinary_shownInteger _ _ _
    · refine .bind (FieldSpec.ordinary_ofText _ _ _ _) fun s => ?_
      split
      · exact s.ordinary_double _
      · split
        · exact s.ordinary_double _
        · exact .error rfl
    · refine .bind (FieldSpec.ordinary_ofText _ _ _ _) fun s => ?_
      split
      · exact s.ordinary_complex _ _
      · split
        · exact s.ordinary_complex _ _
        · exact .error rfl
    · exact .error rfl

theorem ordinary_converted (v : Value) (conversion : Option Char) :
    Ordinary (v.converted conversion) := by
  unfold converted
  split
  · exact .ok _
  · exact .map _ (ordinary_written v)
  · exact .map _ (ordinary_quoted v)
  · exact .map _ (ordinary_quoted v)
  · exact .error rfl

end Value

/-! ## Percent conversions -/

namespace Conversion

theorem ordinary_digitsOf (base n : Nat) : Ordinary (digitsOf base n) := by
  unfold digitsOf
  split
  · exact ordinary_integerText _
  · exact .ok _

theorem ordinary_integer (c : Conversion) (base : Nat) (n : Int) : Ordinary (c.integer base n) :=
  .bind (ordinary_digitsOf _ _) fun _ => .ok _

theorem ordinary_character (v : Value) : Ordinary (character v) := by
  unfold character
  split
  · exact .ok _
  · split
    · exact .error rfl
    · split
      · exact .error rfl
      · exact .ok _

theorem ordinary_wholeNumber (v : Value) : Ordinary (wholeNumber v) := by
  unfold wholeNumber
  split
  · exact .error rfl
  · exact .error rfl
  · exact v.ordinary_toInteger

/-- **A value under a percent conversion** fails with ordinary faults only. -/
theorem ordinary_apply (c : Conversion) (v : Value) : Ordinary (c.apply v) := by
  unfold apply
  dsimp only
  split
  · exact .bind v.ordinary_written fun _ => .ok _
  · exact .bind v.ordinary_quoted fun _ => .ok _
  · exact .bind v.ordinary_quoted fun _ => .ok _
  · exact .bind (ordinary_character v) fun _ => .ok _
  · exact .bind (ordinary_wholeNumber v) fun _ => c.ordinary_integer _ _
  · exact .bind (ordinary_wholeNumber v) fun _ => c.ordinary_integer _ _
  · exact .bind (ordinary_wholeNumber v) fun _ => c.ordinary_integer _ _
  iterate 3
    · split
      · exact c.ordinary_integer _ _
      · exact .error rfl
  · exact .bind v.ordinary_realNumber fun _ => .ok _

end Conversion

/-! ## Decoding -/

namespace Encoding

theorem named_fails (name : Text) :
    FailsIn (fun f => f.kind = .value ∨ f.kind = .lookup) (named name) := by
  unfold named
  dsimp only
  split
  · exact .error (.inl rfl)
  · split
    · exact .ok _
    · split
      · exact .error (.inr rfl)
      · exact .error (.inr rfl)

theorem ordinary_named (name : Text) : Ordinary (named name) :=
  (named_fails name).mono fun f hf => by
    rcases hf with h | h <;> simp [Fault.isOrdinary, FaultKind.isDataFault, h]

theorem decodeFrom_fails (codec : Text) (char : List Nat → Except (Nat × Text) (Nat × Nat))
    (rounds position : Nat) (bytes : List Nat) :
    FailsIn (fun f => f.kind = .decoding) (decodeFrom codec char rounds position bytes) := by
  induction rounds generalizing position bytes with
  | zero => exact .ok _
  | succ rounds ih =>
    unfold decodeFrom
    split
    · exact .ok _
    · split
      · exact .error rfl
      · exact .map _ (ih _ _)

theorem utf8_decode_fails (bytes : List Nat) :
    FailsIn (fun f => f.kind = .decoding) (utf8.decode bytes) := decodeFrom_fails _ _ _ _ _

/-- **What decoding fails with**: bytes that stand for no text, or no mark of their order. -/
theorem decode_fails (encoding : Encoding) (bytes : List Nat) :
    FailsIn (fun f => f.kind = .decoding ∨ f.kind = .byteOrder) (encoding.decode bytes) := by
  have hrun : ∀ codec char position (rest : List Nat),
      FailsIn (fun f => f.kind = .decoding ∨ f.kind = .byteOrder)
        (run codec char position rest) := fun _ _ _ _ => (decodeFrom_fails _ _ _ _ _).mono fun _ => .inl
  have hunmarked : ∀ name {decoded : Except Fault Text},
      FailsIn (fun f => f.kind = .decoding ∨ f.kind = .byteOrder) decoded →
      FailsIn (fun f => f.kind = .decoding ∨ f.kind = .byteOrder) (unmarked name decoded) := by
    intro name decoded h
    refine .bind h fun t => ?_
    split
    · exact .ok _
    · exact .error (.inr rfl)
  unfold decode
  repeat' split
  all_goals first
    | exact .ok _
    | exact hrun _ _ _ _
    | exact hunmarked _ (hrun _ _ _ _)

theorem ordinary_decode (encoding : Encoding) (bytes : List Nat) :
    Ordinary (encoding.decode bytes) :=
  (encoding.decode_fails bytes).mono fun f hf => by
    rcases hf with h | h <;> simp [Fault.isOrdinary, FaultKind.isDataFault, h]

end Encoding

end Phrasebook
