import Phrasebook.Text.Compatible
import Phrasebook.Text.Identifier

/-!
# Wide forms of ASCII characters

The printable ASCII characters have wide forms, which are compatible spellings of them: an identifier
with wide letters is the one with the ASCII letters in their place.

* `Text.narrowChar`: the ASCII character of a wide form;
* `Text.composeFrom_of_lt`, `Text.orderMarks_of_lt`: without marks nothing is joined or moved;
* `Text.compatible_eq_map`: the compatible spelling of a text of ASCII characters and wide forms.
-/

namespace Phrasebook.Text

/-! ## One character -/

/-- The ASCII character that a wide form stands for; other characters stand for themselves. -/
def narrowChar (c : Char) : Char :=
  if isWideCode c.toNat then Char.ofNat (c.toNat - 0xfee0) else c

/-- An ASCII character, or the wide form of one. -/
def IsNarrowable (c : Char) : Prop := c.toNat < 0x80 ∨ isWideCode c.toNat = true

instance (c : Char) : Decidable (IsNarrowable c) := inferInstanceAs (Decidable (_ ∨ _))

theorem isWideCode_of_lt {code : Nat} (h : code < 0x80) : isWideCode code = false := by
  rw [isWideCode, Bool.and_eq_false_iff, decide_eq_false_iff_not]
  exact .inl (by omega)

theorem narrowChar_of_lt {c : Char} (h : c.toNat < 0x80) : narrowChar c = c := by
  rw [narrowChar, isWideCode_of_lt h, if_neg Bool.false_ne_true]

theorem toNat_ofNat {n : Nat} (h : n.isValidChar) : (Char.ofNat n).toNat = n := by
  rw [Char.ofNat, dif_pos h]
  rfl

theorem narrowChar_toNat_lt {c : Char} (h : IsNarrowable c) : (narrowChar c).toNat < 0x80 := by
  rcases h with h | h
  · rwa [narrowChar_of_lt h]
  · rw [narrowChar, if_pos h]
    rw [isWideCode, Bool.and_eq_true, decide_eq_true_eq, decide_eq_true_eq] at h
    rw [toNat_ofNat (.inl (by omega))]
    omega

theorem decomposeChar_of_isNarrowable {c : Char} (h : IsNarrowable c) :
    decomposeChar c = [narrowChar c] := by
  rcases h with h | h
  · rw [decomposeChar, if_pos h, narrowChar_of_lt h]
  · have hwide : ¬ c.toNat < 0x80 := fun hlt => by
      rw [isWideCode_of_lt hlt] at h
      cases h
    rw [decomposeChar, if_neg hwide, if_pos h, narrowChar, if_pos h]

/-! ## Texts without marks -/

theorem markClass_of_lt {c : Char} (h : c.toNat < 0x300) : markClass c = 0 := if_pos h

theorem compose?_of_lt {a b : Char} (h : b.toNat < 0x300) : compose? a b = none := if_pos h

theorem orderMarks_of_lt {t : Text} (h : ∀ c ∈ t, c.toNat < 0x300) : orderMarks [] t = t := by
  induction t with
  | nil => rfl
  | cons c t ih =>
    rw [List.forall_mem_cons] at h
    rw [orderMarks, if_pos (markClass_of_lt h.1), ih h.2, List.nil_append]

theorem composeFrom_of_lt {t : Text} (h : ∀ c ∈ t, c.toNat < 0x300) (starter : Option Char) :
    composeFrom starter [] t = starter.toList ++ t := by
  induction t generalizing starter with
  | nil => rw [composeFrom, List.reverse_nil]
  | cons c t ih =>
    rw [List.forall_mem_cons] at h
    have hclass := markClass_of_lt h.1
    cases starter with
    | none =>
      rw [composeFrom, if_pos hclass, ih h.2]
      rfl
    | some s =>
      rw [composeFrom]
      simp only [compose?_of_lt h.1, ite_self, if_pos hclass, ih h.2, List.reverse_nil,
        List.nil_append, Option.toList_some, List.cons_append]

/-- **Wide letters are ASCII letters**: the compatible spelling of a text of ASCII characters and wide
forms has the ASCII character of each in its place. -/
theorem compatible_eq_map {t : Text} (h : ∀ c ∈ t, IsNarrowable c) :
    compatible t = t.map narrowChar := by
  have hnarrow : ∀ c ∈ t.map narrowChar, c.toNat < 0x300 := by
    intro c hc
    obtain ⟨d, hd, rfl⟩ := List.mem_map.1 hc
    exact Nat.lt_trans (narrowChar_toNat_lt (h d hd)) (by decide)
  have hdecompose : t.flatMap decomposeChar = t.map narrowChar := by
    rw [List.map_eq_flatMap, List.flatMap_def, List.flatMap_def,
      List.map_congr_left fun c hc => decomposeChar_of_isNarrowable (h c hc)]
  rw [compatible]
  split
  · rename_i hascii
    rw [List.all_eq_true] at hascii
    rw [List.map_congr_left fun c hc => narrowChar_of_lt (of_decide_eq_true (hascii c hc)),
      List.map_id'']
    exact fun _ => rfl
  · rw [hdecompose, orderMarks_of_lt hnarrow, composeFrom_of_lt hnarrow]
    rfl

/-! ## In identifiers -/

set_option maxRecDepth 50000 in
/-- The wide form of a letter begins an identifier. -/
theorem isIdentifierStart_wide : isIdentifierStart 'Ｔ' = true := by
  obtain ⟨table, htable, hcontains⟩ : ∃ table : Text,
      identifierStartRanges = .ofTable table ∧ (CodeRanges.ofTable table).contains 'Ｔ' = true := by
    refine ⟨_, congrArg CodeRanges.ofTable String.toList_ofList, ?_⟩
    decide +kernel
  rw [isIdentifierStart, if_neg (by decide), htable, hcontains]

end Phrasebook.Text
