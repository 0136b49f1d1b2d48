import Phrasebook.Text.Blank
import Phrasebook.Text.Word

/-!
# Words and blanks

No letter or numeral of any script is a blank.  Beyond ASCII both are tables, and what is looked up
by bisection is found in one of the ranges, so it is enough that no range holds a blank.

* `CodeRanges.exists_of_contains`: what a table contains is in one of its ranges;
* `Text.isBlank_of_letter`, `Text.isBlank_of_isWord`: characters of names are no blanks.
-/

namespace Phrasebook

namespace CodeRanges

theorem exists_of_search {bounds : Array (Nat × Nat)} {code lo hi : Nat}
    (h : search bounds code lo hi = true) :
    ∃ range ∈ bounds.toList, range.1 ≤ code ∧ code ≤ range.2 := by
  fun_induction search bounds code lo hi with
  | case1 lo hi hlt mid hmid => cases h
  | case2 lo hi hlt mid first last hmid hbefore ih => exact ih h
  | case3 lo hi hlt mid first last hmid hbefore hafter ih => exact ih h
  | case4 lo hi hlt mid first last hmid hbefore hafter =>
    exact ⟨(first, last), Array.mem_toList_iff.2 (Array.mem_of_getElem? hmid), by omega, by omega⟩
  | case5 lo hi hlt => cases h

/-- What a table contains is in one of its ranges. -/
theorem exists_of_contains {r : CodeRanges} {c : Char} (h : r.contains c = true) :
    ∃ range ∈ r.bounds.toList, range.1 ≤ c.toNat ∧ c.toNat ≤ range.2 := exists_of_search h

/-- A table that is written as a literal is read as the list of its characters. -/
theorem ofTable_literal {table : String} {t : Text} (h : table = String.ofList t) :
    ofTable table.toList = ofTable t := by
  rw [h, String.toList_ofList]

end CodeRanges

namespace Text

/-! ## ASCII -/

theorem code_of_isAlpha {c : Char} (h : c.isAlpha = true) :
    (65 ≤ c.toNat ∧ c.toNat ≤ 90) ∨ (97 ≤ c.toNat ∧ c.toNat ≤ 122) := by
  change (c.isUpper || c.isLower) = true at h
  rw [Bool.or_eq_true] at h
  rcases h with h | h
  · exact .inl (of_decide_eq_true h)
  · change (decide _ && decide _) = true at h
    rw [Bool.and_eq_true, decide_eq_true_eq, decide_eq_true_eq] at h
    exact .inr h

theorem code_of_isDigit {c : Char} (h : c.isDigit = true) : 48 ≤ c.toNat ∧ c.toNat ≤ 57 := by
  change (decide _ && decide _) = true at h
  rw [Bool.and_eq_true, decide_eq_true_eq, decide_eq_true_eq] at h
  exact h

/-- An ASCII letter, a digit or the underscore is no blank. -/
theorem isBlank_of_letter {c : Char} (h : (c.isAlphanum || c == '_') = true) : isBlank c = false := by
  have hcode : (48 ≤ c.toNat ∧ c.toNat ≤ 57) ∨ (65 ≤ c.toNat ∧ c.toNat ≤ 90) ∨
      (97 ≤ c.toNat ∧ c.toNat ≤ 122) ∨ c.toNat = 95 := by
    change ((c.isAlpha || c.isDigit) || c == '_') = true at h
    rw [Bool.or_eq_true, Bool.or_eq_true, beq_iff_eq] at h
    rcases h with (h | h) | rfl
    · rcases code_of_isAlpha h with h | h
      · exact .inr (.inl h)
      · exact .inr (.inr (.inl h))
    · exact .inl (code_of_isDigit h)
    · exact .inr (.inr (.inr rfl))
  simp only [isBlank, Bool.or_eq_false_iff, Bool.and_eq_false_iff, decide_eq_false_iff_not,
    beq_eq_false_iff_ne]
  omega

/-! ## Beyond ASCII -/

/-- The blanks beyond ASCII. -/
def wideBlanks : List Nat :=
  [0x85, 0xa0, 0x1680, 0x2000, 0x2001, 0x2002, 0x2003, 0x2004, 0x2005, 0x2006, 0x2007, 0x2008,
    0x2009, 0x200a, 0x2028, 0x2029, 0x202f, 0x205f, 0x3000]

theorem toNat_mem_wideBlanks {c : Char} (h : isBlank c = true) (hwide : ¬ c.toNat < 128) :
    c.toNat ∈ wideBlanks := by
  simp only [isBlank, Bool.or_eq_true, Bool.and_eq_true, decide_eq_true_eq, beq_iff_eq] at h
  simp only [wideBlanks, List.mem_cons, List.not_mem_nil, or_false]
  omega

set_option maxRecDepth 100000 in
/-- No range of letters and numerals holds a blank. -/
theorem wordRanges_free :
    (wordRanges.bounds.toList.all fun range => wideBlanks.all fun blank =>
      !(decide (range.1 ≤ blank) && decide (blank ≤ range.2))) = true := by
  unfold wordRanges
  rw [CodeRanges.ofTable_literal rfl]
  decide +kernel

/-- A letter, a numeral or the underscore is no blank. -/
theorem isBlank_of_isWord {c : Char} (h : isWord c = true) : isBlank c = false := by
  unfold isWord at h
  by_cases hascii : c.toNat < 128
  · rw [if_pos hascii] at h
    exact isBlank_of_letter h
  · rw [if_neg hascii] at h
    refine Bool.eq_false_iff.2 fun hblank => ?_
    obtain ⟨range, hrange, hfirst, hlast⟩ := CodeRanges.exists_of_contains h
    have hfree := List.all_eq_true.1 (List.all_eq_true.1 wordRanges_free range hrange) c.toNat
      (toNat_mem_wideBlanks hblank hascii)
    simp [hfirst, hlast] at hfree

end Text

end Phrasebook
