import Mathlib.Data.List.Forall2
import Phrasebook.Text.Case

/-!
# Small letters

Two characters are forms of one letter if they have the same small form and count alike where the
capital sigma looks for the letters around it.  Texts that are spelt with forms of the same letters
are the same in small letters; the capital and the small letters of ASCII are such forms.

* `Text.OneLetter`, `Text.toLower_congr`: forms of one letter;
* `Text.toLower_map_toLower`: ASCII letters in either case;
* `Text.toLower_of_notMem`: texts without the capital sigma, character by character.
-/

namespace Phrasebook

namespace Text

/-- **Forms of one letter.** -/
structure OneLetter (c d : Char) : Prop where
  small : lowerChar c = lowerChar d
  sigma : c = 'Σ' ↔ d = 'Σ'
  cased : isCased c = isCased d
  ignorable : isCaseIgnorable c = isCaseIgnorable d

variable {t u before before' : Text} {c d : Char}

theorem meetsCased_congr (h : List.Forall₂ OneLetter t u) : meetsCased t = meetsCased u := by
  induction h with
  | nil => rfl
  | @cons c d t u hcd _ ih =>
    unfold meetsCased at ih ⊢
    rw [List.dropWhile_cons, List.dropWhile_cons, hcd.ignorable]
    by_cases hd : isCaseIgnorable d = true
    · rw [if_pos hd, if_pos hd]
      exact ih
    · rw [if_neg hd, if_neg hd]
      exact hcd.cased

theorem lowerBetween_congr (hcd : OneLetter c d) (hbefore : List.Forall₂ OneLetter before before')
    (h : List.Forall₂ OneLetter t u) : lowerBetween before c t = lowerBetween before' d u := by
  have hsigma : (c == 'Σ') = (d == 'Σ') := by
    rw [Bool.eq_iff_iff, beq_iff_eq, beq_iff_eq, hcd.sigma]
  rw [lowerBetween, lowerBetween, hsigma, meetsCased_congr hbefore, meetsCased_congr h, hcd.small]

theorem lowerAfter_congr (hbefore : List.Forall₂ OneLetter before before')
    (h : List.Forall₂ OneLetter t u) : lowerAfter before t = lowerAfter before' u := by
  induction h generalizing before before' with
  | nil => rfl
  | cons hcd hrest ih =>
    rw [lowerAfter, lowerAfter, lowerBetween_congr hcd hbefore hrest, ih (.cons hcd hbefore)]

/-- **Texts spelt with forms of the same letters** are the same in small letters. -/
theorem toLower_congr (h : List.Forall₂ OneLetter t u) : toLower t = toLower u :=
  lowerAfter_congr .nil h

/-! ## ASCII -/

theorem oneLetter_toLower (c : Char) : OneLetter c.toLower c := by
  by_cases hascii : c.toNat < 128
  · have hall : ∀ n < 128, let c := Char.ofNat n
        lowerChar c.toLower = lowerChar c ∧ (c.toLower = 'Σ' ↔ c = 'Σ') ∧
          isCased c.toLower = isCased c ∧ isCaseIgnorable c.toLower = isCaseIgnorable c := by
      decide
    obtain ⟨hsmall, hsigma, hcased, hignorable⟩ := hall c.toNat hascii
    rw [Char.ofNat_toNat] at hsmall hsigma hcased hignorable
    exact ⟨hsmall, hsigma, hcased, hignorable⟩
  · have hupper : c.isUpper = false := by
      refine Bool.eq_false_iff.2 fun h => hascii ?_
      have : c.toNat ≤ 'Z'.toNat := (of_decide_eq_true h).2
      exact Nat.lt_of_le_of_lt this (by decide)
    have hlower : c.toLower = c := dif_neg (of_decide_eq_false hupper)
    rw [hlower]
    exact ⟨rfl, Iff.rfl, rfl, rfl⟩

/-- **The case of ASCII letters makes no difference.** -/
theorem toLower_map_toLower (t : Text) : toLower (t.map Char.toLower) = toLower t := by
  refine toLower_congr ?_
  induction t with
  | nil => exact .nil
  | cons c t ih => exact .cons (oneLetter_toLower c) ih

/-! ## Character by character -/

/-- Without a capital sigma every character is made small on its own. -/
theorem toLower_of_notMem (h : 'Σ' ∉ t) : toLower t = t.flatMap lowerChar := by
  have hafter : ∀ before, lowerAfter before t = t.flatMap lowerChar := by
    induction t with
    | nil => exact fun _ => rfl
    | cons c t ih =>
      rw [List.mem_cons, not_or] at h
      obtain ⟨hc, ht⟩ := h
      intro before
      have hsigma : (c == 'Σ') = false := beq_eq_false_iff_ne.2 fun h => hc h.symm
      rw [lowerAfter, lowerBetween, hsigma, ih ht, List.flatMap_cons]
      rfl
  exact hafter []

/-- The small sigma has one small form, and the capital two: one of them at the end of a word. -/
theorem toLower_sigma : ¬ ∀ t ∈ [".aσ".toList, ".σa".toList],
    toLower t ∈ [".aΣ".toList, ".Σa".toList].map toLower := by
  intro h
  have hcapital : [".aΣ".toList, ".Σa".toList].map toLower = [".aς".toList, ".σa".toList] := by
    decide
  have hpoint : lowerChar '.' = ['.'] := rfl
  have ha : lowerChar 'a' = ['a'] := rfl
  have hends : toLower ['.', 'a', 'σ'] = '.' :: 'a' :: lowerChar 'σ' := by
    rw [toLower_of_notMem (by decide)]
    simp only [List.flatMap_cons, List.flatMap_nil, hpoint, ha, List.append_nil, List.cons_append,
      List.nil_append]
  have hstarts : toLower ['.', 'σ', 'a'] = '.' :: (lowerChar 'σ' ++ ['a']) := by
    rw [toLower_of_notMem (by decide)]
    simp only [List.flatMap_cons, List.flatMap_nil, hpoint, ha, List.append_nil, List.cons_append,
      List.nil_append]
  have hfinal : lowerChar 'σ' = ['ς'] := by
    have hmem := h ['.', 'a', 'σ'] (by decide)
    rw [hcapital, hends] at hmem
    generalize lowerChar 'σ' = small at hmem
    simpa using hmem
  have hmem := h ['.', 'σ', 'a'] (by decide)
  rw [hcapital, hstarts, hfinal] at hmem
  exact absurd hmem (by decide)

end Text

end Phrasebook
