import Mathlib.Data.Char
import Mathlib.Data.List.Lex
import Mathlib.Order.Compare
import Phrasebook.Files.Path

/-!
# The order of texts and paths

Texts are compared by the code points of their characters and paths by their parts.  Both are the
lexicographic order of lists, which is linear.

* `Text.listOrder_compares`, `Text.order_compares`: comparing lists, and texts;
* `Path.notAfter_iff`: comparing paths.
-/

namespace Phrasebook

namespace Text

/-- Lists are compared in lexicographic order where their members are compared in theirs. -/
theorem listOrder_compares {α : Type} [LT α] {order : α → α → Ordering}
    (h : ∀ a b, (order a b).Compares a b) (as bs : List α) :
    (listOrder order as bs).Compares as bs := by
  induction as generalizing bs with
  | nil =>
    cases bs with
    | nil => exact (rfl : ([] : List α) = [])
    | cons b bs => exact List.nil_lt_cons b bs
  | cons a as ih =>
    cases bs with
    | nil => exact List.nil_lt_cons a as
    | cons b bs =>
      have hab := h a b
      unfold listOrder
      cases horder : order a b with
      | lt =>
        rw [horder] at hab
        exact List.Lex.rel hab
      | gt =>
        rw [horder] at hab
        exact List.Lex.rel hab
      | eq =>
        rw [horder] at hab
        obtain rfl : a = b := hab
        have hrest := ih bs
        dsimp only
        cases hlist : listOrder order as bs with
        | lt =>
          rw [hlist] at hrest
          exact List.Lex.cons hrest
        | gt =>
          rw [hlist] at hrest
          exact List.Lex.cons hrest
        | eq =>
          rw [hlist] at hrest
          exact congrArg (a :: ·) hrest

theorem numberOrder_compares (c d : Char) : (numberOrder c.toNat d.toNat).Compares c d :=
  cmp_compares c d

/-- **Texts are compared in lexicographic order.** -/
theorem order_compares (t u : Text) : (order t u).Compares t u :=
  listOrder_compares numberOrder_compares t u

end Text

/-- **Paths are compared part by part.** -/
theorem Path.notAfter_iff {p q : Path} : p.notAfter q = true ↔ p.parts ≤ q.parts := by
  have h := Text.listOrder_compares Text.order_compares p.parts q.parts
  rw [notAfter, bne_iff_ne, Ne, h.eq_gt, not_lt]

end Phrasebook
