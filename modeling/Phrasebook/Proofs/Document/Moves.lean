import Phrasebook.Proofs.Document.Cutting
import Phrasebook.Proofs.Document.FirstLine

/-!
# What a move looks at

A move at the end of a line looks at the end of the line, a move at a closed block looks for its
closing mark, and every other move looks at the rest of its line and takes no more than that.

* `Mode.Alike`, `Mode.move_congr`: texts between which no move tells;
* `Mode.alike_takeWhile`, `Mode.extra_le_takeWhile`: the rest of a line;
* `Mode.move_feed`, `Mode.move_return`: the end of a line;
* `Mode.move_block`: a closed block.
-/

namespace Phrasebook

open Scan

/-! ## Closed blocks -/

theorem Scan.blockLength?_eq_some_iff {t : Text} {n : Nat} :
    blockLength? t = some n ↔ ∃ inner after, t = blockMark ++ (inner ++ blockMark ++ after) ∧
      Text.cut? blockMark (inner ++ blockMark ++ after) = some (inner, after) ∧
        n = inner.length + 6 := by
  unfold blockLength?
  constructor
  · intro h
    obtain ⟨rest, hafter, hfind⟩ := Option.bind_eq_some_iff.1 h
    obtain ⟨i, hi, rfl⟩ := Option.map_eq_some_iff.1 hfind
    obtain ⟨⟨inner, after⟩, hcut, rfl⟩ := Option.map_eq_some_iff.1 hi
    obtain rfl := Text.eq_of_cut? hcut
    exact ⟨inner, after, Text.after?_eq_some_iff.1 hafter, hcut, rfl⟩
  · rintro ⟨inner, after, rfl, hcut, rfl⟩
    rw [Text.after?_eq_some_iff.2 rfl, Option.bind_some, Text.find?, hcut]
    rfl

/-- A closed block ends in a mark. -/
theorem Scan.take_block {c : Char} {t : Text} {n : Nat} (h : blockLength? (c :: t) = some n) :
    ∃ inner, c :: t.take (n - 1) = blockMark ++ inner ++ blockMark := by
  obtain ⟨inner, after, heq, -, rfl⟩ := blockLength?_eq_some_iff.1 h
  have htake : (c :: t).take (inner.length + 6) = blockMark ++ inner ++ blockMark := by
    rw [heq, ← List.append_assoc, ← List.append_assoc, List.take_left' (by simp [blockMark])]
  exact ⟨inner, htake⟩

namespace Mode

variable {m : Mode} {c : Char} {t t' t'' : Text} {move : Move}

/-! ## Texts that are moved through alike -/

/-- Two texts behind a character between which no move tells. -/
structure Alike (c : Char) (t t' : Text) : Prop where
  newline : newline? (c :: t') = newline? (c :: t)
  run : ∀ p, (∀ d, p d = true → isLineEnd d = false) → Scan.run p t' = Scan.run p t
  keyword : keywordMove? (c :: t') = keywordMove? (c :: t)
  content : Scan.content c t' = Scan.content c t

theorem Alike.symm (h : Alike c t t') : Alike c t' t where
  newline := h.newline.symm
  run p hp := (h.run p hp).symm
  keyword := h.keyword.symm
  content := h.content.symm

theorem Alike.trans (h : Alike c t t') (h' : Alike c t' t'') : Alike c t t'' where
  newline := h'.newline.trans h.newline
  run p hp := (h'.run p hp).trans (h.run p hp)
  keyword := h'.keyword.trans h.keyword
  content := h'.content.trans h.content

theorem isLineEnd_of_isWord (h : Text.isWord c = true) : isLineEnd c = false := by
  refine Bool.eq_false_iff.2 fun hend => ?_
  rcases isLineEnd_iff.1 hend with rfl | rfl <;> revert h <;> decide

theorem move_congr (h : Alike c t t') (m : Mode) : m.move c t' = m.move c t := by
  have hcomment : Scan.run (!isLineEnd ·) t' = Scan.run (!isLineEnd ·) t :=
    h.run _ fun d hd => by simpa using hd
  have hname : Scan.run (fun d => Text.isWord d || d == '-') t' =
      Scan.run (fun d => Text.isWord d || d == '-') t := by
    refine h.run _ fun d hd => ?_
    rw [Bool.or_eq_true, beq_iff_eq] at hd
    rcases hd with hd | rfl
    · exact isLineEnd_of_isWord hd
    · rfl
  have hblanks : Scan.run isBlank t' = Scan.run isBlank t := h.run _ fun d => isLineEnd_of_isBlank
  cases m with
  | between => simp only [Mode.move, moveBetween, hcomment]
  | declaration => simp only [Mode.move, moveDeclaration, h.newline, hname]
  | body fresh => simp only [Mode.move, moveBody, h.newline, hblanks, h.keyword, h.content]

/-! ## The rest of a line -/

section

variable {q : Char → Bool} (hq : KeepsLine q) (hc : q c = true)
  (hexpression : expressionRest (t.takeWhile q) = expressionRest t)
  (hnewline : newline? (c :: t) = none) (hblock : blockLength? (c :: t) = none)

include hq hc hexpression hnewline hblock

/-- The line that a character is on decides the move, blocks and the end of the line aside. -/
theorem alike_takeWhile : Alike c t (t.takeWhile q) where
  newline := by
    rw [hnewline, newline?_eq_none_iff]
    obtain ⟨hfeed, hreturn⟩ := newline?_eq_none_iff.1 hnewline
    refine ⟨hfeed, fun h hhead => hreturn h ?_⟩
    rw [List.head?_takeWhile, Option.filter_eq_some_iff] at hhead
    exact hhead.1
  run p hp := run_takeWhile (fun d hd => hq d (hp d hd)) t
  keyword := by rw [← List.takeWhile_cons_of_pos hc, keywordMove?_takeWhile hq]
  content := content_takeWhile hq hc hexpression hblock

/-- What a move takes is on its line, blocks and the end of the line aside. -/
theorem take_move_prefix (hmove : m.move c t = .ok move) :
    t.take move.extra <+: t.takeWhile q := by
  have hle : move.extra ≤ (t.takeWhile q).length := by
    rw [← move_congr (alike_takeWhile hq hc hexpression hnewline hblock)] at hmove
    exact extra_le hmove
  exact List.prefix_of_prefix_length_le (List.take_prefix _ t) (List.takeWhile_prefix q)
    (by rw [List.length_take]; omega)

end

/-! ## Ends of lines and blocks -/

/-- The move at the end of a line. -/
def endMove (extra : Nat) : Mode → Move
  | between => ⟨none, 0, between⟩
  | declaration | body _ => ⟨some .newline, extra, between⟩

theorem move_feed (m : Mode) (t : Text) : m.move '\n' t = .ok (m.endMove 0) := by
  cases m <;> rfl

theorem move_return (m : Mode) (t : Text) : m.move '\r' ('\n' :: t) = .ok (m.endMove 1) := by
  cases m <;> rfl

/-- A character that no keyword begins with. -/
theorem keywordMove?_of_other {c : Char} (he : sameLetter c 'e' = false)
    (hi : sameLetter c 'i' = false) (t : Text) : keywordMove? (c :: t) = none := by
  have hkeyword : keyword? (c :: t) = none := by
    simp [keyword?, keywords, wordLength?, beginsWith, he, hi]
  rw [keywordMove?, hkeyword]

/-- A mark of a block begins content of a body line, and nothing elsewhere. -/
theorem move_mark (m : Mode) (t : Text) :
    m.move '\x60' t = match m with
      | between => .error (.badLineStart '\x60')
      | declaration => .error (.badDeclaration '\x60')
      | body _ => .ok ⟨some (content '\x60' t).1, (content '\x60' t).2, body false⟩ := by
  cases m with
  | between => rfl
  | declaration => rfl
  | body fresh =>
    have hkeyword : (if fresh = true then keywordMove? ('\x60' :: t) else none) = none := by
      rw [keywordMove?_of_other (by decide) (by decide), ite_self]
    rw [Mode.move, moveBody, newline?_of_ne (by decide) (by decide), hkeyword]
    rfl

/-- A closed block is a token in a body line. -/
theorem move_block {n : Nat} (h : blockLength? (c :: t) = some n) :
    m.move c t = match m with
      | between => .error (.badLineStart c)
      | declaration => .error (.badDeclaration c)
      | body _ => .ok ⟨some .multiLine, n - 1, body false⟩ := by
  have hcontent : content c t = (.multiLine, n - 1) := by
    unfold content
    rw [h]
  obtain ⟨inner, after, heq, -, -⟩ := blockLength?_eq_some_iff.1 h
  obtain rfl : c = '\x60' := (List.cons.inj heq).1
  rw [move_mark, hcontent]

end Mode

end Phrasebook
