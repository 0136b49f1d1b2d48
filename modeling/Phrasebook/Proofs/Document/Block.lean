import Phrasebook.Proofs.Document.Moves
import Phrasebook.Proofs.Document.Phrase

/-!
# Blocks

A block is written between marks: raw texts with names in braces between them, behind at signs.
Nothing in it is escaped.  The block ends at its own closing mark whatever stands in it and behind
it, and it falls apart into the characters of its texts and its names.

* `Phrase.block`: a phrase as a block;
* `Phrase.Quotable`: the phrases whose block says what they say;
* `Phrase.Quotable.scanFrom_block`: a block in a body line is one token;
* `Phrase.Quotable.readDocument`: how a document with one block is read;
* `Phrase.Quotable.blockPieces_raw`: what the block falls apart into.
-/

namespace Phrasebook

open Scan
open Text (infix_append_cons_iff infix_append_iff_of_disjoint)

/-! ## Phrases as blocks -/

/-- The mark in front of the name of an expression in a block. -/
def expressionMark : Text := ['@', '\x7b']

/-- A name and the text behind it as they stand in a block. -/
def Slot.marked (s : Slot) : Text := '@' :: '\x7b' :: (s.name ++ '\x7d' :: s.after)

/-- The pieces of a name and the text behind it. -/
def Slot.blockPieces (s : Slot) : List BlockPiece := .expression s.name :: s.after.map .literal

namespace Phrase

/-- The texts of a phrase, in order. -/
def texts (p : Phrase) : List Text := p.first :: p.slots.map Slot.after

/-- What stands between the marks of the block. -/
def raw (p : Phrase) : Text := p.first ++ p.slots.flatMap Slot.marked

/-- A phrase as a block. -/
def block (p : Phrase) : Text := blockMark ++ (p.raw ++ blockMark)

/-- The phrases whose block says what they say: the names mean nothing else, no text holds one of
the two marks, and the last one does not run into the closing mark. -/
structure Quotable (p : Phrase) : Prop where
  names : ∀ s ∈ p.slots, s.name.IsPlainName
  closed : ∀ t ∈ p.texts, ¬ blockMark <:+: t
  literal : ∀ t ∈ p.texts, ¬ expressionMark <:+: t
  last : ∀ t ∈ p.texts.getLast?, t.getLast? ≠ some '\x60'

/-- What stands in the block of a phrase behind its first text. -/
theorem raw_cons (first : Text) (s : Slot) (slots : List Slot) :
    raw ⟨first, s :: slots⟩ =
      first ++ '@' :: (('\x7b' :: (s.name ++ ['\x7d'])) ++ raw ⟨s.after, slots⟩) := by
  simp [raw, Slot.marked]

/-- A phrase goes on with the phrase behind its first name. -/
theorem Quotable.rest {first : Text} {s : Slot} {slots : List Slot}
    (hp : Quotable ⟨first, s :: slots⟩) : Quotable ⟨s.after, slots⟩ where
  names s' hs' := hp.names s' (List.mem_cons_of_mem s hs')
  closed t ht := hp.closed t (List.mem_cons_of_mem first ht)
  literal t ht := hp.literal t (List.mem_cons_of_mem first ht)
  last t ht := hp.last t (by rw [texts, List.map_cons, List.getLast?_cons_cons]; exact ht)

/-! ## The end of a block -/

/-- A text that does not end in the character of the mark has no mark that reaches over its end. -/
theorem not_infix_append_mark {t : Text} (h : ¬ blockMark <:+: t) (hlast : t.getLast? ≠ some '\x60') :
    ¬ blockMark <:+: t ++ ['\x60', '\x60'] := by
  rcases List.eq_nil_or_concat t with rfl | ⟨t, c, rfl⟩
  · decide
  · rw [List.concat_eq_append] at *
    have hc : c ∉ blockMark := by
      rw [List.getLast?_concat] at hlast
      simpa [blockMark] using fun hc => hlast (congrArg some hc)
    rw [List.append_assoc, List.singleton_append, infix_append_cons_iff hc (by decide)]
    rintro (hmark | hmark)
    · exact h (hmark.trans (List.prefix_append t [c]).isInfix)
    · revert hmark
      decide

/-- No mark begins in a block before its closing mark. -/
theorem Quotable.not_infix {p : Phrase} (hp : p.Quotable) :
    ¬ blockMark <:+: p.raw ++ ['\x60', '\x60'] := by
  obtain ⟨first, slots⟩ := p
  induction slots generalizing first with
  | nil =>
    rw [raw, List.flatMap_nil, List.append_nil]
    exact not_infix_append_mark (hp.closed first List.mem_cons_self) (hp.last first rfl)
  | cons s slots ih =>
    have hdisjoint : ∀ c ∈ '\x7b' :: (s.name ++ ['\x7d']), c ∉ blockMark :=
      Slot.notMem_blockMark (hp.names s List.mem_cons_self)
    rw [raw_cons, List.append_assoc, List.cons_append, List.append_assoc,
      infix_append_cons_iff (by decide) (by decide),
      infix_append_iff_of_disjoint hdisjoint (by decide)]
    rintro (hmark | hmark)
    · exact hp.closed first List.mem_cons_self hmark
    · exact ih s.after hp.rest hmark

/-- **A block ends at its own closing mark**, whatever follows it. -/
theorem Quotable.blockLength {p : Phrase} (hp : p.Quotable) (w : Text) :
    blockLength? (p.block ++ w) = some p.block.length := by
  have hcut : Text.cut? blockMark (p.raw ++ (blockMark ++ w)) = some (p.raw, w) :=
    Text.cut?_append_of_absent (by decide) hp.not_infix w
  refine blockLength?_eq_some_iff.2 ⟨p.raw, w, ?_, ?_, ?_⟩
  · rw [block, List.append_assoc]
  · rwa [List.append_assoc]
  · rw [block, List.length_append, List.length_append]
    show 3 + (p.raw.length + 3) = _
    omega

/-- A block as its first character and what follows. -/
theorem block_cons (p : Phrase) : p.block = '\x60' :: p.block.tail := rfl

/-- The move at a block takes all of it. -/
theorem Quotable.move_block {p : Phrase} (hp : p.Quotable) (fresh : Bool) (w : Text) :
    (Mode.body fresh).move '\x60' (p.block.tail ++ w) =
      .ok ⟨some .multiLine, p.block.tail.length, .body false⟩ := by
  have hlength : blockLength? ('\x60' :: (p.block.tail ++ w)) = some p.block.length := hp.blockLength w
  rw [Mode.move_block hlength, block_cons]
  rfl

/-- **A block in a body line is one token**, at any place and before anything. -/
theorem Quotable.scanFrom_block {p : Phrase} (hp : p.Quotable) (fresh : Bool) (place : Position)
    (w : Text) :
    Token.scanFrom (.body fresh) place (p.block ++ w) =
      (Token.scanFrom (.body false) (place.after p.block) w).map
        (⟨.multiLine, p.block, place⟩ :: ·) := by
  have htake := Token.scanFrom_take (hp.move_block fresh w) place
  rw [List.take_left, List.drop_left] at htake
  exact htake

/-- Cutting goes on behind a block. -/
theorem Quotable.cuts {p : Phrase} (hp : p.Quotable) (fresh : Bool) {w : Text} {pieces : List Piece}
    (h : Cuts (.body false) w pieces) :
    Cuts (.body fresh) (p.block ++ w) ((.multiLine, p.block) :: pieces) := by
  have htake := @Cuts.take _ _ _ _ _ _ pieces (hp.move_block fresh w) (by rwa [List.drop_left])
  rw [List.take_left] at htake
  exact htake

/-- **How a document with one block is read**: as one template with one alternative, whose only
fragment is the block. -/
theorem Quotable.readDocument {p : Phrase} (hp : p.Quotable) (label : Text) :
    ∃ t a, Template.readDocument label (Template.onlyLine p.block) = .ok [t] ∧
      t.name = "t".toList ∧ t.body = .normal [a] ∧
      a.fragments.map Fragment.content = [(.multiLine, p.block)] := by
  have hcuts : Cuts .between (Template.onlyLine p.block)
      (Template.onlyLinePieces [(.multiLine, p.block)]) :=
    Cuts.onlyLine (by rw [block_cons]; rintro c ⟨⟩; rfl) (hp.cuts true Cuts.lastEnd)
  refine Template.readDocument_onlyLine label hcuts fun q hq => ?_
  rw [List.mem_singleton.1 hq]
  exact ⟨rfl, rfl⟩

/-! ## The pieces of a block -/

theorem blockInside_block (p : Phrase) : blockInside p.block = p.raw := by
  have hdrop : p.block.drop 3 = p.raw ++ ['\x60'] ++ ['\x60'] ++ ['\x60'] := by
    simp [block, blockMark]
  rw [blockInside, hdrop, List.dropLast_concat, List.dropLast_concat, List.dropLast_concat]

end Phrase

/-- A text without an opening mark stands for its characters, unless one begins at its end. -/
theorem blockPieces_literal {t w : Text} (ht : ¬ expressionMark <:+: t)
    (hw : w.head? ≠ some '\x7b') : blockPieces (t ++ w) = t.map .literal ++ blockPieces w := by
  induction t with
  | nil => rfl
  | cons c t ih =>
    have hmark : ¬ (c = '@' ∧ (t ++ w).head? = some '\x7b') := by
      rintro ⟨rfl, hhead⟩
      cases t with
      | nil => exact hw hhead
      | cons d t =>
        obtain rfl : d = '\x7b' := Option.some.inj hhead
        exact ht ⟨[], t, rfl⟩
    rw [List.cons_append, blockPieces, if_neg hmark, ih fun h => ht (List.infix_cons h)]
    rfl

/-- A name in braces behind an at sign is an expression. -/
theorem blockPieces_name {x : Text} (hx : x.IsPlainName) (w : Text) :
    blockPieces ('@' :: '\x7b' :: (x ++ '\x7d' :: w)) = .expression x :: blockPieces w := by
  have hbrace : ∀ c ∈ x, (!isBrace c) = true := by
    intro c hc
    have hopen := hx.ne_of_mem (d := '\x7b') hc (by decide)
    have hclose := hx.ne_of_mem (d := '\x7d') hc (by decide)
    simp [isBrace, hopen, hclose]
  have hsource : (x ++ '\x7d' :: w).takeWhile (!isBrace ·) = x := by
    rw [List.takeWhile_append_of_pos hbrace, List.takeWhile_cons_of_neg (by decide), List.append_nil]
  have hbehind : (x ++ '\x7d' :: w).dropWhile (!isBrace ·) = '\x7d' :: w := by
    rw [List.dropWhile_append_of_pos hbrace, List.dropWhile_cons_of_neg (by decide)]
  have hexpression : blockExpression? (x ++ '\x7d' :: w) = some x := by
    unfold blockExpression?
    dsimp only
    rw [hsource, hbehind, if_pos ⟨hx.ne_nil, rfl⟩]
  have hdrop : ('\x7b' :: (x ++ '\x7d' :: w)).drop (x.length + 2) = w := by
    rw [List.append_cons, ← List.cons_append, List.drop_left' (by simp)]
  rw [blockPieces, if_pos ⟨rfl, rfl⟩, List.drop_succ_cons, List.drop_zero, hexpression]
  dsimp only
  rw [hdrop]

namespace Phrase

/-- **What a block falls apart into**: the characters of its texts and its names. -/
theorem Quotable.blockPieces_raw {p : Phrase} (hp : p.Quotable) :
    blockPieces p.raw = p.first.map .literal ++ p.slots.flatMap Slot.blockPieces := by
  obtain ⟨first, slots⟩ := p
  induction slots generalizing first with
  | nil =>
    have hfirst := blockPieces_literal (w := []) (hp.literal first List.mem_cons_self) (by simp)
    rw [List.append_nil, blockPieces] at hfirst
    rw [raw, List.flatMap_nil, List.flatMap_nil, List.append_nil, List.append_nil, hfirst,
      List.append_nil]
  | cons s slots ih =>
    have hname := hp.names s List.mem_cons_self
    have hbehind : '\x7b' :: (s.name ++ ['\x7d']) ++ raw ⟨s.after, slots⟩ =
        '\x7b' :: (s.name ++ '\x7d' :: raw ⟨s.after, slots⟩) := by simp
    rw [raw_cons, blockPieces_literal (hp.literal first List.mem_cons_self) (by simp), hbehind,
      blockPieces_name hname, ih s.after hp.rest, List.flatMap_cons, Slot.blockPieces]
    rfl

end Phrase

end Phrasebook
