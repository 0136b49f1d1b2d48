import Phrasebook.Document.Definition
import Phrasebook.Proofs.Document.Cutting
import Phrasebook.Proofs.Document.FirstLine

/-!
# Cutting a line again

A body line is cut into the same pieces when something else follows it, as long as no mark of a
block follows now where none did before: an open block looks for its end in all that follows.

* `Mode.moveBody_congr`: one move in a body line;
* `Cuts.recut`: the rest of a line after its first piece of content;
* `Cuts.recut_line`: a line from its dash on, with a single blank in front of its content.
-/

namespace Phrasebook

open Scan
open Text (AtLineEnd atLineEnd_cons atLineEnd_nil firstLine firstLine_append infix_append_cons_iff
  infix_append_iff_of_disjoint prefix_firstLine_iff)

/-- Marks of blocks are found in one text only where they are found in another. -/
def MarksFrom (u t : Text) : Prop := blockMark <:+: u → blockMark <:+: t

theorem MarksFrom.of_isInfix {u t : Text} (h : u <:+: t) : MarksFrom u t := fun hmark => hmark.trans h

theorem MarksFrom.trans {s t u : Text} (h : MarksFrom s t) (h' : MarksFrom t u) : MarksFrom s u :=
  h' ∘ h

theorem MarksFrom.append_cons {a b t : Text} {c : Char} (hc : c ∉ blockMark) (ha : MarksFrom a t)
    (hb : MarksFrom b t) : MarksFrom (a ++ c :: b) t := by
  intro h
  rcases (infix_append_cons_iff hc (by decide)).1 h with h | h
  · exact ha h
  · exact hb h

theorem MarksFrom.append_of_disjoint {a b t : Text} (ha : ∀ c ∈ a, c ∉ blockMark)
    (hb : MarksFrom b t) : MarksFrom (a ++ b) t := by
  intro h
  exact hb ((infix_append_iff_of_disjoint ha (by decide)).1 h)

/-- A mark in what begins at a line end is a mark on one side of the end. -/
theorem infix_append_atLineEnd {a w : Text} (hw : AtLineEnd w) (h : blockMark <:+: a ++ w) :
    blockMark <:+: a ∨ blockMark <:+: w := by
  cases w with
  | nil =>
    rw [List.append_nil] at h
    exact .inl h
  | cons c w =>
    obtain rfl := hw c rfl
    rcases (infix_append_cons_iff newline_notMem_blockMark (by decide)).1 h with h | h
    · exact .inl h
    · exact .inr (List.infix_cons h)

theorem TokenKind.endsLine_of_isContent {k : TokenKind} (h : k.isContent = true) :
    k.endsLine = false := by
  cases k <;> first | rfl | cases h

namespace Mode

/-! ## One move -/

/-- What ends a line is no content. -/
theorem endsLine_content (c : Char) (t : Text) : (content c t).1.endsLine = false :=
  TokenKind.endsLine_of_isContent (isContent_content c t)

/-- A character that is neither layout nor the end of a line begins a piece of content. -/
theorem moveBody_content {c : Char} (hblank : isBlank c = false) (hc : c ≠ '\n') (hr : c ≠ '\r')
    (t : Text) :
    moveBody false c t = .ok ⟨some (content c t).1, (content c t).2, .body false⟩ := by
  unfold moveBody
  rw [hblank, if_neg Bool.false_ne_true, newline?_of_ne hc hr, if_neg Bool.false_ne_true]

/-- Behind content nothing is skipped. -/
theorem moveBody_ne_skip {c : Char} {t : Text} {n : Nat} (m : Mode) :
    moveBody false c t ≠ .ok ⟨none, n, m⟩ := by
  intro h
  rcases moveBody_cases h with ⟨-, hm⟩ | ⟨-, _, -, hm⟩ | ⟨hfresh, -⟩ | ⟨-, -, -, hm⟩
  · cases hm
  · cases hm
  · cases hfresh
  · cases hm

/-- At the beginning of the content a piece is cut as anywhere else, unless it is a blank or a
keyword. -/
theorem moveBody_fresh {c : Char} {t : Text} (hblank : isBlank c = false)
    (hkeyword : keywordMove? (c :: t) = none) : moveBody true c t = moveBody false c t := by
  unfold moveBody
  rw [hblank, if_neg Bool.false_ne_true, if_neg Bool.false_ne_true, if_pos rfl, hkeyword,
    if_neg Bool.false_ne_true]

/-- A piece `c :: v` at the beginning of a line `c :: v ++ s` is cut again when the line is followed
by something else. -/
theorem moveBody_congr {c : Char} {v s w w' : Text} {k : TokenKind} {m : Mode}
    (h : moveBody false c (v ++ s ++ w) = .ok ⟨some k, v.length, m⟩) (hk : k ≠ .newline)
    (hr : c ≠ '\r') (hw : AtLineEnd w) (hw' : AtLineEnd w') (hmarks : MarksFrom w' w) :
    moveBody false c (v ++ s ++ w') = .ok ⟨some k, v.length, m⟩ := by
  have hline : firstLine (v ++ s ++ w') = firstLine (v ++ s ++ w) := by
    rw [firstLine_append hw', firstLine_append hw]
  rcases moveBody_cases h with ⟨hblank, hmove⟩ | ⟨-, _, -, hmove⟩ | ⟨hfresh, -⟩ |
    ⟨hblank, hnewline, -, hmove⟩
  · have hrun : run isBlank (v ++ s ++ w') = run isBlank (v ++ s ++ w) := by
      rw [← run_firstLine rfl, hline, run_firstLine rfl]
    rw [hmove, moveBody, if_pos hblank, hrun]
  · exact absurd (Option.some.inj (Move.mk.inj hmove).1) hk
  · cases hfresh
  · have hc := ne_newline_of_newline? hnewline
    have hcontent : content c (v ++ s ++ w') = content c (v ++ s ++ w) := by
      cases hblock : blockLength? (c :: (v ++ s ++ w)) with
      | some n =>
        -- a closed block is the piece itself
        have hkind : content c (v ++ s ++ w) = (.multiLine, n - 1) := by
          unfold content
          rw [hblock]
        rw [hkind] at hmove
        have hn : n = (c :: v).length := by
          have hlength := (Move.mk.inj hmove).2.1
          obtain ⟨rest, -, hfind⟩ := Option.bind_eq_some_iff.1 hblock
          obtain ⟨i, -, rfl⟩ := Option.map_eq_some_iff.1 hfind
          rw [List.length_cons]
          omega
        rw [List.append_assoc, ← List.cons_append, hn] at hblock
        have hblock' := blockLength?_append hblock (s ++ w')
        rw [List.cons_append, ← List.append_assoc, ← hn] at hblock'
        rw [hkind]
        unfold content
        rw [hblock']
      | none =>
        refine content_congr hline hblock ?_ hc
        rw [blockLength?_eq_none_iff] at hblock ⊢
        intro rest' hrest' hclosed
        -- the opening mark lies on the line itself
        have hbegins : blockMark <+: c :: (v ++ s) := by
          rw [← List.cons_append] at hrest'
          have : blockMark <+: firstLine (c :: (v ++ s) ++ w') :=
            (prefix_firstLine_iff newline_notMem_blockMark _).2 ⟨rest', hrest'.symm⟩
          rwa [firstLine_append hw', prefix_firstLine_iff newline_notMem_blockMark] at this
        obtain ⟨inner, hinner⟩ := hbegins
        have hsplit : ∀ u, c :: (v ++ s ++ u) = blockMark ++ (inner ++ u) := by
          intro u
          rw [← List.cons_append, ← hinner, List.append_assoc]
        rw [hsplit w', List.append_right_inj] at hrest'
        subst hrest'
        refine hblock (inner ++ w) (hsplit w) ?_
        rcases infix_append_atLineEnd hw' hclosed with h | h
        · exact h.trans (List.prefix_append inner w).isInfix
        · exact (hmarks h).trans (List.suffix_append inner w).isInfix
    rw [hmove, moveBody_content hblank hc hr, hcontent]

end Mode

namespace Cuts

open Mode

variable {t w : Text} {pieces : List Piece} {k : TokenKind} {v : Text}

/-! ## The rest of a line -/

theorem take_body (h : Cuts (.body false) t ((k, v) :: pieces)) (hk : k ≠ .finish) :
    ∃ c rest n, t = c :: rest ∧ v = c :: rest.take n ∧
      moveBody false c rest = .ok ⟨some k, n, k.modeBehind⟩ ∧
      Cuts k.modeBehind (rest.drop n) pieces := by
  cases h with
  | finish => exact absurd rfl hk
  | skip hmove _ => exact absurd hmove (moveBody_ne_skip _)
  | take hmove hrest =>
    obtain rfl := move_after hmove
    exact ⟨_, _, _, rfl, rfl, hmove, hrest⟩

/-- What ends a line stands at a line end. -/
theorem atLineEnd (h : Cuts (.body false) t ((k, v) :: pieces)) (hk : k.endsLine = true)
    (hr : '\r' ∉ t) : AtLineEnd t := by
  by_cases hfinish : k = .finish
  · subst hfinish
    cases h with
    | finish => exact atLineEnd_nil
    | skip hmove _ => exact absurd hmove (moveBody_ne_skip _)
    | take hmove _ => exact absurd rfl (move_ne_finish hmove)
  · obtain ⟨c, rest, n, rfl, -, hmove, -⟩ := h.take_body hfinish
    obtain rfl : k = .newline := by simpa [TokenKind.endsLine, hfinish] using hk
    rcases moveBody_cases hmove with ⟨-, hm⟩ | ⟨-, i, hnewline, -⟩ | ⟨hfresh, -⟩ | ⟨-, -, -, hm⟩
    · cases hm
    · by_cases hc : c = '\n'
      · rw [hc]
        exact atLineEnd_cons rest
      · rw [newline?_of_ne hc fun h => hr (h ▸ List.mem_cons_self)] at hnewline
        cases hnewline
    · cases hfresh
    · have hcontent := endsLine_content c rest
      rw [← Option.some.inj (Move.mk.inj hm).1] at hcontent
      cases hcontent

/-- In a body line, a piece that does not end the line and is no keyword leads to more content. -/
theorem modeBehind_body {c : Char} {rest : Text} {n : Nat}
    (h : moveBody false c rest = .ok ⟨some k, n, k.modeBehind⟩) (hk : k.endsLine = false) :
    k.modeBehind = .body false := by
  rcases moveBody_cases h with ⟨-, hm⟩ | ⟨-, _, -, hm⟩ | ⟨hfresh, -⟩ | ⟨-, -, -, hm⟩
  · exact (Move.mk.inj hm).2.2
  · cases hm
    cases hk
  · cases hfresh
  · exact (Move.mk.inj hm).2.2

/-- **The rest of a line is cut again** when it is followed by something else. -/
theorem recut {line : List Piece} (h : Cuts (.body false) t (line ++ (k, v) :: pieces))
    (hline : ∀ p ∈ line, p.1.endsLine = false) (hk : k.endsLine = true) (hr : '\r' ∉ t) :
    ∃ w, t = line.flatMap (·.2) ++ w ∧ Cuts (.body false) w ((k, v) :: pieces) ∧
      ∀ w' pieces', AtLineEnd w' → MarksFrom w' w → Cuts (.body false) w' pieces' →
        Cuts (.body false) (line.flatMap (·.2) ++ w') (line ++ pieces') := by
  induction line generalizing t with
  | nil => exact ⟨t, rfl, h, fun w' pieces' _ _ hw' => hw'⟩
  | cons p line ih =>
    obtain ⟨l, u⟩ := p
    have hl : l.endsLine = false := hline (l, u) List.mem_cons_self
    have hfinish : l ≠ .finish := by
      rintro rfl
      cases hl
    obtain ⟨c, rest, n, rfl, rfl, hmove, hrest⟩ := h.take_body hfinish
    have hbody := modeBehind_body hmove hl
    rw [hbody] at hmove hrest
    have hr' : '\r' ∉ rest.drop n := fun hmem => hr (List.mem_cons_of_mem c (List.mem_of_mem_drop hmem))
    obtain ⟨w, hw, hend, hrecut⟩ := ih hrest (fun p hp => hline p (List.mem_cons_of_mem _ hp)) hr'
    have hsplit : rest = rest.take n ++ line.flatMap (·.2) ++ w := by
      rw [List.append_assoc, ← hw, List.take_append_drop]
    refine ⟨w, by rw [List.flatMap_cons, List.cons_append, List.cons_append, ← hsplit], hend, ?_⟩
    intro w' pieces' hw' hmarks hcuts
    have hn : (rest.take n).length = n := by
      rw [List.length_take, Nat.min_eq_left (extra_le (m := .body false) hmove)]
    have hnewline : l ≠ .newline := by
      rintro rfl
      cases hl
    have hmove' : moveBody false c (rest.take n ++ line.flatMap (·.2) ++ w') =
        .ok ⟨some l, n, .body false⟩ := by
      have hmove₁ : moveBody false c (rest.take n ++ line.flatMap (·.2) ++ w) =
          .ok ⟨some l, (rest.take n).length, .body false⟩ := by rw [← hsplit, hn, hmove]
      have hmove₂ := moveBody_congr hmove₁ hnewline (fun h => hr (h ▸ List.mem_cons_self))
        (hend.atLineEnd hk fun hmem => hr' (hw ▸ List.mem_append_right _ hmem)) hw' hmarks
      rwa [hn] at hmove₂
    have htake : (rest.take n ++ line.flatMap (·.2) ++ w').take n = rest.take n := by
      rw [List.append_assoc, List.take_left' hn]
    have hdrop : (rest.take n ++ line.flatMap (·.2) ++ w').drop n = line.flatMap (·.2) ++ w' := by
      rw [List.append_assoc, List.drop_left' hn]
    have htaken := Cuts.take (m := .body false) hmove' (hdrop ▸ hrecut w' pieces' hw' hmarks hcuts)
    rwa [htake] at htaken

/-! ## Whole lines -/

theorem freshen {c : Char} (h : Cuts (.body false) (c :: t) pieces) (hblank : isBlank c = false)
    (hkeyword : keywordMove? (c :: t) = none) : Cuts (.body true) (c :: t) pieces := by
  have hmove := moveBody_fresh hblank hkeyword
  cases h with
  | skip hm hrest => exact .skip (hmove.trans hm) hrest
  | take hm hrest => exact .take (hmove.trans hm) hrest

theorem keywordMove?_newline (t : Text) : keywordMove? ('\n' :: t) = none := by
  rw [← keywordMove?_firstLine]
  rfl

theorem freshen_atLineEnd (h : Cuts (.body false) w pieces) (hw : AtLineEnd w) :
    Cuts (.body true) w pieces := by
  cases w with
  | nil =>
    cases h
    exact .finish _
  | cons c w =>
    obtain rfl := hw c rfl
    exact h.freshen rfl (keywordMove?_newline w)

/-- A single blank in front of the content is layout. -/
theorem blank (h : Cuts (.body true) t pieces) (ht : ∀ c ∈ t.head?, isBlank c = false) :
    Cuts (.body true) (' ' :: t) pieces := by
  have hrun : run isBlank t = 0 := by
    cases t with
    | nil => rfl
    | cons c t => rw [run, List.takeWhile_cons_of_neg (by simp [ht c rfl])]; rfl
  have hmove : moveBody true ' ' t = .ok ⟨none, 0, .body true⟩ := by
    rw [moveBody, if_pos rfl, hrun]
    rfl
  exact .skip (m := .body true) hmove h

theorem newline {u : Text} (h : Cuts .between u pieces) :
    Cuts (.body false) ('\n' :: u) ((.newline, ['\n']) :: pieces) :=
  .take (n := 0) rfl h

/-- The end of a line behind nothing but layout. -/
theorem lineEnd (h : Cuts (.body true) t ((k, v) :: pieces)) (hk : k.endsLine = true) :
    ∃ layout w, t = layout ++ w ∧ Cuts (.body false) w ((k, v) :: pieces) := by
  by_cases hfinish : k = .finish
  · subst hfinish
    obtain ⟨rfl, rfl⟩ := h.finish_only
    exact ⟨t, [], (List.append_nil t).symm, .finish _⟩
  · obtain ⟨layout, c, rest, n, rfl, rfl, hmove, hrest⟩ := h.taken hfinish
    refine ⟨layout, c :: rest, rfl, .take ?_ hrest⟩
    rcases moveBody_cases hmove with ⟨-, hm⟩ | ⟨hblank, i, hnewline, hm⟩ | ⟨-, k', _, -, hm⟩ |
      ⟨-, -, -, hm⟩
    · cases hm
    · rw [hm, Mode.move, moveBody, hblank, if_neg Bool.false_ne_true, hnewline]
    · cases hm
      cases hk
    · have hcontent := endsLine_content c rest
      rw [← Option.some.inj (Move.mk.inj hm).1, hk] at hcontent
      cases hcontent

/-- **A line is cut again** when it is followed by something else. -/
theorem recut_line {line : List Piece} (h : Cuts (.body true) t (line ++ (k, v) :: pieces))
    (hline : ∀ p ∈ line, p.1.endsLine = false) (hhead : ∀ p ∈ line.head?, p.1.isKeyword = false)
    (hk : k.endsLine = true) (hr : '\r' ∉ t) :
    ∃ layout w, t = layout ++ line.flatMap (·.2) ++ w ∧ Cuts (.body false) w ((k, v) :: pieces) ∧
      ∀ w' pieces', AtLineEnd w' → MarksFrom w' w → Cuts (.body false) w' pieces' →
        Cuts (.body true) (' ' :: (line.flatMap (·.2) ++ w')) (line ++ pieces') := by
  cases line with
  | nil =>
    obtain ⟨layout, w, rfl, hend⟩ := h.lineEnd hk
    refine ⟨layout, w, by rw [List.flatMap_nil, List.append_nil], hend, ?_⟩
    intro w' pieces' hw' _ hcuts'
    refine (hcuts'.freshen_atLineEnd hw').blank ?_
    intro c hc
    rw [hw' c hc]
    rfl
  | cons p line =>
    obtain ⟨l, u⟩ := p
    have hl : l.endsLine = false := hline (l, u) List.mem_cons_self
    have hfinish : l ≠ .finish := by
      rintro rfl
      cases hl
    obtain ⟨layout, c, rest, n, rfl, rfl, hmove, hrest⟩ := h.taken hfinish
    rw [Mode.move] at hmove
    obtain ⟨hblank, hkeyword, hmove⟩ : isBlank c = false ∧ keywordMove? (c :: rest) = none ∧
        moveBody false c rest = .ok ⟨some l, n, l.modeBehind⟩ := by
      rcases moveBody_cases hmove with ⟨-, hm⟩ | ⟨-, _, -, hm⟩ | ⟨-, k', _, -, hm⟩ |
        ⟨hblank, -, hkeyword, -⟩
      · cases hm
      · cases hm
        cases hl
      · cases hm
        cases hhead _ rfl
      · exact ⟨hblank, hkeyword rfl, moveBody_fresh hblank (hkeyword rfl) ▸ hmove⟩
    have hcuts : Cuts (.body false) (c :: rest) ((l, c :: rest.take n) :: line ++ (k, v) :: pieces) :=
      .take (m := .body false) hmove hrest
    have hr' : '\r' ∉ c :: rest := fun hmem => hr (List.mem_append_right layout hmem)
    obtain ⟨w, hw, hend, hrecut⟩ := hcuts.recut hline hk hr'
    refine ⟨layout, w, by rw [List.append_assoc, hw], hend, ?_⟩
    intro w' pieces' hw' hmarks hcuts'
    have hagain := hrecut w' pieces' hw' hmarks hcuts'
    have hwend := hend.atLineEnd hk fun hmem => hr' (hw ▸ List.mem_append_right _ hmem)
    have hkeyword' : keywordMove? (((l, c :: rest.take n) :: line).flatMap (·.2) ++ w') = none := by
      rw [← keywordMove?_firstLine, firstLine_append hw', ← firstLine_append hwend, ← hw,
        keywordMove?_firstLine, hkeyword]
    refine (hagain.freshen hblank hkeyword').blank ?_
    intro d hd
    cases hd
    exact hblank

end Cuts

end Phrasebook
