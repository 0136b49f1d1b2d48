import Phrasebook.Proofs.Document.Moves
import Phrasebook.Text.Pieces
import Mathlib.Data.List.Infix

/-!
# Returns in front of line feeds

A document whose lines end in a return and a line feed is cut like the document whose lines end in
the line feed alone: the same kinds at the same places, or the same fault.  A return counts as a
column, but the line feed behind it begins the next line before any other token is placed.

* `ReturnsPaired`: every return stands in front of a line feed;
* `withoutReturns`: what is left when such returns are taken away;
* `Mode.move_withoutReturns`: one move;
* `Token.scan_replace_returns`: a whole document.
-/

namespace Phrasebook

open Scan

/-- Does a line feed follow every return? -/
def ReturnsPaired (t : Text) : Prop := ∀ after, '\r' :: after <:+ t → after.head? = some '\n'

instance : DecidablePred ReturnsPaired := fun t =>
  decidable_of_iff (∀ u ∈ t.tails, u.head? = some '\r' → u.tail.head? = some '\n') <| by
    constructor
    · intro h after hafter
      exact h _ ((List.mem_tails _ _).2 hafter) rfl
    · intro h u hu hhead
      obtain ⟨after, rfl⟩ := List.head?_eq_some_iff.1 hhead
      exact h after ((List.mem_tails _ _).1 hu)

/-- A text without its returns. -/
def withoutReturns (t : Text) : Text := t.filter (· ≠ '\r')

/-! ## Texts with returns -/

section

variable {t u w : Text} {c : Char}

@[simp] theorem withoutReturns_nil : withoutReturns [] = [] := rfl

@[simp] theorem withoutReturns_return (t : Text) :
    withoutReturns ('\r' :: t) = withoutReturns t := rfl

theorem withoutReturns_cons (hc : c ≠ '\r') (t : Text) :
    withoutReturns (c :: t) = c :: withoutReturns t :=
  List.filter_cons_of_pos (decide_eq_true hc)

@[simp] theorem withoutReturns_append (t u : Text) :
    withoutReturns (t ++ u) = withoutReturns t ++ withoutReturns u :=
  List.filter_append t u

theorem withoutReturns_of_notMem (h : '\r' ∉ t) : withoutReturns t = t :=
  List.filter_eq_self.2 fun _ hc => decide_eq_true (ne_of_mem_of_not_mem hc h)

theorem notMem_withoutReturns (t : Text) : '\r' ∉ withoutReturns t := by
  simp [withoutReturns]

theorem returnsPaired_of_notMem (h : '\r' ∉ t) : ReturnsPaired t :=
  fun _ hafter => absurd (hafter.subset List.mem_cons_self) h

theorem ReturnsPaired.of_suffix (h : ReturnsPaired t) (hu : u <:+ t) : ReturnsPaired u :=
  fun after hafter => h after (hafter.trans hu)

theorem ReturnsPaired.tail (h : ReturnsPaired (c :: t)) : ReturnsPaired t :=
  h.of_suffix (List.suffix_cons c t)

theorem ReturnsPaired.exists_newline (h : ReturnsPaired ('\r' :: t)) : ∃ u, t = '\n' :: u :=
  List.head?_eq_some_iff.1 (h t List.suffix_rfl)

theorem ReturnsPaired.cons (h : ReturnsPaired t) (hc : c ≠ '\r') : ReturnsPaired (c :: t) := by
  intro after hafter
  rcases List.suffix_cons_iff.1 hafter with heq | hafter
  · exact absurd (List.cons.inj heq).1.symm hc
  · exact h after hafter

/-- A beginning that ends in no return has its returns in front of line feeds of its own. -/
theorem ReturnsPaired.of_append (h : ReturnsPaired (u ++ w)) (hu : u.getLast? ≠ some '\r') :
    ReturnsPaired u := by
  rintro after ⟨before, rfl⟩
  cases after with
  | nil => simp at hu
  | cons d after =>
    have hhead := h (d :: after ++ w) ⟨before, by simp⟩
    exact hhead

/-- Induction on a text whose returns stand in front of line feeds. -/
theorem ReturnsPaired.induction {P : Text → Prop} (nil : P [])
    (pair : ∀ t, P t → P ('\r' :: '\n' :: t))
    (cons : ∀ c t, c ≠ '\r' → ReturnsPaired (c :: t) → P t → P (c :: t)) :
    ∀ t, ReturnsPaired t → P t
  | [], _ => nil
  | c :: t, h => by
    by_cases hc : c = '\r'
    · subst hc
      obtain ⟨u, rfl⟩ := h.exists_newline
      exact pair u (ReturnsPaired.induction nil pair cons u h.tail.tail)
    · exact cons c t hc h (ReturnsPaired.induction nil pair cons t h.tail)

theorem join_ne_nil (sep piece : Text) {pieces : List Text} (h : pieces ≠ []) :
    Text.join sep (piece :: pieces) = piece ++ sep ++ Text.join sep pieces := by
  cases pieces with
  | nil => exact absurd rfl h
  | cons next rest => rw [Text.join]

/-- A return and a line feed are replaced by the line feed by leaving the return out. -/
theorem replace_returns (h : ReturnsPaired t) :
    Text.replace "\r\n" "\n" none t = withoutReturns t := by
  have hne : ∀ (piece : Text) (u : Text), Text.splitFrom ['\r', '\n'] none piece 0 u ≠ [] := by
    intro piece u
    induction u generalizing piece with
    | nil => simp [Text.splitFrom]
    | cons d u ih =>
      rw [Text.splitFrom]
      split
      · contradiction
      · split
        · exact List.cons_ne_nil _ _
        · exact ih _
  have hsplit : ∀ piece : Text, Text.join ['\n'] (Text.splitFrom ['\r', '\n'] none piece 0 t) =
      piece.reverse ++ withoutReturns t := by
    refine ReturnsPaired.induction (P := fun t => ∀ piece : Text,
      Text.join ['\n'] (Text.splitFrom ['\r', '\n'] none piece 0 t) =
        piece.reverse ++ withoutReturns t) ?_ ?_ ?_ t h
    · intro piece
      simp [Text.splitFrom, Text.join]
    · intro t ih piece
      have hcut : Text.splitFrom ['\r', '\n'] none piece 0 ('\r' :: '\n' :: t) =
          piece.reverse :: Text.splitFrom ['\r', '\n'] none [] 0 t := by
        simp [Text.splitFrom, Text.oneFewer]
      rw [hcut, join_ne_nil _ _ (hne [] t), ih, withoutReturns_return,
        withoutReturns_cons (by decide)]
      simp
    · intro c t hc _ ih piece
      have hstep : Text.splitFrom ['\r', '\n'] none piece 0 (c :: t) =
          Text.splitFrom ['\r', '\n'] none (c :: piece) 0 t := by
        simp [Text.splitFrom, hc.symm]
      rw [hstep, ih, withoutReturns_cons hc]
      simp
  have hreplace : Text.replace "\r\n" "\n" none t =
      Text.join ['\n'] (Text.splitFrom ['\r', '\n'] none [] 0 t) := rfl
  rw [hreplace, hsplit, List.reverse_nil, List.nil_append]

theorem after_withoutReturns (h : ReturnsPaired t) (p : Position) :
    p.after (withoutReturns t) = p.after t := by
  refine ReturnsPaired.induction (P := fun t => ∀ p : Position, p.after (withoutReturns t) = p.after t)
    ?_ ?_ ?_ t h p
  · intro p
    rfl
  · intro t ih p
    exact ih (p.next '\n')
  · intro c t hc _ ih p
    rw [withoutReturns_cons hc]
    exact ih (p.next c)

end

/-! ## Lines and blocks -/

/-- The text up to the first character that ends a line. -/
def lineOf (t : Text) : Text := t.takeWhile (!isLineEnd ·)

section

variable {t : Text} {c : Char}

theorem keepsLine_not_isLineEnd : KeepsLine (!isLineEnd ·) := by
  intro c hc
  simp [hc]

theorem lineOf_cons (hc : isLineEnd c = false) (t : Text) : lineOf (c :: t) = c :: lineOf t :=
  List.takeWhile_cons_of_pos (by simp [hc])

theorem lineOf_lineEnd (hc : isLineEnd c = true) (t : Text) : lineOf (c :: t) = [] :=
  List.takeWhile_cons_of_neg (by simp [hc])

theorem notMem_lineOf (t : Text) : '\r' ∉ lineOf t := by
  intro h
  have hall : (lineOf t).all (!isLineEnd ·) = true := List.all_takeWhile
  cases List.all_eq_true.1 hall _ h

theorem lineOf_withoutReturns (h : ReturnsPaired t) : lineOf (withoutReturns t) = lineOf t := by
  refine ReturnsPaired.induction (P := fun t => lineOf (withoutReturns t) = lineOf t) rfl
    (fun _ _ => rfl) ?_ t h
  intro c t hc _ ih
  rw [withoutReturns_cons hc]
  cases hend : isLineEnd c with
  | true => rw [lineOf_lineEnd hend, lineOf_lineEnd hend]
  | false => rw [lineOf_cons hend, lineOf_cons hend, ih]

/-- A backslash in front of a return takes the return with it, but then a line feed follows. -/
theorem expressionRest_lineOf (t : Text) (h : ReturnsPaired t) :
    expressionRest (lineOf t) = expressionRest t := by
  match t with
  | [] => rfl
  | c :: t =>
    cases hend : isLineEnd c with
    | true =>
      rw [lineOf_lineEnd hend]
      rcases isLineEnd_iff.1 hend with rfl | rfl <;> rfl
    | false =>
      rw [lineOf_cons hend]
      by_cases hclose : c = '\x7d'
      · rw [hclose, expressionRest_close, expressionRest_close]
      · by_cases hescape : c = '\\'
        · subst hescape
          cases t with
          | nil => rfl
          | cons d t =>
            cases hd : isLineEnd d with
            | true =>
              have hnone : expressionRest (lineOf (d :: t)) = none := by rw [lineOf_lineEnd hd]; rfl
              rw [lineOf_lineEnd hd]
              rcases isLineEnd_iff.1 hd with rfl | rfl
              · obtain ⟨u, rfl⟩ := h.tail.exists_newline
                rfl
              · rfl
            | false =>
              rw [lineOf_cons hd, expressionRest_escape, expressionRest_escape,
                expressionRest_lineOf t h.tail.tail]
        · rw [expressionRest_cons hclose hescape, expressionRest_cons hclose hescape,
            expressionRest_lineOf t h.tail]
termination_by t.length

theorem after?_withoutReturns (h : ReturnsPaired t) :
    Text.after? blockMark (withoutReturns t) = (Text.after? blockMark t).map withoutReturns := by
  have hmark : withoutReturns blockMark = blockMark := rfl
  have hline : ∀ d ∈ blockMark, (!isLineEnd d) = true := fun d hd => by
    rw [isLineEnd_of_mem_blockMark d hd, Bool.not_false]
  cases hafter : Text.after? blockMark t with
  | some rest =>
    rw [Text.after?_eq_some_iff] at hafter
    rw [Option.map_some, Text.after?_eq_some_iff, hafter, withoutReturns_append, hmark]
  | none =>
    rw [Text.after?_eq_none_iff] at hafter
    rw [Option.map_none, Text.after?_eq_none_iff, ← Text.prefix_takeWhile_iff hline]
    have hsame := lineOf_withoutReturns h
    rw [lineOf] at hsame
    rw [hsame, lineOf, Text.prefix_takeWhile_iff hline]
    exact hafter

theorem cut?_withoutReturns (h : ReturnsPaired t) :
    Text.cut? blockMark (withoutReturns t) =
      (Text.cut? blockMark t).map fun (before, rest) => (withoutReturns before, withoutReturns rest) := by
  have hcons : ∀ (d : Char) (u : Text), d ∉ blockMark →
      Text.cut? blockMark (d :: u) = (Text.cut? blockMark u).map fun (b, r) => (d :: b, r) := by
    intro d u hd
    have hafter : Text.after? blockMark (d :: u) = none := by
      rw [Text.after?_eq_none_iff]
      rintro ⟨rest, hrest⟩
      exact hd ((List.cons.inj hrest).1 ▸ List.mem_cons_self)
    rw [Text.cut?, hafter]
  refine ReturnsPaired.induction (P := fun t => Text.cut? blockMark (withoutReturns t) =
    (Text.cut? blockMark t).map fun (b, r) => (withoutReturns b, withoutReturns r)) rfl ?_ ?_ t h
  · intro t ih
    rw [withoutReturns_return, withoutReturns_cons (by decide), hcons '\n' _ (by decide), ih,
      hcons '\r' _ (by decide), hcons '\n' _ (by decide)]
    cases Text.cut? blockMark t <;> rfl
  · intro c t hc hpaired ih
    have hafter := after?_withoutReturns hpaired
    rw [withoutReturns_cons hc] at hafter ⊢
    rw [Text.cut?, hafter, ih, Text.cut?]
    cases Text.after? blockMark (c :: t) with
    | some rest => rfl
    | none =>
      cases Text.cut? blockMark t with
      | none => rfl
      | some found => simp [withoutReturns_cons hc]

/-- Returns in a block and behind it do not move its closing mark. -/
theorem blockLength?_withoutReturns_some {n : Nat} (h : ReturnsPaired t)
    (hblock : blockLength? t = some n) :
    blockLength? (withoutReturns t) = some (withoutReturns (t.take n)).length := by
  obtain ⟨inner, after, rfl, hcut, rfl⟩ := blockLength?_eq_some_iff.1 hblock
  have hmark : withoutReturns blockMark = blockMark := rfl
  have hrest : ReturnsPaired (inner ++ blockMark ++ after) := h.of_suffix (List.suffix_append _ _)
  have hcut' := cut?_withoutReturns hrest
  rw [hcut] at hcut'
  rw [blockLength?_eq_some_iff]
  refine ⟨withoutReturns inner, withoutReturns after, by simp [hmark], by simpa [hmark] using hcut', ?_⟩
  have htake : (blockMark ++ (inner ++ blockMark ++ after)).take (inner.length + 6) =
      blockMark ++ inner ++ blockMark := by
    rw [← List.append_assoc, ← List.append_assoc, List.take_left' (by simp [blockMark])]
  rw [htake, withoutReturns_append, withoutReturns_append, hmark]
  simp [blockMark]

theorem blockLength?_withoutReturns_none (h : ReturnsPaired t) (hblock : blockLength? t = none) :
    blockLength? (withoutReturns t) = none := by
  rw [blockLength?_eq_none_iff] at hblock ⊢
  intro rest hrest
  have hafter := after?_withoutReturns h
  rw [Text.after?_eq_some_iff.2 hrest] at hafter
  obtain ⟨rest', hrest', rfl⟩ := Option.map_eq_some_iff.1 hafter.symm
  rw [Text.after?_eq_some_iff] at hrest'
  have hpaired : ReturnsPaired rest' := h.of_suffix ⟨blockMark, hrest'.symm⟩
  rw [← Text.cut?_eq_none_iff, cut?_withoutReturns hpaired, Option.map_eq_none_iff,
    Text.cut?_eq_none_iff]
  exact hblock rest' hrest'

end

namespace Mode

/-! ## Moves -/

variable {m : Mode} {t : Text} {c : Char} {move : Move}

theorem alike_withoutReturns (h : ReturnsPaired t) (hc : isLineEnd c = false)
    (hblock : blockLength? (c :: t) = none) : Alike c t (withoutReturns t) := by
  have hfeed : c ≠ '\n' := fun h => by simp [h, isLineEnd] at hc
  have hreturn : c ≠ '\r' := fun h => by simp [h, isLineEnd] at hc
  have hkeep : (!isLineEnd c) = true := by simp [hc]
  have hblock' : blockLength? (c :: withoutReturns t) = none := by
    rw [← withoutReturns_cons hreturn, blockLength?_withoutReturns_none (h.cons hreturn) hblock]
  have hleft := alike_takeWhile keepsLine_not_isLineEnd hkeep (expressionRest_lineOf t h)
    (newline?_of_ne hfeed hreturn t) hblock
  have hright := alike_takeWhile keepsLine_not_isLineEnd hkeep
    (expressionRest_lineOf _ (returnsPaired_of_notMem (notMem_withoutReturns t)))
    (newline?_of_ne hfeed hreturn _) hblock'
  have hsame : (withoutReturns t).takeWhile (!isLineEnd ·) = t.takeWhile (!isLineEnd ·) :=
    lineOf_withoutReturns h
  rw [hsame] at hright
  exact hleft.trans hright.symm

/-- A move that takes no block takes the rest of its line at most. -/
theorem notMem_take_move (h : ReturnsPaired t) (hc : c ≠ '\r') (hblock : blockLength? (c :: t) = none)
    (hmove : m.move c t = .ok move) : '\r' ∉ t.take move.extra := by
  by_cases hfeed : c = '\n'
  · subst hfeed
    rw [move_feed] at hmove
    cases hmove
    cases m <;> simp [endMove]
  · have hkeep : (!isLineEnd c) = true := by simp [isLineEnd, hc, hfeed]
    have hline : t.take move.extra <+: lineOf t :=
      take_move_prefix keepsLine_not_isLineEnd hkeep (expressionRest_lineOf t h)
        (newline?_of_ne hfeed hc t) hblock hmove
    exact fun hmem => notMem_lineOf t (hline.subset hmem)

/-- No move ends between a return and its line feed. -/
theorem paired_take_move (h : ReturnsPaired t) (hc : c ≠ '\r') (hmove : m.move c t = .ok move) :
    ReturnsPaired (c :: t.take move.extra) := by
  cases hblock : blockLength? (c :: t) with
  | none => exact (returnsPaired_of_notMem (notMem_take_move h hc hblock hmove)).cons hc
  | some n =>
    rw [move_block hblock] at hmove
    cases m with
    | between => cases hmove
    | declaration => cases hmove
    | body fresh =>
      cases hmove
      obtain ⟨inner, hinner⟩ := take_block hblock
      have hpaired : ReturnsPaired (c :: t.take (n - 1) ++ t.drop (n - 1)) := by
        rw [List.cons_append, List.take_append_drop]
        exact h.cons hc
      refine hpaired.of_append ?_
      rw [hinner, List.getLast?_append]
      simp [blockMark]

/-- Without the returns it is the same move, which takes what is left of the same characters. -/
theorem move_withoutReturns (h : ReturnsPaired t) (hc : c ≠ '\r') (m : Mode) :
    m.move c (withoutReturns t) = (m.move c t).map fun move =>
      { move with extra := (withoutReturns (t.take move.extra)).length } := by
  by_cases hfeed : c = '\n'
  · subst hfeed
    rw [move_feed, move_feed]
    cases m <;> rfl
  · have hend : isLineEnd c = false := by simp [isLineEnd, hc, hfeed]
    cases hblock : blockLength? (c :: t) with
    | none =>
      rw [move_congr (alike_withoutReturns h hend hblock)]
      cases hmove : m.move c t with
      | error cause => rfl
      | ok move =>
        have hnone := notMem_take_move h hc hblock hmove
        have hlength : (t.take move.extra).length = move.extra := by
          rw [List.length_take, Nat.min_eq_left (extra_le hmove)]
        rw [Except.map, withoutReturns_of_notMem hnone, hlength]
    | some n =>
      have hblock' := blockLength?_withoutReturns_some (h.cons hc) hblock
      rw [withoutReturns_cons hc] at hblock'
      have htake : (c :: t).take n = c :: t.take (n - 1) := by
        obtain ⟨inner, -, -, -, rfl⟩ := blockLength?_eq_some_iff.1 hblock
        rfl
      rw [htake, withoutReturns_cons hc, List.length_cons] at hblock'
      rw [move_block hblock, move_block hblock']
      cases m <;> rfl

end Mode

namespace Token

theorem withoutReturns_split (n : Nat) (t : Text) :
    withoutReturns t = withoutReturns (t.take n) ++ withoutReturns (t.drop n) := by
  rw [← withoutReturns_append, List.take_append_drop]

theorem take_withoutReturns (n : Nat) (t : Text) :
    (withoutReturns t).take (withoutReturns (t.take n)).length = withoutReturns (t.take n) := by
  rw [withoutReturns_split n t, List.take_left]

theorem drop_withoutReturns (n : Nat) (t : Text) :
    (withoutReturns t).drop (withoutReturns (t.take n)).length = withoutReturns (t.drop n) := by
  rw [withoutReturns_split n t, List.drop_left]

/-- The token without the returns in it. -/
def plainEnds (k : Token) : Token := { k with value := withoutReturns k.value }

theorem map_cons_plainEnds (found : Except ScanFault (List Token)) (k : Token) :
    (found.map (List.map plainEnds)).map (k.plainEnds :: ·) =
      (found.map (k :: ·)).map (List.map plainEnds) := by
  cases found <;> rfl

theorem scanFrom_withoutReturns (m : Mode) (p : Position) (t : Text) (h : ReturnsPaired t) :
    scanFrom m p (withoutReturns t) = (scanFrom m p t).map (List.map plainEnds) := by
  induction m, p, t using scanFrom_induction with
  | finish m p =>
    rw [withoutReturns_nil, scanFrom_nil]
    rfl
  | fault m p c t cause hmove =>
    have hc : c ≠ '\r' := by
      rintro rfl
      obtain ⟨u, rfl⟩ := h.exists_newline
      rw [Mode.move_return] at hmove
      cases hmove
    have hmove' := Mode.move_withoutReturns h.tail hc m
    rw [hmove] at hmove'
    rw [withoutReturns_cons hc, scanFrom_error hmove', scanFrom_error hmove]
    rfl
  | skip m p c t n hmove ih =>
    by_cases hc : c = '\r'
    · subst hc
      obtain ⟨u, rfl⟩ := h.exists_newline
      cases m with
      | between =>
        cases hmove
        -- the line feed behind the return is layout of its own, and ends the line either way
        have hfeed : ∀ q : Position, scanFrom .between q (withoutReturns ('\n' :: u)) =
            scanFrom .between ⟨q.line + 1, 1⟩ (withoutReturns u) := by
          intro q
          rw [withoutReturns_cons (by decide), scanFrom_skip (Mode.move_feed .between _)]
          rfl
        rw [scanFrom_skip (Mode.move_return .between u), withoutReturns_return, hfeed p]
        exact (hfeed (p.next '\r')).symm.trans (ih h.tail)
      | declaration => cases hmove
      | body fresh => cases hmove
    · have hpaired := Mode.paired_take_move h.tail hc hmove
      have hmove' := Mode.move_withoutReturns h.tail hc m
      have hafter := after_withoutReturns hpaired p
      rw [hmove] at hmove'
      rw [withoutReturns_cons hc] at hafter ⊢
      rw [scanFrom_skip hmove', scanFrom_skip hmove, take_withoutReturns, drop_withoutReturns, hafter]
      exact ih (h.tail.of_suffix (List.drop_suffix n t))
  | take m p c t n k hmove ih =>
    by_cases hc : c = '\r'
    · subst hc
      obtain ⟨u, rfl⟩ := h.exists_newline
      obtain ⟨rfl, rfl, hend⟩ : k = .newline ∧ n = 1 ∧ m.endMove 0 = ⟨some .newline, 0, .between⟩ := by
        cases m <;> cases hmove <;> exact ⟨rfl, rfl, rfl⟩
      have hmove' := Mode.move_feed m (withoutReturns u)
      have hih : scanFrom .between (p.after ['\n']) (withoutReturns u) =
          (scanFrom .between (p.after ['\r', '\n']) u).map (List.map plainEnds) := ih h.tail.tail
      rw [hend] at hmove'
      rw [withoutReturns_return, withoutReturns_cons (by decide), scanFrom_take hmove',
        scanFrom_take hmove, ← map_cons_plainEnds]
      exact congrArg (Except.map (⟨.newline, ['\n'], p⟩ :: ·)) hih
    · have hpaired := Mode.paired_take_move h.tail hc hmove
      have hmove' := Mode.move_withoutReturns h.tail hc m
      have hafter := after_withoutReturns hpaired p
      rw [hmove] at hmove'
      rw [withoutReturns_cons hc] at hafter ⊢
      rw [scanFrom_take hmove', scanFrom_take hmove, take_withoutReturns, drop_withoutReturns, hafter,
        ih (h.tail.of_suffix (List.drop_suffix n t)), ← map_cons_plainEnds, plainEnds,
        withoutReturns_cons hc]

/-! ## Documents -/

/-- In the value of a token, too, every return stands in front of a line feed, and only ends of
lines and blocks have any. -/
theorem value_paired {t : Text} (h : ReturnsPaired t) {tokens : List Token}
    (hscan : scan t = .ok tokens) {k : Token} (hk : k ∈ tokens) :
    ReturnsPaired k.value ∧ (k.kind ≠ .newline → k.kind ≠ .multiLine → '\r' ∉ k.value) := by
  have hcuts := cuts_of_scanFrom _ _ _ hscan
  rcases hcuts.exists_move k.piece (List.mem_map_of_mem hk) with
    hfinish | ⟨m, c, u, n, hsuffix, hmove, hvalue⟩
  · have hnil : k.value = [] := congrArg Prod.snd hfinish
    rw [hnil]
    exact ⟨returnsPaired_of_notMem List.not_mem_nil, fun _ _ => List.not_mem_nil⟩
  · obtain ⟨kind, value, position⟩ := k
    have hu := h.of_suffix hsuffix
    obtain rfl : value = c :: u.take n := hvalue
    dsimp only [piece] at hmove ⊢
    by_cases hc : c = '\r'
    · subst hc
      obtain ⟨w, rfl⟩ := hu.exists_newline
      rw [Mode.move_return] at hmove
      obtain ⟨rfl, rfl⟩ : n = 1 ∧ kind = .newline := by
        cases m <;> cases hmove <;> exact ⟨rfl, rfl⟩
      exact ⟨hu.of_append (w := w) (by simp), fun hne => absurd rfl hne⟩
    · refine ⟨Mode.paired_take_move hu.tail hc hmove, fun _ hblocked hmem => ?_⟩
      rcases List.mem_cons.1 hmem with heq | hmem
      · exact hc heq.symm
      · cases hblock : blockLength? (c :: u) with
        | none => exact Mode.notMem_take_move hu.tail hc hblock hmove hmem
        | some i =>
          rw [Mode.move_block hblock] at hmove
          cases m <;> cases hmove
          exact hblocked rfl

/-- **The ends of lines do not matter to the cutting.**  Where every return stands in front of a
line feed, replacing both by the line feed leaves the kinds and places of all tokens as they are, or
the fault; in their values the same is replaced, and only ends of lines and blocks have something to
replace. -/
theorem scan_replace_returns {t : Text} (h : ReturnsPaired t) :
    scan (Text.replace "\r\n" "\n" none t) = (scan t).map (List.map fun k =>
        { k with value := Text.replace "\r\n" "\n" none k.value }) ∧
      ∀ tokens, scan t = .ok tokens → ∀ k ∈ tokens, k.kind ≠ .newline → k.kind ≠ .multiLine →
        Text.replace "\r\n" "\n" none k.value = k.value := by
  constructor
  · rw [replace_returns h, scan, scanFrom_withoutReturns _ _ t h]
    cases hscan : scanFrom .between .start t with
    | error f => rw [scan, hscan]; rfl
    | ok tokens =>
      rw [scan, hscan]
      refine congrArg Except.ok (List.map_congr_left fun k hk => ?_)
      rw [replace_returns (value_paired h hscan hk).1, plainEnds]
  · intro tokens hscan k hk hnewline hblock
    obtain ⟨hpaired, hnone⟩ := value_paired h hscan hk
    rw [replace_returns hpaired, withoutReturns_of_notMem (hnone hnewline hblock)]

/-- An open brace and a backslash in front of the return, and a block over two lines. -/
theorem scan_replace_returns_block :
    ReturnsPaired "#a\r\n- \x7bb\\\r\n- ```c\r\nd```".toList ∧
      scan "#a\n- \x7bb\\\n- ```c\nd```".toList =
        (scan "#a\r\n- \x7bb\\\r\n- ```c\r\nd```".toList).map (List.map fun k =>
          { k with value := Text.replace "\r\n" "\n" none k.value }) ∧
      (scan "#a\n- \x7bb\\\n- ```c\nd```".toList).toOption.map (List.map (·.kind)) =
        some [.hash, .identifier, .newline, .dash, .separator, .text, .invalidEscape, .newline, .dash,
          .multiLine, .finish] := by
  have hpaired : ReturnsPaired "#a\r\n- \x7bb\\\r\n- ```c\r\nd```".toList := by decide +kernel
  have hreplace : Text.replace "\r\n" "\n" none "#a\r\n- \x7bb\\\r\n- ```c\r\nd```".toList =
      "#a\n- \x7bb\\\n- ```c\nd```".toList := by decide +kernel
  exact ⟨hpaired, hreplace ▸ (scan_replace_returns hpaired).1, by decide +kernel⟩

end Token

end Phrasebook
