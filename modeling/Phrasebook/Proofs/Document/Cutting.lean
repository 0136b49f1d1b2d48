import Phrasebook.Document.Scan
import Phrasebook.Proofs.Text.Occurrence

/-!
# How a document is cut

The places of tokens have no influence on the cutting.  What is left without them is a relation
between a mode, a text and the pieces that the text is cut into, one move at a time.

* `Cuts`: a text is cut into pieces from a mode on;
* `Token.scan_iff`: the pieces of a document are those of its tokens;
* `Mode.moveBetween_cases`, `Mode.moveDeclaration_cases`, `Mode.moveBody_cases`: what a move can
  be in each mode;
* `Mode.extra_le`: a move takes no more than there is;
* `Mode.move_after`: the kind of a token determines the mode behind it;
* `Cuts.taken`, `Cuts.after`: where a token is taken, and what follows tokens.
-/

namespace Phrasebook

/-- A token without its place. -/
abbrev Piece := TokenKind × Text

/-- The token without its place. -/
def Token.piece (t : Token) : Piece := (t.kind, t.value)

/-- A text is cut into pieces from a mode on. -/
inductive Cuts : Mode → Text → List Piece → Prop
  | finish (m : Mode) : Cuts m [] [(.finish, [])]
  | skip {m m' : Mode} {c : Char} {t : Text} {n : Nat} {pieces : List Piece} :
      m.move c t = .ok ⟨none, n, m'⟩ → Cuts m' (t.drop n) pieces → Cuts m (c :: t) pieces
  | take {m m' : Mode} {c : Char} {t : Text} {n : Nat} {k : TokenKind} {pieces : List Piece} :
      m.move c t = .ok ⟨some k, n, m'⟩ → Cuts m' (t.drop n) pieces →
        Cuts m (c :: t) ((k, c :: t.take n) :: pieces)

namespace TokenKind

/-- The mode behind a token of this kind. -/
def modeBehind : TokenKind → Mode
  | hash | identifier | dot | openParenthesis | closeParenthesis | comma => .declaration
  | dash | keyword _ => .body true
  | newline | finish => .between
  | blanks | multiLine | escape | invalidEscape | expression | reference | separator | text =>
    .body false

/-- Is the kind one of the pieces of content? -/
def isContent : TokenKind → Bool
  | multiLine | escape | invalidEscape | expression | reference | separator | text => true
  | _ => false

end TokenKind

namespace Scan

theorem isContent_content (c : Char) (t : Text) : (content c t).1.isContent = true := by
  unfold content
  split
  · rfl
  · split
    · split
      · rfl
      · split
        · rfl
        · split <;> rfl
    · dsimp only
      split
      · rename_i found hspan
        split at hspan
        · obtain ⟨n, -, rfl⟩ := Option.map_eq_some_iff.1 hspan
          rfl
        · split at hspan
          · obtain ⟨n, -, rfl⟩ := Option.map_eq_some_iff.1 hspan
            rfl
          · cases hspan
      · split <;> rfl

theorem content_brace (t : Text) : content '\x7b' t =
    ((expressionRest t).map fun n => (TokenKind.expression, n)).getD (.separator, 0) := by
  unfold content
  rw [show blockLength? ('\x7b' :: t) = none from rfl]
  cases expressionRest t <;> rfl

theorem content_bracket (t : Text) : content '[' t =
    ((referenceRest 1 t).map fun n => (TokenKind.reference, n)).getD (.separator, 0) := by
  unfold content
  rw [show blockLength? ('[' :: t) = none from rfl]
  cases referenceRest 1 t <;> rfl

section

variable {c : Char} {t : Text}

/-- No other characters begin expressions and references. -/
theorem content_other (hbrace : c ≠ '\x7b') (hbracket : c ≠ '[') (t : Text) :
    (content c t).1 ≠ .expression ∧ (content c t).1 ≠ .reference := by
  unfold content
  simp only [if_neg hbrace, if_neg hbracket]
  split
  · simp
  · split
    · split
      · simp
      · split
        · simp
        · split <;> simp
    · split <;> simp

theorem content_expression (h : (content c t).1 = .expression) :
    c = '\x7b' ∧ expressionRest t = some (content c t).2 := by
  by_cases hbrace : c = '\x7b'
  · subst hbrace
    rw [content_brace] at h ⊢
    cases hrest : expressionRest t with
    | none =>
      rw [hrest] at h
      cases h
    | some n => exact ⟨rfl, rfl⟩
  · by_cases hbracket : c = '['
    · subst hbracket
      rw [content_bracket] at h
      cases hrest : referenceRest 1 t <;> rw [hrest] at h <;> cases h
    · exact absurd h (content_other hbrace hbracket t).1

theorem content_reference (h : (content c t).1 = .reference) :
    c = '[' ∧ referenceRest 1 t = some (content c t).2 := by
  by_cases hbracket : c = '['
  · subst hbracket
    rw [content_bracket] at h ⊢
    cases hrest : referenceRest 1 t with
    | none =>
      rw [hrest] at h
      cases h
    | some n => exact ⟨rfl, rfl⟩
  · by_cases hbrace : c = '\x7b'
    · subst hbrace
      rw [content_brace] at h
      cases hrest : expressionRest t <;> rw [hrest] at h <;> cases h
    · exact absurd h (content_other hbrace hbracket t).2

end

/-! ## Lengths -/

theorem run_le (p : Char → Bool) (t : Text) : run p t ≤ t.length :=
  (List.takeWhile_prefix p).length_le

theorem textLength_le (t : Text) : textLength t ≤ t.length := by
  induction t with
  | nil => exact Nat.le_refl 0
  | cons c t ih =>
    rw [textLength, List.length_cons]
    split
    · exact Nat.zero_le _
    · exact Nat.succ_le_succ ih

theorem blockLength?_le {t : Text} {n : Nat} (h : blockLength? t = some n) : n ≤ t.length := by
  obtain ⟨rest, hafter, hfind⟩ := Option.bind_eq_some_iff.1 h
  obtain ⟨i, hi, rfl⟩ := Option.map_eq_some_iff.1 hfind
  have hmark : blockMark.length = 3 := rfl
  have := Text.length_of_find? hi
  rw [Text.after?_eq_some_iff.1 hafter, List.length_append]
  omega

theorem expressionRest_le {t : Text} {n : Nat} (h : expressionRest t = some n) : n ≤ t.length := by
  fun_induction expressionRest t generalizing n with
  | case1 => cases h
  | case2 t =>
    cases h
    exact Nat.succ_le_succ (Nat.zero_le _)
  | case3 t => cases h
  | case4 c t hc ih =>
    obtain ⟨i, hi, rfl⟩ := Option.map_eq_some_iff.1 h
    exact Nat.add_le_add_right (ih hi) 2
  | case5 c t _ _ hc => cases h
  | case6 c t _ _ hc ih =>
    obtain ⟨i, hi, rfl⟩ := Option.map_eq_some_iff.1 h
    exact Nat.add_le_add_right (ih hi) 1

theorem referenceRest_le {depth : Nat} {t : Text} {n : Nat} (h : referenceRest depth t = some n) :
    n ≤ t.length := by
  induction t generalizing depth n with
  | nil => cases h
  | cons c t ih =>
    rw [referenceRest] at h
    rw [List.length_cons]
    split at h
    · cases h
    · split at h
      · obtain ⟨i, hi, rfl⟩ := Option.map_eq_some_iff.1 h
        exact Nat.succ_le_succ (ih hi)
      · split at h
        · split at h
          · cases h
            exact Nat.succ_le_succ (Nat.zero_le _)
          · obtain ⟨i, hi, rfl⟩ := Option.map_eq_some_iff.1 h
            exact Nat.succ_le_succ (ih hi)
        · obtain ⟨i, hi, rfl⟩ := Option.map_eq_some_iff.1 h
          exact Nat.succ_le_succ (ih hi)

theorem content_le (c : Char) (t : Text) : (content c t).2 ≤ t.length := by
  unfold content
  cases hblock : blockLength? (c :: t) with
  | some n =>
    have := blockLength?_le hblock
    rw [List.length_cons] at this
    dsimp only
    omega
  | none =>
    dsimp only
    by_cases hescape : c = '\\'
    · rw [if_pos hescape]
      cases t with
      | nil => exact Nat.le_refl 0
      | cons d t =>
        dsimp only
        split
        · exact Nat.succ_le_succ (Nat.zero_le _)
        · split
          · exact Nat.zero_le _
          · exact Nat.succ_le_succ (Nat.zero_le _)
    · rw [if_neg hescape]
      split
      · rename_i found hspan
        split at hspan
        · obtain ⟨n, hn, rfl⟩ := Option.map_eq_some_iff.1 hspan
          exact expressionRest_le hn
        · split at hspan
          · obtain ⟨n, hn, rfl⟩ := Option.map_eq_some_iff.1 hspan
            exact referenceRest_le hn
          · cases hspan
      · split
        · exact Nat.zero_le _
        · have := textLength_le (c :: t)
          rw [List.length_cons] at this
          dsimp only
          omega

theorem wordLength?_le {word t : Text} {n : Nat} (h : wordLength? word t = some n) : n ≤ t.length := by
  unfold wordLength? at h
  by_cases hbegins : beginsWith word t = true
  · rw [if_pos hbegins] at h
    dsimp only at h
    split at h
    · rename_i hcolon
      cases h
      by_cases hlt : word.length + run isBlank (t.drop word.length) < t.length
      · exact hlt
      · rw [List.drop_eq_nil_of_le (by omega)] at hcolon
        cases hcolon
    · cases h
  · rw [if_neg hbegins] at h
    cases h

theorem keyword?_le {t letters : Text} {n : Nat} (h : keyword? t = some (letters, n)) :
    n ≤ t.length := by
  obtain ⟨⟨word, k⟩, -, hword⟩ := List.exists_of_findSome?_eq_some h
  obtain ⟨i, hi, heq⟩ := Option.map_eq_some_iff.1 hword
  cases heq
  exact wordLength?_le hi

end Scan

namespace Mode

open Scan

variable {c : Char} {t : Text} {move : Move}

/-! ## What a move can be -/

theorem moveBetween_cases (h : moveBetween c t = .ok move) :
    ((isBlank c || isLineEnd c) = true ∧ move = ⟨none, 0, between⟩) ∨
      ((c = '>' ∨ c = '$') ∧ move = ⟨none, run (!isLineEnd ·) t, between⟩) ∨
      (c = '#' ∧ move = ⟨some .hash, 0, declaration⟩) ∨
      (c = '-' ∧ move = ⟨some .dash, 0, body true⟩) := by
  unfold moveBetween at h
  by_cases hblank : (isBlank c || isLineEnd c) = true
  · rw [if_pos hblank] at h
    cases h
    exact .inl ⟨hblank, rfl⟩
  · rw [if_neg hblank] at h
    by_cases hcomment : c = '>' ∨ c = '$'
    · rw [if_pos hcomment] at h
      cases h
      exact .inr (.inl ⟨hcomment, rfl⟩)
    · rw [if_neg hcomment] at h
      by_cases hhash : c = '#'
      · rw [if_pos hhash] at h
        cases h
        exact .inr (.inr (.inl ⟨hhash, rfl⟩))
      · rw [if_neg hhash] at h
        by_cases hdash : c = '-'
        · rw [if_pos hdash] at h
          cases h
          exact .inr (.inr (.inr ⟨hdash, rfl⟩))
        · rw [if_neg hdash] at h
          cases h

theorem moveDeclaration_cases (h : moveDeclaration c t = .ok move) :
    (∃ n, newline? (c :: t) = some n ∧ move = ⟨some .newline, n - 1, between⟩) ∨
      (newline? (c :: t) = none ∧ (isBlank c ∨ c = '\r') ∧ move = ⟨none, 0, declaration⟩) ∨
      (∃ kind, punctuation? c = some kind ∧ move = ⟨some kind, 0, declaration⟩) ∨
      (Text.isWord c = true ∧
        move = ⟨some .identifier, run (fun d => Text.isWord d || d == '-') t, declaration⟩) := by
  unfold moveDeclaration at h
  cases hnewline : newline? (c :: t) with
  | some n =>
    rw [hnewline] at h
    cases h
    exact .inl ⟨n, rfl, rfl⟩
  | none =>
    rw [hnewline] at h
    dsimp only at h
    by_cases hblank : isBlank c ∨ c = '\r'
    · rw [if_pos hblank] at h
      cases h
      exact .inr (.inl ⟨rfl, hblank, rfl⟩)
    · rw [if_neg hblank] at h
      cases hkind : punctuation? c with
      | some kind =>
        rw [hkind] at h
        cases h
        exact .inr (.inr (.inl ⟨kind, rfl, rfl⟩))
      | none =>
        rw [hkind] at h
        dsimp only at h
        by_cases hsemicolon : c = ';'
        · rw [if_pos hsemicolon] at h
          cases h
        · rw [if_neg hsemicolon] at h
          by_cases hword : Text.isWord c = true
          · rw [if_pos hword] at h
            cases h
            exact .inr (.inr (.inr ⟨hword, rfl⟩))
          · rw [if_neg hword] at h
            cases h

theorem keywordMove?_ok (h : keywordMove? (c :: t) = some (.ok move)) :
    ∃ k n, n ≤ t.length ∧ move = ⟨some (.keyword k), n, body true⟩ := by
  unfold keywordMove? at h
  split at h
  · cases h
  · rename_i letters n hkeyword
    by_cases hlonger : n < textLength (c :: t)
    · rw [if_pos hlonger] at h
      cases h
    · rw [if_neg hlonger] at h
      cases hexact : exactKeyword? letters with
      | none =>
        rw [hexact] at h
        cases h
      | some k =>
        rw [hexact] at h
        cases h
        have := keyword?_le hkeyword
        rw [List.length_cons] at this
        exact ⟨k, n - 1, by omega, rfl⟩

theorem moveBody_cases {fresh : Bool} (h : moveBody fresh c t = .ok move) :
    (isBlank c = true ∧
        move = ⟨if fresh then none else some .blanks, run isBlank t, body fresh⟩) ∨
      (isBlank c = false ∧ ∃ n, newline? (c :: t) = some n ∧
        move = ⟨some .newline, n - 1, between⟩) ∨
      (fresh = true ∧ ∃ k n, n ≤ t.length ∧ move = ⟨some (.keyword k), n, body true⟩) ∨
      (isBlank c = false ∧ newline? (c :: t) = none ∧
        (fresh = true → keywordMove? (c :: t) = none) ∧
        move = ⟨some (content c t).1, (content c t).2, body false⟩) := by
  unfold moveBody at h
  cases hblank : isBlank c with
  | true =>
    rw [hblank, if_pos rfl] at h
    cases h
    exact .inl ⟨rfl, rfl⟩
  | false =>
    rw [hblank, if_neg Bool.false_ne_true] at h
    cases hnewline : newline? (c :: t) with
    | some n =>
      rw [hnewline] at h
      cases h
      exact .inr (.inl ⟨rfl, n, rfl, rfl⟩)
    | none =>
      rw [hnewline] at h
      cases fresh with
      | false =>
        cases h
        exact .inr (.inr (.inr ⟨rfl, rfl, by simp, rfl⟩))
      | true =>
        simp only [if_true] at h
        cases hkeyword : keywordMove? (c :: t) with
        | none =>
          rw [hkeyword] at h
          cases h
          exact .inr (.inr (.inr ⟨rfl, rfl, fun _ => rfl, rfl⟩))
        | some found =>
          rw [hkeyword] at h
          dsimp only at h
          rw [h] at hkeyword
          exact .inr (.inr (.inl ⟨rfl, keywordMove?_ok hkeyword⟩))

/-! ## The mode behind a token -/

theorem modeBehind_of_isContent {k : TokenKind} (h : k.isContent = true) :
    k.modeBehind = body false := by
  cases k <;> first | rfl | cases h

theorem punctuation?_modeBehind {k : TokenKind} (h : punctuation? c = some k) :
    k.modeBehind = declaration ∧ k ≠ .identifier := by
  unfold punctuation? at h
  split at h <;> cases h <;> exact ⟨rfl, by decide⟩

/-- A piece of content is taken in a body line, as the piece that the text begins with. -/
theorem move_content {m m' : Mode} {k : TokenKind} {n : Nat}
    (h : m.move c t = .ok ⟨some k, n, m'⟩) (hk : k.isContent = true) :
    content c t = (k, n) := by
  cases m with
  | between =>
    rcases moveBetween_cases h with ⟨-, hm⟩ | ⟨-, hm⟩ | ⟨-, hm⟩ | ⟨-, hm⟩ <;> cases hm <;> cases hk
  | declaration =>
    rcases moveDeclaration_cases h with ⟨_, -, hm⟩ | ⟨-, -, hm⟩ | ⟨kind, hkind, hm⟩ | ⟨-, hm⟩
    · cases hm
      cases hk
    · cases hm
    · cases hm
      have hbehind := (punctuation?_modeBehind hkind).1
      rw [modeBehind_of_isContent hk] at hbehind
      cases hbehind
    · cases hm
      cases hk
  | body fresh =>
    rcases moveBody_cases h with ⟨-, hm⟩ | ⟨-, _, -, hm⟩ | ⟨-, _, _, -, hm⟩ | ⟨-, -, -, hm⟩
    · cases fresh
      · cases hm
        cases hk
      · cases hm
    · cases hm
      cases hk
    · cases hm
      cases hk
    · obtain ⟨hkind, hn, -⟩ := Move.mk.inj hm
      exact Prod.ext (Option.some.inj hkind).symm hn.symm

theorem newline?_le {t : Text} {n : Nat} (h : newline? t = some n) : n ≤ t.length := by
  unfold newline? at h
  split at h
  · cases h
    exact Nat.succ_le_succ (Nat.zero_le _)
  · cases h
    exact Nat.succ_le_succ (Nat.succ_le_succ (Nat.zero_le _))
  · cases h

/-- A move takes no more than there is. -/
theorem extra_le {m : Mode} (h : m.move c t = .ok move) : move.extra ≤ t.length := by
  cases m with
  | between =>
    rcases moveBetween_cases h with ⟨-, rfl⟩ | ⟨-, rfl⟩ | ⟨-, rfl⟩ | ⟨-, rfl⟩
    · exact Nat.zero_le _
    · exact run_le _ t
    · exact Nat.zero_le _
    · exact Nat.zero_le _
  | declaration =>
    rcases moveDeclaration_cases h with ⟨n, hn, rfl⟩ | ⟨-, -, rfl⟩ | ⟨_, -, rfl⟩ | ⟨-, rfl⟩
    · have := newline?_le hn
      rw [List.length_cons] at this
      dsimp only
      omega
    · exact Nat.zero_le _
    · exact Nat.zero_le _
    · exact run_le _ t
  | body fresh =>
    rcases moveBody_cases h with ⟨-, rfl⟩ | ⟨-, n, hn, rfl⟩ | ⟨-, _, n, hn, rfl⟩ | ⟨-, -, -, rfl⟩
    · exact run_le _ t
    · have := newline?_le hn
      rw [List.length_cons] at this
      dsimp only
      omega
    · exact hn
    · exact content_le c t

/-- Layout leaves the mode as it is. -/
theorem move_layout {m m' : Mode} {n : Nat} (h : m.move c t = .ok ⟨none, n, m'⟩) : m' = m := by
  cases m with
  | between =>
    rcases moveBetween_cases h with ⟨-, hmove⟩ | ⟨-, hmove⟩ | ⟨-, hmove⟩ | ⟨-, hmove⟩
    · cases hmove
      rfl
    · cases hmove
      rfl
    · cases hmove
    · cases hmove
  | declaration =>
    rcases moveDeclaration_cases h with ⟨_, -, hmove⟩ | ⟨-, -, hmove⟩ | ⟨_, -, hmove⟩ | ⟨-, hmove⟩
    · cases hmove
    · cases hmove
      rfl
    all_goals cases hmove
  | body fresh =>
    rcases moveBody_cases h with ⟨-, hmove⟩ | ⟨-, _, -, hmove⟩ | ⟨-, _, _, -, hmove⟩ | ⟨-, -, -, hmove⟩
    · exact (Move.mk.inj hmove).2.2
    all_goals cases hmove

/-- **The kind of a token determines the mode behind it.** -/
theorem move_after {m m' : Mode} {k : TokenKind} {n : Nat}
    (h : m.move c t = .ok ⟨some k, n, m'⟩) : m' = k.modeBehind := by
  cases m with
  | between =>
    rcases moveBetween_cases h with ⟨-, hmove⟩ | ⟨-, hmove⟩ | ⟨-, hmove⟩ | ⟨-, hmove⟩ <;>
      cases hmove <;> rfl
  | declaration =>
    rcases moveDeclaration_cases h with
      ⟨_, -, hmove⟩ | ⟨-, -, hmove⟩ | ⟨kind, hkind, hmove⟩ | ⟨-, hmove⟩
    · cases hmove
      rfl
    · cases hmove
    · cases hmove
      exact (punctuation?_modeBehind hkind).1.symm
    · cases hmove
      rfl
  | body fresh =>
    rcases moveBody_cases h with ⟨-, hmove⟩ | ⟨-, _, -, hmove⟩ | ⟨-, _, _, -, hmove⟩ | ⟨-, -, -, hmove⟩
    · cases fresh with
      | true => cases hmove
      | false =>
        cases hmove
        rfl
    · cases hmove
      rfl
    · cases hmove
      rfl
    · cases hmove
      exact (modeBehind_of_isContent (isContent_content c t)).symm

theorem move_ne_finish {m m' : Mode} {k : TokenKind} {n : Nat}
    (h : m.move c t = .ok ⟨some k, n, m'⟩) : k ≠ .finish := by
  rintro rfl
  cases m with
  | between =>
    rcases moveBetween_cases h with ⟨-, hmove⟩ | ⟨-, hmove⟩ | ⟨-, hmove⟩ | ⟨-, hmove⟩ <;> cases hmove
  | declaration =>
    rcases moveDeclaration_cases h with
      ⟨_, -, hmove⟩ | ⟨-, -, hmove⟩ | ⟨kind, hkind, hmove⟩ | ⟨-, hmove⟩
    · cases hmove
    · cases hmove
    · cases hmove
      cases (punctuation?_modeBehind hkind).1
    · cases hmove
  | body fresh =>
    rcases moveBody_cases h with ⟨-, hmove⟩ | ⟨-, _, -, hmove⟩ | ⟨-, _, _, -, hmove⟩ | ⟨-, -, -, hmove⟩
    · cases fresh <;> cases hmove
    · cases hmove
    · cases hmove
    · have hcontent := isContent_content c t
      rw [← Option.some.inj (Move.mk.inj hmove).1] at hcontent
      cases hcontent

end Mode

namespace Token

/-! ## One move after the other -/

section

variable {m m' : Mode} {c : Char} {t : Text} {n : Nat}

theorem scanFrom_nil (m : Mode) (p : Position) : scanFrom m p [] = .ok [⟨.finish, [], p⟩] := by
  rw [scanFrom]

theorem scanFrom_skip (h : m.move c t = .ok ⟨none, n, m'⟩) (p : Position) :
    scanFrom m p (c :: t) = scanFrom m' (p.after (c :: t.take n)) (t.drop n) := by
  rw [scanFrom, h]
  cases hrest : scanFrom m' (p.after (c :: t.take n)) (t.drop n) <;> simp only [hrest]

theorem scanFrom_take {k : TokenKind} (h : m.move c t = .ok ⟨some k, n, m'⟩) (p : Position) :
    scanFrom m p (c :: t) =
      (scanFrom m' (p.after (c :: t.take n)) (t.drop n)).map (⟨k, c :: t.take n, p⟩ :: ·) := by
  rw [scanFrom, h]
  cases hrest : scanFrom m' (p.after (c :: t.take n)) (t.drop n) <;> simp only [hrest] <;> rfl

/-- A scan that succeeds behind a token has the token in front. -/
theorem scanFrom_take_ok {k : TokenKind} (h : m.move c t = .ok ⟨some k, n, m'⟩) {p : Position}
    {tokens : List Token} (hscan : scanFrom m p (c :: t) = .ok tokens) :
    ∃ found, scanFrom m' (p.after (c :: t.take n)) (t.drop n) = .ok found ∧
      tokens = ⟨k, c :: t.take n, p⟩ :: found := by
  rw [scanFrom_take h] at hscan
  cases hrest : scanFrom m' (p.after (c :: t.take n)) (t.drop n) with
  | error f =>
    rw [hrest] at hscan
    cases hscan
  | ok found =>
    rw [hrest] at hscan
    exact ⟨found, rfl, (Except.ok.inj hscan).symm⟩

theorem scanFrom_error {cause : ScanCause} (h : m.move c t = .error cause) (p : Position) :
    scanFrom m p (c :: t) = .error ⟨cause, p⟩ := by
  rw [scanFrom, h]

end

/-- Induction along a scan: what a property of a place has to survive is one move at a time. -/
theorem scanFrom_induction {P : Mode → Position → Text → Prop}
    (finish : ∀ m p, P m p [])
    (fault : ∀ m p c t cause, m.move c t = .error cause → P m p (c :: t))
    (skip : ∀ m p c t n, m.move c t = .ok ⟨none, n, m⟩ →
      P m (p.after (c :: t.take n)) (t.drop n) → P m p (c :: t))
    (take : ∀ m p c t n k, m.move c t = .ok ⟨some k, n, k.modeBehind⟩ →
      P k.modeBehind (p.after (c :: t.take n)) (t.drop n) → P m p (c :: t))
    (m : Mode) (p : Position) (t : Text) : P m p t := by
  match t with
  | [] => exact finish m p
  | c :: t =>
    cases hmove : m.move c t with
    | error cause => exact fault m p c t cause hmove
    | ok move =>
      obtain ⟨kind, n, m'⟩ := move
      have ih := scanFrom_induction finish fault skip take m' (p.after (c :: t.take n)) (t.drop n)
      cases kind with
      | none =>
        obtain rfl := Mode.move_layout hmove
        exact skip m' p c t n hmove ih
      | some k =>
        obtain rfl := Mode.move_after hmove
        exact take m p c t n k hmove ih
termination_by t.length
decreasing_by simp only [List.length_drop, List.length_cons]; omega

/-! ## Cutting without places -/

theorem cuts_of_scanFrom (m : Mode) (p : Position) (t : Text) {tokens : List Token}
    (h : scanFrom m p t = .ok tokens) : Cuts m t (tokens.map piece) := by
  induction m, p, t using scanFrom_induction generalizing tokens with
  | finish m p =>
    rw [scanFrom_nil] at h
    cases h
    exact .finish m
  | fault m p c t cause hmove =>
    rw [scanFrom_error hmove] at h
    cases h
  | skip m p c t n hmove ih =>
    rw [scanFrom_skip hmove] at h
    exact .skip hmove (ih h)
  | take m p c t n k hmove ih =>
    obtain ⟨found, hrest, rfl⟩ := scanFrom_take_ok hmove h
    exact .take hmove (ih hrest)

theorem scanFrom_of_cuts {m : Mode} {t : Text} {pieces : List Piece} (h : Cuts m t pieces) :
    ∀ p, ∃ tokens, scanFrom m p t = .ok tokens ∧ tokens.map piece = pieces := by
  induction h with
  | finish m => exact fun p => ⟨_, scanFrom_nil m p, rfl⟩
  | @skip m m' c t n pieces hmove _ ih =>
    intro p
    obtain ⟨tokens, hscan, hpieces⟩ := ih (p.after (c :: t.take n))
    exact ⟨tokens, (scanFrom_skip hmove p).trans hscan, hpieces⟩
  | @take m m' c t n k pieces hmove _ ih =>
    intro p
    obtain ⟨tokens, hscan, rfl⟩ := ih (p.after (c :: t.take n))
    refine ⟨⟨k, c :: t.take n, p⟩ :: tokens, ?_, rfl⟩
    rw [scanFrom_take hmove, hscan]
    rfl

/-- **A document is cut in one way**: its tokens, places aside, are the pieces it is cut into. -/
theorem scan_iff {t : Text} {pieces : List Piece} :
    (∃ tokens, scan t = .ok tokens ∧ tokens.map piece = pieces) ↔ Cuts .between t pieces := by
  constructor
  · rintro ⟨tokens, hscan, rfl⟩
    exact cuts_of_scanFrom _ _ _ hscan
  · intro h
    exact scanFrom_of_cuts h .start

end Token

namespace Cuts

open Mode

variable {m : Mode} {t v : Text} {k : TokenKind} {pieces : List Piece}

/-! ## What follows a token -/

theorem finish_only (h : Cuts m t ((.finish, v) :: pieces)) : v = [] ∧ pieces = [] := by
  generalize hall : ((.finish, v) :: pieces : List Piece) = all at h
  induction h with
  | finish m =>
    cases hall
    exact ⟨rfl, rfl⟩
  | skip _ _ ih => exact ih hall
  | take hmove _ _ =>
    cases hall
    exact absurd rfl (move_ne_finish hmove)

/-- A token is taken where the layout in front of it ends. -/
theorem taken (h : Cuts m t ((k, v) :: pieces)) (hk : k ≠ .finish) :
    ∃ layout c rest n, t = layout ++ c :: rest ∧ v = c :: rest.take n ∧
      m.move c rest = .ok ⟨some k, n, k.modeBehind⟩ ∧ Cuts k.modeBehind (rest.drop n) pieces := by
  generalize hall : ((k, v) :: pieces : List Piece) = all at h
  induction h with
  | finish m =>
    cases hall
    exact absurd rfl hk
  | @skip m m' c t n pieces hmove _ ih =>
    obtain rfl := move_layout hmove
    obtain ⟨layout, d, rest, n', ht, hv, htaken, hrest⟩ := ih hall
    refine ⟨c :: (t.take n ++ layout), d, rest, n', ?_, hv, htaken, hrest⟩
    rw [List.cons_append, List.append_assoc, ← ht, List.take_append_drop]
  | @take m m' c t n k pieces hmove hrest _ =>
    cases hall
    obtain rfl := move_after hmove
    exact ⟨[], c, t, n, rfl, rfl, hmove, hrest⟩

theorem after {before : List Piece} {p : Piece} (h : Cuts m t (before ++ p :: pieces)) :
    ∃ m' rest, rest <:+ t ∧ Cuts m' rest (p :: pieces) := by
  induction before generalizing m t with
  | nil => exact ⟨m, t, List.suffix_refl t, h⟩
  | cons first before ih =>
    obtain ⟨k₁, v₁⟩ := first
    by_cases hfinish : k₁ = .finish
    · subst hfinish
      obtain ⟨-, hnil⟩ := h.finish_only
      cases before <;> cases hnil
    · obtain ⟨layout, c, rest, n, rfl, rfl, -, hrest⟩ := h.taken hfinish
      obtain ⟨m', after, hsuffix, hafter⟩ := ih hrest
      refine ⟨m', after, hsuffix.trans ?_, hafter⟩
      exact (List.drop_suffix n rest).trans
        ((List.suffix_cons c rest).trans (List.suffix_append layout _))

/-! ## What a token can be -/

/-- Every piece but the end is taken by a move somewhere in the text. -/
theorem exists_move (h : Cuts m t pieces) : ∀ p ∈ pieces, p = (.finish, []) ∨
    ∃ (m' : Mode) (c : Char) (u : Text) (n : Nat), c :: u <:+ t ∧
      m'.move c u = .ok ⟨some p.1, n, p.1.modeBehind⟩ ∧ p.2 = c :: u.take n := by
  induction h with
  | finish m =>
    intro p hp
    exact .inl (List.mem_singleton.1 hp)
  | @skip m m' c t n pieces _ _ ih =>
    intro p hp
    refine (ih p hp).imp_right ?_
    rintro ⟨m'', d, u, i, hsuffix, hmove, hvalue⟩
    exact ⟨m'', d, u, i, hsuffix.trans ((List.drop_suffix n t).trans (List.suffix_cons c t)), hmove,
      hvalue⟩
  | @take m m' c t n k pieces hm _ ih =>
    intro p hp
    rcases List.mem_cons.1 hp with rfl | hp
    · obtain rfl := move_after hm
      exact .inr ⟨m, c, t, n, List.suffix_rfl, hm, rfl⟩
    · refine (ih p hp).imp_right ?_
      rintro ⟨m'', d, u, i, hsuffix, hmove, hvalue⟩
      exact ⟨m'', d, u, i, hsuffix.trans ((List.drop_suffix n t).trans (List.suffix_cons c t)), hmove,
        hvalue⟩

theorem forall_piece {P : Piece → Prop} (hfinish : P (.finish, []))
    (hmove : ∀ (m : Mode) (c : Char) (t : Text) (k : TokenKind) (n : Nat) (m' : Mode),
      m.move c t = .ok ⟨some k, n, m'⟩ → P (k, c :: t.take n))
    (h : Cuts m t pieces) : ∀ p ∈ pieces, P p := by
  rintro ⟨k, v⟩ hp
  rcases h.exists_move _ hp with hp | ⟨m', c, u, n, -, hm, hv⟩
  · exact hp ▸ hfinish
  · obtain rfl : v = c :: u.take n := hv
    exact hmove _ _ _ _ _ _ hm

theorem value_isInfix (h : Cuts m t pieces) : ∀ p ∈ pieces, p.2 <:+: t := by
  intro p hp
  rcases h.exists_move p hp with rfl | ⟨m', c, u, n, hsuffix, -, hv⟩
  · exact List.nil_infix
  · rw [hv]
    exact ((List.prefix_cons_inj c).2 (List.take_prefix n u)).isInfix.trans hsuffix.isInfix

end Cuts

end Phrasebook
