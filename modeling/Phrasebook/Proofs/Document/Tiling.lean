import Phrasebook.Proofs.Document.Cutting
import Phrasebook.Proofs.Document.FirstLine

/-!
# Tokens tile the document

A document is a row of stretches, one behind the other and without a gap: each is a token or a
piece of layout that is skipped.  What may be skipped depends on the last token in front: line
ends, blanks and comments between lines, blanks and lone returns in a declaration, blanks in front
of the content of a body line, and nothing behind its first piece of content.

* `Stretch`, `textOf`: a document as a row of stretches;
* `IsComment`, `IsLayout`: what may be skipped at a place;
* `Tiling`: the tokens and the layout of a document;
* `Token.scan_tiles`: the tokens of every document tile it.
-/

namespace Phrasebook

open Scan

/-! ## Places -/

namespace Position

/-- The place behind a text: line feeds make lines, and a column counts the characters since the
last of them. -/
def behind (t : Text) : Position :=
  ⟨1 + List.count '\n' t, 1 + (t.reverse.takeWhile (· ≠ '\n')).length⟩

theorem next_behind (t : Text) (c : Char) : (behind t).next c = behind (t ++ [c]) := by
  by_cases hc : c = '\n'
  · subst hc
    simp [next, behind, List.count_append, Nat.add_assoc]
  · simp [next, behind, List.count_append, hc]
    omega

theorem after_behind (t u : Text) : (behind t).after u = behind (t ++ u) := by
  induction u generalizing t with
  | nil => simp [after]
  | cons c u ih =>
    have hstep : (behind t).after (c :: u) = ((behind t).next c).after u := rfl
    rw [hstep, next_behind, ih, List.append_assoc]
    rfl

end Position

/-! ## Stretches -/

/-- A stretch of a document: a token, or layout. -/
inductive Stretch where
  | token (t : Token)
  | layout (t : Text)

namespace Stretch

/-- The characters of a stretch. -/
def text : Stretch → Text
  | token t => t.value
  | layout t => t

/-- The token that a stretch is. -/
def token? : Stretch → Option Token
  | token t => some t
  | layout _ => none

end Stretch

/-- The characters of stretches, one behind the other. -/
def textOf (ss : List Stretch) : Text := ss.flatMap Stretch.text

/-- The mode behind stretches: the last token among them decides it, and `m` is left where there is
no token. -/
def modeAfter (m : Mode) (ss : List Stretch) : Mode :=
  ((ss.filterMap Stretch.token?).getLast?.map (·.kind.modeBehind)).getD m

@[simp] theorem textOf_nil : textOf [] = [] := rfl

@[simp] theorem textOf_cons (s : Stretch) (ss : List Stretch) :
    textOf (s :: ss) = s.text ++ textOf ss := rfl

@[simp] theorem modeAfter_nil (m : Mode) : modeAfter m [] = m := rfl

@[simp] theorem modeAfter_layout (m : Mode) (u : Text) (ss : List Stretch) :
    modeAfter m (.layout u :: ss) = modeAfter m ss := rfl

@[simp] theorem modeAfter_token (m : Mode) (t : Token) (ss : List Stretch) :
    modeAfter m (.token t :: ss) = modeAfter t.kind.modeBehind ss := by
  have hsome : Stretch.token? (.token t) = some t := rfl
  simp only [modeAfter, List.filterMap_cons_some hsome, List.getLast?_cons]
  cases (ss.filterMap Stretch.token?).getLast? <;> rfl

theorem modeAfter_concat (m : Mode) (ss : List Stretch) (t : Token) :
    modeAfter m (ss ++ [.token t]) = t.kind.modeBehind := by
  simp [modeAfter, Stretch.token?]

/-! ## Layout -/

/-- Nothing but blanks since the last line end. -/
def OpensLine (before : Text) : Prop :=
  ∀ c ∈ before.reverse.takeWhile (!isLineEnd ·), isBlank c = true

/-- A comment: its sign is the first character of its line that is no blank, and it goes on up to
the next line end or the end of the document. -/
structure IsComment (before u after : Text) : Prop where
  sign : ∃ inside, u = '>' :: inside ∨ u = '$' :: inside
  first : OpensLine before
  oneLine : ∀ c ∈ u, isLineEnd c = false
  whole : ∀ c ∈ after.head?, isLineEnd c = true

/-- What may be skipped, given the mode that the tokens in front leave and the text on both
sides. -/
def IsLayout (m : Mode) (before u after : Text) : Prop :=
  match m with
  | .between => (∃ c, u = [c] ∧ (isBlank c || isLineEnd c) = true) ∨ IsComment before u after
  | .declaration => ∃ c, u = [c] ∧ (isBlank c = true ∨ c = '\r')
  | .body fresh => fresh = true ∧ ∀ c ∈ u, isBlank c = true

/-- **The tokens of a document and what is skipped between them.**  The stretches make up the
document, so their order is that of their places and no two of them overlap. -/
structure Tiling (t : Text) (tokens : List Token) (ss : List Stretch) : Prop where
  covers : textOf ss = t
  tokens : ss.filterMap Stretch.token? = tokens
  /-- The end is told once, at the end of the document. -/
  finish : ∃ body, ss = body ++ [.token ⟨.finish, [], .behind t⟩] ∧
    ∀ u, .token u ∈ body → u.kind ≠ .finish ∧ u.value ≠ []
  /-- A token tells its place. -/
  placed : ∀ before u after, ss = before ++ .token u :: after → u.position = .behind (textOf before)
  /-- What is no token is layout. -/
  layout : ∀ before u after, ss = before ++ .layout u :: after →
    IsLayout (modeAfter .between before) (textOf before) u (textOf after)
  /-- Behind a piece of content nothing is skipped. -/
  kept : ∀ before u s after, ss = before ++ .token u :: s :: after →
    u.kind.modeBehind = .body false → ∃ v, s = .token v

/-! ## The stretches of a scan -/

theorem Scan.take_run (p : Char → Bool) (t : Text) : t.take (run p t) = t.takeWhile p :=
  (List.prefix_iff_eq_take.1 (List.takeWhile_prefix p)).symm

theorem Scan.of_mem_take_run {p : Char → Bool} {t : Text} {c : Char} (h : c ∈ t.take (run p t)) :
    p c = true := by
  rw [take_run] at h
  exact List.all_eq_true.1 List.all_takeWhile c h

/-- What follows the longest stretch without a line end is a line end. -/
theorem Scan.isLineEnd_of_mem_drop_run {t : Text} {c : Char}
    (h : c ∈ (t.drop (run (!isLineEnd ·) t)).head?) : isLineEnd c = true := by
  have hend := List.head?_dropWhile_not (fun d => !isLineEnd d) t
  rw [drop_run, Option.mem_def] at h
  simpa [h] using hend

/-- A text behind `before` is laid out in stretches from a mode on, one move at a time. -/
inductive Laid : Mode → Text → Text → List Stretch → Prop
  | finish (m : Mode) (before : Text) : Laid m before [] [.token ⟨.finish, [], .behind before⟩]
  | skip {m : Mode} {c : Char} {before t : Text} {n : Nat} {ss : List Stretch} :
      m.move c t = .ok ⟨none, n, m⟩ → Laid m (before ++ c :: t.take n) (t.drop n) ss →
        Laid m before (c :: t) (.layout (c :: t.take n) :: ss)
  | take {m : Mode} {c : Char} {before t : Text} {n : Nat} {k : TokenKind} {ss : List Stretch} :
      m.move c t = .ok ⟨some k, n, k.modeBehind⟩ →
        Laid k.modeBehind (before ++ c :: t.take n) (t.drop n) ss →
          Laid m before (c :: t) (.token ⟨k, c :: t.take n, .behind before⟩ :: ss)

theorem Token.laid_of_scanFrom (m : Mode) (before t : Text) {tokens : List Token}
    (h : scanFrom m (.behind before) t = .ok tokens) :
    ∃ ss, Laid m before t ss ∧ ss.filterMap Stretch.token? = tokens := by
  generalize hp : Position.behind before = p at h
  induction m, p, t using scanFrom_induction generalizing before tokens with
  | finish m p =>
    rw [scanFrom_nil] at h
    cases h
    exact ⟨_, .finish m before, by rw [← hp]; rfl⟩
  | fault m p c t cause hmove =>
    rw [scanFrom_error hmove] at h
    cases h
  | skip m p c t n hmove ih =>
    subst hp
    rw [scanFrom_skip hmove] at h
    obtain ⟨ss, hlaid, htokens⟩ := ih _ (Position.after_behind _ _).symm h
    exact ⟨_, .skip hmove hlaid, htokens⟩
  | take m p c t n k hmove ih =>
    subst hp
    obtain ⟨found, hrest, rfl⟩ := scanFrom_take_ok hmove h
    obtain ⟨ss, hlaid, htokens⟩ := ih _ (Position.after_behind _ _).symm hrest
    exact ⟨_, .take hmove hlaid, by rw [← htokens]; rfl⟩

/-! ## Where a comment may begin -/

section

variable {m : Mode} {before t : Text} {c : Char} {n : Nat}

theorem opensLine_concat (hc : isLineEnd c = true) (before : Text) : OpensLine (before ++ [c]) := by
  intro d hd
  simp [hc] at hd

theorem OpensLine.blank (h : OpensLine before) (hc : isBlank c = true) :
    OpensLine (before ++ [c]) := by
  intro d hd
  simp only [List.reverse_append, List.reverse_singleton, List.singleton_append,
    List.takeWhile_cons] at hd
  split at hd
  · rcases List.mem_cons.1 hd with rfl | hd
    · exact hc
    · exact h d hd
  · simp at hd

theorem opensLine_newline (h : newline? (c :: t) = some n) (before : Text) :
    OpensLine (before ++ c :: t.take (n - 1)) := by
  unfold newline? at h
  split at h
  · rename_i heq
    cases heq
    cases h
    simpa using opensLine_concat (c := '\n') (by decide) before
  · rename_i heq
    cases heq
    cases h
    simpa using opensLine_concat (c := '\n') (by decide) (before ++ ['\r'])
  · cases h

/-- Only the end of a line leads back between lines. -/
theorem Mode.move_newline {m' : Mode} (h : m.move c t = .ok ⟨some .newline, n, m'⟩) :
    ∃ i, newline? (c :: t) = some i ∧ n = i - 1 := by
  cases m with
  | between =>
    rcases moveBetween_cases h with ⟨-, hn⟩ | ⟨-, hn⟩ | ⟨-, hn⟩ | ⟨-, hn⟩ <;> cases hn
  | declaration =>
    rcases moveDeclaration_cases h with
      ⟨i, hi, hn⟩ | ⟨-, -, hn⟩ | ⟨_, hk, hn⟩ | ⟨-, hn⟩ <;> cases hn
    · exact ⟨i, hi, rfl⟩
    · cases (punctuation?_modeBehind hk).1
  | body fresh =>
    rcases moveBody_cases h with ⟨-, hn⟩ | ⟨-, i, hi, hn⟩ | ⟨-, _, _, -, hn⟩ | ⟨-, -, -, hn⟩
    · cases fresh <;> cases hn
    · cases hn
      exact ⟨i, hi, rfl⟩
    · cases hn
    · have hcontent := isContent_content c t
      rw [← Option.some.inj (Move.mk.inj hn).1] at hcontent
      cases hcontent

/-- What holds wherever a move between lines is made: the line has blanks only so far, or a comment
has just ended. -/
def Ready (m : Mode) (before t : Text) : Prop :=
  m = .between → OpensLine before ∨ ∀ c ∈ t.head?, isLineEnd c = true

theorem Ready.skip (hready : Ready m before (c :: t)) (hmove : m.move c t = .ok ⟨none, n, m⟩) :
    Ready m (before ++ c :: t.take n) (t.drop n) := by
  rintro rfl
  rcases Mode.moveBetween_cases hmove with ⟨hblank, hn⟩ | ⟨-, hn⟩ | ⟨-, hn⟩ | ⟨-, hn⟩ <;> cases hn
  · left
    cases hend : isLineEnd c with
    | true => simpa using opensLine_concat hend before
    | false =>
      rw [hend, Bool.or_false] at hblank
      rcases hready rfl with hopen | hnone
      · simpa using OpensLine.blank hopen hblank
      · simp [hend] at hnone
  · exact .inr fun _ => isLineEnd_of_mem_drop_run

theorem Ready.take {k : TokenKind} (hmove : m.move c t = .ok ⟨some k, n, k.modeBehind⟩)
    (before : Text) : Ready k.modeBehind (before ++ c :: t.take n) (t.drop n) := by
  intro hbetween
  have hk : k = .newline := by
    cases k <;> first | rfl | exact absurd rfl (Mode.move_ne_finish hmove) | cases hbetween
  subst hk
  obtain ⟨i, hi, rfl⟩ := Mode.move_newline hmove
  exact .inl (opensLine_newline hi before)

/-- A comment is skipped where its line has only blanks so far. -/
theorem Ready.isComment (hsign : c = '>' ∨ c = '$') (hready : Ready .between before (c :: t)) :
    IsComment before (c :: t.take (run (!isLineEnd ·) t)) (t.drop (run (!isLineEnd ·) t)) where
  sign := ⟨t.take (run (!isLineEnd ·) t), hsign.imp (fun h => by rw [h]) fun h => by rw [h]⟩
  first := by
    rcases hready rfl with hopen | hnone
    · exact hopen
    · have hend : isLineEnd c = true := hnone c rfl
      rcases hsign with rfl | rfl <;> cases hend
  oneLine := by
    intro d hd
    rcases List.mem_cons.1 hd with rfl | hd
    · rcases hsign with rfl | rfl <;> rfl
    · simpa using of_mem_take_run hd
  whole _ := isLineEnd_of_mem_drop_run

/-- What a move skips is layout. -/
theorem Ready.isLayout (hready : Ready m before (c :: t)) (hmove : m.move c t = .ok ⟨none, n, m⟩) :
    IsLayout m before (c :: t.take n) (t.drop n) := by
  cases m with
  | between =>
    rcases Mode.moveBetween_cases hmove with ⟨hblank, hn⟩ | ⟨hsign, hn⟩ | ⟨-, hn⟩ | ⟨-, hn⟩ <;>
      cases hn
    · exact .inl ⟨c, rfl, hblank⟩
    · exact .inr (hready.isComment hsign)
  | declaration =>
    rcases Mode.moveDeclaration_cases hmove with
      ⟨_, -, hn⟩ | ⟨-, hblank, hn⟩ | ⟨_, -, hn⟩ | ⟨-, hn⟩ <;> cases hn
    exact ⟨c, rfl, hblank⟩
  | body fresh =>
    rcases Mode.moveBody_cases hmove with
      ⟨hblank, hn⟩ | ⟨-, _, -, hn⟩ | ⟨-, _, _, -, hn⟩ | ⟨-, -, -, hn⟩
    · cases fresh with
      | false => cases hn
      | true =>
        cases hn
        refine ⟨rfl, fun d hd => ?_⟩
        rcases List.mem_cons.1 hd with rfl | hd
        · exact hblank
        · exact of_mem_take_run hd
    all_goals cases hn

end

namespace Laid

variable {m : Mode} {before t : Text} {ss pre post : List Stretch} {s : Stretch}

theorem covers (h : Laid m before t ss) : textOf ss = t := by
  induction h with
  | finish m before => rfl
  | skip _ _ ih => simp [Stretch.text, ih]
  | take _ _ ih => simp [Stretch.text, ih]

/-- The end comes last, and every other token has characters. -/
theorem ends (h : Laid m before t ss) :
    ∃ body, ss = body ++ [.token ⟨.finish, [], .behind (before ++ t)⟩] ∧
      ∀ u, .token u ∈ body → u.kind ≠ .finish ∧ u.value ≠ [] := by
  induction h with
  | finish m before => exact ⟨[], by simp, by simp⟩
  | @skip m c before t n ss hmove _ ih =>
    obtain ⟨body, rfl, hbody⟩ := ih
    refine ⟨.layout (c :: t.take n) :: body, by simp, fun u hu => hbody u ?_⟩
    simpa using hu
  | @take m c before t n k ss hmove _ ih =>
    obtain ⟨body, rfl, hbody⟩ := ih
    refine ⟨.token ⟨k, c :: t.take n, .behind before⟩ :: body, by simp, ?_⟩
    intro u hu
    rcases List.mem_cons.1 hu with hu | hu
    · cases hu
      exact ⟨Mode.move_ne_finish hmove, List.cons_ne_nil _ _⟩
    · exact hbody u hu

/-- Behind some of the stretches, what is left is laid out in the others. -/
theorem split (h : Laid m before t (pre ++ s :: post)) (hready : Ready m before t) :
    ∃ t', Laid (modeAfter m pre) (before ++ textOf pre) t' (s :: post) ∧
      Ready (modeAfter m pre) (before ++ textOf pre) t' := by
  induction pre generalizing m before t with
  | nil => exact ⟨t, by simpa using h, by simpa using hready⟩
  | cons first pre ih =>
    rw [List.cons_append] at h
    generalize hss : pre ++ s :: post = rest at h
    cases h with
    | finish => simp at hss
    | skip hmove hrest =>
      subst hss
      obtain ⟨t', hlaid, hready'⟩ := ih hrest (hready.skip hmove)
      exact ⟨t', by simpa [Stretch.text] using hlaid, by simpa [Stretch.text] using hready'⟩
    | take hmove hrest =>
      subst hss
      obtain ⟨t', hlaid, hready'⟩ := ih hrest (.take hmove before)
      exact ⟨t', by simpa [Stretch.text] using hlaid, by simpa [Stretch.text] using hready'⟩

theorem position {u : Token} (h : Laid m before t (.token u :: post)) :
    u.position = .behind before := by
  cases h <;> rfl

/-- **What is skipped is layout.** -/
theorem isLayout {u : Text} (h : Laid m before t (.layout u :: post)) (hready : Ready m before t) :
    IsLayout m before u (textOf post) := by
  cases h with
  | skip hmove hrest =>
    rw [hrest.covers]
    exact hready.isLayout hmove

end Laid

/-! ## Every document -/

/-- **Tokens tile the document.**  Between the tokens of a document stands nothing but layout, each
token tells its place, and the end of the document is told once, at its end. -/
theorem Token.scan_tiles {t : Text} {tokens : List Token} (h : scan t = .ok tokens) :
    ∃ ss, Tiling t tokens ss := by
  obtain ⟨ss, hlaid, htokens⟩ := laid_of_scanFrom .between [] t h
  have hready : Ready .between [] t := fun _ => .inl (by simp [OpensLine])
  refine ⟨ss, hlaid.covers, htokens, by simpa using hlaid.ends, ?_, ?_, ?_⟩
  · rintro before u after rfl
    obtain ⟨t', hlaid', -⟩ := hlaid.split hready
    simpa using hlaid'.position
  · rintro before u after rfl
    obtain ⟨t', hlaid', hready'⟩ := hlaid.split hready
    simpa using hlaid'.isLayout hready'
  · rintro before u s after rfl hbehind
    cases s with
    | token v => exact ⟨v, rfl⟩
    | layout v =>
      -- layout behind content would be layout in a body line that is no longer fresh
      have hsplit : before ++ .token u :: .layout v :: after =
          (before ++ [.token u]) ++ .layout v :: after := by simp
      rw [hsplit] at hlaid
      obtain ⟨t', hlaid', hready'⟩ := hlaid.split hready
      have hlayout := hlaid'.isLayout hready'
      rw [modeAfter_concat, hbehind] at hlayout
      cases hlayout.1

/-- A comment in front, a lone return in the declaration, and blanks behind a keyword. -/
theorem Token.scan_tiles_layout :
    ∃ tokens ss, scan "\t> n\r#a\r (b)\n-  if :  x y".toList = .ok tokens ∧
      tokens.map (·.position) = [⟨1, 6⟩, ⟨1, 7⟩, ⟨1, 10⟩, ⟨1, 11⟩, ⟨1, 12⟩, ⟨1, 13⟩, ⟨2, 1⟩,
        ⟨2, 4⟩, ⟨2, 10⟩, ⟨2, 11⟩, ⟨2, 12⟩, ⟨2, 13⟩] ∧
      Tiling "\t> n\r#a\r (b)\n-  if :  x y".toList tokens ss := by
  have hscan : ((scan "\t> n\r#a\r (b)\n-  if :  x y".toList).toOption.map fun tokens =>
      tokens.map (·.position)) = some [⟨1, 6⟩, ⟨1, 7⟩, ⟨1, 10⟩, ⟨1, 11⟩, ⟨1, 12⟩, ⟨1, 13⟩, ⟨2, 1⟩,
        ⟨2, 4⟩, ⟨2, 10⟩, ⟨2, 11⟩, ⟨2, 12⟩, ⟨2, 13⟩] := by
    decide +kernel
  cases htokens : scan "\t> n\r#a\r (b)\n-  if :  x y".toList with
  | error f =>
    rw [htokens] at hscan
    cases hscan
  | ok tokens =>
    rw [htokens] at hscan
    obtain ⟨ss, htiling⟩ := scan_tiles htokens
    exact ⟨tokens, ss, rfl, Option.some.inj hscan, htiling⟩

end Phrasebook
