import Phrasebook.Proofs.Document.Rejection

/-!
# Where a document cannot be cut

A document is cut to its end, or the cutting stops at a character that the mode there has no use
for.  There is one more way to stop: a keyword may be spelt with a letter that is only equal to its
own when case is ignored, and then no keyword is found for it.

* `Mode.Refuses`, `Mode.refusal`: characters without use, and what they are told as;
* `StrangeWord`: a keyword spelt with a letter that is not its own;
* `Mode.move_error`: what can stop a move;
* `Passes`, `Coverage`: the stretches in front of the place;
* `Token.scan_outcome`: how the cutting of any document ends.
-/

namespace Phrasebook

open Scan

namespace Mode

/-- Has the mode no use for a character? It is neither layout nor a sign of the mode, and begins no
token. In a body line every character has a use. -/
def Refuses (m : Mode) (c : Char) : Prop :=
  match m with
  | between => isBlank c = false ∧ isLineEnd c = false ∧ c ∉ ['>', '$', '#', '-']
  | declaration =>
    isBlank c = false ∧ isLineEnd c = false ∧ c ∉ ['.', '(', ')', ','] ∧ Text.isWord c = false
  | body _ => False

/-- What a refused character is told as. -/
def refusal (m : Mode) (c : Char) : ScanCause :=
  match m with
  | declaration => if c = ';' then .semicolon else .badDeclaration c
  | _ => .badLineStart c

end Mode

/-- A keyword in front of blanks and a colon, at least one of its letters spelt by a letter outside
ASCII. -/
def StrangeWord (word after : Text) : Prop :=
  (∃ w k, (w, k) ∈ keywords ∧ beginsWith w word = true ∧ word.length = w.length) ∧
    (∃ c ∈ word, c = 'ſ' ∨ c = 'ı' ∨ c = 'İ') ∧
    ∃ blanks rest, after = blanks ++ ':' :: rest ∧ ∀ c ∈ blanks, isBlank c = true

namespace Mode

variable {m : Mode} {c : Char} {t : Text} {cause : ScanCause}

/-! ## Characters without use -/

theorem moveBetween_error (h : moveBetween c t = .error cause) :
    between.Refuses c ∧ cause = between.refusal c := by
  unfold moveBetween at h
  split at h
  · cases h
  · split at h
    · cases h
    · split at h
      · cases h
      · split at h
        · cases h
        · rename_i hlayout hcomment hhash hdash
          cases h
          rw [Bool.not_eq_true, Bool.or_eq_false_iff] at hlayout
          rw [not_or] at hcomment
          refine ⟨⟨hlayout.1, hlayout.2, ?_⟩, rfl⟩
          simp [hcomment, hhash, hdash]

theorem punctuation?_eq_none (h : punctuation? c = none) : c ∉ ['.', '(', ')', ','] := by
  intro hmem
  simp only [List.mem_cons, List.not_mem_nil, or_false] at hmem
  rcases hmem with rfl | rfl | rfl | rfl <;> cases h

theorem moveDeclaration_error (h : moveDeclaration c t = .error cause) :
    declaration.Refuses c ∧ cause = declaration.refusal c := by
  unfold moveDeclaration at h
  cases hnewline : newline? (c :: t) with
  | some n =>
    rw [hnewline] at h
    cases h
  | none =>
    rw [hnewline] at h
    dsimp only at h
    split at h
    · cases h
    · rename_i hlayout
      rw [not_or, Bool.not_eq_true] at hlayout
      cases hkind : punctuation? c with
      | some k =>
        rw [hkind] at h
        cases h
      | none =>
        rw [hkind] at h
        dsimp only at h
        have hend : isLineEnd c = false := by
          simp [isLineEnd, hlayout.2, ne_newline_of_newline? hnewline]
        have hsigns := punctuation?_eq_none hkind
        by_cases hsemicolon : c = ';'
        · rw [if_pos hsemicolon] at h
          cases h
          refine ⟨⟨hlayout.1, hend, hsigns, ?_⟩, (if_pos hsemicolon).symm⟩
          rw [hsemicolon]
          decide
        · rw [if_neg hsemicolon] at h
          split at h
          · cases h
          · rename_i hword
            cases h
            exact ⟨⟨hlayout.1, hend, hsigns, Bool.eq_false_iff.2 hword⟩, (if_neg hsemicolon).symm⟩

/-! ## Keywords -/

theorem beginsWith_take {w : Text} (h : beginsWith w t = true) :
    beginsWith w (t.take w.length) = true ∧ w.length ≤ t.length := by
  induction w generalizing t with
  | nil => exact ⟨by cases t <;> rfl, Nat.zero_le _⟩
  | cons letter w ih =>
    cases t with
    | nil => cases h
    | cons c t =>
      rw [beginsWith, Bool.and_eq_true] at h
      obtain ⟨hrest, hle⟩ := ih h.2
      refine ⟨?_, Nat.succ_le_succ hle⟩
      rw [List.length_cons, List.take_succ_cons, beginsWith, h.1, hrest]
      rfl

/-- Letters that spell a word and are none of the three are the word, but for the case of ASCII
letters. -/
theorem map_toLower_of_beginsWith {w : Text} (h : beginsWith w t = true)
    (hlength : t.length = w.length) (hplain : ∀ c ∈ t, ¬ (c = 'ſ' ∨ c = 'ı' ∨ c = 'İ')) :
    t.map Char.toLower = w := by
  induction w generalizing t with
  | nil => rw [List.length_eq_zero_iff.1 hlength, List.map_nil]
  | cons letter w ih =>
    cases t with
    | nil => cases h
    | cons c t =>
      rw [beginsWith, Bool.and_eq_true] at h
      have hc := hplain c List.mem_cons_self
      have hletter : c.toLower = letter := by
        have hsame := h.1
        simp only [sameLetter, Bool.or_eq_true, Bool.and_eq_true, beq_iff_eq] at hsame
        tauto
      rw [List.map_cons, hletter, ih h.2 (by simpa using hlength)
        fun d hd => hplain d (List.mem_cons_of_mem c hd)]

theorem keywordMove?_error (h : keywordMove? t = some (.error cause)) :
    ∃ word after, t = word ++ after ∧ StrangeWord word after ∧ cause = .strangeKeyword word := by
  unfold keywordMove? at h
  cases hkeyword : keyword? t with
  | none =>
    rw [hkeyword] at h
    cases h
  | some found =>
    obtain ⟨word, n⟩ := found
    rw [hkeyword] at h
    dsimp only at h
    split at h
    · cases h
    · cases hexact : exactKeyword? word with
      | some k =>
        rw [hexact] at h
        cases h
      | none =>
        rw [hexact] at h
        cases h
        obtain ⟨⟨w, k⟩, hw, hfound⟩ := List.exists_of_findSome?_eq_some hkeyword
        obtain ⟨i, hlength, heq⟩ := Option.map_eq_some_iff.1 hfound
        obtain rfl : t.take w.length = word := (Prod.mk.inj heq).1
        unfold wordLength? at hlength
        by_cases hbegins : beginsWith w t = true
        · rw [if_pos hbegins] at hlength
          dsimp only at hlength
          split at hlength
          · rename_i hcolon
            obtain ⟨hword, hle⟩ := beginsWith_take hbegins
            have hsize : (t.take w.length).length = w.length := by
              rw [List.length_take, Nat.min_eq_left hle]
            refine ⟨t.take w.length, t.drop w.length, (List.take_append_drop _ t).symm,
              ⟨⟨w, k, hw, hword, hsize⟩, ?_, ?_⟩, rfl⟩
            · -- without such a letter the word would be a keyword
              by_contra hplain
              have hlower : (t.take w.length).map Char.toLower = w :=
                map_toLower_of_beginsWith hword hsize fun c hc h => hplain ⟨c, hc, h⟩
              rw [exactKeyword?, hlower, Option.map_eq_none_iff, List.find?_eq_none] at hexact
              exact hexact _ hw (decide_eq_true rfl)
            · obtain ⟨rest, hrest⟩ := List.head?_eq_some_iff.1 hcolon
              rw [← List.drop_drop, drop_run] at hrest
              refine ⟨(t.drop w.length).takeWhile isBlank, rest, ?_, fun c hc => ?_⟩
              · rw [← hrest, List.takeWhile_append_dropWhile]
              · exact List.all_eq_true.1 List.all_takeWhile c hc
          · cases hlength
        · rw [if_neg hbegins] at hlength
          cases hlength

/-! ## Moves -/

/-- **What can stop a move**: a character without use, or a keyword in strange letters. -/
theorem move_error (h : m.move c t = .error cause) :
    (m.Refuses c ∧ cause = m.refusal c) ∨
      (m = body true ∧ ∃ word after, c :: t = word ++ after ∧ StrangeWord word after ∧
        cause = .strangeKeyword word) := by
  cases m with
  | between => exact .inl (moveBetween_error h)
  | declaration => exact .inl (moveDeclaration_error h)
  | body fresh =>
    unfold move moveBody at h
    dsimp only at h
    split at h
    · cases h
    · split at h
      · cases h
      · split at h
        · rename_i found hfound
          cases fresh with
          | false => cases hfound
          | true =>
            rw [if_pos rfl, h] at hfound
            exact .inr ⟨rfl, keywordMove?_error hfound⟩
        · cases h

end Mode

/-! ## What is in front -/

/-- A text is passed in stretches, one move at a time, up to some rest. -/
inductive Passes : Mode → Text → Text → List Stretch → Text → Prop
  | here (m : Mode) (before t : Text) : Passes m before t [] t
  | skip {m : Mode} {c : Char} {before t rest : Text} {n : Nat} {ss : List Stretch} :
      m.move c t = .ok ⟨none, n, m⟩ → Passes m (before ++ c :: t.take n) (t.drop n) ss rest →
        Passes m before (c :: t) (.layout (c :: t.take n) :: ss) rest
  | take {m : Mode} {c : Char} {before t rest : Text} {n : Nat} {k : TokenKind}
      {ss : List Stretch} :
      m.move c t = .ok ⟨some k, n, k.modeBehind⟩ →
        Passes k.modeBehind (before ++ c :: t.take n) (t.drop n) ss rest →
          Passes m before (c :: t) (.token ⟨k, c :: t.take n, .behind before⟩ :: ss) rest

/-- What stands in front of the rest of a document: tokens that tell their places, and layout. -/
structure Coverage (source : Text) (ss : List Stretch) (rest : Text) : Prop where
  covers : textOf ss ++ rest = source
  placed : ∀ before u after, ss = before ++ .token u :: after →
    u.position = .behind (textOf before) ∧ u.value ≠ [] ∧ u.kind ≠ .finish
  layout : ∀ before u after, ss = before ++ .layout u :: after →
    IsLayout (modeAfter .between before) (textOf before) u (textOf after ++ rest)

namespace Passes

variable {m : Mode} {before t rest : Text} {pre post ss : List Stretch}

theorem covers (h : Passes m before t ss rest) : textOf ss ++ rest = t := by
  induction h with
  | here m before t => rfl
  | skip _ _ ih => simp [Stretch.text, ih]
  | take _ _ ih => simp [Stretch.text, ih]

/-- Behind some of the stretches, what is left is passed in the others. -/
theorem split (h : Passes m before t (pre ++ post) rest) (hready : Ready m before t) :
    ∃ t', Passes (modeAfter m pre) (before ++ textOf pre) t' post rest ∧
      Ready (modeAfter m pre) (before ++ textOf pre) t' := by
  induction pre generalizing m before t with
  | nil => exact ⟨t, by simpa using h, by simpa using hready⟩
  | cons first pre ih =>
    rw [List.cons_append] at h
    generalize hss : pre ++ post = more at h
    cases h with
    | skip hmove hrest =>
      subst hss
      obtain ⟨t', hpasses, hready'⟩ := ih hrest (hready.skip hmove)
      exact ⟨t', by simpa [Stretch.text] using hpasses, by simpa [Stretch.text] using hready'⟩
    | take hmove hrest =>
      subst hss
      obtain ⟨t', hpasses, hready'⟩ := ih hrest (.take hmove before)
      exact ⟨t', by simpa [Stretch.text] using hpasses, by simpa [Stretch.text] using hready'⟩

theorem coverage (h : Passes .between [] t ss rest) : Coverage t ss rest := by
  have hready : Ready .between [] t := fun _ => .inl (by simp [OpensLine])
  refine ⟨h.covers, ?_, ?_⟩
  · rintro before u after rfl
    obtain ⟨t', hpasses, -⟩ := h.split hready
    rw [List.nil_append] at hpasses
    cases hpasses with
    | take hmove _ => exact ⟨rfl, List.cons_ne_nil _ _, Mode.move_ne_finish hmove⟩
  · rintro before u after rfl
    obtain ⟨t', hpasses, hready'⟩ := h.split hready
    rw [List.nil_append] at hpasses hready'
    cases hpasses with
    | skip hmove hrest =>
      rw [hrest.covers]
      exact hready'.isLayout hmove

end Passes

namespace Token

/-- A scan that fails passes what is in front of a character and is stopped there. -/
theorem passes_of_error (m : Mode) (before t : Text) {f : ScanFault}
    (h : scanFrom m (.behind before) t = .error f) :
    ∃ ss c rest, Passes m before t ss (c :: rest) ∧
      (modeAfter m ss).move c rest = .error f.cause ∧ f.position = .behind (before ++ textOf ss) := by
  generalize hp : Position.behind before = p at h
  induction m, p, t using scanFrom_induction generalizing before with
  | finish m p =>
    rw [scanFrom_nil] at h
    cases h
  | fault m p c t cause hmove =>
    subst hp
    rw [scanFrom_error hmove] at h
    cases h
    exact ⟨[], c, t, .here m before _, hmove, by simp⟩
  | skip m p c t n hmove ih =>
    subst hp
    rw [scanFrom_skip hmove, Position.after_behind] at h
    rw [Position.after_behind] at ih
    obtain ⟨ss, d, rest, hpasses, hstop, hposition⟩ := ih _ rfl h
    exact ⟨_, d, rest, .skip hmove hpasses, by simpa using hstop,
      by simpa [Stretch.text] using hposition⟩
  | take m p c t n k hmove ih =>
    subst hp
    rw [scanFrom_take hmove, Position.after_behind] at h
    rw [Position.after_behind] at ih
    cases hrest : scanFrom k.modeBehind (.behind (before ++ c :: t.take n)) (t.drop n) with
    | ok tokens =>
      rw [hrest] at h
      cases h
    | error f' =>
      rw [hrest] at h
      cases h
      obtain ⟨ss, d, rest, hpasses, hstop, hposition⟩ := ih _ rfl hrest
      exact ⟨_, d, rest, .take hmove hpasses, by simpa using hstop,
        by simpa [Stretch.text] using hposition⟩

/-- A refused character is told at its place, with one of two codes. -/
theorem toFailure_refusal (m : Mode) (c : Char) (p : Position) (path : Text) :
    ∃ message code : Text, (code = "INVALID_TOKEN" ∨ code = "INVALID_SEPARATOR") ∧
      ScanFault.toFailure path ⟨m.refusal c, p⟩ = .template ⟨.badSyntax, message,
        ⟨Location.present? (some path), some p.line, some p.column, none⟩, some code, none⟩ := by
  cases m with
  | declaration =>
    by_cases hc : c = ';'
    · rw [Mode.refusal, if_pos hc]
      exact ⟨_, _, .inr rfl, rfl⟩
    · rw [Mode.refusal, if_neg hc]
      exact ⟨_, _, .inl rfl, rfl⟩
  | _ => exact ⟨_, _, .inl rfl, rfl⟩

/-- **How the cutting of a document ends.**  There are tokens, the end among them once and last; or
the cutting stops at a character that the mode there refuses, behind tokens and layout, and the
error tells the place of that character; or it stops at a keyword that begins the content of a body
line and is spelt with a letter outside ASCII. -/
theorem scan_outcome (source : Text) :
    (∃ us e, scan source = .ok (us ++ [e]) ∧ e.kind = .finish ∧ ∀ k ∈ us, k.kind ≠ .finish) ∨
    (∃ f ss c rest, scan source = .error f ∧ Passes .between [] source ss (c :: rest) ∧
      Coverage source ss (c :: rest) ∧ (modeAfter .between ss).Refuses c ∧
      ∀ path, ∃ message code : Text, (code = "INVALID_TOKEN" ∨ code = "INVALID_SEPARATOR") ∧
        f.toFailure path = .template ⟨.badSyntax, message,
          ⟨Location.present? (some path), some (Position.behind (textOf ss)).line,
            some (Position.behind (textOf ss)).column, none⟩, some code, none⟩) ∨
    (∃ f ss word after, scan source = .error f ∧ Passes .between [] source ss (word ++ after) ∧
      Coverage source ss (word ++ after) ∧ modeAfter .between ss = .body true ∧
      StrangeWord word after ∧
      ∀ path, f.toFailure path = .fault ⟨.key, Text.quoted (Text.toLower word)⟩) := by
  cases hscan : scan source with
  | ok tokens =>
    obtain ⟨us, e, rfl, he, hus⟩ := ended_of_scan hscan
    exact .inl ⟨us, e, rfl, he, hus⟩
  | error f =>
    obtain ⟨ss, c, rest, hpasses, hstop, hposition⟩ := passes_of_error .between [] source hscan
    obtain ⟨cause, position⟩ := f
    rw [List.nil_append] at hposition
    subst hposition
    right
    rcases Mode.move_error hstop with ⟨hrefuses, rfl⟩ | ⟨hmode, word, after, heq, hstrange, rfl⟩
    · exact .inl ⟨_, ss, c, rest, rfl, hpasses, hpasses.coverage, hrefuses,
        toFailure_refusal _ c _⟩
    · rw [heq] at hpasses
      exact .inr ⟨_, ss, word, after, rfl, hpasses, hpasses.coverage, hmode, hstrange,
        fun path => rfl⟩

/-- A small letter without its dot is equal to its own when case is ignored, and stays itself in
small letters: the keyword is found and then not known. -/
theorem scan_strange :
    (∀ path, (scan "- ıf: x".toList).mapError (ScanFault.toFailure path) =
        .error (.fault ⟨.key, Text.quoted (Text.toLower "ıf")⟩)) ∧
      ¬ ∃ f e, scan "- ıf: x".toList = .error f ∧ f.toFailure [] = .template e := by
  have hscan : (match scan "- ıf: x".toList with
      | .ok _ => false
      | .error f => decide (f.cause = .strangeKeyword "ıf".toList)) = true := by
    decide +kernel
  cases hfault : scan "- ıf: x".toList with
  | ok tokens =>
    rw [hfault] at hscan
    cases hscan
  | error f =>
    rw [hfault] at hscan
    obtain ⟨cause, position⟩ := f
    obtain rfl : cause = .strangeKeyword "ıf".toList := of_decide_eq_true hscan
    refine ⟨fun path => rfl, ?_⟩
    rintro ⟨f, e, hf, he⟩
    cases hf
    cases he

end Token

end Phrasebook
