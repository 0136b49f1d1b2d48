import Phrasebook.Proofs.Document.Printing
import Phrasebook.Rendering.Span

/-!
# Literal text in body lines

Every text can be spelt in a body line: backslashes stand in front of the characters that mean
something there, and line ends and tabs are spelt by letters.  Only marks of blocks have no
spelling.

* `escape`: the spelling of a text;
* `infix_of_infix_escape`: a spelling has no mark of a block that the text does not have;
* `Spells`: pieces that stand for a text;
* `Scan.keyword?_escape`: a spelling brings in no keyword;
* `Cuts.literal`: a spelling is cut into pieces that stand for the text.
-/

namespace Phrasebook

open Scan
open Text (infix_cons_iff_of_ne)

/-! ## Spelling a text -/

/-- The character that stands for another one behind a backslash. -/
def escapeLetter? : Char → Option Char
  | '\r' => some 'r'
  | '\n' => some 'n'
  | '\t' => some 't'
  | '\\' => some '\\'
  | '\x7b' => some '\x7b'
  | '\x7d' => some '\x7d'
  | '[' => some '['
  | ']' => some ']'
  | _ => none

/-- A character as it is spelt in a body line. -/
def escapeChar (c : Char) : Text :=
  match escapeLetter? c with
  | some d => ['\\', d]
  | none => [c]

/-- A text as it is spelt in a body line. -/
def escape (t : Text) : Text := t.flatMap escapeChar

theorem escapeLetter?_some {c d : Char} (h : escapeLetter? c = some d) :
    escaped? d = some c ∧ isEscapable d = true ∧ d ∉ blockMark := by
  unfold escapeLetter? at h
  split at h <;> cases h <;> exact ⟨rfl, rfl, by decide⟩

theorem escapeLetter?_none {c : Char} (h : escapeLetter? c = none) :
    c ≠ '\\' ∧ c ≠ '\x7b' ∧ c ≠ '[' ∧ c ≠ '\n' ∧ c ≠ '\r' := by
  refine ⟨?_, ?_, ?_, ?_, ?_⟩ <;> rintro rfl <;> cases h

theorem escape_cons_some {c d : Char} (h : escapeLetter? c = some d) (t : Text) :
    escape (c :: t) = '\\' :: d :: escape t := by
  rw [escape, List.flatMap_cons, escapeChar, h]
  rfl

theorem escape_cons_none {c : Char} (h : escapeLetter? c = none) (t : Text) :
    escape (c :: t) = c :: escape t := by
  rw [escape, List.flatMap_cons, escapeChar, h]
  rfl

theorem prefix_of_prefix_escape {u t : Text} (hu : ∀ c ∈ u, c = '\x60') (h : u <+: escape t) :
    u <+: t := by
  induction t generalizing u with
  | nil => exact h
  | cons c t ih =>
    cases u with
    | nil => exact List.nil_prefix
    | cons a u =>
      cases hc : escapeLetter? c with
      | some d =>
        rw [escape_cons_some hc, List.cons_prefix_cons, hu a List.mem_cons_self] at h
        exact absurd h.1 (by decide)
      | none =>
        rw [escape_cons_none hc, List.cons_prefix_cons] at h
        rw [List.cons_prefix_cons]
        exact ⟨h.1, ih (fun b hb => hu b (List.mem_cons_of_mem a hb)) h.2⟩

/-- A spelling has no mark of a block that the text does not have. -/
theorem infix_of_infix_escape {t : Text} (h : blockMark <:+: escape t) : blockMark <:+: t := by
  induction t with
  | nil => exact h
  | cons c t ih =>
    cases hc : escapeLetter? c with
    | some d =>
      have hd := (escapeLetter?_some hc).2.2
      rw [escape_cons_some hc, infix_cons_iff_of_ne (by decide) (by decide),
        infix_cons_iff_of_ne hd (by decide)] at h
      exact List.infix_cons (ih h)
    | none =>
      rw [escape_cons_none hc, List.infix_cons_iff, ← escape_cons_none hc] at h
      rcases h with h | h
      · exact (prefix_of_prefix_escape (by simp [blockMark]) h).isInfix
      · exact List.infix_cons (ih h)

/-! ## What a spelling is read as -/

theorem unescape_of_notMem {t : Text} (h : '\\' ∉ t) : unescape t = t := by
  fun_induction unescape t with
  | case1 => rfl
  | case2 c => rfl
  | case3 d rest e _ _ => exact absurd List.mem_cons_self h
  | case4 d rest _ _ => exact absurd List.mem_cons_self h
  | case5 c d rest _ ih => rw [ih fun hmem => h (List.mem_cons_of_mem c hmem)]

theorem unescape_escapeLetter {c d : Char} (h : escapeLetter? c = some d) :
    unescape ['\\', d] = [c] := by
  rw [unescape, if_pos rfl, (escapeLetter?_some h).1]
  rfl

/-- The kinds of the pieces that stand for a text. -/
def TokenKind.isLiteral : TokenKind → Bool
  | blanks | escape | separator | text => true
  | _ => false

/-- The kinds of the fragments that stand for a text. -/
def FragmentKind.isLiteral : FragmentKind → Bool
  | text | whitespace | separator | escape | invalidEscape => true
  | expression | reference | multiLine => false

theorem TokenKind.isLiteral_fragmentKind {k : TokenKind} (h : k.isLiteral = true) :
    k.fragmentKind.isLiteral = true := by
  cases k <;> first | rfl | cases h

/-- The pieces of a line that stand for a text. -/
structure Spells (line : List Piece) (t : Text) : Prop where
  literal : ∀ p ∈ line, p.1.isLiteral = true
  text : line.flatMap (fun p => unescape p.2) = t

theorem Spells.nil : Spells [] [] where
  literal := by simp
  text := rfl

theorem Spells.cons {line : List Piece} {t u v : Text} {k : TokenKind} (hk : k.isLiteral = true)
    (hv : unescape v = u) (h : Spells line t) : Spells ((k, v) :: line) (u ++ t) where
  literal := by
    intro p hp
    rcases List.mem_cons.1 hp with rfl | hp
    · exact hk
    · exact h.literal p hp
  text := by rw [List.flatMap_cons, hv, h.text]

/-- A run of characters in a spelling is a run of characters of the text. -/
theorem run_escape {p : Char → Bool} {w : Text} (hp : p '\\' = false)
    (hw : ∀ c ∈ w.head?, p c = false) (t : Text) :
    ∃ a b, t = a ++ b ∧ escape t = a ++ escape b ∧ (∀ c ∈ a, p c = true) ∧
      run p (escape t ++ w) = a.length := by
  induction t with
  | nil =>
    refine ⟨[], [], rfl, rfl, by simp, ?_⟩
    cases w with
    | nil => rfl
    | cons c w =>
      have hc := hw c rfl
      rw [escape, List.flatMap_nil, List.nil_append, run,
        List.takeWhile_cons_of_neg (by rw [hc]; decide)]
  | cons c t ih =>
    cases hc : escapeLetter? c with
    | some d =>
      refine ⟨[], c :: t, rfl, rfl, by simp, ?_⟩
      rw [escape_cons_some hc, List.cons_append, run,
        List.takeWhile_cons_of_neg (by rw [hp]; decide)]
    | none =>
      by_cases hpc : p c = true
      · obtain ⟨a, b, rfl, hescape, hall, hrun⟩ := ih
        refine ⟨c :: a, b, rfl, by rw [escape_cons_none hc, hescape]; rfl, ?_, ?_⟩
        · intro d hd
          rcases List.mem_cons.1 hd with rfl | hd
          · exact hpc
          · exact hall d hd
        · rw [escape_cons_none hc, List.cons_append, run, List.takeWhile_cons_of_pos hpc]
          exact congrArg (· + 1) hrun
      · refine ⟨[], c :: t, rfl, rfl, by simp, ?_⟩
        rw [escape_cons_none hc, List.cons_append, run, List.takeWhile_cons_of_neg hpc]

namespace Scan

/-- A character of a run of text, blocks aside. -/
def isPlain (c : Char) : Bool := !(isSeparator c || c == '\\')

theorem textLength_eq_run {t : Text} (h : ¬ blockMark <:+: t) : textLength t = run isPlain t := by
  induction t with
  | nil => rfl
  | cons c t ih =>
    have hbegins : blockMark.isPrefixOf (c :: t) = false := by
      rw [Bool.eq_false_iff, ne_eq, List.isPrefixOf_iff_prefix]
      exact fun hmark => h hmark.isInfix
    rw [textLength, hbegins, Bool.or_false]
    cases hc : isSeparator c || c == '\\' with
    | true =>
      rw [if_pos rfl, run, List.takeWhile_cons_of_neg (by simp [isPlain, hc])]
      rfl
    | false =>
      rw [if_neg Bool.false_ne_true, run, List.takeWhile_cons_of_pos (by simp [isPlain, hc]),
        ih fun hmark => h (List.infix_cons hmark)]
      rfl

theorem blockLength?_eq_none {t : Text} (h : ¬ blockMark <:+: t) : blockLength? t = none := by
  rw [blockLength?_eq_none_iff]
  rintro rest rfl
  exact absurd (List.prefix_append blockMark rest).isInfix h

end Scan

namespace Scan

/-! ## Keywords in a spelling -/

/-- No letter of a word is one of the characters that a spelling brings in. -/
def OnText (word : Text) : Prop :=
  ∀ letter ∈ word, ∀ c ∈ ['\\', '\x7b', '\n'], sameLetter c letter = false

theorem onText_of_mem_keywords {word : Text} {k : Keyword} (h : (word, k) ∈ keywords) :
    OnText word := by
  have hall : ∀ w ∈ keywords, ∀ letter ∈ w.1, ∀ c ∈ ['\\', '\x7b', '\n'],
      sameLetter c letter = false := by simp [keywords, sameLetter]
  exact hall _ h

variable {w : Text}

/-- A word at the beginning of a spelling is a word at the beginning of the text. -/
theorem beginsWith_escape {word t : Text} (hword : OnText word)
    (hw : ∀ c ∈ w.head?, c = '\x7b' ∨ c = '\n') (h : beginsWith word (escape t ++ w) = true) :
    ∃ a b, t = a ++ b ∧ escape t = a ++ escape b ∧ a.length = word.length ∧
      beginsWith word t = true := by
  induction word generalizing t with
  | nil => exact ⟨[], t, rfl, rfl, rfl, rfl⟩
  | cons letter word ih =>
    have hletter : ∀ {c u}, c ∈ ['\\', '\x7b', '\n'] →
        beginsWith (letter :: word) (c :: u) ≠ true := by
      intro c u hc
      rw [beginsWith, hword letter List.mem_cons_self c hc, Bool.false_and]
      exact Bool.false_ne_true
    cases t with
    | nil =>
      rw [escape, List.flatMap_nil, List.nil_append] at h
      cases w with
      | nil => cases h
      | cons c w => rcases hw c rfl with rfl | rfl <;> exact absurd h (hletter (by decide))
    | cons c t =>
      cases hc : escapeLetter? c with
      | some d =>
        rw [escape_cons_some hc] at h
        exact absurd h (hletter (by decide))
      | none =>
        rw [escape_cons_none hc, List.cons_append, beginsWith, Bool.and_eq_true] at h
        obtain ⟨a, b, rfl, hescape, hlength, hbegins⟩ :=
          ih (fun l hl => hword l (List.mem_cons_of_mem letter hl)) h.2
        refine ⟨c :: a, b, rfl, by rw [escape_cons_none hc, hescape]; rfl, ?_, ?_⟩
        · rw [List.length_cons, List.length_cons, hlength]
        · rw [beginsWith, h.1, hbegins]
          rfl

theorem wordLength?_escape {word t : Text} (hword : OnText word)
    (hw : ∀ c ∈ w.head?, c = '\x7b' ∨ c = '\n') (h : wordLength? word t = none) :
    wordLength? word (escape t ++ w) = none := by
  unfold wordLength? at h ⊢
  by_cases hbegins : beginsWith word (escape t ++ w) = true
  · obtain ⟨a, b, rfl, hescape, hlength, hbegins'⟩ := beginsWith_escape hword hw hbegins
    have hend : ∀ c ∈ w.head?, isBlank c = false := by
      intro c hc
      rcases hw c hc with rfl | rfl <;> rfl
    obtain ⟨a', b', rfl, hescape', hall, hrun⟩ := run_escape rfl hend b
    rw [if_pos hbegins'] at h
    rw [if_pos hbegins, hescape, List.append_assoc, ← hlength]
    rw [← hlength] at h
    dsimp only at h ⊢
    rw [List.drop_left, ← List.drop_drop, List.drop_left] at h ⊢
    rw [hrun, hescape', List.append_assoc, List.drop_left, if_neg]
    intro hcolon
    -- the colon behind the blanks is a colon of the text
    obtain ⟨rest, rfl⟩ : ∃ rest, b' = ':' :: rest := by
      cases b' with
      | nil =>
        rcases hw _ hcolon with h | h <;> cases h
      | cons c rest =>
        cases hc : escapeLetter? c with
        | some d =>
          rw [escape_cons_some hc] at hcolon
          cases hcolon
        | none =>
          rw [escape_cons_none hc] at hcolon
          cases hcolon
          exact ⟨rest, rfl⟩
    have hrun' : run isBlank (a' ++ ':' :: rest) = a'.length := by
      rw [run, List.takeWhile_append_of_pos hall, List.takeWhile_cons_of_neg (by decide),
        List.append_nil]
    rw [hrun', List.drop_left, List.head?_cons, if_pos rfl] at h
    cases h
  · rw [if_neg hbegins]

/-- A spelling begins with a keyword only where the text does. -/
theorem keyword?_escape {t : Text} (hw : ∀ c ∈ w.head?, c = '\x7b' ∨ c = '\n')
    (h : keyword? t = none) : keyword? (escape t ++ w) = none := by
  unfold keyword? at h ⊢
  rw [List.findSome?_eq_none_iff] at h ⊢
  rintro ⟨word, k⟩ hmem
  have hword := h (word, k) hmem
  rw [Option.map_eq_none_iff] at hword ⊢
  exact wordLength?_escape (onText_of_mem_keywords hmem) hw hword

end Scan

namespace Cuts

open Mode

variable {w : Text} {pieces : List Piece}

/-! ## Cutting a spelling -/

/-- A backslash and the letter behind it are cut as one piece. -/
theorem escaped {c d : Char} {t : Text} (hc : escapeLetter? c = some d)
    (h : Cuts (.body false) t pieces) :
    Cuts (.body false) ('\\' :: d :: t) ((.escape, ['\\', d]) :: pieces) := by
  have hcontent : content '\\' (d :: t) = (.escape, 1) := by
    unfold content
    rw [show blockLength? ('\\' :: d :: t) = none from rfl]
    simp only [if_true, (escapeLetter?_some hc).2.1]
  have hmove : moveBody false '\\' (d :: t) = .ok ⟨some .escape, 1, .body false⟩ := by
    rw [moveBody_content rfl (by decide) (by decide), hcontent]
  exact .take (m := .body false) hmove h

/-- The move at a character that needs no backslash. -/
theorem move_literal {c : Char} (hc : escapeLetter? c = none) {t : Text}
    (hmark : ¬ blockMark <:+: c :: t) :
    (∃ k p, k.isLiteral = true ∧ (∀ d ∈ ['\\', '\x7b', '\n'], p d = false) ∧
        moveBody false c t = .ok ⟨some k, run p t, .body false⟩) ∨
      moveBody false c t = .ok ⟨some .separator, 0, .body false⟩ := by
  obtain ⟨hback, hbrace, hbracket, hline, hreturn⟩ := escapeLetter?_none hc
  cases hblank : isBlank c with
  | true =>
    rw [moveBody, if_pos hblank]
    exact .inl ⟨.blanks, isBlank, rfl, by simp [isBlank], rfl⟩
  | false =>
    rw [moveBody_content hblank hline hreturn]
    unfold content
    rw [blockLength?_eq_none hmark]
    simp only [if_neg hback, if_neg hbrace, if_neg hbracket]
    cases hseparator : isSeparator c with
    | true =>
      rw [if_pos rfl]
      exact .inr rfl
    | false =>
      have hplain : isPlain c = true := by simp [isPlain, hseparator, hback]
      have hlength : textLength (c :: t) - 1 = run isPlain t := by
        rw [textLength_eq_run hmark, run, List.takeWhile_cons_of_pos hplain]
        rfl
      rw [if_neg Bool.false_ne_true, hlength]
      exact .inl ⟨.text, isPlain, rfl, by simp [isPlain, isSeparator, isLineEnd], rfl⟩

/-- **A spelling is cut into pieces that stand for the text**, in front of an expression or the end
of a line. -/
theorem literal (t : Text) (hw : ∀ c ∈ w.head?, c = '\x7b' ∨ c = '\n')
    (hmark : ¬ blockMark <:+: escape t ++ w) (h : Cuts (.body false) w pieces) :
    ∃ line, Spells line t ∧ Cuts (.body false) (escape t ++ w) (line ++ pieces) := by
  induction hlength : t.length using Nat.strongRecOn generalizing t with
  | ind n ih =>
    cases t with
    | nil => exact ⟨[], .nil, h⟩
    | cons c t =>
      rw [List.length_cons] at hlength
      cases hc : escapeLetter? c with
      | some d =>
        rw [escape_cons_some hc] at hmark ⊢
        have hmark' : ¬ blockMark <:+: escape t ++ w :=
          fun hm => hmark (List.infix_cons (List.infix_cons hm))
        obtain ⟨line, hline, hcuts⟩ := ih t.length (by omega) t hmark' rfl
        exact ⟨_, hline.cons rfl (unescape_escapeLetter hc), hcuts.escaped hc⟩
      | none =>
        rw [escape_cons_none hc] at hmark ⊢
        rw [List.cons_append] at hmark ⊢
        have hmark' : ¬ blockMark <:+: escape t ++ w := fun hm => hmark (List.infix_cons hm)
        rcases move_literal hc hmark with ⟨k, p, hk, hp, hmove⟩ | hmove
        · -- a run of the spelling: the induction goes on behind it
          have hend : ∀ d ∈ w.head?, p d = false := by
            intro d hd
            rcases hw d hd with rfl | rfl <;> exact hp _ (by decide)
          obtain ⟨a, b, rfl, hescape, hall, hrun⟩ := run_escape (hp _ (by decide)) hend t
          rw [List.length_append] at hlength
          rw [hrun] at hmove
          rw [hescape, List.append_assoc] at hmove hmark' ⊢
          have hmark'' : ¬ blockMark <:+: escape b ++ w :=
            fun hm => hmark' (hm.trans (List.suffix_append a _).isInfix)
          obtain ⟨line, hline, hcuts⟩ := ih b.length (by omega) b hmark'' rfl
          have hpiece : unescape (c :: a) = c :: a := by
            refine unescape_of_notMem ?_
            rw [List.mem_cons, not_or]
            refine ⟨(escapeLetter?_none hc).1.symm, fun hmem => ?_⟩
            have hback := hall '\\' hmem
            rw [hp '\\' (by decide)] at hback
            cases hback
          refine ⟨(k, c :: a) :: line, hline.cons hk hpiece, ?_⟩
          have htaken := Cuts.take (m := .body false) hmove (by
            rw [List.drop_left' rfl]
            exact hcuts)
          rwa [List.take_left' rfl] at htaken
        · obtain ⟨line, hline, hcuts⟩ := ih t.length (by omega) t hmark' rfl
          exact ⟨(.separator, [c]) :: line, hline.cons rfl rfl, .take (m := .body false) hmove hcuts⟩

end Cuts

end Phrasebook
