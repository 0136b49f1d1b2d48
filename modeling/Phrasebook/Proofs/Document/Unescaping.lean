import Phrasebook.Proofs.Document.Slices
import Phrasebook.Proofs.Document.Spelling

/-!
# Escapes and the pieces of a line

Escapes are looked for twice: when a line is cut into pieces, and when a text is unescaped.  Both
find the same ones.  Each escape of a line is a piece of its own, and no other piece holds one or
takes part in one, at the end of the line and of the document as anywhere else.

* `units`: what unescaping reads at once;
* `FragmentKind.units`: the units of a piece that stands for a text;
* `Scan.content_literal`: what a piece of literal content is;
* `Laid.units_line`: the units of a line are those of its pieces.
-/

namespace Phrasebook

open Scan

/-! ## What unescaping reads at once -/

/-- The units that unescaping reads: a backslash with a character that it makes another one of, and
otherwise single characters. -/
def units : Text → List Text
  | [] => []
  | [c] => [[c]]
  | c :: d :: t =>
    if c = '\\' ∧ (escaped? d).isSome then [c, d] :: units t else [c] :: units (d :: t)

/-- Each unit gives one character. -/
theorem length_unescape_of_mem_units {t u : Text} (h : u ∈ units t) : (unescape u).length = 1 := by
  fun_induction units t with
  | case1 => cases h
  | case2 c =>
    rw [List.mem_singleton.1 h]
    rfl
  | case3 c d t hcond ih =>
    obtain ⟨rfl, hd⟩ := hcond
    rcases List.mem_cons.1 h with rfl | h
    · obtain ⟨e, he⟩ := Option.isSome_iff_exists.1 hd
      simp [unescape, he]
    · exact ih h
  | case4 c d t hcond ih =>
    rcases List.mem_cons.1 h with rfl | h
    · rfl
    · exact ih h

/-- Unescaping a text is unescaping its units. -/
theorem unescape_eq_flatMap_units (t : Text) : unescape t = (units t).flatMap unescape := by
  fun_induction units t with
  | case1 => rfl
  | case2 c => rfl
  | case3 c d t hcond ih =>
    obtain ⟨rfl, hd⟩ := hcond
    obtain ⟨e, he⟩ := Option.isSome_iff_exists.1 hd
    rw [List.flatMap_cons, ← ih]
    simp [unescape, he]
  | case4 c d t hcond ih =>
    rw [List.flatMap_cons, ← ih]
    by_cases hc : c = '\\'
    · have hd : escaped? d = none := Option.not_isSome_iff_eq_none.1 fun hd => hcond ⟨hc, hd⟩
      simp [unescape, hd]
    · simp [unescape, hc]

/-- The characters that a backslash makes literal in a line are those that it makes another one of
when a text is unescaped. -/
theorem isSome_escaped? (d : Char) : (escaped? d).isSome = isEscapable d := by
  unfold escaped?
  split
  case h_9 =>
    simp_all [isEscapable]
  all_goals rfl

theorem units_cons {c : Char} (h : c ≠ '\\') (t : Text) : units (c :: t) = [c] :: units t := by
  cases t with
  | nil => rfl
  | cons d t => rw [units, if_neg fun hc => h hc.1]

theorem units_escape {d : Char} (h : isEscapable d = true) (t : Text) :
    units ('\\' :: d :: t) = ['\\', d] :: units t := by
  rw [units, if_pos ⟨rfl, (isSome_escaped? d).trans h⟩]

/-- A backslash in front of anything else is a unit of its own. -/
theorem units_backslash {t : Text} (h : ∀ d ∈ t.head?, isEscapable d = false) :
    units ('\\' :: t) = ['\\'] :: units t := by
  cases t with
  | nil => rfl
  | cons d t =>
    rw [units, if_neg]
    rintro ⟨-, hd⟩
    rw [isSome_escaped?, h d rfl] at hd
    cases hd

theorem units_append_of_notMem {v : Text} (h : '\\' ∉ v) (w : Text) :
    units (v ++ w) = v.map ([·]) ++ units w := by
  induction v with
  | nil => rfl
  | cons c v ih =>
    rw [List.mem_cons, not_or] at h
    rw [List.cons_append, units_cons (Ne.symm h.1), ih h.2]
    rfl

/-- A backslash is a character that a backslash makes literal. -/
theorem ne_backslash_of_isEscapable {d : Char} (h : isEscapable d = false) : d ≠ '\\' := by
  rintro rfl
  cases h

/-! ## Pieces of literal content -/

/-- The units of a literal piece: an escape is one, and so is each character of any other piece. -/
def FragmentKind.units (k : FragmentKind) (v : Text) : List Text :=
  if k = .escape then [v] else v.map ([·])

theorem Scan.notMem_take_textLength (t : Text) : '\\' ∉ t.take (textLength t) := by
  induction t with
  | nil => simp
  | cons c t ih =>
    rw [textLength]
    split
    · simp
    · rename_i hc
      have hback : c ≠ '\\' := by
        rintro rfl
        exact hc rfl
      simpa [List.take_succ_cons, Ne.symm hback] using ih

/-- **What a piece of literal content is**: a backslash with a character that it makes literal, a
backslash without one, or characters none of which is a backslash. -/
theorem Scan.content_literal {c : Char} {t : Text} {k : TokenKind} {n : Nat}
    (h : content c t = (k, n)) (hk : k.fragmentKind.isLiteral = true) :
    (k = .escape ∧ c = '\\' ∧ ∃ d rest, t = d :: rest ∧ isEscapable d = true ∧ n = 1) ∨
      (k = .invalidEscape ∧ c = '\\' ∧ (∀ d ∈ t.head?, isEscapable d = false) ∧
        (n = 0 ∨ n = 1)) ∨
      (k.fragmentKind ≠ .escape ∧ '\\' ∉ c :: t.take n) := by
  unfold content at h
  split at h
  · cases h
    cases hk
  · by_cases hc : c = '\\'
    · rw [if_pos hc] at h
      cases t with
      | nil =>
        cases h
        exact .inr (.inl ⟨rfl, hc, by simp, .inl rfl⟩)
      | cons d rest =>
        dsimp only at h
        cases hd : isEscapable d with
        | true =>
          rw [hd, if_pos rfl] at h
          cases h
          exact .inl ⟨rfl, hc, d, rest, rfl, hd, rfl⟩
        | false =>
          have hhead : ∀ e ∈ (d :: rest).head?, isEscapable e = false := by
            rintro e ⟨⟩
            exact hd
          rw [hd, if_neg Bool.false_ne_true] at h
          split at h <;> cases h
          · exact .inr (.inl ⟨rfl, hc, hhead, .inl rfl⟩)
          · exact .inr (.inl ⟨rfl, hc, hhead, .inr rfl⟩)
    · rw [if_neg hc] at h
      dsimp only at h
      split at h
      · -- an expression or a reference
        rename_i found hspan
        subst h
        split at hspan
        · obtain ⟨i, -, hfound⟩ := Option.map_eq_some_iff.1 hspan
          cases hfound
          cases hk
        · split at hspan
          · obtain ⟨i, -, hfound⟩ := Option.map_eq_some_iff.1 hspan
            cases hfound
            cases hk
          · cases hspan
      · right; right
        split at h
        · cases h
          exact ⟨by decide, by simpa using Ne.symm hc⟩
        · cases h
          refine ⟨by decide, ?_⟩
          rw [List.mem_cons, not_or]
          refine ⟨Ne.symm hc, fun hmem => ?_⟩
          -- a run of text that is empty is cut as one character
          cases hlength : textLength (c :: t) with
          | zero => simp [hlength] at hmem
          | succ i =>
            have hnot := notMem_take_textLength (c :: t)
            rw [hlength, List.take_succ_cons, List.mem_cons, not_or] at hnot
            rw [hlength] at hmem
            exact hnot.2 hmem

/-- **A piece of a line keeps its units**, however much of the line follows. -/
theorem Mode.units_move {c : Char} {t w : Text} {k : TokenKind} {n : Nat} {m : Mode}
    (h : moveBody false c t = .ok ⟨some k, n, m⟩) (hk : k.endsLine = false)
    (hliteral : k.fragmentKind.isLiteral = true) (hw : w <+: t.drop n) :
    units (c :: t.take n ++ w) = k.fragmentKind.units (c :: t.take n) ++ units w := by
  have hplain : k.fragmentKind ≠ .escape → '\\' ∉ c :: t.take n →
      units (c :: t.take n ++ w) = k.fragmentKind.units (c :: t.take n) ++ units w := by
    intro hne hback
    rw [units_append_of_notMem hback, FragmentKind.units, if_neg hne]
  rcases moveBody_cases h with ⟨hblank, hm⟩ | ⟨-, _, -, hm⟩ | ⟨hfresh, -⟩ | ⟨-, -, -, hm⟩
  · cases hm
    refine hplain (by decide) fun hmem => ?_
    have hback : isBlank '\\' = true := by
      rcases List.mem_cons.1 hmem with rfl | hmem
      · exact hblank
      · exact of_mem_take_run hmem
    cases hback
  · cases hm
    cases hk
  · cases hfresh
  · obtain ⟨hkind, hextra, -⟩ := Move.mk.inj hm
    have hcontent : content c t = (k, n) := Prod.ext (Option.some.inj hkind).symm hextra.symm
    rcases content_literal hcontent hliteral with
      ⟨rfl, rfl, d, rest, rfl, hd, rfl⟩ | ⟨rfl, rfl, hhead, rfl | rfl⟩ | ⟨hne, hback⟩
    · exact units_escape hd w
    · -- what follows a backslash alone begins as the rest of the line does
      obtain ⟨u, rfl⟩ := hw
      have hhead' : ∀ d ∈ w.head?, isEscapable d = false := fun d hd =>
        hhead d (by rw [List.head?_append, Option.mem_def.1 hd]; rfl)
      exact units_backslash hhead'
    · cases t with
      | nil =>
        obtain rfl := List.prefix_nil.1 hw
        rfl
      | cons d rest =>
        have hback := ne_backslash_of_isEscapable (hhead d rfl)
        show units ('\\' :: d :: w) = ['\\'] :: [d] :: units w
        rw [units_backslash (t := d :: w) hhead, units_cons hback]
    · exact hplain hne hback

/-! ## The pieces of a line -/

namespace Laid

variable {before t : Text} {ss : List Stretch} {ts us : List Token}

/-- The units of a piece of a line are those of its kind. -/
theorem units_of_mem (h : Laid (.body false) before t ss)
    (htokens : ss.filterMap Stretch.token? = ts ++ us) (hts : ∀ u ∈ ts, u.kind.endsLine = false)
    {u : Token} (hu : u ∈ ts) (hliteral : u.kind.fragmentKind.isLiteral = true) :
    units u.value = u.kind.fragmentKind.units u.value := by
  obtain ⟨ts₁, ts₂, rfl⟩ := List.append_of_mem hu
  rw [List.append_assoc] at htokens
  obtain ⟨rest, ss', -, hlaid, htokens'⟩ :=
    h.line htokens fun v hv => hts v (List.mem_append_left _ hv)
  obtain ⟨c, rest', n, _, -, hvalue, hmove, -⟩ := hlaid.take_body htokens' (hts u hu)
  have hunits := Mode.units_move hmove (hts u hu) hliteral (List.nil_prefix)
  rwa [List.append_nil, units, List.append_nil, ← hvalue] at hunits

/-- **The units of a line of literal pieces are those of its pieces**: no escape is split between
two of them, and none is formed of two. -/
theorem units_line (h : Laid (.body false) before t ss)
    (htokens : ss.filterMap Stretch.token? = ts ++ us) (hts : ∀ u ∈ ts, u.kind.endsLine = false)
    (hliteral : ∀ u ∈ ts, u.kind.fragmentKind.isLiteral = true) :
    units (ts.flatMap (·.value)) = ts.flatMap fun u => u.kind.fragmentKind.units u.value := by
  induction ts generalizing before t ss with
  | nil => rfl
  | cons u ts ih =>
    have hu := hts u List.mem_cons_self
    have hts' : ∀ v ∈ ts, v.kind.endsLine = false := fun v hv => hts v (List.mem_cons_of_mem u hv)
    obtain ⟨c, rest, n, ss', rfl, hvalue, hmove, hlaid, htokens'⟩ := h.take_body htokens hu
    obtain ⟨rest', _, hrest, -, -⟩ := hlaid.line htokens' hts'
    have hprefix : ts.flatMap (·.value) <+: rest.drop n := hrest ▸ List.prefix_append _ _
    have hfirst := Mode.units_move hmove hu (hliteral u List.mem_cons_self) hprefix
    rw [← hvalue] at hfirst
    rw [List.flatMap_cons, List.flatMap_cons, hfirst,
      ih hlaid htokens' hts' fun v hv => hliteral v (List.mem_cons_of_mem u hv)]

end Laid

end Phrasebook
