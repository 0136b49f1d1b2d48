import Phrasebook.Document.Scan
import Phrasebook.Proofs.Text.Occurrence

/-!
# What the first line decides

Keywords, runs of text, expressions and references are found by looking at the first line of what
follows.  Only a block looks further, for its closing mark.

* `Scan.keyword?_firstLine`, `Scan.textLength_firstLine`, `Scan.expressionRest_firstLine`,
  `Scan.referenceRest_firstLine`: the lengths of the pieces;
* `Scan.content_congr`: the next piece of content, blocks aside;
* `Scan.blockLength?_append`, `Scan.blockLength?_eq_none_iff`: what blocks depend on.
-/

namespace Phrasebook.Scan

open Text

theorem isLineEnd_iff {c : Char} : isLineEnd c = true ↔ c = '\r' ∨ c = '\n' := by
  simp [isLineEnd]

/-- Does a class of characters hold every character that ends no line? -/
def KeepsLine (q : Char → Bool) : Prop := ∀ c, isLineEnd c = false → q c = true

theorem keepsLine_ne_newline : KeepsLine (· ≠ '\n') := by
  intro c hc
  refine decide_eq_true ?_
  rintro rfl
  cases hc

theorem KeepsLine.isLineEnd {q : Char → Bool} (hq : KeepsLine q) {c : Char} (hc : ¬ q c = true) :
    isLineEnd c = true := by
  cases hend : Scan.isLineEnd c with
  | true => rfl
  | false => exact absurd (hq c hend) hc

theorem isLineEnd_of_isBlank {c : Char} (h : isBlank c = true) : isLineEnd c = false := by
  rw [isBlank, Bool.or_eq_true, beq_iff_eq, beq_iff_eq] at h
  rcases h with rfl | rfl <;> rfl

/-! ## Runs -/

theorem run_takeWhile {p q : Char → Bool} (hpq : ∀ c, p c = true → q c = true) (t : Text) :
    run p (t.takeWhile q) = run p t := by
  induction t with
  | nil => rfl
  | cons c t ih =>
    by_cases hpc : p c = true
    · rw [List.takeWhile_cons_of_pos (hpq c hpc), run, run, List.takeWhile_cons_of_pos hpc,
        List.takeWhile_cons_of_pos hpc]
      exact congrArg (· + 1) ih
    · rw [run, run, List.takeWhile_cons_of_neg hpc]
      by_cases hqc : q c = true
      · rw [List.takeWhile_cons_of_pos hqc, List.takeWhile_cons_of_neg hpc]
      · rw [List.takeWhile_cons_of_neg hqc]
        rfl

theorem run_firstLine {p : Char → Bool} (hp : p '\n' = false) (t : Text) :
    run p (firstLine t) = run p t := by
  refine run_takeWhile (fun c hc => decide_eq_true ?_) t
  rintro rfl
  rw [hp] at hc
  cases hc

theorem drop_run (p : Char → Bool) (t : Text) : t.drop (run p t) = t.dropWhile p := by
  induction t with
  | nil => rfl
  | cons c t ih =>
    by_cases hpc : p c = true
    · rw [run, List.takeWhile_cons_of_pos hpc, List.dropWhile_cons_of_pos hpc]
      exact ih
    · rw [run, List.takeWhile_cons_of_neg hpc, List.dropWhile_cons_of_neg hpc]
      rfl

theorem dropWhile_takeWhile {p q : Char → Bool} (hpq : ∀ c, p c = true → q c = true) (t : Text) :
    (t.takeWhile q).dropWhile p = (t.dropWhile p).takeWhile q := by
  induction t with
  | nil => rfl
  | cons c t ih =>
    by_cases hpc : p c = true
    · rw [List.takeWhile_cons_of_pos (hpq c hpc), List.dropWhile_cons_of_pos hpc,
        List.dropWhile_cons_of_pos hpc, ih]
    · rw [List.dropWhile_cons_of_neg hpc]
      by_cases hqc : q c = true
      · rw [List.takeWhile_cons_of_pos hqc, List.dropWhile_cons_of_neg hpc]
      · rw [List.takeWhile_cons_of_neg hqc]
        rfl

theorem head?_takeWhile_eq_iff {q : Char → Bool} {c : Char} (hc : q c = true) (t : Text) :
    (t.takeWhile q).head? = some c ↔ t.head? = some c := by
  simp [List.head?_takeWhile, Option.filter_eq_some_iff, hc]

/-! ## Keywords -/

/-- No letter of a word can be spelt by the end of a line. -/
def OnLine (word : Text) : Prop :=
  ∀ letter ∈ word, ∀ c, sameLetter c letter = true → isLineEnd c = false

theorem onLine_of_mem_keywords {word : Text} {k : Keyword} (h : (word, k) ∈ keywords) :
    OnLine word := by
  have hall : ∀ w ∈ keywords, ∀ letter ∈ w.1,
      sameLetter '\n' letter = false ∧ sameLetter '\r' letter = false := by
    simp [keywords, sameLetter]
  intro letter hletter c hc
  obtain ⟨hnewline, hreturn⟩ := hall _ h letter hletter
  refine Bool.eq_false_iff.2 fun hend => ?_
  rcases isLineEnd_iff.1 hend with rfl | rfl
  · rw [hreturn] at hc
    cases hc
  · rw [hnewline] at hc
    cases hc

theorem findSome?_congr {α β : Type} {f g : α → Option β} {l : List α} (h : ∀ a ∈ l, f a = g a) :
    l.findSome? f = l.findSome? g := by
  induction l with
  | nil => rfl
  | cons a l ih =>
    rw [List.findSome?_cons, List.findSome?_cons, h a List.mem_cons_self,
      ih fun b hb => h b (List.mem_cons_of_mem a hb)]

section

variable {q : Char → Bool} {word : Text}

theorem KeepsLine.blank (hq : KeepsLine q) (c : Char) (h : isBlank c = true) : q c = true :=
  hq c (isLineEnd_of_isBlank h)

/-- The letters that spell a word are on the line. -/
theorem beginsWith_split (hq : KeepsLine q) (hword : OnLine word) {t : Text}
    (h : beginsWith word t = true) :
    ∃ letters rest, t = letters ++ rest ∧ letters.length = word.length ∧
      t.takeWhile q = letters ++ rest.takeWhile q := by
  induction word generalizing t with
  | nil => exact ⟨[], t, rfl, rfl, rfl⟩
  | cons letter word ih =>
    cases t with
    | nil => cases h
    | cons c t =>
      rw [beginsWith, Bool.and_eq_true] at h
      obtain ⟨letters, rest, rfl, hlength, hline⟩ :=
        ih (fun l hl => hword l (List.mem_cons_of_mem letter hl)) h.2
      have hc : q c = true := hq c (hword letter List.mem_cons_self c h.1)
      refine ⟨c :: letters, rest, rfl, by rw [List.length_cons, List.length_cons, hlength], ?_⟩
      rw [List.takeWhile_cons_of_pos hc, hline]
      rfl

theorem beginsWith_takeWhile (hq : KeepsLine q) (hword : OnLine word) (t : Text) :
    beginsWith word (t.takeWhile q) = beginsWith word t := by
  induction word generalizing t with
  | nil => cases t.takeWhile q <;> cases t <;> rfl
  | cons letter word ih =>
    cases t with
    | nil => rfl
    | cons c t =>
      by_cases hc : q c = true
      · rw [List.takeWhile_cons_of_pos hc, beginsWith, beginsWith,
          ih fun l hl => hword l (List.mem_cons_of_mem letter hl)]
      · have hletter : sameLetter c letter = false :=
          Bool.eq_false_iff.2 fun h => hc (hq c (hword letter List.mem_cons_self c h))
        rw [List.takeWhile_cons_of_neg hc, beginsWith, beginsWith, hletter, Bool.false_and]

theorem wordLength?_takeWhile (hq : KeepsLine q) (hword : OnLine word) (t : Text) :
    wordLength? word (t.takeWhile q) = wordLength? word t := by
  have hcolon : q ':' = true := hq ':' rfl
  unfold wordLength?
  rw [beginsWith_takeWhile hq hword]
  by_cases h : beginsWith word t = true
  · obtain ⟨letters, rest, rfl, hlength, hline⟩ := beginsWith_split hq hword h
    rw [if_pos h, if_pos h, hline]
    have hdrop : ∀ (r : Text) (k : Nat), (letters ++ r).drop (word.length + k) = r.drop k := by
      intro r k
      rw [← hlength, ← List.drop_drop, List.drop_left]
    have hdrop₀ : ∀ r : Text, (letters ++ r).drop word.length = r := fun r => hdrop r 0
    simp only [hdrop₀, hdrop, run_takeWhile hq.blank]
    rw [← run_takeWhile hq.blank rest, drop_run, dropWhile_takeWhile hq.blank,
      run_takeWhile hq.blank, drop_run]
    simp only [head?_takeWhile_eq_iff hcolon]
  · rw [if_neg h, if_neg h]

theorem take_of_wordLength? (hq : KeepsLine q) (hword : OnLine word) {t : Text} {n : Nat}
    (h : wordLength? word t = some n) : (t.takeWhile q).take word.length = t.take word.length := by
  unfold wordLength? at h
  by_cases hbegins : beginsWith word t = true
  · obtain ⟨letters, rest, rfl, hlength, hline⟩ := beginsWith_split hq hword hbegins
    rw [hline, ← hlength, List.take_left, List.take_left]
  · rw [if_neg hbegins] at h
    cases h

theorem keyword?_takeWhile (hq : KeepsLine q) (t : Text) :
    keyword? (t.takeWhile q) = keyword? t := by
  refine findSome?_congr ?_
  rintro ⟨word, k⟩ hmem
  have hword := onLine_of_mem_keywords hmem
  dsimp only
  rw [wordLength?_takeWhile hq hword]
  cases h : wordLength? word t with
  | none => rfl
  | some n => rw [Option.map_some, Option.map_some, take_of_wordLength? hq hword h]

end

/-! ## Text, expressions and references -/

theorem newline_notMem_blockMark : '\n' ∉ blockMark := by decide

theorem isLineEnd_of_mem_blockMark : ∀ c ∈ blockMark, isLineEnd c = false := by
  simp [blockMark, isLineEnd]

theorem textLength_takeWhile {q : Char → Bool} (hq : KeepsLine q) (t : Text) :
    textLength (t.takeWhile q) = textLength t := by
  induction t with
  | nil => rfl
  | cons c t ih =>
    by_cases hc : q c = true
    · have hmark : blockMark.isPrefixOf (c :: t.takeWhile q) = blockMark.isPrefixOf (c :: t) := by
        rw [Bool.eq_iff_iff, List.isPrefixOf_iff_prefix, List.isPrefixOf_iff_prefix,
          ← List.takeWhile_cons_of_pos hc, prefix_takeWhile_iff fun d hd => hq d (isLineEnd_of_mem_blockMark d hd)]
      rw [List.takeWhile_cons_of_pos hc, textLength, textLength, hmark, ih]
    · have hseparator : isSeparator c = true := by
        simp [isSeparator, hq.isLineEnd hc]
      rw [List.takeWhile_cons_of_neg hc, textLength, textLength, hseparator]
      rfl

theorem expressionRest_close (t : Text) : expressionRest ('\x7d' :: t) = some 1 := by
  rw [expressionRest]

theorem expressionRest_escape (c : Char) (t : Text) :
    expressionRest ('\\' :: c :: t) =
      if c = '\n' then none else (expressionRest t).map (· + 2) := by
  rw [expressionRest]

theorem expressionRest_cons {c : Char} (hclose : c ≠ '\x7d') (hescape : c ≠ '\\') (t : Text) :
    expressionRest (c :: t) =
      if c = '\x7b' ∨ isLineEnd c then none else (expressionRest t).map (· + 1) := by
  rw [expressionRest]
  · simp [hescape]
  · exact hclose
  · intro d u hd
    exact absurd hd hescape

theorem expressionRest_firstLine (t : Text) : expressionRest (firstLine t) = expressionRest t := by
  match t with
  | [] => rfl
  | c :: t =>
    by_cases hline : c = '\n'
    · rw [hline]
      rfl
    · rw [firstLine_cons hline]
      by_cases hclose : c = '\x7d'
      · rw [hclose, expressionRest_close, expressionRest_close]
      · by_cases hescape : c = '\\'
        · rw [hescape]
          match t with
          | [] => rfl
          | d :: t =>
            by_cases hd : d = '\n'
            · rw [hd, expressionRest_escape, if_pos rfl]
              rfl
            · rw [firstLine_cons hd, expressionRest_escape, expressionRest_escape,
                expressionRest_firstLine t]
        · rw [expressionRest_cons hclose hescape, expressionRest_cons hclose hescape,
            expressionRest_firstLine t]
termination_by t.length

theorem expressionRest_pos {t : Text} {n : Nat} (h : expressionRest t = some n) : 0 < n := by
  unfold expressionRest at h
  split at h
  · cases h
  · cases h
    exact Nat.one_pos
  · split at h
    · cases h
    · obtain ⟨i, -, rfl⟩ := Option.map_eq_some_iff.1 h
      exact Nat.succ_pos _
  · split at h
    · cases h
    · obtain ⟨i, -, rfl⟩ := Option.map_eq_some_iff.1 h
      exact Nat.succ_pos _

/-- A closed expression is found whatever follows it. -/
theorem expressionRest_append {r s : Text} (h : expressionRest (r ++ s) = some r.length) (s' : Text) :
    expressionRest (r ++ s') = some r.length := by
  generalize hlength : r.length = n
  induction n using Nat.strongRecOn generalizing r with
  | ind n ih =>
    have step : ∀ {k : Nat} {u : Text}, (expressionRest (u ++ s)).map (· + (k + 1)) = some n →
        u.length + (k + 1) = n → (expressionRest (u ++ s')).map (· + (k + 1)) = some n := by
      intro k u hu hn
      obtain ⟨i, hi, hik⟩ := Option.map_eq_some_iff.1 hu
      obtain rfl : i = u.length := by omega
      rw [ih u.length (by omega) hi rfl, Option.map_some, hn]
    rw [hlength] at h
    cases r with
    | nil =>
      rw [List.length_nil] at hlength
      exact absurd (expressionRest_pos h) (by omega)
    | cons c r =>
      rw [List.length_cons] at hlength
      rw [List.cons_append] at h ⊢
      by_cases hclose : c = '\x7d'
      · rw [hclose, expressionRest_close] at h ⊢
        exact h
      · by_cases hescape : c = '\\'
        · rw [hescape] at h ⊢
          cases r with
          | nil =>
            cases s with
            | nil => cases h
            | cons d s =>
              rw [List.nil_append, expressionRest_escape] at h
              split at h
              · cases h
              · obtain ⟨i, -, hi⟩ := Option.map_eq_some_iff.1 h
                rw [List.length_nil] at hlength
                omega
          | cons d r =>
            rw [List.cons_append, expressionRest_escape] at h ⊢
            by_cases hd : d = '\n'
            · rw [if_pos hd] at h
              cases h
            · rw [if_neg hd] at h ⊢
              exact step h hlength
        · rw [expressionRest_cons hclose hescape] at h ⊢
          split at h
          · cases h
          · rename_i hc
            rw [if_neg hc]
            exact step h hlength

theorem referenceRest_takeWhile {q : Char → Bool} (hq : KeepsLine q) (depth : Nat) (t : Text) :
    referenceRest depth (t.takeWhile q) = referenceRest depth t := by
  induction t generalizing depth with
  | nil => rfl
  | cons c t ih =>
    by_cases hc : q c = true
    · rw [List.takeWhile_cons_of_pos hc, referenceRest, referenceRest, ih, ih, ih]
    · rw [List.takeWhile_cons_of_neg hc, referenceRest, referenceRest,
        if_pos (hq.isLineEnd hc)]

/-! ## Blocks -/

/-- A block is closed by the first mark after the one that opens it. -/
theorem blockLength?_eq_none_iff (t : Text) :
    blockLength? t = none ↔ ∀ rest, t = blockMark ++ rest → ¬ blockMark <:+: rest := by
  unfold blockLength?
  cases hafter : after? blockMark t with
  | none =>
    rw [after?_eq_none_iff] at hafter
    refine ⟨fun _ rest hrest => absurd ⟨rest, hrest.symm⟩ hafter, fun _ => rfl⟩
  | some rest =>
    rw [after?_eq_some_iff] at hafter
    rw [Option.bind_some, Option.map_eq_none_iff, find?_eq_none_iff]
    constructor
    · rintro h rest' hrest'
      rw [hafter, List.append_right_inj] at hrest'
      exact hrest' ▸ h
    · intro h
      exact h rest hafter

/-- A closed block is found whatever follows it. -/
theorem blockLength?_append {v s : Text} (h : blockLength? (v ++ s) = some v.length) (s' : Text) :
    blockLength? (v ++ s') = some v.length := by
  unfold blockLength? at h ⊢
  rw [Option.bind_eq_some_iff] at h ⊢
  obtain ⟨rest, hafter, hfind⟩ := h
  obtain ⟨n, hn, hlength⟩ := Option.map_eq_some_iff.1 hfind
  rw [after?_eq_some_iff] at hafter
  have hmark : blockMark.length = 3 := rfl
  have hbegins : blockMark <+: v :=
    List.prefix_of_prefix_length_le ⟨rest, hafter.symm⟩ (List.prefix_append v s) (by omega)
  obtain ⟨inner, rfl⟩ := hbegins
  rw [List.append_assoc, List.append_right_inj] at hafter
  subst hafter
  rw [List.length_append] at hlength ⊢
  refine ⟨inner ++ s', ?_, ?_⟩
  · rw [after?_eq_some_iff, List.append_assoc]
  · rw [find?_append (by decide) hn (by omega) s', Option.map_some, hlength]

/-- What opens no closed block has no beginning that is one. -/
theorem blockLength?_prefix {u t : Text} (hu : u <+: t) (h : blockLength? t = none) :
    blockLength? u = none := by
  rw [blockLength?_eq_none_iff] at h ⊢
  obtain ⟨w, rfl⟩ := hu
  intro rest hrest hclosed
  refine h (rest ++ w) ?_ (hclosed.trans (List.prefix_append rest w).isInfix)
  rw [hrest, List.append_assoc]

/-! ## Content -/

theorem isEscapable_of_isLineEnd {c : Char} (h : isLineEnd c = true) : isEscapable c = false := by
  rcases isLineEnd_iff.1 h with rfl | rfl <;> rfl

/-- The line that a piece of content is on decides it, blocks aside. -/
theorem content_takeWhile {q : Char → Bool} (hq : KeepsLine q) {c : Char} {t : Text}
    (hc : q c = true) (hexpression : expressionRest (t.takeWhile q) = expressionRest t)
    (hblock : blockLength? (c :: t) = none) : content c (t.takeWhile q) = content c t := by
  have hline : c :: t.takeWhile q = (c :: t).takeWhile q := (List.takeWhile_cons_of_pos hc).symm
  have hblock' : blockLength? (c :: t.takeWhile q) = none :=
    blockLength?_prefix (hline ▸ List.takeWhile_prefix q) hblock
  have htext : textLength (c :: t.takeWhile q) = textLength (c :: t) := by
    rw [hline, textLength_takeWhile hq]
  unfold content
  rw [hblock, hblock']
  dsimp only
  by_cases hescape : c = '\\'
  · -- a backslash looks at one character, and the end of a line counts as none
    rw [if_pos hescape, if_pos hescape]
    cases t with
    | nil => rfl
    | cons d t =>
      by_cases hd : q d = true
      · rw [List.takeWhile_cons_of_pos hd]
      · have hend := hq.isLineEnd hd
        rw [List.takeWhile_cons_of_neg hd]
        simp [hend, isEscapable_of_isLineEnd hend]
  · rw [if_neg hescape, if_neg hescape, hexpression, referenceRest_takeWhile hq, htext]

/-- The rest of a line decides the next piece of content, blocks aside. -/
theorem content_congr {c : Char} {t t' : Text} (hline : firstLine t' = firstLine t)
    (hblock : blockLength? (c :: t) = none) (hblock' : blockLength? (c :: t') = none)
    (hc : c ≠ '\n') : content c t' = content c t := by
  have hfirst : ∀ u, blockLength? (c :: u) = none → content c (firstLine u) = content c u :=
    fun u hu => content_takeWhile keepsLine_ne_newline (decide_eq_true hc)
      (expressionRest_firstLine u) hu
  rw [← hfirst t' hblock', hline, hfirst t hblock]

end Phrasebook.Scan

namespace Phrasebook.Mode

open Scan Text

theorem keywordMove?_takeWhile {q : Char → Bool} (hq : KeepsLine q) (t : Text) :
    keywordMove? (t.takeWhile q) = keywordMove? t := by
  unfold keywordMove?
  rw [keyword?_takeWhile hq, textLength_takeWhile hq]

theorem keywordMove?_firstLine (t : Text) : keywordMove? (firstLine t) = keywordMove? t :=
  keywordMove?_takeWhile keepsLine_ne_newline t

/-! ## Ends of lines -/

theorem newline?_eq_none_iff {c : Char} {t : Text} :
    newline? (c :: t) = none ↔ c ≠ '\n' ∧ (c = '\r' → t.head? ≠ some '\n') := by
  unfold newline?
  split
  · simp_all
  · simp_all
  · rename_i hnewline hreturn
    refine iff_of_true rfl ⟨fun hc => hnewline t (by rw [hc]), ?_⟩
    rintro rfl hhead
    cases t with
    | nil => cases hhead
    | cons d t =>
      cases hhead
      exact hreturn t rfl

theorem newline?_of_ne {c : Char} (hc : c ≠ '\n') (hr : c ≠ '\r') (t : Text) :
    newline? (c :: t) = none :=
  newline?_eq_none_iff.2 ⟨hc, fun h => absurd h hr⟩

theorem ne_newline_of_newline? {c : Char} {t : Text} (h : newline? (c :: t) = none) : c ≠ '\n' :=
  (newline?_eq_none_iff.1 h).1

end Phrasebook.Mode
