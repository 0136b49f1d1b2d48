import Phrasebook.Text.Basic

/-!
# Occurrences and first lines

Where a mark occurs in a text that is put together from parts, and what the first line of a text
decides.

* `Text.find?_eq_none_iff`: a search fails exactly where the mark does not occur;
* `Text.find?_append`: an occurrence inside a beginning is found whatever follows;
* `Text.infix_append_cons_iff`: a mark does not reach across a character that it lacks;
* `Text.firstLine`, `Text.AtLineEnd`: the text up to the first line feed, and texts that begin
  with one or are empty.
-/

namespace Phrasebook.Text

/-! ## Beginnings -/

theorem after?_eq_some_iff {mark t rest : Text} : after? mark t = some rest ↔ t = mark ++ rest := by
  induction mark generalizing t with
  | nil => simp [after?, eq_comm]
  | cons s mark ih =>
    cases t with
    | nil => simp [after?]
    | cons c t =>
      by_cases hs : s = c
      · subst hs
        simp [after?, ih]
      · simp [after?, hs, eq_comm]

theorem after?_eq_none_iff {mark t : Text} : after? mark t = none ↔ ¬ mark <+: t := by
  constructor
  · rintro h ⟨rest, rfl⟩
    rw [after?_eq_some_iff.2 rfl] at h
    cases h
  · intro h
    cases hafter : after? mark t with
    | none => rfl
    | some rest => exact absurd ⟨rest, (after?_eq_some_iff.1 hafter).symm⟩ h

/-! ## Occurrences -/

theorem cut?_eq_none_iff {mark t : Text} : cut? mark t = none ↔ ¬ mark <:+: t := by
  induction t with
  | nil => simp [cut?]
  | cons c t ih =>
    rw [cut?, List.infix_cons_iff, not_or, ← ih, ← after?_eq_none_iff]
    cases after? mark (c :: t) with
    | none => simp
    | some rest => simp

theorem find?_eq_none_iff {mark t : Text} : find? mark t = none ↔ ¬ mark <:+: t := by
  rw [find?, Option.map_eq_none_iff, cut?_eq_none_iff]

theorem find?_cons_of_begins {mark t : Text} {c : Char} (h : mark <+: c :: t) :
    find? mark (c :: t) = some 0 := by
  obtain ⟨rest, hrest⟩ := h
  rw [find?, cut?, after?_eq_some_iff.2 hrest.symm]
  rfl

theorem find?_cons_of_absent {mark t : Text} {c : Char} (h : ¬ mark <+: c :: t) :
    find? mark (c :: t) = (find? mark t).map (· + 1) := by
  rw [find?, cut?, after?_eq_none_iff.2 h, find?, Option.map_map, Option.map_map]
  rfl

theorem eq_of_cut? {mark t before rest : Text} (h : cut? mark t = some (before, rest)) :
    t = before ++ mark ++ rest := by
  induction t generalizing before with
  | nil =>
    rw [cut?] at h
    by_cases hmark : mark = []
    · rw [if_pos hmark] at h
      cases h
      rw [hmark]
      rfl
    · rw [if_neg hmark] at h
      cases h
  | cons c t ih =>
    rw [cut?] at h
    cases hafter : after? mark (c :: t) with
    | some rest' =>
      rw [hafter] at h
      cases h
      exact after?_eq_some_iff.1 hafter
    | none =>
      rw [hafter] at h
      obtain ⟨⟨before', rest'⟩, hcut, heq⟩ := Option.map_eq_some_iff.1 h
      cases heq
      rw [ih hcut]
      rfl

theorem length_of_find? {mark t : Text} {n : Nat} (h : find? mark t = some n) :
    n + mark.length ≤ t.length := by
  obtain ⟨⟨before, rest⟩, hcut, rfl⟩ := Option.map_eq_some_iff.1 h
  rw [eq_of_cut? hcut, List.length_append, List.length_append]
  exact Nat.le_add_right _ _

/-- An occurrence inside a beginning is found whatever follows the beginning. -/
theorem find?_append {mark a s : Text} {n : Nat} (hmark : mark ≠ [])
    (h : find? mark (a ++ s) = some n) (hn : n + mark.length ≤ a.length) (s' : Text) :
    find? mark (a ++ s') = some n := by
  have hpos := List.length_pos_iff.2 hmark
  induction a generalizing n with
  | nil =>
    rw [List.length_nil] at hn
    omega
  | cons c a ih =>
    -- the mark begins here either way, since it fits into the beginning
    have hbegins : ∀ u, mark <+: c :: (a ++ u) ↔ mark <+: c :: a := by
      intro u
      constructor
      · intro hu
        exact List.prefix_of_prefix_length_le hu (List.prefix_append (c :: a) u) (by omega)
      · intro hu
        exact hu.trans (List.prefix_append (c :: a) u)
    rw [List.cons_append] at h ⊢
    by_cases hat : mark <+: c :: a
    · rw [find?_cons_of_begins ((hbegins s).2 hat)] at h
      rw [find?_cons_of_begins ((hbegins s').2 hat), h]
    · rw [find?_cons_of_absent fun hu => hat ((hbegins s).1 hu)] at h
      rw [find?_cons_of_absent fun hu => hat ((hbegins s').1 hu)]
      obtain ⟨k, hk, rfl⟩ := Option.map_eq_some_iff.1 h
      rw [List.length_cons] at hn
      rw [ih hk (by omega)]
      rfl

/-- A text is cut at the mark behind a beginning in which no mark has begun. -/
theorem cut?_append_of_absent {mark a : Text} (hmark : mark ≠ [])
    (h : ¬ mark <:+: a ++ mark.dropLast) (w : Text) :
    cut? mark (a ++ (mark ++ w)) = some (a, w) := by
  induction a with
  | nil =>
    obtain ⟨m, mark, rfl⟩ := List.exists_cons_of_ne_nil hmark
    have hafter : after? (m :: mark) (m :: (mark ++ w)) = some w := after?_eq_some_iff.2 rfl
    rw [List.nil_append, List.cons_append, cut?, hafter]
  | cons c a ih =>
    have habsent : ¬ mark <+: c :: (a ++ (mark ++ w)) := by
      intro hbegins
      -- a mark that begins here would end before the last character of the mark behind
      have hlonger : c :: a ++ mark.dropLast <+: c :: (a ++ (mark ++ w)) :=
        (List.prefix_append_right_inj (c :: a)).2
          ((List.dropLast_prefix mark).trans (List.prefix_append mark w))
      refine h (List.prefix_of_prefix_length_le hbegins hlonger ?_).isInfix
      rw [List.length_append, List.length_cons, List.length_dropLast]
      omega
    have hrest : ¬ mark <:+: a ++ mark.dropLast := fun hmark => h (List.infix_cons hmark)
    rw [List.cons_append, cut?, after?_eq_none_iff.2 habsent, ih hrest]
    rfl

/-- A mark does not reach across a character that it lacks. -/
theorem infix_append_cons_iff {mark a b : Text} {c : Char} (hc : c ∉ mark) (hmark : mark ≠ []) :
    mark <:+: a ++ c :: b ↔ mark <:+: a ∨ mark <:+: b := by
  rw [List.infix_append_iff_ne_nil]
  constructor
  · rintro (ha | hb | ⟨l₁, l₂, -, hne, rfl, -, hl₂⟩)
    · exact .inl ha
    · rcases List.infix_cons_iff.1 hb with ⟨rest, hrest⟩ | hb
      · cases mark with
        | nil => exact absurd rfl hmark
        | cons m mark => exact absurd (by rw [(List.cons.inj hrest).1]; exact List.mem_cons_self) hc
      · exact .inr hb
    · obtain ⟨rest, hrest⟩ := hl₂
      cases l₂ with
      | nil => exact absurd rfl hne
      | cons m l₂ => exact absurd (by rw [(List.cons.inj hrest).1]; simp) hc
  · rintro (ha | hb)
    · exact .inl ha
    · exact .inr (.inl (List.infix_cons hb))

theorem infix_cons_iff_of_ne {mark b : Text} {c : Char} (hc : c ∉ mark) (hmark : mark ≠ []) :
    mark <:+: c :: b ↔ mark <:+: b := by
  have h := infix_append_cons_iff (a := []) (b := b) hc hmark
  simpa [hmark] using h

/-- A text without any character of the mark can be left out in front. -/
theorem infix_append_iff_of_disjoint {mark a b : Text} (ha : ∀ c ∈ a, c ∉ mark) (hmark : mark ≠ []) :
    mark <:+: a ++ b ↔ mark <:+: b := by
  induction a with
  | nil => rfl
  | cons c a ih =>
    rw [List.cons_append, infix_cons_iff_of_ne (ha c List.mem_cons_self) hmark]
    exact ih fun d hd => ha d (List.mem_cons_of_mem c hd)

/-! ## First lines -/

/-- The text up to the first line feed. -/
def firstLine (t : Text) : Text := t.takeWhile (· ≠ '\n')

/-- Is the text empty, or does it begin with a line feed? -/
def AtLineEnd (t : Text) : Prop := ∀ c ∈ t.head?, c = '\n'

theorem atLineEnd_nil : AtLineEnd [] := by simp [AtLineEnd]

theorem atLineEnd_cons (t : Text) : AtLineEnd ('\n' :: t) := by simp [AtLineEnd]

theorem firstLine_newline (t : Text) : firstLine ('\n' :: t) = [] := rfl

theorem firstLine_cons {c : Char} (h : c ≠ '\n') (t : Text) :
    firstLine (c :: t) = c :: firstLine t := by
  rw [firstLine, List.takeWhile_cons_of_pos (by simpa using h), firstLine]

theorem firstLine_atLineEnd {w : Text} (h : AtLineEnd w) : firstLine w = [] := by
  cases w with
  | nil => rfl
  | cons c w => rw [h c rfl, firstLine_newline]

/-- What follows the end of a line does not change its first line. -/
theorem firstLine_append {w : Text} (h : AtLineEnd w) (t : Text) :
    firstLine (t ++ w) = firstLine t := by
  induction t with
  | nil => exact firstLine_atLineEnd h
  | cons c t ih =>
    by_cases hc : c = '\n'
    · rw [hc]
      rfl
    · rw [List.cons_append, firstLine_cons hc, firstLine_cons hc, ih]

/-- A beginning whose characters satisfy `q` is the beginning of the longest run of them. -/
theorem prefix_takeWhile_iff {mark : Text} {q : Char → Bool} (hmark : ∀ c ∈ mark, q c = true)
    (t : Text) : mark <+: t.takeWhile q ↔ mark <+: t := by
  induction mark generalizing t with
  | nil => simp
  | cons m mark ih =>
    cases t with
    | nil => rfl
    | cons c t =>
      by_cases hc : q c = true
      · rw [List.takeWhile_cons_of_pos hc, List.cons_prefix_cons, List.cons_prefix_cons,
          ih fun d hd => hmark d (List.mem_cons_of_mem m hd)]
      · have hne : m ≠ c := fun h => hc (h ▸ hmark m List.mem_cons_self)
        rw [List.takeWhile_cons_of_neg hc, List.cons_prefix_cons]
        simp [hne]

/-- A beginning without line feeds is the beginning of the first line. -/
theorem prefix_firstLine_iff {mark : Text} (hmark : '\n' ∉ mark) (t : Text) :
    mark <+: firstLine t ↔ mark <+: t :=
  prefix_takeWhile_iff (fun _ hc => decide_eq_true (ne_of_mem_of_not_mem hc hmark)) t

end Phrasebook.Text
