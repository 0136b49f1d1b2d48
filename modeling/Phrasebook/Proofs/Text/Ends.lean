import Mathlib.Data.List.TakeWhile
import Phrasebook.Text.Blank

/-!
# Ends and pieces

What is at the ends of a text and what it is joined from decide how it is stripped and split.

* `Text.strip_eq_self`, `Text.strip_between`: texts without anything to strip, alone and between
  characters that are stripped;
* `Text.cut?_of_notMem`: the first occurrence of a character;
* `Text.mem_join`, `Text.split_join`: the characters of a joined text, and its pieces.
-/

namespace Phrasebook.Text

/-! ## Ends -/

section

variable {p : Char → Bool} {t : Text}

theorem stripStart_eq_self (h : ∀ c ∈ t.head?, p c = false) : stripStart p t = t := by
  cases t with
  | nil => rfl
  | cons c t =>
    have hc := h c rfl
    exact List.dropWhile_cons_of_neg (by rw [hc]; exact Bool.false_ne_true)

theorem stripEnd_eq_self (h : ∀ c ∈ t.getLast?, p c = false) : stripEnd p t = t := by
  rw [← List.head?_reverse] at h
  have hreverse : t.reverse.dropWhile p = t.reverse := stripStart_eq_self h
  rw [stripEnd, hreverse, List.reverse_reverse]

/-- What is stripped off the beginning are such characters only. -/
theorem exists_stripStart (p : Char → Bool) (t : Text) :
    ∃ before, t = before ++ stripStart p t ∧ ∀ c ∈ before, p c = true :=
  ⟨t.takeWhile p, List.takeWhile_append_dropWhile.symm, fun _ hc => List.mem_takeWhile_imp hc⟩

/-- What is stripped off the end are such characters only. -/
theorem exists_stripEnd (p : Char → Bool) (t : Text) :
    ∃ after, t = stripEnd p t ++ after ∧ ∀ c ∈ after, p c = true := by
  obtain ⟨before, heq, hbefore⟩ := exists_stripStart p t.reverse
  refine ⟨before.reverse, ?_, fun c hc => hbefore c (List.mem_reverse.1 hc)⟩
  rw [stripEnd, ← List.reverse_append]
  exact List.reverse_eq_iff.1 heq

/-- A text is left alone when there is nothing to strip at either end. -/
theorem strip_eq_self (hfirst : ∀ c ∈ t.head?, p c = false) (hlast : ∀ c ∈ t.getLast?, p c = false) :
    strip p t = t := by
  rw [strip, stripStart_eq_self hfirst, stripEnd_eq_self hlast]

/-- Characters in front and behind are stripped off a text that holds none of them. -/
theorem strip_between {first last : Char} (hfirst : first ∉ t) (hlast : last ∉ t)
    (hne : first ≠ last) :
    stripEnd (· = last) (stripStart (· = first) (first :: (t ++ [last]))) = t := by
  have hstart : stripStart (· = first) (first :: (t ++ [last])) = t ++ [last] := by
    have hdrop : stripStart (· = first) (first :: (t ++ [last])) =
        stripStart (· = first) (t ++ [last]) := List.dropWhile_cons_of_pos (by simp)
    rw [hdrop, stripStart_eq_self]
    intro c hc
    have hmem : c ∈ t ++ [last] := List.mem_of_mem_head? hc
    rw [decide_eq_false_iff_not]
    rintro rfl
    rcases List.mem_append.1 hmem with hmem | hmem
    · exact hfirst hmem
    · exact hne (List.mem_singleton.1 hmem)
  have hend : stripEnd (· = last) (t ++ [last]) = stripEnd (· = last) t := by
    rw [stripEnd, List.reverse_append, List.reverse_singleton, List.singleton_append,
      List.dropWhile_cons_of_pos (by simp), stripEnd]
  rw [hstart, hend, stripEnd_eq_self]
  intro c hc
  rw [decide_eq_false_iff_not]
  rintro rfl
  exact hlast (List.mem_of_getLast? hc)

/-- Something is left of a text that holds a character that is no blank. -/
theorem trim_ne_nil_of_mem {c : Char} (h : c ∈ t) (hc : isBlank c = false) : trim t ≠ [] := by
  have hleft : c ∈ stripStart isBlank t := by
    rw [← List.takeWhile_append_dropWhile (p := isBlank) (l := t), List.mem_append] at h
    refine h.resolve_left fun htaken => ?_
    have hblank := List.mem_takeWhile_imp htaken
    rw [hc] at hblank
    cases hblank
  intro hnil
  rw [trim, strip, stripEnd, List.reverse_eq_nil_iff, List.dropWhile_eq_nil_iff] at hnil
  have hblank := hnil c (List.mem_reverse.2 hleft)
  rw [hc] at hblank
  cases hblank

/-- Something is left when the first character is no blank. -/
theorem trim_ne_nil {c : Char} (hc : isBlank c = false) (t : Text) : trim (c :: t) ≠ [] :=
  trim_ne_nil_of_mem List.mem_cons_self hc

end

/-! ## Pieces -/

/-- A text is cut at the first occurrence of a character. -/
theorem cut?_of_notMem {c : Char} {before : Text} (h : c ∉ before) (rest : Text) :
    cut? [c] (before ++ c :: rest) = some (before, rest) := by
  induction before with
  | nil =>
    rw [List.nil_append, cut?, after?, if_pos rfl]
    rfl
  | cons d before ih =>
    rw [List.mem_cons, not_or] at h
    rw [List.cons_append, cut?, after?, if_neg h.1, ih h.2]
    rfl

theorem notMem_of_cut? {c : Char} {t before rest : Text} (h : cut? [c] t = some (before, rest)) :
    c ∉ before := by
  induction t generalizing before with
  | nil => cases h
  | cons d t ih =>
    unfold cut? after? at h
    by_cases hc : c = d
    · rw [if_pos hc] at h
      cases h
      exact List.not_mem_nil
    · rw [if_neg hc] at h
      obtain ⟨⟨before', rest'⟩, hcut, heq⟩ := Option.map_eq_some_iff.1 h
      cases heq
      exact List.not_mem_cons_of_ne_of_not_mem hc (ih hcut)

theorem mem_join {sep : Text} {names : List Text} {c : Char} (h : c ∈ join sep names) :
    c ∈ sep ∨ ∃ n ∈ names, c ∈ n := by
  induction names with
  | nil => cases h
  | cons n names ih =>
    cases names with
    | nil => exact .inr ⟨n, by simp, h⟩
    | cons n' names =>
      rw [join, List.mem_append, List.mem_append] at h
      rcases h with (h | h) | h
      · exact .inr ⟨n, by simp, h⟩
      · exact .inl h
      · rcases ih h with h | ⟨m, hm, hc⟩
        · exact .inl h
        · exact .inr ⟨m, List.mem_cons_of_mem n hm, hc⟩

/-- Every piece that is not empty is somewhere in the joined text. -/
theorem length_le_join (sep : Text) {names : List Text} (h : ∀ n ∈ names, n ≠ []) :
    names.length ≤ (join sep names).length := by
  induction names with
  | nil => exact Nat.zero_le _
  | cons n names ih =>
    have hn : 1 ≤ n.length := List.length_pos_iff.2 (h n List.mem_cons_self)
    have hrest := ih fun m hm => h m (List.mem_cons_of_mem n hm)
    cases names with
    | nil => rwa [join, List.length_singleton]
    | cons m names =>
      rw [join, List.length_append, List.length_append, List.length_cons]
      omega

theorem split_of_notMem {c : Char} {t : Text} (h : c ∉ t) : split c t = [t] := by
  induction t with
  | nil => rfl
  | cons d t ih =>
    rw [List.mem_cons, not_or] at h
    rw [split, if_neg (Ne.symm h.1), ih h.2]

theorem split_append_cons {c : Char} {before : Text} (h : c ∉ before) (rest : Text) :
    split c (before ++ c :: rest) = before :: split c rest := by
  induction before with
  | nil => rw [List.nil_append, split, if_pos rfl]
  | cons d before ih =>
    rw [List.mem_cons, not_or] at h
    rw [List.cons_append, split, if_neg (Ne.symm h.1), ih h.2]

/-- A joined text is split where it was joined; what follows the separator stays in front of the
pieces. -/
theorem split_join {c : Char} {more : Text} (hmore : c ∉ more) {n : Text} {names : List Text}
    (h : ∀ m ∈ n :: names, c ∉ m) :
    split c (join (c :: more) (n :: names)) = n :: names.map (more ++ ·) := by
  induction names generalizing n with
  | nil => exact split_of_notMem (h n List.mem_cons_self)
  | cons m names ih =>
    have hrest : ∀ k ∈ m :: names, c ∉ k := fun k hk => h k (List.mem_cons_of_mem n hk)
    -- the text behind the separator belongs to the next piece
    have hnext : split c (more ++ join (c :: more) (m :: names)) =
        (more ++ m) :: names.map (more ++ ·) := by
      have hprefix : ∀ (u t piece : Text) (pieces : List Text), c ∉ u → split c t = piece :: pieces →
          split c (u ++ t) = (u ++ piece) :: pieces := by
        intro u t piece pieces hu ht
        induction u with
        | nil => exact ht
        | cons d u ihu =>
          rw [List.mem_cons, not_or] at hu
          rw [List.cons_append, split, if_neg (Ne.symm hu.1), ihu hu.2]
          rfl
      exact hprefix more _ m _ hmore (ih hrest)
    rw [join, List.append_assoc, List.cons_append, split_append_cons (h n List.mem_cons_self), hnext,
      List.map_cons]

end Phrasebook.Text
