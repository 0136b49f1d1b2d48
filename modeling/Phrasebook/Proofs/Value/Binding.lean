import Phrasebook.Value.Equality

/-!
# Names bound to values

Binding names to values one after the other makes a mapping in which a repeated name keeps its first
place and has its last value.

* `Value.keys_insertEntry`, `Value.lookupName?_insertEntry`: what one more binding changes;
* `Value.Binds`, `Value.ofNames_binds`: what the mapping of a list of bindings holds.
-/

namespace Phrasebook.Value

/-- The entries bind names as the pairs do: the keys are the names in the order in which they come
first, and each has the value of its last pair. -/
structure Binds (pairs : List (Text × Value)) (entries : List (Value × Value)) : Prop where
  keys : entries.map Prod.fst = (pairs.map Prod.fst).eraseDups.map text
  values : ∀ name, lookupName? entries name = pairs.reverse.lookup name

theorem same_text (a b : Text) : same (text a) (text b) = decide (a = b) := by
  simp [same, eq, bothNaN, Bool.beq_eq_decide_eq]

section

variable {entries : List (Value × Value)} {names : List Text}

/-- One more binding keeps the places of the names, and puts a new name at the end. -/
theorem keys_insertEntry (h : entries.map Prod.fst = names.map text) (x : Text) (v : Value) :
    (insertEntry entries (text x) v).map Prod.fst =
      (if x ∈ names then names else names ++ [x]).map text := by
  induction entries generalizing names with
  | nil =>
    obtain rfl : names = [] := List.map_eq_nil_iff.1 h.symm
    rfl
  | cons entry entries ih =>
    obtain ⟨k, w⟩ := entry
    obtain ⟨n, names, rfl, rfl, hrest⟩ := List.map_eq_cons_iff.1 h.symm
    by_cases hx : x = n
    · simp [insertEntry, same_text, hx, hrest]
    · have hinsert := ih hrest.symm
      by_cases hmem : x ∈ names
      · rw [if_pos hmem] at hinsert
        simp [insertEntry, same_text, hx, hmem, hinsert]
      · rw [if_neg hmem] at hinsert
        simp [insertEntry, same_text, hx, hmem, hinsert]

/-- One more binding gives its name the new value and changes no other. -/
theorem lookupName?_insertEntry (h : entries.map Prod.fst = names.map text) (x : Text) (v : Value)
    (name : Text) :
    lookupName? (insertEntry entries (text x) v) name =
      if x = name then some v else lookupName? entries name := by
  induction entries generalizing names with
  | nil => rfl
  | cons entry entries ih =>
    obtain ⟨k, w⟩ := entry
    obtain ⟨n, names, rfl, rfl, hrest⟩ := List.map_eq_cons_iff.1 h.symm
    by_cases hx : x = n
    · subst hx
      by_cases hname : x = name <;> simp [insertEntry, same_text, lookupName?, hname]
    · have hinsert := ih hrest.symm
      by_cases hname : n = name
      · subst hname
        simp [insertEntry, same_text, lookupName?, hx]
      · simp [insertEntry, same_text, lookupName?, hx, hname, hinsert]

end

theorem Binds.nil : Binds [] [] := ⟨rfl, fun _ => rfl⟩

/-- One more pair is one more binding. -/
theorem Binds.append {pairs : List (Text × Value)} {entries : List (Value × Value)}
    (h : Binds pairs entries) (x : Text) (v : Value) :
    Binds (pairs ++ [(x, v)]) (insertEntry entries (text x) v) where
  keys := by
    rw [keys_insertEntry h.keys, List.map_append, List.eraseDups_append]
    by_cases hx : x ∈ pairs.map Prod.fst
    · simp [hx, List.removeAll]
    · simp [hx, List.removeAll, List.eraseDups_cons]
  values name := by
    rw [lookupName?_insertEntry h.keys, List.reverse_append, List.reverse_singleton,
      List.singleton_append, List.lookup_cons, h.values]
    by_cases hx : x = name
    · simp [hx]
    · have hne : (name == x) = false := beq_eq_false_iff_ne.2 (Ne.symm hx)
      simp [hx, hne]

/-- One binding after the other. -/
theorem Binds.foldl {done : List (Text × Value)} {entries : List (Value × Value)}
    (h : Binds done entries) (pairs : List (Text × Value)) :
    Binds (done ++ pairs)
      (pairs.foldl (fun entries pair => insertEntry entries (text pair.1) pair.2) entries) := by
  induction pairs generalizing done entries with
  | nil => rwa [List.append_nil]
  | cons pair pairs ih =>
    have hnext := ih (h.append pair.1 pair.2)
    rwa [List.append_assoc] at hnext

/-- **What a mapping of names holds.** -/
theorem ofNames_binds (pairs : List (Text × Value)) :
    ∃ entries, ofNames pairs = dict entries ∧ Binds pairs entries :=
  ⟨_, rfl, Binds.nil.foldl pairs⟩

end Phrasebook.Value
