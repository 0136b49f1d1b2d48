import Phrasebook.Proofs.Rendering.LoadOrder

/-!
# Names that clash

A catalog is built from a list of templates one by one, and the first template whose name is taken
ends it.  Names may be taken more than once and several names may be: the error is about the earliest
template that repeats a name, and about the one template before it that has the name already.

* `Template.FirstClash`: where in a list the first name is repeated;
* `Catalog.insertAll_error`: the list as it is cut by an error;
* `Catalog.ofList_outcome`: the catalog of a list, or the error.
-/

namespace Phrasebook

/-- **The first clash of names** in a list of templates: the template `new` at `j` is the earliest
one whose name has occurred before it, and `old` at `i` is the only one before it with the name. -/
structure Template.FirstClash (ts : List Template) (i j : Nat) (old new : Template) : Prop where
  lt : i < j
  old_at : ts[i]? = some old
  new_at : ts[j]? = some new
  same : old.name = new.name
  earliest : ∀ i' j' t t', i' < j' → j' < j → ts[i']? = some t → ts[j']? = some t' → t.name ≠ t'.name
  only : ∀ i' t, i' < j → ts[i']? = some t → t.name = new.name → i' = i

namespace Template.FirstClash

variable {ts : List Template} {i j i' j' : Nat} {old new old' new' : Template}

/-- Where names are distinct, each of them occurs at one place. -/
theorem place_eq {k k' : Nat} {t t' : Template} (hdistinct : (ts.map (·.name)).Nodup)
    (ht : ts[k]? = some t) (ht' : ts[k']? = some t') (hname : t.name = t'.name) : k = k' := by
  obtain ⟨hk, -⟩ := List.getElem?_eq_some_iff.1 ht
  refine (List.getElem?_inj (by rwa [List.length_map]) hdistinct).1 ?_
  rw [List.getElem?_map, List.getElem?_map, ht, ht', Option.map_some, Option.map_some, hname]

/-- The template that repeats a name stands behind some that do not. -/
theorem of_split {before : List Template} (hdistinct : (before.map (·.name)).Nodup)
    (hold : old ∈ before) (hsame : old.name = new.name) (after : List Template) :
    ∃ i, FirstClash (before ++ new :: after) i before.length old new := by
  obtain ⟨i, hi, hget⟩ := List.mem_iff_getElem.1 hold
  have hleft : ∀ k, k < before.length → (before ++ new :: after)[k]? = before[k]? :=
    fun k hk => List.getElem?_append_left hk
  have hold_at : before[i]? = some old := by rw [List.getElem?_eq_getElem hi, hget]
  refine ⟨i, hi, (hleft i hi).trans hold_at, ?_, hsame, ?_, ?_⟩
  · rw [List.getElem?_append_right (Nat.le_refl _), Nat.sub_self, List.getElem?_cons_zero]
  · intro k k' t t' hlt hk' ht ht' hname
    rw [hleft k (Nat.lt_trans hlt hk')] at ht
    rw [hleft k' hk'] at ht'
    exact Nat.ne_of_lt hlt (place_eq hdistinct ht ht' hname)
  · intro k t hk ht hname
    rw [hleft k hk] at ht
    exact place_eq hdistinct ht hold_at (hname.trans hsame.symm)

/-- Names are distinct only where none is repeated. -/
theorem not_nodup (h : FirstClash ts i j old new) : ¬ (ts.map (·.name)).Nodup :=
  fun hdistinct => Nat.ne_of_lt h.lt (place_eq hdistinct h.old_at h.new_at h.same)

theorem le (h : FirstClash ts i j old new) (h' : FirstClash ts i' j' old' new') : j ≤ j' := by
  by_contra hlt
  exact h.earliest i' j' old' new' h'.lt (Nat.lt_of_not_le hlt) h'.old_at h'.new_at h'.same

/-- A list has one first clash at most. -/
theorem unique (h : FirstClash ts i j old new) (h' : FirstClash ts i' j' old' new') :
    old = old' ∧ new = new' := by
  obtain rfl : j = j' := Nat.le_antisymm (h.le h') (h'.le h)
  have hnew : new = new' := Option.some.inj (h.new_at.symm.trans h'.new_at)
  subst hnew
  obtain rfl : i = i' := h'.only i old h.lt h.old_at h.same
  exact ⟨Option.some.inj (h.old_at.symm.trans h'.old_at), rfl⟩

end Template.FirstClash

namespace Catalog

variable {c : Catalog} {t : Template} {ts : List Template} {e : TemplateError}

theorem insert_error (h : c.insert t = .error e) :
    ∃ old ∈ c.templates, old.name = t.name ∧ e = .duplicate t.name old.location t.location := by
  unfold insert at h
  split at h
  · rename_i old hfind
    cases h
    obtain ⟨hmem, hname⟩ := find?_eq_some_iff.1 hfind
    exact ⟨old, hmem, hname, rfl⟩
  · cases h

/-- **An error cuts the list in two**: the templates before it have been added, and the next one has
the name of a template that the catalog has by then. -/
theorem insertAll_error (h : c.insertAll ts = .error e) :
    ∃ before new after old, ts = before ++ new :: after ∧
      ((c.templates ++ before).map (·.name)).Nodup ∧ old ∈ c.templates ++ before ∧
      old.name = new.name ∧ e = .duplicate new.name old.location new.location := by
  induction ts generalizing c with
  | nil => cases h
  | cons t ts ih =>
    rw [insertAll, List.foldlM_cons] at h
    cases hfirst : c.insert t with
    | error e' =>
      rw [hfirst] at h
      cases h
      obtain ⟨old, hmem, hname, he⟩ := insert_error hfirst
      exact ⟨[], t, ts, old, rfl, by rw [List.append_nil]; exact c.distinct,
        List.mem_append_left _ hmem, hname, he⟩
    | ok first =>
      rw [hfirst] at h
      obtain ⟨before, new, after, old, rfl, hdistinct, hmem, hname, he⟩ := ih h
      rw [insert_iff.1 hfirst, List.append_assoc, List.singleton_append] at hdistinct hmem
      exact ⟨t :: before, new, after, old, rfl, hdistinct, hmem, hname, he⟩

theorem ofList_error (h : ofList ts = .error e) :
    ∃ i j old new, Template.FirstClash ts i j old new ∧
      e = .duplicate new.name old.location new.location := by
  obtain ⟨before, new, after, old, rfl, hdistinct, hmem, hname, he⟩ := insertAll_error h
  obtain ⟨i, hclash⟩ := Template.FirstClash.of_split hdistinct hmem hname after
  exact ⟨i, before.length, old, new, hclash, he⟩

/-- **The catalog of a list, or the error.**

* A list has a catalog exactly if no two of its names are the same.
* The catalog goes through the names in the order of the list, and finds under each name its
  template and under any other name nothing.
* The error is the one about the first clash of names: it tells the name, the place of the template
  that has it and the place of the template that repeats it, and is put down to the latter. -/
theorem ofList_outcome (ts : List Template) :
    ((∃ c, ofList ts = .ok c) ↔ (ts.map (·.name)).Nodup) ∧
      (∀ c, ofList ts = .ok c → c.names = ts.map (·.name) ∧
        (∀ name t, c.find? name = some t ↔ t ∈ ts ∧ t.name = name) ∧
        ∀ name, c.find? name = none ↔ name ∉ ts.map (·.name)) ∧
      ∀ e, ofList ts = .error e ↔ ∃ i j old new, Template.FirstClash ts i j old new ∧
        e = .duplicate new.name old.location new.location ∧
        e.kind = .duplicate new.name old.location new.location ∧
        e.location.path = some new.location := by
  refine ⟨exists_ofList_iff, fun c hc => ?_, fun e => ⟨fun he => ?_, ?_⟩⟩
  · obtain rfl := ofList_iff.1 hc
    exact ⟨rfl, fun name t => find?_eq_some_iff, c.find?_eq_none_iff⟩
  · obtain ⟨i, j, old, new, hclash, rfl⟩ := ofList_error he
    exact ⟨i, j, old, new, hclash, rfl, rfl, rfl⟩
  · rintro ⟨i, j, old, new, hclash, rfl, -, -⟩
    cases hout : ofList ts with
    | ok c => exact absurd (exists_ofList_iff.1 ⟨c, hout⟩) hclash.not_nodup
    | error e =>
      obtain ⟨i', j', old', new', hclash', rfl⟩ := ofList_error hout
      obtain ⟨rfl, rfl⟩ := hclash.unique hclash'
      rfl

end Catalog

end Phrasebook
