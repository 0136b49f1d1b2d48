import Mathlib.Data.List.Nodup
import Phrasebook.Files.Discovery
import Phrasebook.Proofs.Text.Ends

/-!
# The files below a directory

The names in a directory are distinct, and each of them leads to its entry.  So a file at any depth
is reached by one way, and the ways to the files below an entry are those along which a walk ends at
a file without going up.

* `Entry.WellFormed`, `FileTree.WellFormed`: the trees of a file system;
* `FileTree.WellFormed.insert`: putting files and directories into such a tree;
* `Entry.WellFormed.mem_filesBelow`, `Entry.WellFormed.nodup_filesBelow`: the ways to files;
* `FileTree.mem_filesBelow_iff`: the files below the end of a path.
-/

namespace Phrasebook

/-- **The names that entries have**: names by which they can be asked for. -/
structure FileTree.IsEntryName (name : Text) : Prop where
  short : isTooLong name = false
  noNull : '\x00' ∉ name
  notUpward : name ≠ Path.upward

theorem FileTree.isEntryName_iff {name : Text} : IsEntryName name ↔
    isTooLong name = false ∧ '\x00' ∉ name ∧ name ≠ Path.upward :=
  ⟨fun ⟨hshort, hnull, hupward⟩ => ⟨hshort, hnull, hupward⟩,
    fun ⟨hshort, hnull, hupward⟩ => ⟨hshort, hnull, hupward⟩⟩

instance (name : Text) : Decidable (FileTree.IsEntryName name) :=
  decidable_of_iff _ FileTree.isEntryName_iff.symm

/-- **The entries of a file system**: no two entries of a directory have the same name. -/
inductive Entry.WellFormed : Entry → Prop
  | file (bytes : List Nat) : WellFormed (.file bytes)
  | directory {entries : List (Text × Entry)} (distinct : (entries.map (·.1)).Nodup)
      (names : ∀ e ∈ entries, FileTree.IsEntryName e.1) (inside : ∀ e ∈ entries, WellFormed e.2) :
      WellFormed (.directory entries)

/-- The trees of a file system. -/
def FileTree.WellFormed (tree : FileTree) : Prop := (Entry.directory tree.entries).WellFormed

namespace Entry

variable {entries : List (Text × Entry)} {e : Entry} {name : Text} {parts : List Text}

/-! ## The ways to files -/

theorem mem_filesIn : parts ∈ filesIn entries ↔
    ∃ name e rest, (name, e) ∈ entries ∧ rest ∈ e.filesBelow ∧ parts = name :: rest := by
  induction entries with
  | nil => simp [filesIn]
  | cons entry entries ih =>
    obtain ⟨name, e⟩ := entry
    rw [filesIn, List.mem_append, List.mem_map, ih]
    constructor
    · rintro (⟨rest, hrest, rfl⟩ | ⟨n, e', rest, he', hrest, rfl⟩)
      · exact ⟨name, e, rest, List.mem_cons_self, hrest, rfl⟩
      · exact ⟨n, e', rest, List.mem_cons_of_mem _ he', hrest, rfl⟩
    · rintro ⟨n, e', rest, he', hrest, rfl⟩
      rcases List.mem_cons.1 he' with heq | he'
      · cases heq
        exact .inl ⟨rest, hrest, rfl⟩
      · exact .inr ⟨n, e', rest, he', hrest, rfl⟩

theorem nodup_filesIn (hdistinct : (entries.map (·.1)).Nodup)
    (hinside : ∀ e ∈ entries, e.2.filesBelow.Nodup) : (filesIn entries).Nodup := by
  induction entries with
  | nil => exact List.nodup_nil
  | cons entry entries ih =>
    obtain ⟨name, e⟩ := entry
    obtain ⟨hname, hrest⟩ := List.nodup_cons.1 hdistinct
    have hfirst : (e.filesBelow.map (name :: ·)).Nodup :=
      (hinside _ List.mem_cons_self).map fun _ _ h => (List.cons.inj h).2
    refine List.nodup_append.2
      ⟨hfirst, ih hrest fun e he => hinside e (List.mem_cons_of_mem _ he), ?_⟩
    rintro _ hway _ hother rfl
    obtain ⟨rest, -, rfl⟩ := List.mem_map.1 hway
    obtain ⟨n, e', rest', he', -, heq⟩ := mem_filesIn.1 hother
    obtain ⟨rfl, -⟩ := List.cons.inj heq
    exact hname (List.mem_map.2 ⟨_, he', rfl⟩)

namespace WellFormed

theorem empty : (Entry.directory []).WellFormed := .directory List.nodup_nil nofun nofun

/-- **No file is reached twice.** -/
theorem nodup_filesBelow (h : e.WellFormed) : e.filesBelow.Nodup := by
  induction h with
  | file bytes => exact List.nodup_singleton _
  | directory distinct _ _ ih => exact nodup_filesIn distinct ih

/-- The ways to files go by names of entries. -/
theorem isEntryName (h : e.WellFormed) (hparts : parts ∈ e.filesBelow) :
    ∀ part ∈ parts, FileTree.IsEntryName part := by
  induction h generalizing parts with
  | file bytes =>
    obtain rfl := List.mem_singleton.1 hparts
    nofun
  | directory _ names _ ih =>
    obtain ⟨name, e, rest, he, hrest, rfl⟩ := mem_filesIn.1 hparts
    exact List.forall_mem_cons.2 ⟨names _ he, ih _ he hrest⟩

/-- A name leads to its entry. -/
theorem find?_eq_some_iff (h : (Entry.directory entries).WellFormed) :
    entries.find? (·.1 = name) = some (name, e) ↔ (name, e) ∈ entries := by
  have hdistinct : (entries.map (·.1)).Nodup := by
    cases h
    assumption
  constructor
  · exact List.mem_of_find?_eq_some
  · intro he
    cases hfind : entries.find? (·.1 = name) with
    | none => simpa using List.find?_eq_none.1 hfind _ he
    | some found =>
      have hname : found.1 = name := by simpa using List.find?_some hfind
      rw [List.inj_on_of_nodup_map hdistinct (List.mem_of_find?_eq_some hfind) he hname]

/-- An entry in the place of those with its name. -/
theorem replace {new : Entry} (h : (Entry.directory entries).WellFormed)
    (hname : FileTree.IsEntryName name) (hnew : new.WellFormed) :
    (Entry.directory (entries.filter (·.1 ≠ name) ++ [(name, new)])).WellFormed := by
  cases h with
  | directory distinct names inside =>
    have hothers : ∀ e ∈ entries.filter (·.1 ≠ name), e ∈ entries ∧ e.1 ≠ name :=
      fun e he => by simpa using he
    refine .directory ?_ ?_ ?_
    · rw [List.map_append, List.map_singleton, List.nodup_append]
      refine ⟨distinct.sublist (List.filter_sublist.map _), List.nodup_singleton _, ?_⟩
      rintro n hn _ hnew rfl
      obtain ⟨e, he, rfl⟩ := List.mem_map.1 hn
      exact (hothers e he).2 (List.mem_singleton.1 hnew)
    · rintro e he
      rcases List.mem_append.1 he with he | he
      · exact names e (hothers e he).1
      · rwa [List.mem_singleton.1 he]
    · rintro e he
      rcases List.mem_append.1 he with he | he
      · exact inside e (hothers e he).1
      · rwa [List.mem_singleton.1 he]

/-- What is put below a directory goes into the entries of the one with its first name, or into
none. -/
theorem exists_inside (h : (Entry.directory entries).WellFormed) (name : Text) :
    ∃ inside, (Entry.directory inside).WellFormed ∧
      FileTree.put (.directory []) [name] entries =
        entries.filter (·.1 ≠ name) ++ [(name, .directory inside)] ∧
      ∀ new part rest, FileTree.put new (name :: part :: rest) entries =
        entries.filter (·.1 ≠ name) ++
          [(name, .directory (FileTree.put new (part :: rest) inside))] := by
  rcases hfind : entries.find? (·.1 = name) with _ | ⟨n, ⟨bytes⟩ | inside⟩
  · refine ⟨[], .empty, ?_, fun new part rest => ?_⟩
    · rw [FileTree.put, hfind]
      rfl
    · rw [FileTree.put.eq_def]
      dsimp only
      rw [hfind]
  · refine ⟨[], .empty, ?_, fun new part rest => ?_⟩
    · rw [FileTree.put, hfind]
      rfl
    · rw [FileTree.put.eq_def]
      dsimp only
      rw [hfind]
  · have hinside : (Entry.directory inside).WellFormed := by
      cases h with
      | directory _ _ hall => exact hall _ (List.mem_of_find?_eq_some hfind)
    refine ⟨inside, hinside, ?_, fun new part rest => ?_⟩
    · rw [FileTree.put, hfind, List.append_nil]
    · rw [FileTree.put.eq_def]
      dsimp only
      rw [hfind]

/-- Putting a file at a place below, or making a directory there. -/
theorem put {new : Entry} (hnew : (∃ bytes, new = .file bytes) ∨ new = .directory [])
    (hparts : ∀ part ∈ parts, FileTree.IsEntryName part)
    (h : (Entry.directory entries).WellFormed) :
    (Entry.directory (FileTree.put new parts entries)).WellFormed := by
  induction parts generalizing entries with
  | nil => exact h
  | cons name rest ih =>
    obtain ⟨hname, hrest⟩ := List.forall_mem_cons.1 hparts
    obtain ⟨inside, hinside, hlast, hbelow⟩ := h.exists_inside name
    cases rest with
    | nil =>
      rcases hnew with ⟨bytes, rfl⟩ | rfl
      · exact h.replace hname (.file bytes)
      · rw [hlast]
        exact h.replace hname hinside
    | cons part rest =>
      rw [hbelow]
      exact h.replace hname (ih hrest hinside)

end WellFormed

end Entry

namespace FileTree.WellFormed

theorem empty : FileTree.empty.WellFormed := Entry.WellFormed.empty

/-- **Trees made of files and directories one by one** are trees of a file system. -/
theorem insert {tree : FileTree} {p : Path} {new : Entry} (h : tree.WellFormed)
    (hnew : (∃ bytes, new = .file bytes) ∨ new = .directory [])
    (hparts : ∀ part ∈ p.parts, IsEntryName part) : (tree.insert p new).WellFormed :=
  Entry.WellFormed.put hnew hparts h

end FileTree.WellFormed

/-! ## Walks -/

namespace FileTree

variable {above : List Entry} {entries : List (Text × Entry)} {e e' : Entry} {name part : Text}
  {parts rest ps : List Text}

theorem walk_upward_cons (d : Entry) :
    walk (d :: above) (.directory entries) (Path.upward :: rest) = walk above d rest := by
  rw [walk, if_neg (by decide), if_pos rfl]

theorem walk_upward_nil :
    walk [] (.directory entries) (Path.upward :: rest) = walk [] (.directory []) rest := by
  rw [walk, if_neg (by decide), if_pos rfl]

theorem walk_directory (hpart : part ≠ Path.upward) :
    walk above (.directory entries) (part :: rest) =
      if isTooLong part then .error .nameTooLong
      else match entries.find? (·.1 = part) with
        | some (_, found) => walk (.directory entries :: above) found rest
        | none => .error .missing := by
  rw [walk.eq_def]
  dsimp only
  exact if_congr Iff.rfl rfl (if_neg hpart)

/-- A walk leads to the entry with a name. -/
theorem walk_eq_ok_iff (h : (Entry.directory entries).WellFormed) (hpart : part ≠ Path.upward) :
    walk above (.directory entries) (part :: rest) = .ok e' ↔
      ∃ e, (part, e) ∈ entries ∧ walk (.directory entries :: above) e rest = .ok e' := by
  rw [walk_directory hpart]
  constructor
  · intro hwalk
    split at hwalk
    · cases hwalk
    · split at hwalk
      · rename_i n e hfind
        obtain rfl : n = part := by simpa using List.find?_some hfind
        exact ⟨e, h.find?_eq_some_iff.1 hfind, hwalk⟩
      · cases hwalk
  · rintro ⟨e, he, hwalk⟩
    have hshort : isTooLong part = false := by
      cases h with
      | directory _ names _ => exact (names _ he).short
    rw [hshort, if_neg Bool.false_ne_true, h.find?_eq_some_iff.2 he]
    exact hwalk

/-- **The ways to the files below an entry** are those along which a walk from there ends at a file
and never goes up. -/
theorem mem_filesBelow_iff_walk (h : e.WellFormed) (above : List Entry) :
    parts ∈ e.filesBelow ↔
      Path.upward ∉ parts ∧ ∃ bytes, walk above e parts = .ok (.file bytes) := by
  induction parts generalizing e above with
  | nil =>
    cases h with
    | file bytes => simp [Entry.filesBelow, walk]
    | directory _ _ _ => simp [Entry.filesBelow, Entry.mem_filesIn, walk]
  | cons part rest ih =>
    cases h with
    | file bytes => simp [Entry.filesBelow, walk]
    | @directory entries distinct names inside =>
      have hwell := Entry.WellFormed.directory distinct names inside
      rw [Entry.filesBelow, Entry.mem_filesIn, List.mem_cons, not_or]
      constructor
      · rintro ⟨_, e, _, he, hrest, heq⟩
        obtain ⟨rfl, rfl⟩ := List.cons.inj heq
        obtain ⟨hupward, bytes, hwalk⟩ := (ih (inside _ he) (.directory entries :: above)).1 hrest
        have hpart : part ≠ Path.upward := (names _ he).notUpward
        exact ⟨⟨hpart.symm, hupward⟩, bytes, (walk_eq_ok_iff hwell hpart).2 ⟨e, he, hwalk⟩⟩
      · rintro ⟨⟨hpart, hupward⟩, bytes, hwalk⟩
        obtain ⟨e, he, hwalk⟩ := (walk_eq_ok_iff hwell (Ne.symm hpart)).1 hwalk
        exact ⟨part, e, rest, he, (ih (inside _ he) _).2 ⟨hupward, bytes, hwalk⟩, rfl⟩

/-- A walk goes on from where it has led so far, and it leads to well-formed entries only. -/
theorem walk_append (h : walk above e ps = .ok e') (he : e.WellFormed)
    (habove : ∀ d ∈ above, d.WellFormed) :
    e'.WellFormed ∧ ∃ above', ∀ qs, walk above e (ps ++ qs) = walk above' e' qs := by
  induction ps generalizing above e with
  | nil =>
    obtain rfl : e = e' := by simpa [walk] using h
    exact ⟨he, above, fun _ => rfl⟩
  | cons part ps ih =>
    cases he with
    | file bytes => simp [walk] at h
    | @directory entries distinct names inside =>
      have hwell := Entry.WellFormed.directory distinct names inside
      by_cases hpart : part = Path.upward
      · subst hpart
        cases above with
        | nil =>
          rw [walk_upward_nil] at h
          obtain ⟨hend, above', hwalk⟩ := ih h .empty nofun
          refine ⟨hend, above', fun qs => ?_⟩
          rw [List.cons_append, walk_upward_nil, hwalk]
        | cons d above =>
          rw [walk_upward_cons] at h
          obtain ⟨hd, habove⟩ := List.forall_mem_cons.1 habove
          obtain ⟨hend, above', hwalk⟩ := ih h hd habove
          refine ⟨hend, above', fun qs => ?_⟩
          rw [List.cons_append, walk_upward_cons, hwalk]
      · obtain ⟨e, he, hrest⟩ := (walk_eq_ok_iff hwell hpart).1 h
        obtain ⟨hend, above', hwalk⟩ :=
          ih hrest (inside _ he) (List.forall_mem_cons.2 ⟨hwell, habove⟩)
        refine ⟨hend, above', fun qs => ?_⟩
        have hshort : isTooLong part = false := (names _ he).short
        rw [List.cons_append, walk_directory hpart, hshort, if_neg Bool.false_ne_true,
          hwell.find?_eq_some_iff.2 he]
        exact hwalk qs

end FileTree

/-! ## Paths -/

theorem Text.mem_join_of_mem {sep t : Text} {ts : List Text} {c : Char} (ht : t ∈ ts) (hc : c ∈ t) :
    c ∈ join sep ts := by
  induction ts with
  | nil => cases ht
  | cons u ts ih =>
    cases ts with
    | nil =>
      obtain rfl := List.mem_singleton.1 ht
      exact hc
    | cons v ts =>
      rw [join, List.mem_append]
      rcases List.mem_cons.1 ht with rfl | ht
      · exact .inl (List.mem_append_left _ hc)
      · exact .inr (ih ht)

/-- The characters of a path, other than slashes and points. -/
theorem Path.mem_text {p : Path} {c : Char} (hslash : c ≠ '/') (hpoint : c ≠ '.') :
    c ∈ p.text ↔ c ∈ p.root ∨ ∃ part ∈ p.parts, c ∈ part := by
  unfold text
  split
  · rename_i h
    simp [h.1, h.2, hpoint]
  · rw [List.mem_append]
    refine or_congr_right ⟨fun h => ?_, fun ⟨part, hpart, hc⟩ => Text.mem_join_of_mem hpart hc⟩
    exact (Text.mem_join h).resolve_left (by simpa using hslash)

namespace FileTree

variable {tree : FileTree} {root : Path} {e : Entry} {parts : List Text}

theorem files_of_noNull {p : Path} (h : '\x00' ∉ p.text) : tree.files p =
    walk [] (.directory (if p.root = [] then tree.entries else [])) p.parts := by
  rw [files, if_neg (by simpa using h)]

theorem noNull_of_files {p : Path} (h : tree.files p = .ok e) : '\x00' ∉ p.text := by
  intro hnull
  rw [files, if_pos (by simpa using hnull)] at h
  cases h

/-- A path leads to a well-formed entry, and the paths below it are walked on from there. -/
theorem walk_below (htree : tree.WellFormed) (h : tree.files root = .ok e) :
    e.WellFormed ∧ ∃ above, ∀ parts,
      walk [] (.directory (if root.root = [] then tree.entries else [])) (root.parts ++ parts) =
        walk above e parts := by
  rw [files_of_noNull (noNull_of_files h)] at h
  refine walk_append h ?_ nofun
  split
  · exact htree
  · exact .empty

/-- **The files below the end of a path**, by the paths to them. -/
theorem mem_filesBelow_iff (htree : tree.WellFormed) (h : tree.files root = .ok e) :
    parts ∈ e.filesBelow ↔
      Path.upward ∉ parts ∧ ∃ bytes, tree.files (root.below parts) = .ok (.file bytes) := by
  have hroot := noNull_of_files h
  obtain ⟨hend, above, hwalk⟩ := walk_below htree h
  rw [mem_filesBelow_iff_walk hend above]
  refine and_congr_right fun hupward => exists_congr fun bytes => ?_
  constructor
  · intro hfile
    have hparts := hend.isEntryName ((mem_filesBelow_iff_walk hend above).2 ⟨hupward, bytes, hfile⟩)
    have hnull : '\x00' ∉ (root.below parts).text := by
      rw [Path.mem_text (by decide) (by decide)] at hroot ⊢
      rintro (hnull | ⟨part, hpart, hnull⟩)
      · exact hroot (.inl hnull)
      · rcases List.mem_append.1 hpart with hpart | hpart
        · exact hroot (.inr ⟨part, hpart, hnull⟩)
        · exact (hparts part hpart).noNull hnull
    rw [files_of_noNull hnull]
    exact (hwalk parts).trans hfile
  · intro hfile
    rw [files_of_noNull (noNull_of_files hfile)] at hfile
    exact (hwalk parts).symm.trans hfile

end FileTree

end Phrasebook
