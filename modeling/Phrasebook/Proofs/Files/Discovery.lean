import Phrasebook.Proofs.Files.Below
import Phrasebook.Proofs.Text.Order
import Phrasebook.Proofs.Text.SmallLetters

/-!
# Finding documents

The documents below a directory are the files at any depth whose names have one of the given
endings, and they are found in the order of their paths.  Endings are told apart by their small
letters.

* `Path.Ending`, `Path.ending_iff`: the ending of a name;
* `FileTree.IsDocument`: what a document is;
* `Files.discover_directory`, `Files.discover_file`: the documents that are found;
* `Files.discover_congr`: other lists of endings with which the same documents are found.
-/

namespace Phrasebook

/-! ## Endings -/

namespace Path

variable {name stem ending s : Text}

/-- **The ending of a name** goes from its last point on; there is none where the point is the first
or the last character, or where there is no point. -/
inductive Ending : Text → Text → Prop
  | inner {stem ending : Text} (hstem : stem ≠ []) (hending : ending ≠ []) (hlast : '.' ∉ ending) :
      Ending (stem ++ '.' :: ending) ('.' :: ending)
  | none {name : Text} (h : ∀ stem ending, name = stem ++ '.' :: ending → '.' ∉ ending →
      stem = [] ∨ ending = []) : Ending name []

theorem all_ne_of_notMem (h : '.' ∉ name) : ∀ c ∈ name.reverse, decide (c ≠ '.') = true := by
  intro c hc
  rw [decide_eq_true_eq]
  rintro rfl
  exact h (List.mem_reverse.1 hc)

theorem suffixOf_of_notMem (h : '.' ∉ name) : suffixOf name = [] := by
  have hdrop : name.reverse.dropWhile (· ≠ '.') = [] :=
    List.dropWhile_eq_nil_iff.2 (all_ne_of_notMem h)
  unfold suffixOf
  rw [hdrop]

/-- The last point cuts a name in two. -/
theorem suffixOf_append (hlast : '.' ∉ ending) : suffixOf (stem ++ '.' :: ending) =
    if stem = [] ∨ ending = [] then [] else '.' :: ending := by
  have hall := all_ne_of_notMem hlast
  have hreverse : (stem ++ '.' :: ending).reverse = ending.reverse ++ '.' :: stem.reverse := by simp
  have htake : (stem ++ '.' :: ending).reverse.takeWhile (· ≠ '.') = ending.reverse := by
    rw [hreverse, List.takeWhile_append_of_pos hall, List.takeWhile_cons_of_neg (by decide),
      List.append_nil]
  have hdrop : (stem ++ '.' :: ending).reverse.dropWhile (· ≠ '.') = '.' :: stem.reverse := by
    rw [hreverse, List.dropWhile_append_of_pos hall, List.dropWhile_cons_of_neg (by decide)]
  unfold suffixOf
  rw [htake, hdrop]
  cases hstem : stem.reverse with
  | nil =>
    rw [List.reverse_eq_nil_iff] at hstem
    rw [if_pos (.inl hstem)]
    rfl
  | cons c cs =>
    have hne : stem ≠ [] := by
      rintro rfl
      cases hstem
    simp [hne]

/-- **The ending by which documents are told apart** is the ending of the name. -/
theorem ending_iff : Ending name s ↔ suffixOf name = s := by
  by_cases hpoint : '.' ∈ name
  · obtain ⟨front, back, hback, hfront⟩ := List.eq_append_cons_of_mem (List.mem_reverse.2 hpoint)
    have hsplit : name = back.reverse ++ '.' :: front.reverse := by
      rw [← List.reverse_reverse name, hback]
      simp
    have hlast : '.' ∉ front.reverse := by rwa [List.mem_reverse]
    constructor
    · rintro (⟨hstem, hending, hlast'⟩ | h)
      · rw [suffixOf_append hlast', if_neg (by simp [hstem, hending])]
      · rw [hsplit, suffixOf_append hlast, if_pos (h _ _ hsplit hlast)]
    · rintro rfl
      by_cases hnone : back.reverse = [] ∨ front.reverse = []
      · rw [hsplit, suffixOf_append hlast, if_pos hnone]
        refine .none fun stem ending heq hlast' => ?_
        by_contra hne
        have hsuffix := @suffixOf_append stem ending hlast'
        rw [if_neg hne, ← heq, suffixOf_append hlast, if_pos hnone] at hsuffix
        cases hsuffix
      · rw [hsplit, suffixOf_append hlast, if_neg hnone]
        rw [not_or] at hnone
        exact .inner hnone.1 hnone.2 hlast
  · rw [suffixOf_of_notMem hpoint]
    constructor
    · rintro (⟨-, -, -⟩ | -)
      · simp at hpoint
      · rfl
    · rintro rfl
      refine .none fun stem ending heq _ => ?_
      simp [heq] at hpoint

end Path

/-! ## Documents -/

/-- **A document below a root**: a file at any depth, the ending of whose name is one of those given
but for the case of its letters. -/
structure FileTree.IsDocument (tree : FileTree) (root : Path) (extensions : List Text) (p : Path) :
    Prop where
  below : ∃ parts, p = root.below parts ∧ Path.upward ∉ parts
  file : ∃ bytes, tree.files p = .ok (.file bytes)
  ending : ∃ s, Path.Ending p.name s ∧ ∃ x ∈ extensions, Text.toLower x = Text.toLower s

theorem Path.endsInOneOf_iff {extensions : List Text} {p : Path} :
    p.endsInOneOf extensions = true ↔
      ∃ s, Ending p.name s ∧ ∃ x ∈ extensions, Text.toLower x = Text.toLower s := by
  simp only [endsInOneOf, List.contains_iff_mem, List.mem_map, ending_iff, suffix]
  exact ⟨fun h => ⟨_, rfl, h⟩, fun ⟨_, rfl, h⟩ => h⟩

namespace Files

variable {tree : FileTree} {files : Files} {root : Path} {entries : List (Text × Entry)}
  {extensions extensions' : List Text}

/-- **A file is found whatever its name.** -/
theorem discover_file {bytes : List Nat} (h : files root = .ok (.file bytes)) :
    files.discover root extensions = .ok [root] := by
  rw [discover, entry?, h]
  rfl

theorem discover_eq (h : files root = .ok (.directory entries)) :
    files.discover root extensions = .ok ((((Entry.filesIn entries).map root.below).filter
      (·.endsInOneOf extensions)).mergeSort Path.notAfter) := by
  rw [discover, entry?, h]
  rfl

/-- Paths that are sorted and distinct stand in ascending order. -/
theorem pairwise_mergeSort {ps : List Path} (h : (ps.map (·.parts)).Nodup) :
    (ps.mergeSort Path.notAfter).Pairwise fun p q => p.parts < q.parts := by
  have hsorted : (ps.mergeSort Path.notAfter).Pairwise fun p q => p.notAfter q = true := by
    refine List.pairwise_mergeSort (fun p q r hpq hqr => ?_) (fun p q => ?_) ps
    · rw [Path.notAfter_iff] at hpq hqr ⊢
      exact le_trans hpq hqr
    · rw [Bool.or_eq_true, Path.notAfter_iff, Path.notAfter_iff]
      exact le_total _ _
  have hdistinct : (ps.mergeSort Path.notAfter).Pairwise fun p q => p.parts ≠ q.parts :=
    List.pairwise_map.1 (((List.mergeSort_perm ps _).map _).nodup_iff.2 h)
  refine (hsorted.and hdistinct).imp fun {p q} hpq => ?_
  exact lt_of_le_of_ne (Path.notAfter_iff.1 hpq.1) hpq.2

/-- **The documents below a directory** are found each once, in the order of their paths. -/
theorem discover_directory (htree : tree.WellFormed)
    (h : tree.files root = .ok (.directory entries)) :
    ∃ found, tree.files.discover root extensions = .ok found ∧
      found.Pairwise (fun p q => p.parts < q.parts) ∧
      ∀ p, p ∈ found ↔ tree.IsDocument root extensions p := by
  refine ⟨_, discover_eq h, ?_, fun p => ?_⟩
  · refine pairwise_mergeSort ?_
    have hways : (Entry.filesIn entries).Nodup := (tree.walk_below htree h).1.nodup_filesBelow
    have hparts : (((Entry.filesIn entries).map root.below).map (·.parts)).Nodup := by
      rw [List.map_map]
      exact hways.map fun _ _ heq => List.append_cancel_left heq
    exact hparts.sublist (List.filter_sublist.map _)
  · rw [List.mem_mergeSort, List.mem_filter, List.mem_map, Path.endsInOneOf_iff]
    have hways : ∀ parts, parts ∈ Entry.filesIn entries ↔ _ :=
      fun parts => tree.mem_filesBelow_iff htree h
    constructor
    · rintro ⟨⟨parts, hparts, rfl⟩, hending⟩
      obtain ⟨hupward, hfile⟩ := (hways parts).1 hparts
      exact ⟨⟨parts, rfl, hupward⟩, hfile, hending⟩
    · rintro ⟨⟨parts, rfl, hupward⟩, hfile, hending⟩
      exact ⟨⟨parts, (hways parts).2 ⟨hupward, hfile⟩, rfl⟩, hending⟩

/-- Whatever is found, the paths ascend. -/
theorem discover_pairwise {found : List Path} (htree : tree.WellFormed)
    (h : tree.files.discover root extensions = .ok found) :
    found.Pairwise fun p q => p.parts < q.parts := by
  cases hroot : tree.files root with
  | ok e =>
    cases e with
    | file bytes =>
      rw [discover_file hroot] at h
      cases h
      exact List.pairwise_singleton _ _
    | directory entries =>
      obtain ⟨found', hfound', hpairs, -⟩ := discover_directory htree hroot
      rw [h] at hfound'
      cases hfound'
      exact hpairs
  | error o =>
    rw [discover, entry?, hroot] at h
    cases o <;> cases h <;> exact .nil

/-- **The same documents are found** with lists whose endings are the same in small letters. -/
theorem discover_congr (files : Files) (root : Path)
    (h : ∀ s, s ∈ extensions.map Text.toLower ↔ s ∈ extensions'.map Text.toLower) :
    files.discover root extensions = files.discover root extensions' := by
  have hends : (fun p : Path => p.endsInOneOf extensions) = fun p => p.endsInOneOf extensions' := by
    funext p
    rw [Bool.eq_iff_iff, Path.endsInOneOf, Path.endsInOneOf, List.contains_iff_mem,
      List.contains_iff_mem, h]
  unfold discover
  rw [hends]

/-- **The capital sigma is made small by what stands around it**, so that documents which are found
by their endings are not all found by the capitals of these.  At the end of a word it has a small
form of its own; and no letter has the two small forms that it would have to have. -/
theorem discover_sigma : ∃ tree : FileTree, tree.WellFormed ∧ Text.toLower "Σ" = "σ".toList ∧
    tree.entries.map (·.1) = ["x.aσ".toList, "x.σa".toList] ∧
    tree.files.discover (.ofText ".") [".aσ", ".σa"] ≠
      tree.files.discover (.ofText ".") [".aΣ", ".Σa"] := by
  let tree : FileTree :=
    (FileTree.empty.insert (.ofText "x.aσ") (.file [])).insert (.ofText "x.σa") (.file [])
  have htree : tree.WellFormed :=
    (FileTree.WellFormed.empty.insert (.inl ⟨[], rfl⟩) (by decide +kernel)).insert
      (.inl ⟨[], rfl⟩) (by decide +kernel)
  refine ⟨tree, htree, by decide, rfl, fun heq => Text.toLower_sigma fun t ht => ?_⟩
  have hroot : tree.files (.ofText ".") = .ok (.directory tree.entries) := rfl
  obtain ⟨found, hfound, -, hmem⟩ := @discover_directory _ _ _ [".aσ", ".σa"] htree hroot
  obtain ⟨found', hfound', -, hmem'⟩ := @discover_directory _ _ _ [".aΣ", ".Σa"] htree hroot
  rw [hfound, hfound'] at heq
  cases heq
  -- a document that is found by its own ending
  have hpath : ∀ t ∈ [".aσ".toList, ".σa".toList], (Path.ofText ('x' :: t)).suffix = t ∧
      Path.ofText ('x' :: t) = (Path.ofText ".").below ['x' :: t] ∧ Path.upward ∉ ['x' :: t] := by
    decide
  obtain ⟨hsuffix, hbelow, hupward⟩ := hpath t ht
  have hfile : tree.files (.ofText ('x' :: t)) = .ok (.file []) := by
    simp only [List.mem_cons, List.not_mem_nil, or_false] at ht
    rcases ht with rfl | rfl <;> rfl
  have hdocument : tree.IsDocument (.ofText ".") [".aσ", ".σa"] (.ofText ('x' :: t)) :=
    ⟨⟨_, hbelow, hupward⟩, ⟨[], hfile⟩, t, Path.ending_iff.2 hsuffix, t, ht, rfl⟩
  obtain ⟨-, -, s, hs, x, hx, hsmall⟩ := (hmem' _).1 ((hmem _).2 hdocument)
  obtain rfl : t = s := hsuffix.symm.trans (Path.ending_iff.1 hs)
  exact List.mem_map.2 ⟨x, hx, hsmall⟩

end Files

end Phrasebook
