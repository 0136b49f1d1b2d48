import Phrasebook.Proofs.Document.Clashes
import Phrasebook.Proofs.Document.SourceOrder
import Phrasebook.Proofs.Files.Discovery
import Phrasebook.Proofs.Settings.Documents

/-!
# Adding the documents of a directory

The documents below a directory are read in the order of their paths, and each of them from its top
to its bottom.  So that is the order in which their templates are added to a book; and where two of
them have the same name, the one of the earlier path is told as the first.

* `Files.Reads`, `Files.Defines`: the templates of a document;
* `Source.offersAll_iff`: the templates of several documents;
* `Book.addDirectory_ok`, `Book.addDirectory_clash`: what adding a directory comes to;
* `Files.pairwise_comesBefore`: the order of the templates;
* `Book.addDirectory_collects`: the documents that are found, and the templates that are added.
-/

namespace Phrasebook

/-! ## Documents -/

namespace Files

variable {files : Files} {encoding : Text} {p q : Path} {ts us : List Template} {t u : Template}

/-- **A document can be read**, and has these templates. -/
def Reads (files : Files) (encoding : Text) (p : Path) (ts : List Template) : Prop :=
  ∃ text, files.readText encoding p = .ok text ∧ Template.readDocument p.text text = .ok ts

/-- A document has a template. -/
def Defines (files : Files) (encoding : Text) (p : Path) (t : Template) : Prop :=
  ∃ ts, files.Reads encoding p ts ∧ t ∈ ts

theorem Reads.unique (h : files.Reads encoding p ts) (h' : files.Reads encoding p us) :
    ts = us := by
  obtain ⟨text, htext, hts⟩ := h
  obtain ⟨text', htext', hus⟩ := h'
  obtain rfl : text = text' := Except.ok.inj (htext.symm.trans htext')
  exact Except.ok.inj (hts.symm.trans hus)

theorem Reads.pairwise_line (h : files.Reads encoding p ts) :
    ts.Pairwise fun t u => t.line < u.line := by
  obtain ⟨text, -, hts⟩ := h
  exact (Template.readDocument_lines hts).2

theorem Defines.location (h : files.Defines encoding p t) :
    t.location = p.text ++ ":" ++ Text.ofNat t.line := by
  obtain ⟨ts, ⟨text, -, hts⟩, ht⟩ := h
  exact (Template.readDocument_lines hts).1 t ht

section

variable {found : List Path} {documents : List (List Template)}

theorem exists_reads (hread : List.Forall₂ (files.Reads encoding) found documents)
    (hts : ts ∈ documents) : ∃ p ∈ found, files.Reads encoding p ts := by
  induction hread with
  | nil => cases hts
  | @cons p _ found documents hp _ ih =>
    rcases List.mem_cons.1 hts with rfl | hts
    · exact ⟨p, List.mem_cons_self, hp⟩
    · obtain ⟨q, hq, hreads⟩ := ih hts
      exact ⟨q, List.mem_cons_of_mem p hq, hreads⟩

theorem Defines.mem_flatten (hread : List.Forall₂ (files.Reads encoding) found documents)
    (hp : p ∈ found) (h : files.Defines encoding p t) : t ∈ documents.flatten := by
  induction hread with
  | nil => cases hp
  | cons hq _ ih =>
    rcases List.mem_cons.1 hp with rfl | hp
    · obtain ⟨ts, hts, ht⟩ := h
      exact List.mem_append_left _ (hts.unique hq ▸ ht)
    · exact List.mem_append_right _ (ih hp)

/-- Where the names of all templates are distinct, none is defined in two documents. -/
theorem name_ne_of_nodup (hread : List.Forall₂ (files.Reads encoding) found documents)
    (hdistinct : (documents.flatten.map (·.name)).Nodup) (hp : p ∈ found) (hq : q ∈ found)
    (hne : p ≠ q) (ht : files.Defines encoding p t) (hu : files.Defines encoding q u) :
    t.name ≠ u.name := by
  induction hread with
  | nil => cases hp
  | @cons first ts found documents hfirst hrest ih =>
    rw [List.flatten_cons, List.map_append, List.nodup_append] at hdistinct
    obtain ⟨-, hlater, hapart⟩ := hdistinct
    have hinside : ∀ {v}, files.Defines encoding first v → v.name ∈ ts.map (·.name) := by
      rintro v ⟨vs, hvs, hv⟩
      exact List.mem_map_of_mem (hvs.unique hfirst ▸ hv)
    have houtside : ∀ {r v}, r ∈ found → files.Defines encoding r v →
        v.name ∈ documents.flatten.map (·.name) :=
      fun hr hv => List.mem_map_of_mem (hv.mem_flatten hrest hr)
    rcases List.mem_cons.1 hp with rfl | hp' <;> rcases List.mem_cons.1 hq with rfl | hq'
    · exact absurd rfl hne
    · exact hapart _ (hinside ht) _ (houtside hq' hu)
    · exact (hapart _ (hinside hu) _ (houtside hp' ht)).symm
    · exact ih hlater hp' hq'

/-- A template comes before another one: in a document with an earlier path, or on an earlier line
of the same document. -/
def ComesBefore (files : Files) (encoding : Text) (found : List Path) (t u : Template) : Prop :=
  ∃ p ∈ found, ∃ q ∈ found, files.Defines encoding p t ∧ files.Defines encoding q u ∧
    (p.parts < q.parts ∨ p = q ∧ t.line < u.line)

/-- **Documents in the order of their paths have their templates in order.** -/
theorem pairwise_comesBefore (hfound : found.Pairwise fun p q => p.parts < q.parts)
    (hread : List.Forall₂ (files.Reads encoding) found documents) :
    documents.flatten.Pairwise (files.ComesBefore encoding found) := by
  induction hread with
  | nil => exact .nil
  | @cons p ts found documents hp hread ih =>
    obtain ⟨hfirst, hrest⟩ := List.pairwise_cons.1 hfound
    rw [List.flatten_cons, List.pairwise_append]
    refine ⟨hp.pairwise_line.imp_of_mem fun {t u} ht hu hline => ?_,
      (ih hrest).imp fun {t u} hbefore => ?_, fun t ht u hu => ?_⟩
    · exact ⟨p, List.mem_cons_self, p, List.mem_cons_self, ⟨ts, hp, ht⟩, ⟨ts, hp, hu⟩,
        .inr ⟨rfl, hline⟩⟩
    · obtain ⟨q, hq, q', hq', hboth⟩ := hbefore
      exact ⟨q, List.mem_cons_of_mem p hq, q', List.mem_cons_of_mem p hq', hboth⟩
    · obtain ⟨us, hus, hu⟩ := List.mem_flatten.1 hu
      obtain ⟨q, hq, hreads⟩ := exists_reads hread hus
      exact ⟨p, List.mem_cons_self, q, List.mem_cons_of_mem p hq, ⟨ts, hp, ht⟩, ⟨us, hreads, hu⟩,
        .inl (hfirst q hq)⟩

end

end Files

/-! ## Adding -/

namespace Source

open Settings (bind_eq_ok_iff mapM_eq_ok_iff orFail_eq_ok_iff)

variable {settings : Settings} {files : Files} {p : Path} {ts : List Template}

theorem offersFile_iff :
    offersFile settings files p = .ok ts ↔ files.Reads settings.encoding p ts := by
  simp only [offersFile, Files.Reads, bind_eq_ok_iff, orFail_eq_ok_iff]

/-- **The templates of several documents**, if all of them can be read. -/
theorem offersAll_iff {ps : List Path} : offersAll settings files ps = .ok ts ↔
    ∃ documents, List.Forall₂ (files.Reads settings.encoding) ps documents ∧
      ts = documents.flatten := by
  simp only [offersAll, bind_eq_ok_iff, mapM_eq_ok_iff, offersFile_iff]
  refine exists_congr fun documents => and_congr_right fun _ => ?_
  exact ⟨fun h => (Except.ok.inj h).symm, fun h => congrArg Except.ok h.symm⟩

theorem offersDirectory_iff : offersDirectory settings files p = .ok ts ↔
    ∃ found documents, files.discover p settings.extensions = .ok found ∧
      List.Forall₂ (files.Reads settings.encoding) found documents ∧ ts = documents.flatten := by
  simp only [offersDirectory, bind_eq_ok_iff, orFail_eq_ok_iff, offersAll_iff,
    exists_and_left]

end Source

namespace Book

variable {files : Files} {b b' : Book} {root : Path} {ts : List Template} {found : List Path}
  {log log' : List LogRecord}

theorem add_eq_ok_iff : b.add ts = .ok b' ↔ ∃ c, Catalog.ofList (b.added ++ ts) = .ok c ∧
    b' = { b with added := b.added ++ ts, templates := c, kept := none } := by
  rw [add_eq]
  cases Catalog.ofList (b.added ++ ts) with
  | error e => simp
  | ok c => simp [eq_comm]

/-- A directory is added with the templates of its documents, one document after the other. -/
theorem addDirectory_ok (h : (b.addDirectory files root).run log = (.ok b', log')) :
    ∃ found documents, files.discover root b.settings.extensions = .ok found ∧
      List.Forall₂ (files.Reads b.settings.encoding) found documents ∧
      b'.added = b.added ++ documents.flatten ∧ b'.templates.templates = b'.added := by
  obtain ⟨records, hrun⟩ := gives_addLoaded (@Source.gives_directory b.settings files root) b
  have houtcome : (Source.offersDirectory b.settings files root >>= b.add) = .ok b' :=
    (congrArg Prod.fst (hrun log)).symm.trans (congrArg Prod.fst h)
  obtain ⟨ts, hoffers, hadd⟩ := Settings.bind_eq_ok_iff.1 houtcome
  obtain ⟨found, documents, hfound, hread, rfl⟩ := Source.offersDirectory_iff.1 hoffers
  obtain ⟨c, hcatalog, rfl⟩ := add_eq_ok_iff.1 hadd
  exact ⟨found, documents, hfound, hread, rfl, Catalog.ofList_iff.1 hcatalog⟩

/-- Names that clash are told at the first clash. -/
theorem addDirectory_clash {documents : List (List Template)}
    (hfound : files.discover root b.settings.extensions = .ok found)
    (hread : List.Forall₂ (files.Reads b.settings.encoding) found documents)
    (hclash : ¬ ((b.added ++ documents.flatten).map (·.name)).Nodup) :
    ∃ i j old new, Template.FirstClash (b.added ++ documents.flatten) i j old new ∧
      ((b.addDirectory files root).run log).1 =
        .error (.template (.duplicate new.name old.location new.location)) := by
  obtain ⟨records, hrun⟩ := gives_addLoaded (@Source.gives_directory b.settings files root) b
  have hoffers : Source.offersDirectory b.settings files root = .ok documents.flatten :=
    Source.offersDirectory_iff.2 ⟨found, documents, hfound, hread, rfl⟩
  cases hcatalog : Catalog.ofList (b.added ++ documents.flatten) with
  | ok c => exact absurd (Catalog.exists_ofList_iff.1 ⟨c, hcatalog⟩) hclash
  | error e =>
    obtain ⟨i, j, old, new, hfirst, rfl⟩ := Catalog.ofList_error hcatalog
    have hadd : (Source.offersDirectory b.settings files root >>= b.add) =
        .error (.template (.duplicate new.name old.location new.location)) := by
      rw [hoffers]
      show b.add documents.flatten = _
      rw [add_eq, hcatalog]
    exact ⟨i, j, old, new, hfirst, (congrArg Prod.fst (hrun log)).trans hadd⟩

/-- **The documents of a directory, and their templates.**  In the files of any tree:

* of the files at any depth below a directory those are found whose ending is one of those given in
  small letters, each once and in the order of their paths;
* a file is found at its own path, whatever its name;
* lists of endings which are the same in small letters, whatever their order and however often they
  tell an ending, find the same documents; ASCII letters in either case are the same in small
  letters, and so are texts without a capital sigma whose characters have the same small forms;
* a book to which a directory can be added has then the templates of its documents behind its own,
  document by document in the order of their paths, and each document in the order of its lines;
* a book without templates to which it cannot be added, since a name is defined in two documents,
  tells the first clash of names: the template of the earlier path comes first. -/
theorem addDirectory_collects {tree : FileTree} (htree : tree.WellFormed) (root : Path) :
    (∀ entries, tree.files root = .ok (.directory entries) → ∀ extensions, ∃ found,
      tree.files.discover root extensions = .ok found ∧
        found.Pairwise (fun p q => p.parts < q.parts) ∧
        ∀ p, p ∈ found ↔ tree.IsDocument root extensions p) ∧
    (∀ bytes, tree.files root = .ok (.file bytes) → ∀ extensions,
      tree.files.discover root extensions = .ok [root]) ∧
    ((∀ extensions extensions' : List Text,
        (∀ s, s ∈ extensions.map Text.toLower ↔ s ∈ extensions'.map Text.toLower) →
        tree.files.discover root extensions = tree.files.discover root extensions') ∧
      (∀ t, Text.toLower (t.map Char.toLower) = Text.toLower t) ∧
      ∀ t u, 'Σ' ∉ t → 'Σ' ∉ u → t.flatMap Text.lowerChar = u.flatMap Text.lowerChar →
        Text.toLower t = Text.toLower u) ∧
    (∀ (b b' : Book) (log log' : List LogRecord),
      (b.addDirectory tree.files root).run log = (.ok b', log') →
      ∃ found documents, tree.files.discover root b.settings.extensions = .ok found ∧
        found.Pairwise (fun p q => p.parts < q.parts) ∧
        List.Forall₂ (tree.files.Reads b.settings.encoding) found documents ∧
        (∀ ts ∈ documents, ts.Pairwise fun t u => t.line < u.line) ∧
        b'.added = b.added ++ documents.flatten ∧ b'.templates.templates = b'.added) ∧
    ∀ (b : Book) (log : List LogRecord) (found : List Path) (documents : List (List Template)),
      b.added = [] → tree.files.discover root b.settings.extensions = .ok found →
      List.Forall₂ (tree.files.Reads b.settings.encoding) found documents →
      (∃ p ∈ found, ∃ q ∈ found, p ≠ q ∧ ∃ t u, tree.files.Defines b.settings.encoding p t ∧
        tree.files.Defines b.settings.encoding q u ∧ t.name = u.name) →
      ∃ i j old new, Template.FirstClash documents.flatten i j old new ∧
        ∃ p ∈ found, ∃ q ∈ found, tree.files.Defines b.settings.encoding p old ∧
          tree.files.Defines b.settings.encoding q new ∧
          (p.parts < q.parts ∨ p = q ∧ old.line < new.line) ∧
          ((b.addDirectory tree.files root).run log).1 = .error (.template (.duplicate new.name
            (p.text ++ ":" ++ Text.ofNat old.line) (q.text ++ ":" ++ Text.ofNat new.line))) := by
  refine ⟨fun entries h extensions => Files.discover_directory htree h,
    fun bytes h extensions => Files.discover_file h,
    ⟨fun extensions extensions' h => Files.discover_congr tree.files root h,
      Text.toLower_map_toLower, fun t u ht hu h => ?_⟩, ?_, ?_⟩
  · rw [Text.toLower_of_notMem ht, Text.toLower_of_notMem hu, h]
  · intro b b' log log' hrun
    obtain ⟨found, documents, hfound, hread, hadded, htemplates⟩ := addDirectory_ok hrun
    refine ⟨found, documents, hfound, Files.discover_pairwise htree hfound, hread, fun ts hts => ?_,
      hadded, htemplates⟩
    obtain ⟨p, -, hreads⟩ := Files.exists_reads hread hts
    exact hreads.pairwise_line
  · rintro b log found documents hempty hfound hread ⟨p, hp, q, hq, hne, t, u, ht, hu, hname⟩
    have hclash : ¬ ((b.added ++ documents.flatten).map (·.name)).Nodup := by
      rw [hempty, List.nil_append]
      exact fun hdistinct => Files.name_ne_of_nodup hread hdistinct hp hq hne ht hu hname
    obtain ⟨i, j, old, new, hfirst, houtcome⟩ :=
      @addDirectory_clash _ _ _ _ log _ hfound hread hclash
    rw [hempty, List.nil_append] at hfirst
    have horder := Files.pairwise_comesBefore (Files.discover_pairwise htree hfound) hread
    obtain ⟨hj, hnew⟩ := List.getElem?_eq_some_iff.1 hfirst.new_at
    obtain ⟨hi, hold⟩ := List.getElem?_eq_some_iff.1 hfirst.old_at
    have hbefore := List.pairwise_iff_getElem.1 horder i j hi hj hfirst.lt
    rw [hold, hnew] at hbefore
    obtain ⟨p', hp', q', hq', hpold, hqnew, hpaths⟩ := hbefore
    rw [hpold.location, hqnew.location] at houtcome
    exact ⟨i, j, old, new, hfirst, p', hp', q', hq', hpold, hqnew, hpaths, houtcome⟩

/-- A name in two documents; the path of the second has the smaller text, for a point comes before
a slash, but not the smaller first part. -/
theorem addDirectory_collects_clash :
    ∃ (tree : FileTree) (b : Book) (found : List Path), tree.WellFormed ∧
      tree.files.discover (.ofText ".") [".lg"] = .ok found ∧
      found = [.ofText "a/b.LG", .ofText "a.lg"] ∧
      ((b.addDirectory tree.files (.ofText ".")).run []).1 =
        .error (.template (.duplicate "x" "a/b.LG:1" "a.lg:1")) := by
  let bytes : List Nat := "#x\n- y\n".toList.map Char.toNat
  let tree : FileTree :=
    (FileTree.empty.insert (.ofText "a.lg") (.file bytes)).insert (.ofText "a/b.LG") (.file bytes)
  have htree : tree.WellFormed :=
    (FileTree.WellFormed.empty.insert (.inl ⟨bytes, rfl⟩) (by decide +kernel)).insert
      (.inl ⟨bytes, rfl⟩) (by decide +kernel)
  let found : List Path := [.ofText "a/b.LG", .ofText "a.lg"]
  have hfound : tree.files.discover (.ofText ".") [".lg"] = .ok found := by
    have hroot : tree.files (.ofText ".") = .ok (.directory tree.entries) := rfl
    have hfiles : ((Entry.filesIn tree.entries).map (Path.ofText ".").below).filter
        (·.endsInOneOf [".lg"]) = [.ofText "a.lg", .ofText "a/b.LG"] := by
      decide +kernel
    have horder : Path.notAfter (.ofText "a.lg") (.ofText "a/b.LG") = false := by decide +kernel
    have hsort : ∀ p q : Path, p.notAfter q = false → [p, q].mergeSort Path.notAfter = [q, p] := by
      intro p q hpq
      rw [List.mergeSort]
      simp [List.MergeSort.Internal.splitInTwo, hpq]
    rw [Files.discover_eq hroot, hfiles, hsort _ _ horder]
  have hreads : ∀ p ∈ found, ∃ t, tree.files.Reads "utf-8" p [t] ∧
      t.name = "x".toList ∧ t.location = p.text ++ ":1" := by
    intro p hp
    have hall : ∀ p ∈ found, ((Source.offersFile .standard tree.files p).toOption.map fun ts =>
        ts.map fun t => (t.name, t.location)) = some [("x".toList, p.text ++ ":1")] := by
      decide +kernel
    have hone := hall p hp
    cases hoffers : Source.offersFile .standard tree.files p with
    | error f =>
      rw [hoffers] at hone
      cases hone
    | ok ts =>
      rw [hoffers] at hone
      obtain ⟨t, rfl, ht⟩ := List.map_eq_singleton_iff.1 (Option.some.inj hone)
      obtain ⟨hname, hlocation⟩ := Prod.mk.inj ht
      exact ⟨t, Source.offersFile_iff.1 hoffers, hname, hlocation⟩
  obtain ⟨t, ht, htname, htlocation⟩ := hreads _ (List.mem_cons_self)
  obtain ⟨u, hu, huname, hulocation⟩ := hreads _ (List.mem_cons_of_mem _ List.mem_cons_self)
  obtain ⟨-, -, -, -, hclash⟩ := addDirectory_collects htree (.ofText ".")
  obtain ⟨i, j, old, new, hfirst, p, -, q, -, hp, hq, -, houtcome⟩ :=
    hclash (.empty .standard (.standard [])) [] found [[t], [u]] rfl hfound
      (.cons ht (.cons hu .nil))
      ⟨_, List.mem_cons_self, _, List.mem_cons_of_mem _ List.mem_cons_self, by decide, t, u,
        ⟨[t], ht, List.mem_singleton_self t⟩, ⟨[u], hu, List.mem_singleton_self u⟩,
        htname.trans huname.symm⟩
  -- of two templates the first clash is between the one and the other
  obtain ⟨hj, hnew⟩ := List.getElem?_eq_some_iff.1 hfirst.new_at
  obtain ⟨rfl, rfl⟩ : i = 0 ∧ j = 1 := by
    have hlt := hfirst.lt
    have hlength : j < 2 := hj
    omega
  obtain rfl : u = new := hnew
  obtain rfl : t = old := Option.some.inj hfirst.old_at
  have hpaths : (Path.ofText "a/b.LG").text ++ ":1" = "a/b.LG:1".toList ∧
      (Path.ofText "a.lg").text ++ ":1" = "a.lg:1".toList := by
    decide
  rw [← hp.location, ← hq.location, huname, htlocation, hulocation, hpaths.1, hpaths.2] at houtcome
  exact ⟨tree, .empty .standard (.standard []), found, htree, hfound, rfl, houtcome⟩

end Book

end Phrasebook
