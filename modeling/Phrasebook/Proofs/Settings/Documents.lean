import Mathlib.Data.List.Forall2
import Phrasebook.Settings.Basic

/-!
# Settings of documents

A document gives settings when each of its settings can be read, and each of them is read by itself.
What comes out is in a form in which it could be written down again: endings begin with a point, the
name of a level is in small letters, and no module has an empty name.

* `Settings.Reads`: settings as the entries of a section and the settings beneath determine them;
* `Settings.ofDocument_eq_ok_iff`: the documents that give settings;
* `Settings.IsNormal`: the form of settings, which documents and the environment leave alone;
* `Settings.document`: settings written down;
* `Settings.ofDocument_document`: what is read from settings that have been written down.
-/

namespace Phrasebook

/-- **The document is a mapping and has these settings**: those in the section of the program, or
all of its entries where it has no such section. -/
structure Value.HasSettings (document : Value) (entries own : List (Value × Value)) : Prop where
  mapping : document = .dict entries
  inside : (lookupName? entries "lgen").getD document = .dict own

theorem Value.HasSettings.unique {document : Value} {entries own entries' own' : List (Value × Value)}
    (h : document.HasSettings entries own) (h' : document.HasSettings entries' own') :
    entries = entries' ∧ own = own' := by
  have hentries : entries = entries' := by
    simpa using h.mapping.symm.trans h'.mapping
  subst hentries
  exact ⟨rfl, by simpa using h.inside.symm.trans h'.inside⟩

namespace Settings

variable {α β : Type} {origin : Text} {base s : Settings} {data : Value}
  {entries own : List (Value × Value)}

/-! ## Each setting by itself -/

theorem bind_eq_ok_iff {ε : Type} {x : Except ε α} {f : α → Except ε β} {b : β} :
    (x >>= f) = .ok b ↔ ∃ a, x = .ok a ∧ f a = .ok b := by
  cases x with
  | error e => exact ⟨nofun, nofun⟩
  | ok a => exact ⟨fun h => ⟨a, rfl, h⟩, fun ⟨_, h, hf⟩ => by cases h; exact hf⟩

theorem orFail_eq_ok_iff {x : Except Fault α} {a : α} : Fault.orFail x = .ok a ↔ x = .ok a := by
  cases x with
  | error f => exact ⟨nofun, nofun⟩
  | ok b => exact ⟨fun h => by cases h; rfl, fun h => by cases h; rfl⟩

theorem setting_of_some {name : Text} {v : Value} (h : Value.lookupName? own name = some v)
    (default : α) (read : Value → Except Failure α) : setting own name default read = read v := by
  rw [setting, h]

theorem setting_of_none {name : Text} (h : Value.lookupName? own name = none) (default : α)
    (read : Value → Except Failure α) : setting own name default read = .ok default := by
  rw [setting, h]

/-- **What the entries of a section make of settings**: each setting is read from its own entry, or
is that of the settings beneath. -/
structure Reads (origin : Text) (base : Settings) (own : List (Value × Value)) (s : Settings) :
    Prop where
  encoding : setting own "encoding" base.encoding (fun v => Fault.orFail v.written) = .ok s.encoding
  extensions : setting own "extensions" base.extensions (readExtensions origin) = .ok s.extensions
  seed : setting own "seed" base.seed (readSeed origin) = .ok s.seed
  logLevel : setting own "log_level" base.logLevel (readLevel origin) = .ok s.logLevel
  functionsModule :
    setting own "functions_module" base.functionsModule readModule = .ok s.functionsModule

/-- **The documents that give settings** are those with settings each of which can be read. -/
theorem ofDocument_eq_ok_iff :
    ofDocument origin base data = .ok s ↔ ∃ entries own, data.HasSettings entries own ∧
      Reads origin base own s ∧ s.source = base.source ∧ s.raw = entries := by
  unfold ofDocument
  constructor
  · intro h
    split at h
    · rename_i entries
      split at h
      · rename_i own hown
        simp only [bind_eq_ok_iff] at h
        obtain ⟨encoding, hencoding, extensions, hextensions, seed, hseed, level, hlevel, functions,
          hfunctions, hs⟩ := h
        cases hs
        exact ⟨entries, own, ⟨rfl, hown⟩,
          ⟨hencoding, hextensions, hseed, hlevel, hfunctions⟩, rfl, rfl⟩
      · cases h
    · cases h
  · rintro ⟨entries, own, ⟨rfl, hown⟩, h, hsource, hraw⟩
    simp only [hown, h.encoding, h.extensions, h.seed, h.logLevel, h.functionsModule]
    rw [← hsource, ← hraw]
    rfl

/-! ## The form of settings -/

/-- **The form of settings**: there is an ending and each begins with a point, the level is named in
small letters, and a module has a name. -/
structure IsNormal (s : Settings) : Prop where
  extensions : s.extensions ≠ [] ∧ ∀ t ∈ s.extensions, Text.startsWith "." t = true
  logLevel : s.logLevel ∈ levelNames.map (·.1)
  functionsModule : s.functionsModule ≠ some []

theorem isNormal_standard : standard.IsNormal where
  extensions := ⟨by simp [standard], by decide⟩
  logLevel := by decide
  functionsModule := by simp [standard]

theorem startsWith_withPoint (t : Text) : Text.startsWith "." (withPoint t) = true := by
  unfold withPoint
  split
  · assumption
  · rfl

theorem withPoint_of_startsWith {t : Text} (h : Text.startsWith "." t = true) : withPoint t = t :=
  if_pos h

theorem isSome_levelNamed?_iff (t : Text) :
    (levelNamed? t).isSome = true ↔ t ∈ levelNames.map (·.1) := by
  simp [levelNamed?, List.mem_map]

/-- A level that is read is written in small letters, and named. -/
theorem readLevel_eq_ok_iff {v : Value} {level : Text} : readLevel origin v = .ok level ↔
    ∃ t, v.written = .ok t ∧ level = Text.toLower t ∧ level ∈ levelNames.map (·.1) := by
  unfold readLevel
  simp only [bind_eq_ok_iff, orFail_eq_ok_iff]
  refine exists_congr fun t => and_congr_right fun _ => ?_
  rw [← isSome_levelNamed?_iff]
  split
  · rename_i h
    exact ⟨fun hlevel => by cases hlevel; exact ⟨rfl, h⟩, fun hlevel => by rw [hlevel.1]; rfl⟩
  · rename_i h
    refine ⟨fun hlevel => ?_, fun hlevel => absurd (hlevel.1 ▸ hlevel.2) h⟩
    obtain ⟨_, -, hlevel⟩ := bind_eq_ok_iff.1 hlevel
    cases hlevel

theorem ne_empty_of_readModule {v : Value} {name : Option Text} (h : readModule v = .ok name) :
    name ≠ some [] := by
  obtain ⟨t, -, ht⟩ := bind_eq_ok_iff.1 h
  split at ht
  · cases ht
    simp
  · rename_i hne
    cases ht
    simpa using hne

/-- The endings that a value tells, before they are written: a text itself, or what is in a list. -/
inductive Tells : Value → List Value → Prop
  | text (t : Text) : Tells (.text t) [.text t]
  | list (items : List Value) : Tells (.list items) items
  | tuple (items : List Value) : Tells (.tuple items) items

theorem mapM_eq_ok_iff {f : α → Except Failure β} {as : List α} {bs : List β} :
    as.mapM f = .ok bs ↔ List.Forall₂ (fun a b => f a = .ok b) as bs := by
  induction as generalizing bs with
  | nil => exact ⟨fun h => by cases h; exact .nil, fun h => by cases h; rfl⟩
  | cons a rest ih =>
    simp only [List.mapM_cons, bind_eq_ok_iff, ih]
    constructor
    · rintro ⟨b, hb, others, hothers, h⟩
      cases h
      exact .cons hb hothers
    · rintro (_ | ⟨hb, hothers⟩)
      exact ⟨_, hb, _, hothers, rfl⟩

/-- Endings are read from a text, or from a list that is not empty; each begins with a point. -/
theorem readExtensions_eq_ok_iff {v : Value} {endings : List Text} :
    readExtensions origin v = .ok endings ↔ ∃ items texts, Tells v items ∧ items ≠ [] ∧
      List.Forall₂ (fun item t => item.written = .ok t) items texts ∧
      endings = texts.map withPoint := by
  unfold readExtensions
  extract_lets items
  have htells : ∀ told, told ≠ [] → (Tells v told ↔ items = told) := by
    intro told hne
    cases v <;> first
      | exact ⟨fun h => by cases h; rfl, fun h => h ▸ .text _⟩
      | exact ⟨fun h => by cases h; rfl, fun h => h ▸ .list _⟩
      | exact ⟨fun h => by cases h; rfl, fun h => h ▸ .tuple _⟩
      | exact ⟨nofun, fun h => absurd h.symm hne⟩
  split
  · rename_i hempty
    refine ⟨nofun, fun ⟨told, _, htold, hne, _⟩ => absurd ((htells told hne).1 htold) ?_⟩
    rw [List.isEmpty_iff.1 hempty]
    exact hne.symm
  · rename_i hempty
    have hne : items ≠ [] := mt List.isEmpty_iff.2 hempty
    simp only [bind_eq_ok_iff, mapM_eq_ok_iff, orFail_eq_ok_iff]
    constructor
    · rintro ⟨texts, hwritten, h⟩
      cases h
      exact ⟨items, texts, (htells items hne).2 rfl, hne, hwritten, rfl⟩
    · rintro ⟨told, texts, htold, hne', hwritten, rfl⟩
      rw [← (htells told hne').1 htold] at hwritten
      exact ⟨texts, hwritten, rfl⟩

theorem points_of_readExtensions {v : Value} {endings : List Text}
    (h : readExtensions origin v = .ok endings) :
    endings ≠ [] ∧ ∀ t ∈ endings, Text.startsWith "." t = true := by
  obtain ⟨items, texts, -, hne, hwritten, rfl⟩ := readExtensions_eq_ok_iff.1 h
  refine ⟨fun hnil => ?_, fun t ht => ?_⟩
  · rw [List.map_eq_nil_iff.1 hnil, List.forall₂_nil_right_iff] at hwritten
    exact hne hwritten
  · obtain ⟨u, -, rfl⟩ := List.mem_map.1 ht
    exact startsWith_withPoint u

/-- A property of what stands beneath and of all that is read holds of a setting. -/
theorem setting_induction {P : α → Prop} {name : Text} {default : α}
    {read : Value → Except Failure α} (hdefault : P default)
    (hread : ∀ v a, read v = .ok a → P a) {a : α} (h : setting own name default read = .ok a) :
    P a := by
  unfold setting at h
  split at h
  · exact hread _ _ h
  · cases h
    exact hdefault

/-- Documents give settings of this form. -/
theorem Reads.isNormal (h : Reads origin base own s) (hbase : base.IsNormal) : s.IsNormal where
  extensions := setting_induction (P := fun endings =>
    endings ≠ [] ∧ ∀ t ∈ endings, Text.startsWith "." t = true) hbase.extensions
    (fun _ _ => points_of_readExtensions) h.extensions
  logLevel := setting_induction (P := (· ∈ levelNames.map (·.1))) hbase.logLevel
    (fun _ _ hlevel => (readLevel_eq_ok_iff.1 hlevel).choose_spec.2.2) h.logLevel
  functionsModule := setting_induction (P := (· ≠ some [])) hbase.functionsModule
    (fun _ _ => ne_empty_of_readModule) h.functionsModule

/-! ## Settings written down -/

/-- Settings written down as a document, each under its name. -/
def document (s : Settings) : Value :=
  .dict [(.text "encoding", .text s.encoding), (.text "extensions", .list (s.extensions.map .text)),
    (.text "seed", s.seed.elim .null .int), (.text "log_level", .text s.logLevel),
    (.text "functions_module", s.functionsModule.elim .null .text)]

/-- Endings that begin with a point are read as they are. -/
theorem readExtensions_texts (origin : Text) {endings : List Text} (hne : endings ≠ [])
    (hpoints : ∀ t ∈ endings, Text.startsWith "." t = true) :
    readExtensions origin (.list (endings.map .text)) = .ok endings := by
  refine readExtensions_eq_ok_iff.2 ⟨_, endings, .list _, by simpa using hne, ?_, ?_⟩
  · rw [List.forall₂_map_left_iff, List.forall₂_same]
    exact fun t _ => rfl
  · exact (List.map_congr_left fun t ht => withPoint_of_startsWith (hpoints t ht)).trans
      (List.map_id _) |>.symm

theorem readSeed_elim (origin : Text) (seed : Option Int) :
    readSeed origin (seed.elim .null .int) = .ok seed := by
  cases seed <;> rfl

/-- The name of a level in small letters is read as it is. -/
theorem readLevel_text (origin : Text) {level : Text} (h : level ∈ levelNames.map (·.1)) :
    readLevel origin (.text level) = .ok level := by
  have hsmall : ∀ name ∈ levelNames.map (·.1), Text.toLower name = name := by decide
  exact readLevel_eq_ok_iff.2 ⟨level, rfl, (hsmall level h).symm, h⟩

/-- Nothing in place of a module is read as the text that nothing is written as. -/
theorem readModule_elim {name : Option Text} (h : name ≠ some []) :
    readModule (name.elim .null .text) = .ok (some (name.getD "None")) := by
  cases name with
  | none => rfl
  | some t =>
    cases t with
    | nil => exact absurd rfl h
    | cons c rest => rfl

/-- **Settings of this form are read as they were written**, save for a missing module. -/
theorem IsNormal.ofDocument_document (hs : s.IsNormal) (origin : Text) (base : Settings) :
    ∃ s', ofDocument origin base s.document = .ok s' ∧ s'.encoding = s.encoding ∧
      s'.extensions = s.extensions ∧ s'.seed = s.seed ∧ s'.logLevel = s.logLevel ∧
      s'.functionsModule = some (s.functionsModule.getD "None") :=
  ⟨⟨s.encoding, s.extensions, s.seed, s.logLevel, some (s.functionsModule.getD "None"), base.source,
      _⟩, ofDocument_eq_ok_iff.2 ⟨_, _, ⟨rfl, rfl⟩, {
        encoding := rfl
        extensions := readExtensions_texts origin hs.extensions.1 hs.extensions.2
        seed := readSeed_elim origin s.seed
        logLevel := readLevel_text origin hs.logLevel
        functionsModule := readModule_elim hs.functionsModule }, rfl, rfl⟩, rfl, rfl, rfl, rfl, rfl⟩

/-- **Writing settings down and reading them again.**  The settings that any document gives can be
written down, and are read again with the same encoding, endings, seed and level, and with the same
module if they have one. Without a module the text `None` is read in its place. -/
theorem ofDocument_rewritten {origin : Text} {data : Value} {s : Settings}
    (h : ofDocument origin standard data = .ok s) (origin' : Text) :
    ∃ s', ofDocument origin' standard s.document = .ok s' ∧ s'.encoding = s.encoding ∧
      s'.extensions = s.extensions ∧ s'.seed = s.seed ∧ s'.logLevel = s.logLevel ∧
      s'.functionsModule = some (s.functionsModule.getD "None") := by
  obtain ⟨entries, own, -, hreads, -⟩ := ofDocument_eq_ok_iff.1 h
  exact (hreads.isNormal isNormal_standard).ofDocument_document origin' standard

/-- Each setting of the document is in another form than it is written down in. -/
theorem ofDocument_rewritten_section :
    ∃ (data : Value) (s s' : Settings), ofDocument "f" standard data = .ok s ∧
      data.HasSettings [(.text "lgen", .dict [(.text "seed", .text " 1_2 "),
        (.text "log_level", .text "INFO"), (.text "extensions", .text "lg")])]
        [(.text "seed", .text " 1_2 "), (.text "log_level", .text "INFO"),
          (.text "extensions", .text "lg")] ∧
      ofDocument "g" standard s.document = .ok s' ∧ s'.seed = some 12 ∧
      s'.logLevel = "info".toList ∧ s'.extensions = [".lg".toList] := by
  let own : List (Value × Value) := [(.text "seed", .text " 1_2 "),
    (.text "log_level", .text "INFO"), (.text "extensions", .text "lg")]
  let s : Settings := ⟨"utf-8", [".lg"], some 12, "info", none, none, [(.text "lgen", .dict own)]⟩
  have hs : ofDocument "f" standard (.dict [(.text "lgen", .dict own)]) = .ok s := rfl
  obtain ⟨s', hs', -, hextensions, hseed, hlevel, -⟩ := ofDocument_rewritten hs "g"
  exact ⟨_, s, s', hs, ⟨rfl, rfl⟩, hs', hseed, hlevel, hextensions⟩

/-- **A missing module is written down and read as one**: it is told as nothing, like a missing seed,
but nothing is read as the text `None`. -/
theorem ofDocument_rewritten_none :
    ∃ s s' : Settings, ofDocument "<config>" standard (.dict []) = .ok s ∧
      s.document = .dict [(.text "encoding", .text "utf-8"),
        (.text "extensions", .list [.text ".lg"]), (.text "seed", .null),
        (.text "log_level", .text "warning"), (.text "functions_module", .null)] ∧
      ofDocument "<config>" standard s.document = .ok s' ∧
      s.functionsModule = none ∧ s'.functionsModule = some "None".toList :=
  ⟨_, _, rfl, rfl, rfl, rfl, rfl⟩

end Settings

end Phrasebook
