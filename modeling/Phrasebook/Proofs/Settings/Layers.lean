import Phrasebook.Proofs.Settings.Validity
import Phrasebook.Settings.Loading

/-!
# Layers of settings

Settings are loaded from three layers: what holds where nothing is said, the document that is found,
and the environment.  Each setting is decided by itself, by the highest layer that tells it.  All
the layers below are still read, so what is invalid in one of them is never covered up.

* `Settings.Finds`, `Settings.Holds`: the file that is found, and the settings in it;
* `Settings.Overrides`: what the environment makes of settings;
* `Settings.Layered`: each setting as the layers decide it;
* `Settings.Invalid`: what is invalid in a document or in the environment;
* `Settings.load_layers`: the settings that are loaded.
-/

namespace Phrasebook.Settings

variable {files : Files} {root : Path} {explicit found : Option Path} {env : Environment}
  {origin : Text} {lower s : Settings} {entries own : List (Value × Value)}

/-! ## The document -/

/-- **The file that is found**: the one that is named, which must exist, or the first one with a
usual name that exists in the directory, or none. -/
inductive Finds (files : Files) (root : Path) : Option Path → Option Path → Prop
  | named {path : Path} (h : files.has path = .ok true) : Finds files root (some path) (some path)
  | first (h : files.has (root.settled.below ["lgen.toml"]) = .ok true) :
      Finds files root none (some (root.settled.below ["lgen.toml"]))
  | second (h : files.has (root.settled.below ["lgen.toml"]) = .ok false)
      (h' : files.has (root.settled.below [".lgenrc"]) = .ok true) :
      Finds files root none (some (root.settled.below [".lgenrc"]))
  | neither (h : files.has (root.settled.below ["lgen.toml"]) = .ok false)
      (h' : files.has (root.settled.below [".lgenrc"]) = .ok false) : Finds files root none none

theorem firstOf_cons_eq_ok_iff {path : Path} {rest : List Path} :
    firstOf files (path :: rest) = .ok found ↔
      files.has path = .ok true ∧ found = some path ∨
        files.has path = .ok false ∧ firstOf files rest = .ok found := by
  rw [firstOf, bind_eq_ok_iff]
  constructor
  · rintro ⟨b, hb, h⟩
    cases b with
    | false => exact .inr ⟨hb, h⟩
    | true => exact .inl ⟨hb, (Except.ok.inj h).symm⟩
  · rintro (⟨hb, rfl⟩ | ⟨hb, h⟩)
    · exact ⟨true, hb, rfl⟩
    · exact ⟨false, hb, h⟩

theorem locate_eq_ok_iff :
    locate files root explicit = .ok found ↔ Finds files root explicit found := by
  unfold locate
  cases explicit with
  | some path =>
    simp only [bind_eq_ok_iff, orFail_eq_ok_iff]
    constructor
    · rintro ⟨b, hb, h⟩
      cases b with
      | false => cases h
      | true =>
        cases h
        exact .named hb
    · rintro ⟨h⟩
      exact ⟨true, ‹_›, rfl⟩
  | none =>
    simp only [orFail_eq_ok_iff, fileNames, List.map_cons, firstOf_cons_eq_ok_iff]
    constructor
    · rintro (⟨h, rfl⟩ | ⟨h, ⟨h', rfl⟩ | ⟨h', hnone⟩⟩)
      · exact .first h
      · exact .second h h'
      · cases hnone
        exact .neither h h'
    · rintro (_ | h | ⟨h, h'⟩ | ⟨h, h'⟩)
      · exact .inl ⟨h, rfl⟩
      · exact .inr ⟨h, .inl ⟨h', rfl⟩⟩
      · exact .inr ⟨h, .inr ⟨h', rfl⟩⟩

/-- **What a file that is found holds**: the entries of its document, and those that are settings. -/
inductive Holds (files : Files) : Option Path → List (Value × Value) → List (Value × Value) → Prop
  | nothing : Holds files none [] []
  | document {path : Path} {data : Value} {entries own : List (Value × Value)}
      (hread : readFile files path = .ok data) (hdata : data.HasSettings entries own) :
      Holds files (some path) entries own

/-- Where the settings of a file are told to come from. -/
def originOf (found : Option Path) : Text := found.elim [] Path.text

/-- The settings of the document alone. -/
def beneath (files : Files) : Option Path → Except Failure Settings
  | some path => ofFile files path
  | none => .ok standard

theorem beneath_eq_ok_iff : beneath files found = .ok lower ↔ ∃ entries own,
    Holds files found entries own ∧ Reads (originOf found) standard own lower ∧
      lower.source = found ∧ lower.raw = entries := by
  cases found with
  | none =>
    constructor
    · intro h
      cases h
      exact ⟨[], [], .nothing, ⟨rfl, rfl, rfl, rfl, rfl⟩, rfl, rfl⟩
    · rintro ⟨_, _, ⟨⟩, ⟨hencoding, hextensions, hseed, hlevel, hfunctions⟩, hsource, hraw⟩
      cases lower
      cases hencoding; cases hextensions; cases hseed; cases hlevel; cases hfunctions
      cases hsource; cases hraw
      rfl
  | some path =>
    simp only [beneath, ofFile, bind_eq_ok_iff, ofDocument_eq_ok_iff]
    constructor
    · rintro ⟨data, hread, d, ⟨entries, own, hdata, hreads, -, hraw⟩, h⟩
      cases h
      exact ⟨entries, own, .document hread hdata, { hreads with }, rfl, hraw⟩
    · rintro ⟨entries, own, hholds, hreads, hsource, hraw⟩
      obtain _ | ⟨hread, hdata⟩ := hholds
      refine ⟨_, hread, { lower with source := none }, ?_, by rw [← hsource]; rfl⟩
      exact ⟨entries, own, hdata, { hreads with }, rfl, hraw⟩

/-! ## The environment -/

/-- The value of a variable that is not empty. -/
def told? (env : Environment) (name : Text) : Option Text := (valueOf? env name).filter (· ≠ [])

/-- Settings with the encoding and the level of the environment, where it tells them, and a seed. -/
def overridden (env : Environment) (lower : Settings) (seed : Option Int) : Settings :=
  { lower with
    encoding := (told? env "LGEN_ENCODING").getD lower.encoding, seed := seed
    logLevel := ((told? env "LGEN_LOG_LEVEL").map Text.toLower).getD lower.logLevel }

/-- **What the environment makes of settings.**  An encoding or a level that is not empty goes before
the one beneath, and the level must be one; a seed goes before the one beneath even if it is empty. -/
structure Overrides (env : Environment) (lower s : Settings) : Prop where
  seedTold : ∀ t, valueOf? env "LGEN_SEED" = some t → Seeds (.text t) s.seed
  seedLeft : valueOf? env "LGEN_SEED" = none → s.seed = lower.seed
  levelNamed : ∀ t, told? env "LGEN_LOG_LEVEL" = some t → IsLevelName t
  others : s = overridden env lower s.seed

theorem readSeed_text_eq_ok_iff {t : Text} {seed : Option Int} :
    readSeed origin (.text t) = .ok seed ↔ Seeds (.text t) seed :=
  readSeed_eq_ok_iff (.text t) ⟨_, rfl⟩

theorem readLevel_text_eq_ok_iff {t level : Text} :
    readLevel origin (.text t) = .ok level ↔ IsLevelName t ∧ level = Text.toLower t := by
  rw [readLevel_eq_ok_iff]
  constructor
  · rintro ⟨u, hu, rfl, hlevel⟩
    cases hu
    exact ⟨hlevel, rfl⟩
  · rintro ⟨hlevel, rfl⟩
    exact ⟨t, rfl, rfl, hlevel⟩

theorem override_eq_ok_iff : override env lower = .ok s ↔ Overrides env lower s := by
  unfold override
  extract_lets told level
  have htold : ∀ name, told name = told? env name := fun _ => rfl
  have hlevel : ∀ seed, level seed = .ok s ↔
      (∀ t, told? env "LGEN_LOG_LEVEL" = some t → IsLevelName t) ∧ s = overridden env lower seed := by
    intro seed
    simp only [level, overridden, htold]
    cases told? env "LGEN_LOG_LEVEL" with
    | none =>
      constructor
      · intro h
        cases h
        exact ⟨fun _ ht => absurd ht.symm (Option.some_ne_none _), rfl⟩
      · rintro ⟨-, rfl⟩
        rfl
    | some t =>
      simp only [bind_eq_ok_iff, readLevel_text_eq_ok_iff, Option.some.injEq]
      constructor
      · rintro ⟨_, ⟨hname, rfl⟩, h⟩
        cases h
        exact ⟨fun _ ht => ht ▸ hname, rfl⟩
      · rintro ⟨hname, rfl⟩
        exact ⟨_, ⟨hname t rfl, rfl⟩, rfl⟩
  cases hseed : valueOf? env "LGEN_SEED" with
  | none =>
    have hnone : ∀ t, valueOf? env "LGEN_SEED" ≠ some t := fun t ht => by cases hseed.symm.trans ht
    show level lower.seed = .ok s ↔ _
    rw [hlevel]
    constructor
    · rintro ⟨hnamed, rfl⟩
      exact ⟨fun t ht => absurd ht (hnone t), fun _ => rfl, hnamed, rfl⟩
    · intro h
      exact ⟨h.levelNamed, h.seedLeft hseed ▸ h.others⟩
  | some t =>
    simp only [bind_eq_ok_iff, readSeed_text_eq_ok_iff, hlevel]
    constructor
    · rintro ⟨seed, hseeds, hnamed, rfl⟩
      refine ⟨fun u hu => ?_, fun hnone => ?_, hnamed, rfl⟩
      · cases hseed.symm.trans hu
        exact hseeds
      · cases hseed.symm.trans hnone
    · intro h
      exact ⟨s.seed, h.seedTold t hseed, h.levelNamed, h.others⟩

/-- The environment has no variables for the other settings. -/
theorem Overrides.untouched (h : Overrides env lower s) : s.extensions = lower.extensions ∧
    s.functionsModule = lower.functionsModule ∧ s.source = lower.source ∧ s.raw = lower.raw := by
  rw [h.others]
  exact ⟨rfl, rfl, rfl, rfl⟩

theorem overridden_overridden (env : Environment) (lower : Settings) (seed seed' : Option Int) :
    overridden env (overridden env lower seed) seed' = overridden env lower seed' := by
  unfold overridden
  cases told? env "LGEN_ENCODING" <;> cases told? env "LGEN_LOG_LEVEL" <;> rfl

/-- **What the environment says is said once for all.** -/
theorem Overrides.again (h : Overrides env lower s) : Overrides env s s where
  seedTold := h.seedTold
  seedLeft _ := rfl
  levelNamed := h.levelNamed
  others := calc
    s = overridden env lower s.seed := h.others
    _ = overridden env (overridden env lower s.seed) s.seed :=
      (overridden_overridden env lower s.seed s.seed).symm
    _ = overridden env s s.seed := by rw [← h.others]

/-! ## The layers together -/

theorem load_eq_ok_iff : load files root explicit env = .ok s ↔ ∃ found lower,
    Finds files root explicit found ∧ beneath files found = .ok lower ∧ Overrides env lower s := by
  unfold load
  simp only [bind_eq_ok_iff, locate_eq_ok_iff]
  refine exists_congr fun found => ?_
  rw [exists_and_left]
  refine and_congr_right fun _ => ?_
  cases found with
  | none =>
    refine override_eq_ok_iff.trans ⟨fun h => ⟨standard, rfl, h⟩, ?_⟩
    rintro ⟨lower, hlower, h⟩
    cases hlower
    exact h
  | some path => simp only [beneath, bind_eq_ok_iff, override_eq_ok_iff]

/-- A setting of which the document has a value that can be read, or none, and which is what a
higher layer tells, or else that of the document, or else what holds by default. -/
def Layer {α : Type} (above : Option α) (own : List (Value × Value)) (name : Text) (default : α)
    (read : Value → Except Failure α) (a : α) : Prop :=
  ∃ below, setting own name default read = .ok below ∧ a = above.getD below

/-- **Each setting as the layers decide it**, whatever the others are. -/
structure Layered (env : Environment) (origin : Text) (own : List (Value × Value)) (s : Settings) :
    Prop where
  encoding : Layer (told? env "LGEN_ENCODING") own "encoding" "utf-8"
    (fun v => Fault.orFail v.written) s.encoding
  extensions : setting own "extensions" [".lg".toList] (readExtensions origin) = .ok s.extensions
  seedTold : ∀ t, valueOf? env "LGEN_SEED" = some t → Seeds (.text t) s.seed ∧
    ∃ below, setting own "seed" none (readSeed origin) = .ok below
  seedLeft : valueOf? env "LGEN_SEED" = none →
    setting own "seed" none (readSeed origin) = .ok s.seed
  logLevel : Layer ((told? env "LGEN_LOG_LEVEL").map Text.toLower) own "log_level" "warning"
    (readLevel origin) s.logLevel
  levelNamed : ∀ t, told? env "LGEN_LOG_LEVEL" = some t → IsLevelName t
  functionsModule : setting own "functions_module" none readModule = .ok s.functionsModule

/-- **What is invalid** in the settings of a document, or in a variable. -/
inductive Invalid (env : Environment) (origin : Text) (own : List (Value × Value)) : Prop
  | encoding {v : Value} (hv : Value.lookupName? own "encoding" = some v) (h : ∀ t, v.written ≠ .ok t)
  | extensions {v : Value} (hv : Value.lookupName? own "extensions" = some v)
      (h : ∀ endings, readExtensions origin v ≠ .ok endings)
  | seed {v : Value} (hv : Value.lookupName? own "seed" = some v)
      (h : ∀ seed, readSeed origin v ≠ .ok seed)
  | logLevel {v : Value} (hv : Value.lookupName? own "log_level" = some v)
      (h : ∀ level, readLevel origin v ≠ .ok level)
  | functionsModule {v : Value} (hv : Value.lookupName? own "functions_module" = some v)
      (h : ∀ name, readModule v ≠ .ok name)
  | seedVariable {t : Text} (ht : valueOf? env "LGEN_SEED" = some t)
      (h : ∀ seed, ¬ Seeds (.text t) seed)
  | levelVariable {t : Text} (ht : told? env "LGEN_LOG_LEVEL" = some t) (h : ¬ IsLevelName t)

/-- Each setting by itself, or the settings beneath as a whole: both are the same. -/
theorem layered_iff : Layered env origin own s ↔ ∃ lower, Reads origin standard own lower ∧
    lower.source = s.source ∧ lower.raw = s.raw ∧ Overrides env lower s := by
  constructor
  · intro h
    obtain ⟨encoding, hencoding, hencoding'⟩ := h.encoding
    obtain ⟨level, hlevel, hlevel'⟩ := h.logLevel
    obtain ⟨seed, hseed, hleft⟩ : ∃ seed, setting own "seed" none (readSeed origin) = .ok seed ∧
        (valueOf? env "LGEN_SEED" = none → s.seed = seed) := by
      cases ht : valueOf? env "LGEN_SEED" with
      | none => exact ⟨s.seed, h.seedLeft ht, fun _ => rfl⟩
      | some t =>
        obtain ⟨-, seed, hseed⟩ := h.seedTold t ht
        exact ⟨seed, hseed, nofun⟩
    refine ⟨⟨encoding, s.extensions, seed, level, s.functionsModule, s.source, s.raw⟩,
      ⟨hencoding, h.extensions, hseed, hlevel, h.functionsModule⟩, rfl, rfl,
      ⟨fun t ht => (h.seedTold t ht).1, hleft, h.levelNamed, ?_⟩⟩
    cases s
    simp only [overridden, Settings.mk.injEq, and_true, true_and]
    exact ⟨hencoding', hlevel'⟩
  · rintro ⟨lower, hreads, -, -, h⟩
    obtain ⟨hextensions, hfunctions, -⟩ := h.untouched
    exact {
      encoding := ⟨_, hreads.encoding, congrArg Settings.encoding h.others⟩
      extensions := hextensions ▸ hreads.extensions
      seedTold := fun t ht => ⟨h.seedTold t ht, _, hreads.seed⟩
      seedLeft := fun hnone => h.seedLeft hnone ▸ hreads.seed
      logLevel := ⟨_, hreads.logLevel, congrArg Settings.logLevel h.others⟩
      levelNamed := h.levelNamed
      functionsModule := hfunctions ▸ hreads.functionsModule }

/-- What is invalid leaves no settings, though a higher layer tells the same setting. -/
theorem Invalid.not_layered (h : Invalid env origin own) : ¬ Layered env origin own s := by
  intro hlayered
  cases h with
  | encoding hv h =>
    obtain ⟨below, hbelow, -⟩ := hlayered.encoding
    rw [setting_of_some hv] at hbelow
    exact h below (orFail_eq_ok_iff.1 hbelow)
  | extensions hv h => exact h _ ((setting_of_some hv _ _).symm.trans hlayered.extensions)
  | seed hv h =>
    obtain ⟨below, hbelow⟩ : ∃ below, setting own "seed" none (readSeed origin) = .ok below := by
      cases ht : valueOf? env "LGEN_SEED" with
      | none => exact ⟨_, hlayered.seedLeft ht⟩
      | some t => exact (hlayered.seedTold t ht).2
    exact h below ((setting_of_some hv _ _).symm.trans hbelow)
  | logLevel hv h =>
    obtain ⟨below, hbelow, -⟩ := hlayered.logLevel
    exact h below ((setting_of_some hv _ _).symm.trans hbelow)
  | functionsModule hv h => exact h _ ((setting_of_some hv _ _).symm.trans hlayered.functionsModule)
  | seedVariable ht h => exact h _ (hlayered.seedTold _ ht).1
  | levelVariable ht h => exact h (hlayered.levelNamed _ ht)

theorem Holds.unique {entries' own' : List (Value × Value)} (h : Holds files found entries own)
    (h' : Holds files found entries' own') : own = own' := by
  cases h with
  | nothing =>
    cases h'
    rfl
  | document hread hdata =>
    cases h' with
    | document hread' hdata' =>
      cases hread.symm.trans hread'
      exact (hdata.unique hdata').2

theorem load_eq_ok_iff_layered : load files root explicit env = .ok s ↔ ∃ found entries own,
    Finds files root explicit found ∧ Holds files found entries own ∧
      Layered env (originOf found) own s ∧ s.source = found ∧ s.raw = entries := by
  rw [load_eq_ok_iff]
  refine exists_congr fun found => ?_
  constructor
  · rintro ⟨lower, hfound, hlower, h⟩
    obtain ⟨entries, own, hholds, hreads, hsource, hraw⟩ := beneath_eq_ok_iff.1 hlower
    obtain ⟨-, -, hsource', hraw'⟩ := h.untouched
    exact ⟨entries, own, hfound, hholds, layered_iff.2 ⟨lower, hreads, hsource'.symm, hraw'.symm, h⟩,
      hsource'.trans hsource, hraw'.trans hraw⟩
  · rintro ⟨entries, own, hfound, hholds, hlayered, hsource, hraw⟩
    obtain ⟨lower, hreads, hsource', hraw', h⟩ := layered_iff.1 hlayered
    exact ⟨lower, hfound, beneath_eq_ok_iff.2 ⟨entries, own, hholds, hreads, hsource'.trans hsource,
      hraw'.trans hraw⟩, h⟩

/-- **The settings that are loaded.**  For all files, every directory, named file or none, and every
environment:

* settings are loaded exactly if a file is found, or none, it holds settings, and each setting is
  decided by the layers by itself; they tell the file and the whole document;
* the environment changes nothing in them when it is put on top once more;
* what is invalid in the document or in the environment makes loading fail, though a higher layer
  tells the same setting. -/
theorem load_layers (files : Files) (root : Path) (explicit : Option Path) (env : Environment) :
    (∀ s, load files root explicit env = .ok s ↔ ∃ found entries own,
        Finds files root explicit found ∧ Holds files found entries own ∧
          Layered env (originOf found) own s ∧ s.source = found ∧ s.raw = entries) ∧
      (∀ s, load files root explicit env = .ok s → override env s = .ok s) ∧
      ∀ found entries own, Finds files root explicit found → Holds files found entries own →
        Invalid env (originOf found) own → ∃ f, load files root explicit env = .error f := by
  refine ⟨fun s => load_eq_ok_iff_layered, fun s h => ?_, fun found entries own hfound hholds h => ?_⟩
  · obtain ⟨found, lower, -, -, hoverrides⟩ := load_eq_ok_iff.1 h
    exact override_eq_ok_iff.2 hoverrides.again
  · cases hload : load files root explicit env with
    | error f => exact ⟨f, rfl⟩
    | ok s =>
      obtain ⟨found', entries', own', hfound', hholds', hlayered, -⟩ :=
        load_eq_ok_iff_layered.1 hload
      cases (locate_eq_ok_iff.2 hfound).symm.trans (locate_eq_ok_iff.2 hfound')
      rw [hholds.unique hholds'] at h
      exact absurd hlayered h.not_layered

/-- A seed that the environment takes away, a level of the document, and endings of neither. -/
theorem load_layers_rc :
    ∃ (tree : FileTree) (env : Environment) (s : Settings),
      tree.entries.map Prod.fst = [".lgenrc".toList] ∧ env = [("LGEN_SEED".toList, [])] ∧
      load tree.files ⟨[], []⟩ none env = .ok s ∧ s.seed = none ∧ s.logLevel = "info".toList ∧
      s.extensions = [".lg".toList] ∧ override env s = .ok s := by
  let tree : FileTree := ⟨[(".lgenrc",
    .file ("\x7b\"seed\": 1, \"log_level\": \"Info\"\x7d".toList.map Char.toNat))]⟩
  let env : Environment := [("LGEN_SEED", "")]
  have hload : (load tree.files ⟨[], []⟩ none env).toOption.map
      (fun s => (s.seed, s.logLevel, s.extensions)) =
        some (none, "info".toList, [".lg".toList]) := by decide +kernel
  cases hs : load tree.files ⟨[], []⟩ none env with
  | error f =>
    rw [hs] at hload
    cases hload
  | ok s =>
    rw [hs] at hload
    obtain ⟨hseed, hlevel, hextensions⟩ : s.seed = none ∧ s.logLevel = "info".toList ∧
        s.extensions = [".lg".toList] := by simpa [Except.toOption] using hload
    exact ⟨tree, env, s, rfl, rfl, hs, hseed, hlevel, hextensions,
      (load_layers tree.files ⟨[], []⟩ none env).2.1 s hs⟩

end Phrasebook.Settings
