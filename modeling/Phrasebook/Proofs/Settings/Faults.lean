import Phrasebook.Proofs.Files.Faults
import Phrasebook.Settings.Loading

/-!
# Faults of settings

A JSON or TOML document that is malformed is told so, with the place, and so is a setting that is
invalid.  A few things are not told in this way: a number of too many digits, bytes that are no text,
and an infinite seed.

* `Json.read_fails`, `Toml.read_fails`: documents;
* `Settings.ofDocument_fails`, `Settings.override_fails`: the values of settings;
* `Settings.load_fails`: settings of files and the environment.
-/

namespace Phrasebook

/-! ## JSON documents -/

namespace Json

/-- Trouble at a place of the text, or a number that fails as a value. -/
def Trouble.IsPlain : Trouble → Prop
  | .at _ _ => True
  | .number f => f.kind = .value

/-- The result is right, or trouble of these kinds. -/
abbrev Plain {α : Type} (x : Except Trouble α) : Prop := FailsIn Trouble.IsPlain x

theorem plain_at {α : Type} (message rest : Text) :
    Plain (.error (.at message rest) : Except Trouble α) := .error trivial

/-! ### Strings and numbers -/

theorem plain_lowHalf? {t : Text} {x : Except Trouble (Nat × Text)} (h : lowHalf? t = some x) :
    Plain x := by
  unfold lowHalf? at h
  split at h
  · split at h
    · cases h
    · split at h
      · cases h
        exact plain_at _ _
      · split at h
        · cases h
          exact .ok _
        · cases h
  · cases h

theorem plain_codeEscape (t : Text) : Plain (codeEscape t) := by
  unfold codeEscape
  dsimp only
  split
  · exact plain_at _ _
  · split
    · exact plain_at _ _
    · split
      · split
        · rename_i h
          exact .error (plain_lowHalf? h _ rfl)
        · exact .ok _
        · exact .ok _
      · exact .ok _

theorem plain_readString (start : Text) (rounds : Nat) (t : Text) :
    Plain (readString start rounds t) := by
  induction rounds generalizing t with
  | zero => exact plain_at _ _
  | succ rounds ih =>
    unfold readString
    split
    · exact plain_at _ _
    · exact .ok _
    · exact plain_at _ _
    · exact .bind (plain_codeEscape _) fun _ => .bind (ih _) fun _ => .ok _
    · split
      · exact plain_at _ _
      · exact .bind (ih _) fun _ => .ok _
    · split
      · exact plain_at _ _
      · exact .bind (ih _) fun _ => .ok _

theorem plain_readNumber (t : Text) : Plain (readNumber t) := by
  unfold readNumber
  dsimp only
  split
  · exact plain_at _ _
  · split
    · exact .ok _
    · split
      · exact .ok _
      · rename_i h
        exact .error (Value.value_readInteger _ _ _ h)

/-! ### Values -/

/-- Values, items and entries fail alike in every round. -/
theorem plain_readValue_and (rounds : Nat) :
    (∀ t, Plain (readValue rounds t)) ∧ (∀ t, Plain (readItems rounds t)) ∧
      ∀ entries t, Plain (readEntries rounds entries t) := by
  induction rounds with
  | zero =>
    refine ⟨fun t => ?_, fun t => ?_, fun entries t => ?_⟩
    · rw [readValue]
      exact plain_at _ _
    · rw [readItems]
      exact plain_at _ _
    · rw [readEntries]
      exact plain_at _ _
  | succ rounds ih =>
    obtain ⟨hvalue, hitems, hentries⟩ := ih
    refine ⟨fun t => ?_, fun t => ?_, fun entries t => ?_⟩
    · unfold readValue
      split
      · exact plain_at _ _
      · exact .bind (plain_readString _ _ _) fun _ => .ok _
      · split
        · exact .ok _
        · exact .bind (hentries _ _) fun _ => .ok _
      · split
        · exact .ok _
        · exact .bind (hitems _) fun _ => .ok _
      · split
        · exact .ok _
        · exact plain_readNumber _
    · unfold readItems
      refine .bind (hvalue t) fun found => ?_
      dsimp only
      split
      · exact .ok _
      · exact .bind (hitems _) fun _ => .ok _
      · exact plain_at _ _
    · unfold readEntries
      split
      · refine .bind (plain_readString _ _ _) fun found => ?_
        dsimp only
        split
        · refine .bind (hvalue _) fun found => ?_
          split
          · exact .ok _
          · exact hentries _ _
          · exact plain_at _ _
        · exact plain_at _ _
      · exact plain_at _ _

/-- **What is wrong with a JSON document**: it is malformed at some place, or a number in it fails as
a value. -/
theorem read_fails (t : Text) {f : Fault} (h : read t = .error (.number f)) : f.kind = .value := by
  have hplain : FailsIn (fun e : JsonFault => ∀ g, e = .number g → g.kind = .value) (read t) := by
    refine .mapError (P := Trouble.IsPlain) ?_ fun e he => ?_
    · split
      · exact plain_at _ _
      · refine .bind ((plain_readValue_and _).1 _) fun found => ?_
        dsimp only
        split
        · exact .ok _
        · exact plain_at _ _
    · cases e with
      | «at» message rest => nofun
      | number g =>
        rintro _ ⟨⟩
        exact he
  exact hplain _ h f rfl

end Json

/-! ## TOML documents -/

namespace Toml

/-- Trouble at a place of the text, or a number that fails as a value. -/
def Trouble.IsPlain : Trouble → Prop
  | .at _ _ => True
  | .number f => f.kind = .value

/-- The result is right, or trouble of these kinds. -/
abbrev Plain {α : Type} (x : Except Trouble α) : Prop := FailsIn Trouble.IsPlain x

theorem plain_at {α : Type} (message rest : Text) :
    Plain (.error (.at message rest) : Except Trouble α) := .error trivial

/-! ### Comments, strings and keys -/

theorem plain_upTo (mark : Text) (lines needed : Bool) (t : Text) :
    Plain (upTo mark lines needed t) := by
  unfold upTo
  extract_lets place check
  have hcheck : ∀ before rest, Plain (check before rest) := by
    intro before rest
    dsimp only [check]
    split
    · exact .ok _
    · exact plain_at _ _
  split
  · exact hcheck _ _
  · split
    · exact plain_at _ _
    · exact hcheck _ _

theorem plain_skipComment (t : Text) : Plain (skipComment t) := by
  unfold skipComment
  split
  · exact .map _ (plain_upTo _ _ _ _)
  · exact .ok _

theorem plain_skipBetween (rounds : Nat) (t : Text) : Plain (skipBetween rounds t) := by
  induction rounds generalizing t with
  | zero => exact .ok _
  | succ rounds ih =>
    unfold skipBetween
    split
    · exact .bind (plain_skipComment _) fun _ => ih _
    · exact .ok _

theorem plain_codeEscape (count : Nat) (t : Text) : Plain (codeEscape count t) := by
  unfold codeEscape
  dsimp only
  split
  · split
    · exact .ok _
    · exact plain_at _ _
  · exact plain_at _ _

theorem plain_escape (lines : Bool) (t : Text) : Plain (escape lines t) := by
  unfold escape
  dsimp only
  split
  · exact plain_at _ _
  · split
    · split
      · exact .ok _
      · split
        · exact .ok _
        · exact .ok _
        · exact plain_at _ _
    · split
      · exact .map _ (plain_codeEscape _ _)
      · split
        · exact .map _ (plain_codeEscape _ _)
        · split
          · exact .ok _
          · exact plain_at _ _

theorem plain_quotedRest (lines : Bool) (rounds : Nat) (t : Text) :
    Plain (quotedRest lines rounds t) := by
  induction rounds generalizing t with
  | zero => exact plain_at _ _
  | succ rounds ih =>
    unfold quotedRest
    split
    · exact plain_at _ _
    · split
      · exact .ok _
      · split
        · exact .ok _
        · exact .bind (ih _) fun _ => .ok _
    · exact .bind (plain_escape _ _) fun _ => .bind (ih _) fun _ => .ok _
    · split
      · exact plain_at _ _
      · exact .bind (ih _) fun _ => .ok _

theorem plain_literalLine (t : Text) : Plain (literalLine t) :=
  .bind (plain_upTo _ _ _ _) fun _ => .ok _

theorem plain_stringLines (quote : Char) (t : Text) : Plain (stringLines quote t) := by
  unfold stringLines
  dsimp only
  split
  · exact .bind (plain_quotedRest _ _ _) fun _ => .ok _
  · exact .bind (plain_upTo _ _ _ _) fun _ => .bind (.ok _) fun _ => .ok _

theorem plain_readName (t : Text) : Plain (readName t) := by
  unfold readName
  split
  · exact plain_quotedRest _ _ _
  · exact plain_literalLine _
  · split
    · exact plain_at _ _
    · exact .ok _

theorem plain_readKeyWithin (rounds : Nat) (t : Text) : Plain (readKeyWithin rounds t) := by
  induction rounds generalizing t with
  | zero => exact plain_at _ _
  | succ rounds ih =>
    refine .bind (plain_readName t) fun found => ?_
    dsimp only
    split
    · exact .bind (ih _) fun _ => .ok _
    · exact .ok _

theorem plain_readKey (t : Text) : Plain (readKey t) := plain_readKeyWithin _ t

/-! ### Moments and numbers -/

theorem plain_readMoment? {t : Text} {x : Except Trouble (Value × Text)}
    (h : readMoment? t = some x) : Plain x := by
  unfold readMoment? at h
  split at h
  · dsimp only at h
    split at h
    · cases h
      exact .ok _
    · cases h
      exact plain_at _ _
  · obtain ⟨found, -, rfl⟩ := Option.map_eq_some_iff.1 h
    exact .ok _

theorem plain_readNumber? {t : Text} {x : Except Trouble (Value × Text)}
    (h : readNumber? t = some x) : Plain x := by
  unfold readNumber? at h
  extract_lets whole at h
  have hwhole : ∀ text rest, Plain (whole text rest) := by
    intro text rest
    dsimp only [whole]
    split
    · exact .ok _
    · rename_i hread
      exact .error (Value.value_readInteger _ _ _ hread)
  split at h
  · cases h
    exact hwhole _ _
  · -- the digits are a zero alone or begin with another digit
    dsimp only at h
    split at h
    all_goals
      split at h
      · cases h
      · split at h
        · cases h
          exact hwhole _ _
        · cases h
          exact .ok _

/-! ### Values -/

/-- Values, items, entries and pairs fail alike in every round. -/
theorem plain_readValue_and (rounds : Nat) :
    (∀ t, Plain (readValue rounds t)) ∧ (∀ t, Plain (readItems rounds t)) ∧
      (∀ entries fixed t, Plain (readEntries rounds entries fixed t)) ∧
      ∀ t, Plain (readPair rounds t) := by
  induction rounds with
  | zero =>
    refine ⟨fun t => ?_, fun t => ?_, fun entries fixed t => ?_, fun t => ?_⟩
    · rw [readValue]
      exact plain_at _ _
    · rw [readItems]
      exact plain_at _ _
    · rw [readEntries]
      exact plain_at _ _
    · rw [readPair]
      exact plain_at _ _
  | succ rounds ih =>
    obtain ⟨hvalue, hitems, hentries, hpair⟩ := ih
    refine ⟨fun t => ?_, fun t => ?_, fun entries fixed t => ?_, fun t => ?_⟩
    · unfold readValue
      split
      · exact .bind (plain_stringLines _ _) fun _ => .ok _
      · exact .bind (plain_quotedRest _ _ _) fun _ => .ok _
      · exact .bind (plain_stringLines _ _) fun _ => .ok _
      · exact .bind (plain_literalLine _) fun _ => .ok _
      · exact .ok _
      · exact .ok _
      · refine .bind (plain_skipBetween _ _) fun rest => ?_
        split
        · exact .ok _
        · exact .bind (hitems _) fun _ => .ok _
      · split
        · exact .ok _
        · exact .bind (hentries _ _ _) fun _ => .ok _
      · split
        · exact plain_readMoment? ‹_›
        · split
          · exact plain_readNumber? ‹_›
          · split
            · exact .ok _
            · exact plain_at _ _
    · unfold readItems
      refine .bind (hvalue t) fun found => .bind (plain_skipBetween _ _) fun rest => ?_
      split
      · exact .ok _
      · refine .bind (plain_skipBetween _ _) fun rest => ?_
        split
        · exact .ok _
        · exact .bind (hitems _) fun _ => .ok _
      · exact plain_at _ _
    · unfold readEntries
      refine .bind (hpair t) fun found => ?_
      dsimp only
      split
      · exact plain_at _ _
      · split
        · exact plain_at _ _
        · split
          · exact .ok _
          · exact hentries _ _ _
          · exact plain_at _ _
    · unfold readPair
      refine .bind (plain_readKey t) fun found => ?_
      dsimp only
      split
      · exact .bind (hvalue _) fun _ => .ok _
      · exact plain_at _ _

/-! ### Statements -/

theorem plain_readHead (step : Outline → Key → Except Text Outline) (mark message : Text)
    (o : Outline) (t : Text) : Plain (readHead step mark message o t) := by
  refine .bind (plain_readKey _) fun found => ?_
  dsimp only
  split
  · exact plain_at _ _
  · split
    · exact .ok _
    · exact plain_at _ _

theorem plain_readStatement (o : Outline) (t : Text) : Plain (readStatement o t) := by
  unfold readStatement
  split
  · exact plain_readHead _ _ _ _ _
  · exact plain_readHead _ _ _ _ _
  · exact .ok _
  · split
    · refine .bind ((plain_readValue_and _).2.2.2 t) fun found => ?_
      dsimp only
      split
      · exact .ok _
      · exact plain_at _ _
    · exact plain_at _ _

theorem plain_readStatements (rounds : Nat) (o : Outline) (t : Text) :
    Plain (readStatements rounds o t) := by
  induction rounds generalizing o t with
  | zero => exact .ok _
  | succ rounds ih =>
    unfold readStatements
    split
    · exact .ok _
    · exact ih _ _
    · refine .bind (plain_readStatement _ _) fun found => ?_
      refine .bind (plain_skipComment _) fun rest => ?_
      split
      · exact .ok _
      · exact ih _ _
      · exact plain_at _ _

/-- **What is wrong with a TOML document**: it is malformed at some place, or a number in it fails as
a value. -/
theorem read_fails (text : Text) {f : Fault} (h : read text = .error (.number f)) :
    f.kind = .value := by
  unfold read at h
  dsimp only at h
  split at h
  · cases h
  · cases h
  · rename_i g hstatements
    cases h
    exact plain_readStatements _ _ _ _ hstatements

end Toml

/-! ## Settings -/

namespace Settings

theorem among_invalid {α : Type} {kinds : List FaultKind} (origin message : Text)
    (hint : Option Text) : Among kinds (.error (invalid origin message hint) : Except Failure α) :=
  among_template _

theorem among_written (v : Value) : Among [.value] (Fault.orFail v.written) :=
  among_orFail (v.tooLong_written.mono fun _ hf => by rw [hf]; exact List.mem_singleton_self _)

theorem among_quoted (v : Value) : Among [.value] (Fault.orFail v.quoted) :=
  among_orFail (v.tooLong_quoted.mono fun _ hf => by rw [hf]; exact List.mem_singleton_self _)

/-! ### Single settings -/

theorem readSeed_fails (origin : Text) (v : Value) :
    Among [.value, .overflow] (readSeed origin v) := by
  unfold readSeed
  extract_lets wrong
  have hwrong : Among [.value, .overflow] wrong :=
    .bind ((among_quoted v).mono (by decide)) fun _ => among_invalid _ _ _
  split
  · exact .ok _
  · exact .ok _
  · exact hwrong
  · split
    · exact .ok _
    · rename_i f hf
      split
      · exact hwrong
      · rename_i hkind
        -- of what denotes no whole number, an infinity is neither of the type nor of the value
        have hoverflow : f.kind = .overflow :=
          (or_assoc.2 (v.notWhole_toInteger f hf)).resolve_left hkind
        exact .error (by simp [Failure.IsAmong, Fault.IsAmong, hoverflow])

theorem readLevel_fails (origin : Text) (v : Value) : Among [.value] (readLevel origin v) := by
  refine .bind (among_written v) fun t => ?_
  dsimp only
  split
  · exact .ok _
  · exact .bind (among_quoted v) fun _ => among_invalid _ _ _

theorem readExtensions_fails (origin : Text) (v : Value) :
    Among [.value] (readExtensions origin v) := by
  unfold readExtensions
  extract_lets items
  split
  · exact among_invalid _ _ _
  · exact .bind (.mapM among_written _) fun _ => .ok _

theorem readModule_fails (v : Value) : Among [.value] (readModule v) := by
  refine .bind (among_written v) fun t => ?_
  split <;> exact .ok _

theorem setting_fails {α : Type} {kinds : List FaultKind} {read : Value → Except Failure α}
    (hread : ∀ v, Among kinds (read v)) (entries : List (Value × Value)) (name : Text)
    (default : α) : Among kinds (setting entries name default read) := by
  unfold setting
  split
  · exact hread _
  · exact .ok _

/-! ### Documents and the environment -/

/-- **What the settings of a document fail with** besides being invalid: a value that cannot be
written, or an infinite seed. -/
theorem ofDocument_fails (origin : Text) (base : Settings) (document : Value) :
    Among [.value, .overflow] (ofDocument origin base document) := by
  unfold ofDocument
  split
  · split
    · refine .bind (setting_fails (fun v => (among_written v).mono (by decide)) _ _ _) fun _ => ?_
      refine .bind (setting_fails (fun v => (readExtensions_fails _ v).mono (by decide)) _ _ _)
        fun _ => ?_
      refine .bind (setting_fails (readSeed_fails origin) _ _ _) fun _ => ?_
      refine .bind (setting_fails (fun v => (readLevel_fails _ v).mono (by decide)) _ _ _) fun _ => ?_
      refine .bind (setting_fails (fun v => (readModule_fails v).mono (by decide)) _ _ _) fun _ => ?_
      exact .ok _
    · exact among_invalid _ _ _
  · exact among_invalid _ _ _

theorem override_fails (env : Environment) (base : Settings) :
    Among [.value, .overflow] (override env base) := by
  unfold override
  extract_lets told level
  have hlevel : ∀ seed, Among [.value, .overflow] (level seed) := by
    intro seed
    dsimp only [level]
    split
    · exact .bind ((readLevel_fails _ _).mono (by decide)) fun _ => .ok _
    · exact .ok _
  split
  · exact .bind (readSeed_fails _ _) hlevel
  · exact hlevel _

/-! ### Files -/

theorem locate_fails (files : Files) (root : Path) (explicit : Option Path) :
    Among [.fileSystem] (locate files root explicit) := by
  have hfirst : ∀ paths, FailsIn (Fault.IsAmong [.fileSystem]) (firstOf files paths) := by
    intro paths
    induction paths with
    | nil => exact .ok _
    | cons path rest ih =>
      refine .bind (files.has_fails path) fun found => ?_
      split
      · exact .ok _
      · exact ih
  unfold locate
  split
  · refine .bind (among_orFail (files.has_fails _)) fun found => ?_
    split
    · exact .ok _
    · exact among_invalid _ _ _
  · exact among_orFail (hfirst _)

theorem readJson_fails (files : Files) (path : Path) :
    Among (FaultKind.ofFiles ++ [.value, .decoding]) (readJson files path) := by
  refine .bind (among_orFail (files.readText_utf8_fails path)) fun text => ?_
  split
  · exact .ok _
  · rename_i f hf
    exact .error (by simp [Failure.IsAmong, Fault.IsAmong, Json.read_fails text hf])
  · exact among_template _

theorem readToml_fails (files : Files) (path : Path) :
    Among (FaultKind.ofFiles ++ [.value, .decoding]) (readToml files path) := by
  refine .bind ((among_orFail (files.readBytes_fails path)).mono (by decide)) fun bytes => ?_
  refine .bind (among_orFail ((Encoding.utf8_decode_fails bytes).mono fun f hf => ?_))
    fun text => ?_
  · simp [Fault.IsAmong, hf]
  · split
    · exact .ok _
    · rename_i f hf
      exact .error (by simp [Failure.IsAmong, Fault.IsAmong, Toml.read_fails text hf])
    · exact among_invalid _ _ _

/-- **What loading settings fails with**: an error of the language, a fault of the file system, or
one of three kinds of fault. -/
theorem load_fails (files : Files) (root : Path) (explicit : Option Path) (env : Environment) :
    Among (FaultKind.ofFiles ++ [.value, .decoding, .overflow]) (load files root explicit env) := by
  have hfile : ∀ path, Among (FaultKind.ofFiles ++ [.value, .decoding]) (readFile files path) := by
    intro path
    unfold readFile
    split
    · exact readToml_fails files path
    · exact readJson_fails files path
  have hoverride : ∀ base,
      Among (FaultKind.ofFiles ++ [.value, .decoding, .overflow]) (override env base) :=
    fun base => (override_fails env base).mono (by decide)
  refine .bind ((locate_fails files root explicit).mono (by decide)) fun found => ?_
  split
  · refine .bind (.bind ((hfile _).mono (by decide)) fun v => ?_) hoverride
    exact .bind ((ofDocument_fails _ _ v).mono (by decide)) fun _ => .ok _
  · exact hoverride _

end Settings

end Phrasebook
