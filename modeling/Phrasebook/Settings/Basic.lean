import Phrasebook.Failure
import Phrasebook.Files.Path
import Phrasebook.Logging
import Phrasebook.Value.Equality
import Phrasebook.Value.Numeral

/-!
# Settings

What documents are read with and templates evaluated with.  Settings come from a document, whose
values are brought to the form each setting needs, and from the environment, which goes before the
document.

* `Settings.standard`: the settings where nothing is said;
* `Settings.ofDocument`: the settings of a document on top of other settings;
* `Settings.override`: the settings of the environment on top of other settings.
-/

namespace Phrasebook

/-- Settings. -/
structure Settings where
  /-- The encoding of documents. -/
  encoding : Text
  /-- The endings of documents in a directory. -/
  extensions : List Text
  /-- What the random source starts from. -/
  seed : Option Int
  logLevel : Text
  /-- The module whose functions expressions may call. -/
  functionsModule : Option Text
  /-- The file that the settings come from. -/
  source : Option Path
  /-- The whole document. -/
  raw : List (Value × Value)

namespace Settings

/-- The settings where nothing is said. -/
def standard : Settings := ⟨"utf-8", [".lg"], none, "warning", none, none, []⟩

/-- Settings that are invalid; `origin` tells where they come from. -/
def invalid (origin message : Text) (hint : Option Text) : Failure :=
  .template (.ofKind .badSettings message ⟨some origin, none, none, none⟩ hint)

/-! ## Single settings -/

/-- The seed that a value denotes; nothing and the empty text denote none. A truth value denotes
no seed though it counts as a number elsewhere. -/
def readSeed (origin : Text) (v : Value) : Except Failure (Option Int) := do
  let wrong : Except Failure (Option Int) := do
    throw (invalid origin ("seed must be an integer, got " ++ (← Fault.orFail v.quoted)) none)
  match v with
  | .null | .text [] => return none
  | .bool _ => wrong
  | _ =>
    match v.toInteger with
    | .ok n => return some n
    | .error f => if f.kind = .type ∨ f.kind = .value then wrong else throw (.fault f)

/-- The names of levels, as they are told to choose from. -/
def levelChoices : Text :=
  Text.join ", " ((levelNames.map (·.1)).mergeSort Text.notAfter)

/-- The name of a level that a value denotes, whatever the case of its letters. -/
def readLevel (origin : Text) (v : Value) : Except Failure Text := do
  let level := Text.toLower (← Fault.orFail v.written)
  if (levelNamed? level).isSome then return level
  else
    throw (invalid origin ("Unknown log level " ++ (← Fault.orFail v.quoted))
      (some ("Use one of: " ++ levelChoices ++ ".")))

/-- An ending begins with a point. -/
def withPoint (t : Text) : Text := if Text.startsWith "." t then t else '.' :: t

/-- The endings that a value denotes: a text, or a list that is not empty. -/
def readExtensions (origin : Text) (v : Value) : Except Failure (List Text) := do
  let items := match v with
    | .text _ => [v]
    | .list items | .tuple items => items
    | _ => []
  if items.isEmpty then
    throw (invalid origin "extensions must be a non-empty list of file suffixes" none)
  else return (← items.mapM fun item => Fault.orFail item.written).map withPoint

/-- The module that a value names; the empty text names none. -/
def readModule (v : Value) : Except Failure (Option Text) := do
  match ← Fault.orFail v.written with
  | [] => return none
  | name => return some name

/-! ## Documents -/

/-- A setting of a document, or what holds where the document does not have it. -/
def setting {α : Type} (entries : List (Value × Value)) (name : Text) (default : α)
    (read : Value → Except Failure α) : Except Failure α :=
  match Value.lookupName? entries name with
  | some v => read v
  | none => .ok default

/-- The settings of a document on top of others. They stand in the section of the program, or at
the top of a document without that section; the first invalid one is reported. -/
def ofDocument (origin : Text) (base : Settings) (document : Value) : Except Failure Settings := do
  match document with
  | .dict entries =>
    match (Value.lookupName? entries "lgen").getD document with
    | .dict own =>
      let encoding ← setting own "encoding" base.encoding fun v => Fault.orFail v.written
      let extensions ← setting own "extensions" base.extensions (readExtensions origin)
      let seed ← setting own "seed" base.seed (readSeed origin)
      let logLevel ← setting own "log_level" base.logLevel (readLevel origin)
      let functionsModule ← setting own "functions_module" base.functionsModule readModule
      return ⟨encoding, extensions, seed, logLevel, functionsModule, base.source, entries⟩
    | _ => throw (invalid origin "The [lgen] section must be a table" none)
  | other =>
    throw (invalid origin
      ("Configuration must be an object of settings, got " ++ other.typeName) none)

/-! ## Environment -/

/-- Names and values given from outside. -/
abbrev Environment := List (Text × Text)

/-- The value of a variable. -/
def valueOf? (env : Environment) (name : Text) : Option Text :=
  (env.find? (·.1 = name)).map (·.2)

/-- The settings of the environment on top of others. An empty variable says nothing, save that an
empty seed takes the seed away. -/
def override (env : Environment) (base : Settings) : Except Failure Settings := do
  let told (name : Text) : Option Text := (valueOf? env name).filter (· ≠ [])
  let seed ← match valueOf? env "LGEN_SEED" with
    | some t => readSeed "LGEN_SEED" (.text t)
    | none => .ok base.seed
  let logLevel ← match told "LGEN_LOG_LEVEL" with
    | some t => readLevel "LGEN_LOG_LEVEL" (.text t)
    | none => .ok base.logLevel
  return { base with
    encoding := (told "LGEN_ENCODING").getD base.encoding, seed := seed, logLevel := logLevel }

end Settings

end Phrasebook
