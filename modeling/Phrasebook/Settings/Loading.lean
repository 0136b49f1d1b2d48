import Phrasebook.Files.Tree
import Phrasebook.Settings.Basic
import Phrasebook.Settings.Json
import Phrasebook.Settings.Toml

/-!
# Finding and reading settings

Settings stand in a file that is named, or else in the first file with a usual name in a
directory.  The ending of the file tells how it is written.

* `Settings.locate`: the file to read;
* `Settings.readFile`: the value of its document;
* `Settings.load`: the settings of file and environment together.
-/

namespace Phrasebook.Settings

/-- The usual names of settings files; an earlier one goes before a later one. -/
def fileNames : List Text := ["lgen.toml", ".lgenrc"]

/-- The first of some files that exists. -/
def firstOf (files : Files) : List Path → Except Fault (Option Path)
  | [] => .ok none
  | path :: rest => do if ← files.has path then return some path else firstOf files rest

/-- The file to read: the one that is named, which must exist, or a usual one in a directory. -/
def locate (files : Files) (root : Path) (explicit : Option Path) :
    Except Failure (Option Path) := do
  match explicit with
  | some path =>
    if ← Fault.orFail (files.has path) then return some path
    else throw (invalid path.text ("Configuration file not found: " ++ path.text) none)
  | none => Fault.orFail (firstOf files (fileNames.map fun name => root.settled.below [name]))

/-- The value of a JSON file. -/
def readJson (files : Files) (path : Path) : Except Failure Value := do
  let text ← Fault.orFail (files.readText "utf-8" path)
  match Json.read text with
  | .ok v => return v
  | .error (.number f) => throw (.fault f)
  | .error (.malformed message position) =>
    throw (.template (.ofKind .badSettings ("Invalid JSON configuration: " ++ message)
      ⟨some path.text, some (Text.lineAt text position), none, none⟩ none))

/-- The value of a TOML file. -/
def readToml (files : Files) (path : Path) : Except Failure Value := do
  let bytes ← Fault.orFail (files.readBytes path)
  let text ← Fault.orFail (Encoding.utf8.decode bytes)
  match Toml.read text with
  | .ok v => return v
  | .error (.number f) => throw (.fault f)
  | .error (.malformed message) =>
    throw (invalid path.text ("Invalid TOML configuration: " ++ message) none)

/-- The value of a settings file. -/
def readFile (files : Files) (path : Path) : Except Failure Value :=
  if path.suffix = ".toml" then readToml files path else readJson files path

/-- The settings of a file. -/
def ofFile (files : Files) (path : Path) : Except Failure Settings := do
  let own ← ofDocument path.text standard (← readFile files path)
  return { own with source := some path }

/-- The settings of the file, if there is one, with those of the environment on top. -/
def load (files : Files) (root : Path) (explicit : Option Path) (env : Environment) :
    Except Failure Settings := do
  match ← locate files root explicit with
  | some path => override env (← ofFile files path)
  | none => override env standard

end Phrasebook.Settings
