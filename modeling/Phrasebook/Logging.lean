import Phrasebook.Text.Case

/-!
# Logging

Levels of importance and the records that an evaluation leaves.

* `LevelSetting.resolve`: the level that a setting means;
* `Logger.configure`: a logger set to a level, with one handler from then on;
* `LogRecord`: one record.
-/

namespace Phrasebook

/-- A level as it is kept: a number, or a truth value that was given in place of one. -/
inductive Level where
  | number (n : Int)
  | flag (b : Bool)
  deriving DecidableEq, Repr

/-- A level as it is given. -/
inductive LevelSetting where
  | unset
  | given (l : Level)
  | named (name : Text)
  deriving DecidableEq, Repr

/-- The names of levels. -/
def levelNames : List (Text × Int) :=
  [("debug", 10), ("info", 20), ("warn", 30), ("warning", 30), ("error", 40)]

/-- The level with a name in small letters. -/
def levelNamed? (name : Text) : Option Int := (levelNames.find? (·.1 = name)).map (·.2)

/-- The level that is used where none is known. -/
def standardLevel : Int := 30

/-- The level that a setting means; a name is read without regard to case, and an unknown or
missing one means the default. -/
def LevelSetting.resolve (default : Int) : LevelSetting → Level
  | given l => l
  | unset => .number default
  | named name => .number ((levelNamed? (Text.toLower name)).getD default)

/-- A logger: its level, and how many handlers write its records. -/
structure Logger where
  level : Level
  handlers : Nat
  deriving DecidableEq, Repr

namespace Logger

/-- A logger that has not been configured. -/
def fresh : Logger := ⟨.number 0, 0⟩

/-- How a handler writes a record. -/
def recordFormat : Text := "%(asctime)s - %(name)s - %(levelname)s - %(message)s"

/-- Sets the level and attaches a handler unless there is one. -/
def configure (setting : LevelSetting) (l : Logger) : Logger :=
  ⟨setting.resolve standardLevel, max l.handlers 1⟩

end Logger

/-- How important a record is. -/
inductive Severity where
  | debug
  | info
  deriving DecidableEq, Repr

/-- The name of a severity. -/
def Severity.name : Severity → Text
  | debug => "DEBUG"
  | info => "INFO"

/-- A record: how important it is, who leaves it, and what it says. -/
structure LogRecord where
  severity : Severity
  logger : Text
  message : Text
  deriving DecidableEq, Repr

/-- A record on one line. -/
def LogRecord.line (r : LogRecord) : Text := r.severity.name ++ " " ++ r.logger ++ ": " ++ r.message

end Phrasebook
