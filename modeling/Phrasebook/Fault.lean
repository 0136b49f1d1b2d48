import Phrasebook.Text.Basic

/-!
# Faults

A fault is a failure with a kind and a message that is not about the template language itself:
bad data met by an expression, a missing file, bytes that are no text.  Kinds fall into the
classes that the layers above treat alike:

* `FaultKind.isDataFault`: faults that bad data can cause; an expression reports these;
* `FaultKind.isFileFault`: faults of the file system.
-/

namespace Phrasebook

/-- What kind of failure it is. -/
inductive FaultKind where
  | zeroDivision
  | overflow
  | missingAttribute
  | lookup
  | index
  | key
  | type
  | value
  | decoding
  | byteOrder
  | runtime
  | assertion
  | memory
  | missingFile
  | isDirectory
  | notDirectory
  | fileSystem
  /-- Any other kind, which is known by its name. -/
  | other (name : Text)
  deriving DecidableEq, Repr

namespace FaultKind

/-- The name under which the kind is shown. -/
def name : FaultKind → Text
  | zeroDivision => "ZeroDivisionError"
  | overflow => "OverflowError"
  | missingAttribute => "AttributeError"
  | lookup => "LookupError"
  | index => "IndexError"
  | key => "KeyError"
  | type => "TypeError"
  | value => "ValueError"
  | decoding => "UnicodeDecodeError"
  | byteOrder => "UnicodeError"
  | runtime => "RuntimeError"
  | assertion => "AssertionError"
  | memory => "MemoryError"
  | missingFile => "FileNotFoundError"
  | isDirectory => "IsADirectoryError"
  | notDirectory => "NotADirectoryError"
  | fileSystem => "OSError"
  | other name => name

/-- Faults that bad data can cause: arithmetic, missing attributes, failed lookups, and
operands of the wrong type or value. -/
def isDataFault : FaultKind → Bool
  | zeroDivision | overflow | missingAttribute | lookup | index | key | type | value | decoding
  | byteOrder => true
  | runtime | assertion | memory | missingFile | isDirectory | notDirectory | fileSystem | other _ =>
    false

/-- Faults of the file system. -/
def isFileFault : FaultKind → Bool
  | missingFile | isDirectory | notDirectory | fileSystem => true
  | _ => false

end FaultKind

/-- A failure with its message. A type fault is told by its kind alone. -/
structure Fault where
  /-- The kind of failure. -/
  kind : FaultKind
  /-- What it says. -/
  message : Text
  deriving DecidableEq, Repr

namespace Fault

/-- An operand or argument of the wrong type. -/
def wrongType : Fault := ⟨.type, []⟩

/-- An operand or argument of the right type with a value that does not fit. -/
def badValue (message : Text) : Fault := ⟨.value, message⟩

/-- How an expression reports the fault: the kind's name, and the message where there is one. -/
def report (f : Fault) : Text :=
  if f.kind = .type then f.kind.name else f.kind.name ++ ": " ++ f.message

end Fault

end Phrasebook
