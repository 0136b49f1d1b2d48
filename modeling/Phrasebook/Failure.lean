import Phrasebook.Error
import Phrasebook.Fault

/-!
# Failures

Everything that can end an evaluation without a result: an expression that asks for what it may
not have, a fault, or an error of the template language.
-/

namespace Phrasebook

/-- How an evaluation fails. -/
inductive Failure where
  /-- The expression uses a name, a form or a call that is not available to it. -/
  | refused (message : Text)
  | fault (f : Fault)
  /-- A fault whose message is itself too long to be written. -/
  | unwritable (kind : FaultKind)
  | template (e : TemplateError)
  deriving DecidableEq, Repr

namespace Failure

/-- A type fault. -/
def wrongType : Failure := fault .wrongType

/-- What the failure says. -/
def message : Failure → Text
  | refused m => m
  | fault f => f.message
  | unwritable _ => []
  | template e => e.message

end Failure

/-- A fault counts as a failure. -/
def Fault.orFail {α : Type} (x : Except Fault α) : Except Failure α := x.mapError .fault

end Phrasebook
