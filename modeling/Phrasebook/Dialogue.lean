import Phrasebook.Failure
import Phrasebook.Value.Basic

/-!
# Dialogues

Evaluating an expression may call for a template, and what the template gives decides how the
expression goes on.  A dialogue is that exchange as a tree: it is done, it has failed, or it
asks for a template with arguments and goes on with the text or the failure that comes back.
Whoever carries out the dialogue decides how templates are evaluated; the expression knows
nothing about it.

* `Dialogue.bind`: one dialogue after another;
* `Dialogue.attempt`: a dialogue that hands over its failure as a result;
* `Dialogue.answered`: carries out a dialogue when the answers are known beforehand.
-/

namespace Phrasebook

/-- An exchange that ends in a result or a failure and may ask for templates on the way. -/
inductive Dialogue (α : Type) where
  | done (a : α)
  | fail (f : Failure)
  | ask (template : Text) (args : List Value) (resume : Except Failure Text → Dialogue α)

namespace Dialogue

variable {α β : Type}

/-- Goes on with `next` after the result. -/
def bind : Dialogue α → (α → Dialogue β) → Dialogue β
  | done a, next => next a
  | fail f, _ => fail f
  | ask template args resume, next => ask template args fun answer => bind (resume answer) next

instance : Monad Dialogue where
  pure := done
  bind := bind

/-- Hands over a failure as a result. -/
def attempt : Dialogue α → Dialogue (Except Failure α)
  | done a => done (.ok a)
  | fail f => done (.error f)
  | ask template args resume => ask template args fun answer => attempt (resume answer)

/-- A result or a failure as a dialogue without questions. -/
def ofExcept : Except Failure α → Dialogue α
  | .ok a => done a
  | .error f => fail f

/-- A result or a fault as a dialogue without questions. -/
def ofFault : Except Fault α → Dialogue α
  | .ok a => done a
  | .error f => fail (.fault f)

/-- Asks for a template and goes on with its text. -/
def request (template : Text) (args : List Value) : Dialogue Text := ask template args ofExcept

/-- The outcome of a dialogue when every question has a fixed answer. -/
def answered (answer : Text → List Value → Except Failure Text) : Dialogue α → Except Failure α
  | done a => .ok a
  | fail f => .error f
  | ask template args resume => answered answer (resume (answer template args))

instance : MonadExceptOf Failure Dialogue where
  throw := fail
  tryCatch x handle := bind (attempt x) fun outcome =>
    match outcome with
    | .ok a => done a
    | .error f => handle f

end Dialogue

end Phrasebook
