import Phrasebook.CommandLine.Words
import Phrasebook.Logging
import Phrasebook.Value.Numeral

/-!
# Invocations

The command line of the program: options for all commands, then a command with its own options
and words.

* `Invocation.read`: the invocation that a command line spells, or why there is none.
-/

namespace Phrasebook

/-- What the program is asked to do. -/
inductive Command where
  /-- Evaluate a template of the documents at a path. -/
  | render (path template : Text) (scope scopeFile : Option Text) (seed : Option Int)
  /-- List the templates of the documents at a path. -/
  | list (path : Text)
  deriving DecidableEq, Repr

/-- A command with the options for all commands. -/
structure Invocation where
  config : Option Text
  logLevel : Option Text
  command : Command
  deriving DecidableEq, Repr

namespace Invocation

/-- The option that every command has. -/
def helpForm : OptionForm := ⟨"help", ["-h", "--help"], .stops .help⟩

/-- An option that takes any value. -/
def anyForm (key : Text) : OptionForm := ⟨key, ["--" ++ key], .sets fun _ => true⟩

/-- The number that the value of an option spells. -/
def number? (t : Text) : Option Int := (Value.readInteger 10 t).toOption

/-- The options before the command. -/
def grammar : Grammar := [
  helpForm, ⟨"version", ["--version"], .stops .version⟩, anyForm "config",
  ⟨"log-level", ["--log-level"], .sets fun t => (levelNamed? t).isSome⟩]

/-- The options of the command that renders. -/
def renderGrammar : Grammar := [
  helpForm, anyForm "scope", anyForm "scope-file",
  ⟨"seed", ["--seed"], .sets fun t => (number? t).isSome⟩]

/-- The options of the command that lists. -/
def listGrammar : Grammar := [helpForm]

/-- Reads the words of a command, which has exactly so many plain ones. -/
def readWords (g : Grammar) (places : Nat) (args : List Text) : Except Stop Reading := do
  let r ← g.readPlain places (← g.words args)
  if r.plain.length = places then return r else throw .usage

/-- Reads the command; words of no use are told of beside it. -/
def readCommand (args : List Text) : Except Stop (Command × Bool) := do
  match args with
  | [] => throw .usage
  | name :: args =>
    if name = "render".toList then
      let r ← readWords renderGrammar 2 args
      match r.plain with
      | [path, template] =>
        return (.render path template (r.value? "scope") (r.value? "scope-file")
          ((r.value? "seed").bind number?), r.surplus)
      | _ => throw .usage
    else if name = "list".toList then
      let r ← readWords listGrammar 1 args
      match r.plain with
      | [path] => return (.list path, r.surplus)
      | _ => throw .usage
    else throw .usage

/-- The invocation that a command line spells. Words of no use make it invalid, once everything
else is read. -/
def read (args : List Text) : Except Stop Invocation := do
  let (r, args) ← grammar.readCommand (← grammar.words args)
  let (command, surplus) ← readCommand args
  if r.surplus || surplus then throw .usage
  else return ⟨r.value? "config", r.value? "log-level", command⟩

end Invocation

end Phrasebook
