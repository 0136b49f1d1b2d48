import Phrasebook.Book
import Phrasebook.CommandLine.Console
import Phrasebook.CommandLine.Invocation
import Phrasebook.Settings.Loading

/-!
# Running the program

An invocation is carried out against a host, which has the files, the environment, the functions
that expressions may call, the random source and the console.  Everything that is handed to the
console is collected in a report, also when the run ends in an error.

* `perform`: the work of an invocation;
* `run`: the whole program, from the command line to the exit code.
-/

namespace Phrasebook.CommandLine

/-! ## Hosts -/

/-- What a module binds a name to. -/
inductive Member where
  /-- A function of the host. -/
  | function (name : Text)
  /-- A type, which can be called but is no function. -/
  | type
  /-- Anything that cannot be called. -/
  | value
  deriving DecidableEq, Repr

/-- A module of the host. -/
structure Module where
  name : Text
  members : List (Text × Member)

/-- What the program runs against. -/
structure Host where
  files : Files
  environment : Settings.Environment
  modules : List Module
  library : Library
  /-- The random source that starts from a seed. -/
  random : Option Int → RandomSource
  console : Console

namespace Module

/-- The functions that a module offers: those whose names begin with no underscore. -/
def functions (m : Module) : List (Text × Value) :=
  m.members.filterMap fun (name, member) =>
    match member with
    | .function id => if Text.startsWith "_" name then none else some (name, .function id)
    | _ => none

/-- Why there is no module with a name: its first part is no module, or the first part is one but
has no modules below it. -/
def missing (modules : List Module) (name : Text) : Text :=
  let top := (Text.split '.' name).headD []
  if modules.any (·.name = top) then
    "No module named " ++ Text.quoted name ++ "; " ++ Text.quoted top ++ " is not a package"
  else "No module named " ++ Text.quoted top

/-- The module with a name. A name that begins with a point is relative to another module, which
there is not. -/
def find (modules : List Module) (name : Text) : Except Failure Module :=
  if Text.startsWith "." name then
    .error (.fault ⟨.type, "the 'package' argument is required to perform a relative import for " ++
      Text.quoted name⟩)
  else
    match modules.find? (·.name = name) with
    | some m => .ok m
    | none =>
      .error (.template (.ofKind .badSettings
        ("Cannot import functions module '" ++ name ++ "': " ++ missing modules name)
        ⟨none, none, none, none⟩ none))

end Module

/-! ## Reports -/

/-- What a run prints and leaves behind. -/
structure Report where
  /-- What was handed to the console, in order. -/
  printed : List Print
  /-- What random sources were started from. -/
  seeds : List (Option Int)
  /-- The level of the logger; zero until it is set. -/
  level : Level
  log : List LogRecord

namespace Report

/-- The report of nothing. -/
def empty : Report := ⟨[], [], .number 0, []⟩

/-- What came out of the console on standard output. -/
def output (console : Console) (r : Report) : Text :=
  (r.printed.filter (!·.isError)).flatMap console.shows

/-- What came out of the console on standard error. -/
def errors (console : Console) (r : Report) : Text :=
  (r.printed.filter (·.isError)).flatMap console.shows

end Report

/-- What ends the work before it is done. -/
inductive Trouble where
  /-- The scope that was given is none. -/
  | badScope (message : Text)
  | failure (f : Failure)

/-- Work on an invocation. -/
abbrev Work := ExceptT Trouble (StateM Report)

namespace Work

variable {α : Type}

/-- A result or a failure that is known already. -/
def ofExcept : Except Failure α → Work α
  | .ok a => pure a
  | .error f => throw (.failure f)

/-- Reads documents and keeps their log records. -/
def load (reading : Load α) : Work α := do
  let (outcome, log) := reading.run (← get).log
  modify fun r => { r with log := log }
  ofExcept outcome

/-- Evaluates in a fresh session and keeps its log records. -/
def evaluate (evaluation : Evaluation α) : Work α := do
  let (outcome, s) := evaluation.run .fresh
  modify fun r => { r with log := r.log ++ s.log }
  ofExcept outcome

/-- Hands something to the console, which may raise a fault over it. -/
def print (console : Console) (p : Print) : Work Unit := do
  modify fun r => { r with printed := r.printed ++ [p] }
  ofExcept (Fault.orFail (console.takes p))

/-- Leaves a log record of the program itself. -/
def record (severity : Severity) (message : Text) : Work Unit :=
  modify fun r => { r with log := r.log ++ [⟨severity, "lgen.cli", message⟩] }

end Work

/-! ## Work -/

/-- The value of a JSON text that stands for a scope. -/
def scopeOf (origin text : Text) : Work Value := do
  match Json.read text with
  | .ok v => return v
  | .error (.number f) => throw (.failure (.fault f))
  | .error (.malformed message position) =>
    throw (.badScope (origin ++ " is not valid JSON: " ++ message ++ " (line " ++
      Text.ofNat (Text.lineAt text position) ++ ", column " ++
      Text.ofNat (Text.columnAt text position) ++ ")"))

/-- The scope that is given, in place or in a file; without one it is empty. -/
def readScope (host : Host) (scope scopeFile : Option Text) : Work Value := do
  match scope, scopeFile with
  | some _, some _ => throw (.badScope "Use either --scope or --scope-file, not both")
  | none, some file =>
    let text ← Work.ofExcept (Fault.orFail (host.files.readText "utf-8" (Path.ofText file)))
    scopeOf file text
  | some text, none => scopeOf "--scope" text
  | none, none => return .dict []

/-- Registers functions one after the other. -/
def registerAll (moduleName : Text) (b : Book) : List (Text × Value) → Work Book
  | [] => return b
  | (name, f) :: rest => do
    let b ← Work.ofExcept (Fault.orFail (b.register name f))
    Work.record .debug ("Registered expression function " ++ name ++ " from " ++ moduleName)
    registerAll moduleName b rest

/-- The book with the documents at a path. The functions of the settings are registered before any
document is read. -/
def openBook (host : Host) (settings : Settings) (seed : Option Int) (path : Text) : Work Book := do
  modify fun r => { r with seeds := r.seeds ++ [seed] }
  let empty := Book.empty settings (.standard [])
  let book ← match settings.functionsModule with
    | none => pure empty
    | some name => do
      let found ← Work.ofExcept (Module.find host.modules name)
      registerAll name empty found.functions
  Work.load (book.addPath host.files (Path.ofText path))

/-- A row of the list of templates: name, parameters, kind of body and source. -/
def tableRow (t : Template) : List Text :=
  let parameters := Text.join ", " t.parameters
  let body : Text := match t.body with
    | .conditional _ => "conditional"
    | .normal alternatives => Text.ofNat alternatives.length ++ " alternative(s)"
  [t.name, if parameters = [] then "-" else parameters, body, t.location]

/-- The list of templates. -/
def table (path : Text) (templates : List Template) : Table :=
  ⟨"Templates in " ++ path, ["Name", "Parameters", "Body", "Source"], templates.map tableRow⟩

/-- Carries out an invocation. -/
def perform (host : Host) (i : Invocation) : Work Unit := do
  let config := i.config.map Path.ofText
  let settings ← Work.ofExcept (Settings.load host.files ⟨[], []⟩ config host.environment)
  let level := LevelSetting.named (i.logLevel.getD settings.logLevel)
  modify fun r => { r with level := level.resolve standardLevel }
  match i.command with
  | .render path template scope scopeFile seed =>
    let scope ← readScope host scope scopeFile
    let seed := if seed.isSome then seed else settings.seed
    let book ← openBook host settings seed path
    match ← Work.evaluate (book.evaluate host.library (host.random seed) template scope) with
    | some text => Work.print host.console (.text text)
    | none => Work.record .info ("Template " ++ template ++ " produced no output (no branch matched)")
  | .list path =>
    let book ← openBook host settings settings.seed path
    Work.print host.console (.table (table path book.templates.templates))

/-! ## Exit -/

/-- How a run ends. -/
inductive Ending where
  /-- The command line is not carried out. -/
  | stopped (s : Stop)
  /-- With an exit code. -/
  | exit (code : Nat)
  /-- With a failure that nothing is made of. -/
  | failed (f : Failure)

/-- The exit code of a command line that is not carried out: it is invalid, or it is answered by a
text. -/
def stopCode : Stop → Nat
  | .usage => 2
  | .help | .version => 0

/-- How a run ends when the last message was taken or not: with its exit code, or with the fault that
was raised over it. -/
def Ending.after (code : Nat) : Except Fault Unit → Ending
  | .ok () => .exit code
  | .error f => .failed (.fault f)

/-- Prints an error message and ends with the exit code. -/
def complain (console : Console) (r : Report) (message : Text) (code : Nat) : Ending × Report :=
  (.after code (console.takes (.error message)), { r with printed := r.printed ++ [.error message] })

/-- What becomes of trouble: errors of the language and of files are printed. -/
def settle (console : Console) (r : Report) : Trouble → Ending × Report
  | .badScope message => complain console r message 2
  | .failure (.template e) => complain console r e.format 1
  | .failure (.fault f) =>
    if f.kind.isFileFault then complain console r f.message 1 else (.failed (.fault f), r)
  | .failure f => (.failed f, r)

/-- Runs the program. -/
def run (host : Host) (args : List Text) : Ending × Report :=
  match Invocation.read args with
  | .error s => (.stopped s, .empty)
  | .ok i =>
    match (perform host i).run .empty with
    | (.ok (), r) => (.exit 0, r)
    | (.error trouble, r) => settle host.console r trouble

/-- The answer to the question for the version. -/
def versionLine : Text := "lgen 0.3.0\n"

end Phrasebook.CommandLine
