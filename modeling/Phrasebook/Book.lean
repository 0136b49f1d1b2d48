import Phrasebook.Document.Definition
import Phrasebook.Files.Discovery
import Phrasebook.Rendering.Evaluate
import Phrasebook.Settings.Basic

/-!
# Books

A book holds the templates of the documents added to it, and evaluates them.  Whatever is added
goes in as a whole or not at all: documents of a directory together, and templates only if none of
their names is taken.  An evaluation keeps what it has been prepared with for the next one.

* `Load`: reading documents, which leaves log records whether or not it succeeds;
* `Change`: changing a book in place, one field after the other;
* `Book.addText`, `Book.addFile`, `Book.addDirectory`, `Book.addPath`: adding documents;
* `Book.register`: adding a function of the host;
* `Book.evaluate`: the text of a template.
-/

namespace Phrasebook

/-! ## Reading documents -/

/-- Reading that may fail and leaves log records. -/
abbrev Load := ExceptT Failure (StateM (List LogRecord))

namespace Load

variable {α : Type}

/-- A result or a failure that is known already. -/
def ofExcept : Except Failure α → Load α
  | .ok a => pure a
  | .error f => throw f

/-- The record of a document that was read. -/
def record (path : Path) (templates : List Template) : LogRecord :=
  ⟨.info, "lgen.engine",
    "Loaded " ++ Text.ofNat templates.length ++ " template(s) from " ++ path.text⟩

/-- The templates of a file. -/
def file (files : Files) (encoding : Text) (path : Path) : Load (List Template) := do
  let text ← ofExcept (Fault.orFail (files.readText encoding path))
  let templates ← ofExcept (Template.readDocument path.text text)
  modify fun log => log ++ [record path templates]
  return templates

/-- The templates of several files, up to the first that fails. -/
def all (files : Files) (encoding : Text) : List Path → Load (List Template)
  | [] => return []
  | path :: rest => do
    let templates ← file files encoding path
    return templates ++ (← all files encoding rest)

/-- The templates of the documents in a directory. -/
def directory (files : Files) (settings : Settings) (path : Path) : Load (List Template) := do
  let paths ← ofExcept (Fault.orFail (files.discover path settings.extensions))
  all files settings.encoding paths

/-- The templates of a file, or of the documents in a directory. -/
def path (files : Files) (settings : Settings) (path : Path) : Load (List Template) := do
  if ← ofExcept (Fault.orFail (files.isDirectory path)) then directory files settings path
  else file files settings.encoding path

end Load

/-! ## Books -/

/-- What a book evaluates expressions with. -/
inductive Backend where
  /-- The standard engine with the functions registered so far. -/
  | standard (functions : Registry)
  /-- An engine that takes no functions, known by a name. -/
  | other (name : Text) (engine : Engine)

/-- Templates with what is needed to add more and to evaluate them. -/
structure Book where
  settings : Settings
  backend : Backend
  /-- The templates added so far, in order. -/
  added : List Template
  /-- The templates under their names. -/
  templates : Catalog
  /-- The catalog that evaluations go by, once one has been prepared.  The engine and the random
  source are shared with the book, so nothing else of what is kept could be out of date. -/
  kept : Option Catalog

/-- A change of a book that may fail.  What is changed before a failure stays changed. -/
abbrev Change := ExceptT Failure (StateM Book)

namespace Change

variable {α : Type}

/-- A result or a failure that is known already. -/
def ofExcept : Except Failure α → Change α
  | .ok a => pure a
  | .error f => throw f

end Change

namespace Book

/-- The book without templates. -/
def empty (settings : Settings) (backend : Backend) : Book :=
  ⟨settings, backend, [], .empty, none⟩

/-! ### Adding -/

/-- Adds templates, unless one of their names is taken. -/
def insert (templates : List Template) : Change Unit := do
  let combined := (← get).added ++ templates
  let catalog ← Change.ofExcept ((Catalog.ofList combined).mapError .template)
  modify fun b => { b with templates := catalog }
  modify fun b => { b with added := combined }
  modify fun b => { b with kept := none }

/-- Adding is done as a whole or not at all. -/
theorem run_insert (b : Book) (ts : List Template) :
    (insert ts).run b = match Catalog.ofList (b.added ++ ts) with
      | .ok c => (.ok ⟨⟩, { b with added := b.added ++ ts, templates := c, kept := none })
      | .error e => (.error (.template e), b) := by
  show ((Change.ofExcept ((Catalog.ofList (b.added ++ ts)).mapError .template) : Change Catalog) >>=
    fun catalog => _ : Change Unit).run b = _
  cases Catalog.ofList (b.added ++ ts) with
  | ok c => rfl
  | error e => rfl

/-- The book with templates added. -/
def add (b : Book) (templates : List Template) : Except Failure Book :=
  let (outcome, b') := (insert templates).run b
  outcome.map fun _ => b'

/-- Adds templates that are read first. -/
def addLoaded (b : Book) (reading : Load (List Template)) : Load Book := do
  Load.ofExcept (b.add (← reading))

/-- Adds the templates of a text. -/
def addText (b : Book) (label text : Text) : Except Failure Book := do
  b.add (← Template.readDocument label text)

/-- Adds the templates of a file. -/
def addFile (b : Book) (files : Files) (path : Path) : Load Book :=
  b.addLoaded (Load.file files b.settings.encoding path)

/-- Adds the templates of the documents in a directory. -/
def addDirectory (b : Book) (files : Files) (path : Path) : Load Book :=
  b.addLoaded (Load.directory files b.settings path)

/-- Adds the templates of a file or of a directory. -/
def addPath (b : Book) (files : Files) (path : Path) : Load Book :=
  b.addLoaded (Load.path files b.settings path)

/-! ### Functions and evaluation -/

/-- Registers a function of the host under a name. -/
def register (b : Book) (name : Text) (f : Value) : Except Fault Book := do
  match b.backend with
  | .standard functions => return { b with backend := .standard (← functions.register name f) }
  | .other engine _ => throw ⟨.type, engine ++ " does not support custom functions"⟩

/-- Registers a function of the host in place. -/
def enroll (name : Text) (f : Value) : Change Unit := do
  set (← Change.ofExcept (Fault.orFail ((← get).register name f)))

theorem run_enroll (name : Text) (f : Value) (b : Book) :
    (enroll name f).run b = match b.register name f with
      | .ok b' => (.ok ⟨⟩, b')
      | .error e => (.error (.fault e), b) := by
  show ((Change.ofExcept (Fault.orFail (b.register name f)) : Change Book) >>=
    fun b' => _ : Change Unit).run b = _
  cases b.register name f with
  | ok b' => rfl
  | error e => rfl

/-- The names of the registered functions. -/
def functionNames (b : Book) : List Text :=
  match b.backend with
  | .standard functions => functions.map (·.1)
  | .other _ _ => []

/-- The engine that evaluates the expressions. -/
def engine (b : Book) (lib : Library) : Engine :=
  match b.backend with
  | .standard functions => .sandboxed lib functions
  | .other _ engine => engine

/-- What the templates are evaluated with. -/
def evaluator (b : Book) (lib : Library) (random : RandomSource) : Evaluator :=
  ⟨b.kept.getD b.templates, b.engine lib, random⟩

/-- Prepares an evaluation, and keeps what it has been prepared with. -/
def prepare (lib : Library) (random : RandomSource) : Change Evaluator := do
  if (← get).kept.isNone then modify fun b => { b with kept := some b.templates }
  return (← get).evaluator lib random

theorem run_prepare (lib : Library) (random : RandomSource) (b : Book) :
    (prepare lib random).run b =
      (.ok (b.evaluator lib random), { b with kept := some (b.kept.getD b.templates) }) := by
  obtain ⟨settings, backend, added, templates, kept⟩ := b
  cases kept with
  | none => rfl
  | some c => rfl

/-- The text of a template in a scope, or nothing when it is conditional and no rule applies. -/
def evaluate (b : Book) (lib : Library) (random : RandomSource) (name : Text) (scope : Value) :
    Evaluation (Option Text) :=
  (b.evaluator lib random).evaluate name scope

end Book

end Phrasebook
