import Phrasebook.Book

/-!
# Working with a book

A host works with one book step by step: documents are added, functions are registered and templates
are evaluated, in any order, and any step may fail.  The files may change between the steps, and
the random source goes on from evaluation to evaluation.

* `Source`: where documents come from;
* `Step`, `Step.perform`: a step, and what it does;
* `Step.performAll`: steps one after the other, each after what the ones before it have left.
-/

namespace Phrasebook

/-! ## Where the work is done -/

/-- A book that is worked with, and the session that its evaluations go on. -/
structure Desk where
  book : Book
  session : Session

namespace Desk

/-- The desk at the beginning of the work. -/
def start (b : Book) : Desk := ⟨b, .fresh⟩

end Desk

/-- Work that may fail.  What is changed before a failure stays changed. -/
abbrev Working := ExceptT Failure (StateM Desk)

namespace Working

variable {α : Type}

/-- Changes the book. -/
def change (x : Change α) : Working α :=
  ExceptT.mk fun d =>
    let (outcome, book) := x.run d.book
    (outcome, { d with book := book })

/-- Reads documents, and keeps their log records. -/
def load (x : Load α) : Working α :=
  ExceptT.mk fun d =>
    let (outcome, log) := x.run d.session.log
    (outcome, { d with session := { d.session with log := log } })

/-- Evaluates with no template entered yet. -/
def evaluate (x : Evaluation α) : Working α :=
  ExceptT.mk fun d =>
    let (outcome, s) := x.run { d.session with stack := [] }
    (outcome, { d with session := s })

end Working

/-! ## Steps -/

/-- Where documents come from, with the files as they are at the time. -/
inductive Source where
  | text (label text : Text)
  | file (files : Files) (path : Path)
  | directory (files : Files) (path : Path)
  /-- A file or a directory, whichever the path leads to. -/
  | path (files : Files) (path : Path)

/-- Reads the documents of a source. -/
def Source.load (settings : Settings) : Source → Load (List Template)
  | text label t => .ofExcept (Template.readDocument label t)
  | file files p => .file files settings.encoding p
  | directory files p => .directory files settings p
  | path files p => .path files settings p

/-- A step with a book. -/
inductive Step where
  | add (source : Source)
  | register (name : Text) (f : Value)
  | evaluate (name : Text) (scope : Value)

/-- What comes of a step: the text of an evaluation, if there is one, or a failure. -/
abbrev Reply := Except Failure (Option Text)

namespace Step

/-- Carries out a step. -/
def perform (lib : Library) (random : RandomSource) : Step → Working (Option Text)
  | add source => do
    let templates ← Working.load (source.load (← get).book.settings)
    Working.change (Book.insert templates)
    return none
  | register name f => do
    Working.change (Book.enroll name f)
    return none
  | evaluate name scope => do
    let ev ← Working.change (Book.prepare lib random)
    Working.evaluate (ev.evaluate name scope)

/-- Carries out steps one after the other; a step that fails does not stop the work. -/
def performAll (lib : Library) (random : RandomSource) : List Step → StateM Desk (List Reply)
  | [] => return []
  | step :: rest => do
    let reply ← (step.perform lib random).run
    return reply :: (← performAll lib random rest)

end Step

end Phrasebook
