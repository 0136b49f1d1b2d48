import Phrasebook.Fault
import Phrasebook.Text.Basic

/-!
# Consoles

The program hands what it has to say to a console: a rendered text, a table or an error message, one
at a time.  What the console makes of it is its own affair: styles and borders, where lines break,
which signs it puts for others and which it leaves out.  So is whether it raises a fault over what it
is handed, be it that the text cannot be encoded, that a table holds broken tags, or that nobody
reads the output any more.

* `Table`: rows under column heads;
* `Print`: what is handed to a console;
* `Console`: what comes out of it, and what it takes;
* `Console.plain`: a console that shows everything as it is.
-/

namespace Phrasebook

/-- A table. -/
structure Table where
  title : Text
  columns : List Text
  rows : List (List Text)
  deriving DecidableEq, Repr

/-! ## What is printed -/

/-- What is handed to a console. -/
inductive Print where
  /-- A rendered text, in which no tags are looked for. -/
  | text (t : Text)
  | table (t : Table)
  /-- An error message behind the word for it, its brackets protected, on the console for errors. -/
  | error (message : Text)
  deriving DecidableEq, Repr

/-- Does it go to the console for errors? -/
def Print.isError : Print → Bool
  | error _ => true
  | text _ | table _ => false

/-- A console, with the one for errors. -/
structure Console where
  /-- What comes out. -/
  shows : Print → Text
  /-- Whether it is taken, or which fault is raised over it. -/
  takes : Print → Except Fault Unit

/-! ## Tables on lines -/

/-- Extends a text on the right to at least `width` characters. -/
def Text.padEnd (width : Nat) (t : Text) : Text := t ++ List.replicate (width - t.length) ' '

/-- How wide each column of some rows is. -/
def columnWidths (rows : List (List Text)) (columns : Nat) : List Nat :=
  (List.range columns).map fun i =>
    rows.foldl (fun width row => max width ((row[i]?).getD []).length) 0

/-- A table on lines of its own: title, heads and rows, columns side by side. -/
def Table.lines (t : Table) : List Text :=
  let rows := t.columns :: t.rows
  let widths := columnWidths rows t.columns.length
  t.title :: rows.map fun row =>
    Text.stripEnd (· = ' ') (Text.join "  " (List.zipWith Text.padEnd widths row))

/-- A console that takes everything and shows it as it is, on lines of its own. -/
def Console.plain : Console where
  shows
    | .text t => t ++ ['\n']
    | .table t => t.lines.flatMap (· ++ ['\n'])
    | .error message => "error: " ++ message ++ ['\n']
  takes _ := .ok ()

end Phrasebook
