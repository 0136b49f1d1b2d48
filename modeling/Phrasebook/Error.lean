import Phrasebook.Text.Basic

/-!
# Errors of the template language

An error of the language has a kind, a message and a place.  The kind carries what a caller may
want to act on: the names of a loop, the expression that failed, the two sources of a name that
is defined twice.

* `Location.position`, `Location.describe`: where the error happened, in words;
* `TemplateError.format`: the whole error on one line.
-/

namespace Phrasebook

/-- Where an error happened: the place in a document and, during evaluation, the template. -/
structure Location where
  path : Option Text := none
  line : Option Int := none
  column : Option Int := none
  template : Option Text := none
  deriving DecidableEq, Repr

namespace Location

/-- A text that is there and not empty. -/
def present? (t : Option Text) : Option Text := t.filter (· ≠ [])

/-- Line and column as far as they are known. -/
def coordinates (loc : Location) : Text :=
  Text.join ":" (([loc.line, loc.column].filterMap id).map Text.ofInt)

/-- The place in the document: the path with its coordinates if the line is known, or the
coordinates alone. -/
def position (loc : Location) : Option Text :=
  match present? loc.path with
  | some path => some (if loc.line.isSome then path ++ ":" ++ loc.coordinates else path)
  | none => (present? (some loc.coordinates)).map ("line " ++ ·)

/-- The place in the document and the template, in words. -/
def describe (loc : Location) : Text :=
  let template : Option Text :=
    (present? loc.template).map fun (name : Text) => "template '" ++ name ++ "'"
  match [loc.position, template].filterMap id with
  | [] => "unknown location"
  | parts => Text.join ", " parts

end Location

/-- What went wrong, as far as callers tell errors apart. -/
inductive ErrorKind where
  | general
  /-- A document cannot be read. -/
  | badSyntax
  /-- Settings are invalid. -/
  | badSettings
  /-- Two definitions share a name. -/
  | duplicate (name first second : Text)
  /-- A template cannot be evaluated. -/
  | evaluation
  /-- No template has the name. -/
  | notFound
  /-- A template was entered again while it was being evaluated. -/
  | cycle (chain : List Text)
  /-- An embedded expression failed or gave nothing. -/
  | expression (source : Text)
  /-- A reference has an invalid argument list. -/
  | malformedReference
  deriving DecidableEq, Repr

namespace ErrorKind

/-- The code that an error of this kind has by default. -/
def code? : ErrorKind → Option Text
  | general | evaluation => none
  | badSyntax => some "SYNTAX_ERROR"
  | badSettings => some "CONFIG_ERROR"
  | duplicate _ _ _ => some "DUPLICATE_TEMPLATE"
  | notFound => some "TEMPLATE_NOT_FOUND"
  | cycle _ => some "TEMPLATE_CYCLE"
  | expression _ => some "EXPRESSION_ERROR"
  | malformedReference => some "MALFORMED_REFERENCE"

end ErrorKind

/-- An error of the template language. -/
structure TemplateError where
  kind : ErrorKind
  message : Text
  location : Location
  code : Option Text
  hint : Option Text
  deriving DecidableEq, Repr

namespace TemplateError

/-- An error of some kind with the code of its kind. -/
def ofKind (kind : ErrorKind) (message : Text) (location : Location) (hint : Option Text) :
    TemplateError :=
  ⟨kind, message, location, kind.code?, hint⟩

/-- A name that is defined twice, told at the place of the second definition. -/
def duplicate (name first second : Text) : TemplateError :=
  ofKind (.duplicate name first second)
    ("Template '" ++ name ++ "' is defined more than once (in " ++ first ++ " and " ++ second ++ ")")
    ⟨some second, none, none, none⟩
    (some "Template names must be unique across every loaded document.")

/-- What a loop is reported as: the names from the outermost template to the repeated one. -/
def cycleMessage (chain : List Text) : Text := "Loop detected: " ++ Text.join " => " chain

/-- A template that is entered again while it is being evaluated. -/
def cycle (chain : List Text) (location : Location) (hint : Option Text) : TemplateError :=
  ofKind (.cycle chain) (cycleMessage chain) location hint

/-- The name that the error is about: the one defined twice, or the template being evaluated. -/
def templateName (e : TemplateError) : Option Text :=
  match e.kind with
  | .duplicate name _ _ => some name
  | _ => e.location.template

/-- The error on one line: message, place and code in parentheses, and the hint. -/
def format (e : TemplateError) : Text :=
  let place :=
    if e.location.describe = "unknown location" then none else some e.location.describe
  let about := [place, Location.present? e.code].filterMap id
  let text := if about = [] then e.message else e.message ++ " (" ++ Text.join "; " about ++ ")"
  match Location.present? e.hint with
  | some hint => text ++ " Hint: " ++ hint
  | none => text

end TemplateError

end Phrasebook
