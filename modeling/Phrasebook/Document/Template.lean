import Phrasebook.Document.Token

/-!
# Templates

A template has a name, parameters and a body.  A normal body holds alternatives, one of which is
rendered; a conditional body holds rules, each with a guard and alternatives of its own.

* `Fragment`, `Alternative`, `Rule`, `Body`, `Template`: the parts;
* `Template.signature`, `Template.location`: how a template is named in lists and messages.
-/

namespace Phrasebook

/-- The kinds of pieces inside an alternative. -/
inductive FragmentKind where
  | text
  | whitespace
  | separator
  | escape
  | invalidEscape
  | expression
  | reference
  | multiLine
  deriving DecidableEq, Repr

namespace FragmentKind

/-- The name of a kind. -/
def name : FragmentKind → Text
  | text => "text"
  | whitespace => "whitespace"
  | separator => "text_separator"
  | escape => "escape"
  | invalidEscape => "invalid_escape"
  | expression => "expression"
  | reference => "template_ref"
  | multiLine => "multi_line"

end FragmentKind

/-- A piece of an alternative. -/
structure Fragment where
  kind : FragmentKind
  text : Text
  position : Position
  deriving DecidableEq, Repr

/-- The content of one body line. -/
structure Alternative where
  fragments : List Fragment
  /-- The line of its dash. -/
  line : Nat
  deriving DecidableEq, Repr

namespace Alternative

/-- The content as it stands in the document. -/
def source (a : Alternative) : Text := a.fragments.flatMap (·.text)

end Alternative

/-- A branch of a conditional body. -/
structure Rule where
  keyword : Keyword
  /-- The guard with its braces; none for a branch that is always taken. -/
  condition : Option Text
  /-- The alternatives, if lines follow the branch. -/
  body : Option (List Alternative)
  line : Nat
  deriving DecidableEq, Repr

/-- What a template says. -/
inductive Body where
  | normal (alternatives : List Alternative)
  | conditional (rules : List Rule)
  deriving DecidableEq, Repr

/-- A template. -/
structure Template where
  name : Text
  parameters : List Text
  body : Body
  /-- The document it comes from. -/
  source : Text
  /-- The line of its declaration; zero for a template that comes from no document. -/
  line : Nat
  deriving DecidableEq, Repr

namespace Template

/-- Does the body have rules? -/
def isConditional (t : Template) : Bool :=
  match t.body with
  | .normal _ => false
  | .conditional _ => true

/-- The name with the parameters. -/
def signature (t : Template) : Text :=
  if t.parameters = [] then t.name else t.name ++ "(" ++ Text.join ", " t.parameters ++ ")"

/-- The document and the line of the declaration. -/
def location (t : Template) : Text :=
  if t.line = 0 then t.source else t.source ++ ":" ++ Text.ofNat t.line

end Template

end Phrasebook
