import Phrasebook.Text.Basic

/-!
# Paths

A path is a list of parts, from a root or from the working directory.  Empty parts and single
points are dropped when a path is read; two points stay, since what they lead to depends on the
files.

* `Path.ofText`, `Path.text`: reading and writing paths;
* `Path.suffix`: the ending by which documents are told apart;
* `Path.notAfter`: the order of paths, part by part.
-/

namespace Phrasebook

/-- A path. -/
structure Path where
  /-- One or two slashes for a path from the root, nothing for one from the working directory. -/
  root : Text
  parts : List Text
  deriving DecidableEq, Repr

namespace Path

/-- The part that leads to the directory above. -/
def upward : Text := ['.', '.']

/-- The slashes that make a path start at the root: exactly two are kept, and any other number
counts as one. -/
def rootOf (t : Text) : Text :=
  match (t.takeWhile (· = '/')).length with
  | 0 => []
  | 2 => ['/', '/']
  | _ => ['/']

/-- The path that a text spells. -/
def ofText (t : Text) : Path :=
  ⟨rootOf t, (Text.split '/' t).filter fun part => part ≠ [] ∧ part ≠ ['.']⟩

/-- The text of a path; the working directory is a single point. -/
def text (p : Path) : Text :=
  if p.root = [] ∧ p.parts = [] then ['.'] else p.root ++ Text.join ['/'] p.parts

/-- A path below another one. -/
def below (p : Path) (parts : List Text) : Path := ⟨p.root, p.parts ++ parts⟩

/-- The last part. -/
def name (p : Path) : Text := p.parts.getLast?.getD []

/-- The ending of a name from its last point on; a point at either end of the name begins none. -/
def suffixOf (name : Text) : Text :=
  let ending := name.reverse.takeWhile (· ≠ '.')
  match name.reverse.dropWhile (· ≠ '.') with
  | '.' :: _ :: _ => if ending = [] then [] else '.' :: ending.reverse
  | _ => []

/-- The ending of the last part. -/
def suffix (p : Path) : Text := suffixOf p.name

/-- Does a path come no later than another one below the same root? The first part in which they
differ decides. -/
def notAfter (p q : Path) : Bool := Text.listOrder Text.order p.parts q.parts != .gt

/-- Drops every pair of a part and the upward part after it; `above` holds the parts so far, last
first. An upward part without a part before it stays, save that nothing is above the root. -/
def settle (rooted : Bool) (above : List Text) : List Text → List Text
  | [] => above.reverse
  | part :: rest =>
    if part ≠ upward then settle rooted (part :: above) rest
    else
      match above with
      | [] => settle rooted (if rooted then [] else [part]) rest
      | last :: before => settle rooted (if last = upward then part :: above else before) rest

/-- A path without upward parts, as far as they take away a part before them. -/
def settled (p : Path) : Path := ⟨p.root, settle (p.root ≠ []) [] p.parts⟩

end Path

end Phrasebook
