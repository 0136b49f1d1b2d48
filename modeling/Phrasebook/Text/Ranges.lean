import Phrasebook.Text.Basic

/-!
# Sets of code points

Character properties beyond ASCII are tables.  A table is written as ascending hexadecimal
ranges, such as `c0-d6 d8-f6 2ec`, and looked up by bisection.

* `CodeRanges.ofTable`: reads the written form;
* `CodeRanges.contains`: membership.
-/

namespace Phrasebook

/-- A set of code points as ascending, disjoint ranges, both ends included. -/
structure CodeRanges where
  /-- First and last code point of each range. -/
  bounds : Array (Nat × Nat)

namespace CodeRanges

/-- Reads blank-separated entries, each a code point or two of them joined by a hyphen. -/
def ofTable (table : Text) : CodeRanges :=
  ⟨((Text.entries table).map fun entry =>
    match Text.split '-' entry with
    | [first, last] => (Text.hexValue first, Text.hexValue last)
    | _ => (Text.hexValue entry, Text.hexValue entry)).toArray⟩

/-- Looks for a range around `code` among those numbered from `lo` up to, not including, `hi`. -/
def search (bounds : Array (Nat × Nat)) (code lo hi : Nat) : Bool :=
  if lo < hi then
    let mid := (lo + hi) / 2
    match bounds[mid]? with
    | none => false
    | some (first, last) =>
      if code < first then search bounds code lo mid
      else if last < code then search bounds code (mid + 1) hi
      else true
  else false
termination_by hi - lo

/-- Is the character's code point in one of the ranges? -/
def contains (r : CodeRanges) (c : Char) : Bool := search r.bounds c.toNat 0 r.bounds.size

end CodeRanges

end Phrasebook
