import Phrasebook.Text.Blank

/-!
# Cutting and replacing

* `words`: the pieces of a text between blanks;
* `splitAt`: the pieces of a text between the occurrences of a separator;
* `replace`: occurrences of a text replaced by another.

Each takes an optional limit on the number of cuts; what is left after the last cut stays whole.
-/

namespace Phrasebook.Text

/-- One fewer, where there is a limit at all. -/
def oneFewer (limit : Option Nat) : Option Nat := limit.map (· - 1)

/-- The pieces of a text between runs of blanks. -/
def words (limit : Option Nat) (t : Text) : List Text :=
  match _h : t.dropWhile isBlank with
  | [] => []
  | c :: rest =>
    if limit = some 0 then [c :: rest]
    else
      (c :: rest.takeWhile (!isBlank ·)) :: words (oneFewer limit) (rest.dropWhile (!isBlank ·))
termination_by t.length
decreasing_by
  have h1 : (t.dropWhile isBlank).length ≤ t.length := (List.dropWhile_suffix isBlank).length_le
  have h2 : (rest.dropWhile (!isBlank ·)).length ≤ rest.length :=
    (List.dropWhile_suffix (!isBlank ·)).length_le
  rw [_h] at h1
  simp only [List.length_cons] at h1
  omega

/-- The pieces of a text between the occurrences of a separator that is not empty. The text is
walked through with the piece so far, in reverse; `skip` characters belong to a separator. -/
def splitFrom (sep : Text) (limit : Option Nat) (piece : Text) (skip : Nat) : Text → List Text
  | [] => [piece.reverse]
  | c :: t =>
    if 0 < skip then splitFrom sep limit piece (skip - 1) t
    else if limit ≠ some 0 ∧ sep.isPrefixOf (c :: t) then
      piece.reverse :: splitFrom sep (oneFewer limit) [] (sep.length - 1) t
    else splitFrom sep limit (c :: piece) 0 t

/-- The pieces of a text between the occurrences of a separator that is not empty. -/
def splitAt (sep : Text) (limit : Option Nat) (t : Text) : List Text := splitFrom sep limit [] 0 t

/-- A text put between all characters, in front and at the end, a limited number of times. -/
def weave (new : Text) (limit : Option Nat) : Text → Text
  | [] => if limit = some 0 then [] else new
  | c :: t => if limit = some 0 then c :: t else new ++ c :: weave new (oneFewer limit) t

/-- Every occurrence of a text replaced by another. The empty text occurs between all characters,
in front and at the end. -/
def replace (old new : Text) (limit : Option Nat) (t : Text) : Text :=
  if old = [] then weave new limit t else join new (splitAt old limit t)

/-- The number of occurrences of a text that do not overlap. -/
def count (mark t : Text) : Nat :=
  if mark = [] then t.length + 1 else (splitAt mark none t).length - 1

end Phrasebook.Text
