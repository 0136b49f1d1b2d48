import Phrasebook.Files.Tree
import Phrasebook.Text.Case

/-!
# Finding documents

The documents below a directory are its regular files, at any depth, whose ending is one of the
given ones, whatever the case of the letters.  They come in the order of their paths, part by
part.

* `Entry.filesBelow`: the regular files of an entry, each by its way from there;
* `Files.discover`: the documents below a path.
-/

namespace Phrasebook

namespace Entry

mutual

/-- The ways from an entry to its regular files; a file is reached without a step. -/
def filesBelow : Entry → List (List Text)
  | file _ => [[]]
  | directory entries => filesIn entries

/-- The ways to the regular files of the entries of a directory. -/
def filesIn : List (Text × Entry) → List (List Text)
  | [] => []
  | (name, e) :: rest => (filesBelow e).map (name :: ·) ++ filesIn rest

end

end Entry

/-- Does a path end in one of the endings, whatever the case of the letters? -/
def Path.endsInOneOf (extensions : List Text) (p : Path) : Bool :=
  (extensions.map Text.toLower).contains (Text.toLower p.suffix)

namespace Files

/-- The documents at a path: the file itself, or the files below the directory with one of the
endings, in the order of their paths. -/
def discover (files : Files) (root : Path) (extensions : List Text) : Except Fault (List Path) := do
  match ← files.entry? root with
  | none => return []
  | some (.file _) => return [root]
  | some (.directory entries) =>
    let found := (Entry.filesIn entries).map root.below
    return (found.filter (·.endsInOneOf extensions)).mergeSort Path.notAfter

end Files

end Phrasebook
