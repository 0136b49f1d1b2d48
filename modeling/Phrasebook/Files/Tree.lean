import Phrasebook.Fault
import Phrasebook.Files.Path
import Phrasebook.Text.Decoding
import Phrasebook.Text.Quoted

/-!
# Files

What is read from outside is known through `Files`: for each path the file or directory that it
leads to, or the obstacle on the way.

* `Entry`: a file with its bytes, or a directory with its entries;
* `Files.readBytes`, `Files.readText`: the content of a file;
* `FileTree.files`: the files of a tree given as a whole, seen from its top.
-/

namespace Phrasebook

/-- A file or a directory. -/
inductive Entry where
  | file (bytes : List Nat)
  | directory (entries : List (Text × Entry))
  deriving Inhabited

/-- Why a path leads to no file. -/
inductive Obstacle where
  | missing
  | notDirectory
  | isDirectory
  | nameTooLong
  /-- The path holds a character that no path can hold. -/
  | nullCharacter
  deriving DecidableEq, Repr

namespace Obstacle

/-- The fault that an obstacle is told as; the system numbers most of them. -/
def fault (path : Path) (o : Obstacle) : Fault :=
  let told (number : Nat) (what : Text) : Text :=
    "[Errno " ++ Text.ofNat number ++ "] " ++ what ++ ": " ++ Text.quoted path.text
  match o with
  | missing => ⟨.missingFile, told 2 "No such file or directory"⟩
  | notDirectory => ⟨.notDirectory, told 20 "Not a directory"⟩
  | isDirectory => ⟨.isDirectory, told 21 "Is a directory"⟩
  | nameTooLong => ⟨.fileSystem, told 36 "File name too long"⟩
  | nullCharacter => .badValue "embedded null byte"

end Obstacle

/-- What each path leads to. -/
abbrev Files := Path → Except Obstacle Entry

namespace Files

/-- What a path leads to, if anything; only a name that is too long cannot even be asked for. -/
def entry? (files : Files) (path : Path) : Except Fault (Option Entry) :=
  match files path with
  | .ok e => .ok (some e)
  | .error .nameTooLong => .error (Obstacle.nameTooLong.fault path)
  | .error _ => .ok none

/-- Does a path lead to anything? -/
def has (files : Files) (path : Path) : Except Fault Bool := (files.entry? path).map (·.isSome)

/-- Does a path lead to a directory? -/
def isDirectory (files : Files) (path : Path) : Except Fault Bool :=
  (files.entry? path).map fun
    | some (.directory _) => true
    | _ => false

/-- The bytes of a file. -/
def readBytes (files : Files) (path : Path) : Except Fault (List Nat) :=
  match files path with
  | .ok (.file bytes) => .ok bytes
  | .ok (.directory _) => .error (Obstacle.isDirectory.fault path)
  | .error o => .error (o.fault path)

/-- The text of a file in the encoding with a name, every line end a line feed. The file is found
before the encoding is looked up. -/
def readText (files : Files) (encoding : Text) (path : Path) : Except Fault Text := do
  if encoding.contains '\x00' then throw (.badValue "embedded null character")
  else
    let bytes ← files.readBytes path
    let text ← (← Encoding.named encoding).decode bytes
    return Text.unifyLineEnds text

end Files

/-! ## Trees -/

/-- The entries of the working directory. -/
structure FileTree where
  entries : List (Text × Entry)

namespace FileTree

/-- The tree without files. -/
def empty : FileTree := ⟨[]⟩

/-- Is a name longer than the system allows? The limit is in bytes. -/
def isTooLong (name : Text) : Bool := 255 < name.toStr.utf8ByteSize

/-- Walks from an entry along parts; `above` holds the directories above it, nearest first. Above
the tree there is nothing to be found. -/
def walk (above : List Entry) (e : Entry) : List Text → Except Obstacle Entry
  | [] => .ok e
  | part :: rest =>
    match e with
    | .file _ => .error .notDirectory
    | .directory entries =>
      if isTooLong part then .error .nameTooLong
      else if part = Path.upward then
        match above with
        | [] => walk [] (.directory []) rest
        | d :: above => walk above d rest
      else
        match entries.find? (·.1 = part) with
        | some (_, found) => walk (e :: above) found rest
        | none => .error .missing

/-- The files of a tree. A path from the root leads out of the tree. -/
def files (tree : FileTree) : Files := fun path =>
  if path.text.contains '\x00' then .error .nullCharacter
  else walk [] (.directory (if path.root = [] then tree.entries else [])) path.parts

/-- The entries with one put at a place below; directories on the way are made. A directory that
is there already keeps its entries. -/
def put (e : Entry) : List Text → List (Text × Entry) → List (Text × Entry)
  | [], entries => entries
  | name :: rest, entries =>
    let others := entries.filter (·.1 ≠ name)
    let inside := match entries.find? (·.1 = name) with
      | some (_, .directory inside) => inside
      | _ => []
    match rest, e with
    | [], .file bytes => others ++ [(name, .file bytes)]
    | [], .directory new => others ++ [(name, .directory (inside ++ new))]
    | _, _ => others ++ [(name, .directory (put e rest inside))]

/-- The tree with an entry put at a path. -/
def insert (tree : FileTree) (path : Path) (e : Entry) : FileTree :=
  ⟨put e path.parts tree.entries⟩

end FileTree

end Phrasebook
