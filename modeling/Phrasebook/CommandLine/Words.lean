import Phrasebook.Text.Digit
import Phrasebook.Text.Basic

/-!
# Words of a command line

A command line is a list of words: options, the values of options, and plain words in their
places.  A long option may be shortened as long as one option only begins that way.  After two
hyphens every word is plain, and two hyphens are then a word like any other; they are also a value
like any other where they are written together with an option.

* `Grammar.classify`: what kind of word an argument is;
* `Grammar.readPlain`: the options and a fixed number of plain words;
* `Grammar.readCommand`: the options before the first plain word, which begins a command of its
  own.
-/

namespace Phrasebook

/-- Why a command line is not carried out. -/
inductive Stop where
  /-- It is invalid. -/
  | usage
  /-- It asks for help. -/
  | help
  /-- It asks for the version. -/
  | version
  deriving DecidableEq, Repr

/-- What an option does. -/
inductive OptionEffect where
  /-- Stops reading at once. -/
  | stops (s : Stop)
  /-- Sets something to a value that passes the test. -/
  | sets (accepts : Text → Bool)

/-- An option. -/
structure OptionForm where
  /-- What the option is known by once it is read. -/
  key : Text
  /-- Its spellings, with their hyphens. -/
  spellings : List Text
  effect : OptionEffect

/-- The options that may be used. -/
abbrev Grammar := List OptionForm

/-- The kinds of words. -/
inductive WordKind where
  | plain
  | separator
  /-- An option with the value that is written together with it, if any. -/
  | option (form : OptionForm) (value : Option Text)
  /-- A short option with more letters after it. -/
  | letters (form : OptionForm) (more : Text)
  /-- It looks like an option but is none. -/
  | unknown

/-- An argument with its kind. -/
structure Word where
  text : Text
  kind : WordKind

/-! ## Kinds of words -/

/-- A decimal digit of any script. -/
def Text.isDecimal (c : Char) : Bool := (Text.decimalValue? c).isSome

/-- Does the text spell a negative number? A line end after it does no harm. -/
def Text.isNegativeNumber (t : Text) : Bool :=
  let body := if endsWith "\n" t then t.dropLast else t
  match body with
  | '-' :: rest =>
    match rest.dropWhile isDecimal with
    | [] => !rest.isEmpty
    | '.' :: fraction => !fraction.isEmpty && fraction.all isDecimal
    | _ => false
  | _ => false

namespace Grammar

/-- The options with their spellings, one by one. -/
def spelled (g : Grammar) : List (Text × OptionForm) :=
  g.flatMap fun form => form.spellings.map fun spelling => (spelling, form)

/-- The option with exactly this spelling. -/
def find? (g : Grammar) (spelling : Text) : Option OptionForm :=
  (g.spelled.find? (·.1 = spelling)).map (·.2)

/-- The text before the first equals sign and the text after it. -/
def splitValue (t : Text) : Text × Option Text :=
  match Text.cut? "=" t with
  | some (before, after) => (before, some after)
  | none => (t, none)

/-- What an argument may mean that is no exact spelling: options that begin with it, or a short
option with letters after it. -/
def candidates (g : Grammar) (t : Text) : List WordKind :=
  if Text.startsWith "--" t then
    let (start, value) := splitValue t
    (g.spelled.filter fun s => Text.startsWith start s.1).map fun s => .option s.2 value
  else
    (g.spelled.filter fun s => s.1 = t.take 2).map fun s => .letters s.2 (t.drop 2)

/-- The kind of an argument before any separator; `none` if it could be several options. -/
def classify (g : Grammar) (t : Text) : Option WordKind :=
  let (start, value) := splitValue t
  match t with
  | '-' :: _ :: _ =>
    match g.find? t, g.find? start with
    | some form, _ => some (.option form none)
    | none, some form => if value.isSome then some (.option form value) else none
    | none, none =>
      match g.candidates t with
      | [kind] => some kind
      | _ :: _ :: _ => none
      | [] => some (if Text.isNegativeNumber t || t.contains ' ' then .plain else .unknown)
  | _ => some .plain

/-- The words of a command line; all of them are told apart before any is acted upon. -/
def words (g : Grammar) : List Text → Except Stop (List Word)
  | [] => .ok []
  | t :: rest =>
    if t = ['-', '-'] then .ok (⟨t, .separator⟩ :: rest.map fun t => ⟨t, .plain⟩)
    else
      match g.classify t with
      | none => .error .usage
      | some kind => (words g rest).map (⟨t, kind⟩ :: ·)

end Grammar

/-! ## Reading words -/

/-- What was read from a command line. -/
structure Reading where
  /-- The values of options in the order in which they were set. -/
  values : List (Text × Text)
  plain : List Text
  /-- Are there words that nothing was made of? -/
  surplus : Bool

namespace Reading

/-- The reading of no words. -/
def empty : Reading := ⟨[], [], false⟩

/-- The value of an option: the last one counts. -/
def value? (r : Reading) (key : Text) : Option Text :=
  (r.values.reverse.find? (·.1 = key)).map (·.2)

/-- Sets an option, if the value passes its test. -/
def set (r : Reading) (key value : Text) (accepts : Text → Bool) : Except Stop Reading :=
  if accepts value then .ok { r with values := r.values ++ [(key, value)] } else .error .usage

/-- One more plain word. -/
def add (r : Reading) (word : Text) : Reading := { r with plain := r.plain ++ [word] }

/-- A word that nothing is made of. -/
def drop (r : Reading) : Reading := { r with surplus := true }

end Reading

namespace Grammar

/-- How letters after a short option that stops are read: each is a short option of its own, up to
the first that is none or takes the rest as its value; a hyphen or an equals sign is not allowed. -/
def readLetters (g : Grammar) (s : Stop) : Text → Stop
  | [] => s
  | c :: rest =>
    if c = '-' ∨ c = '=' then .usage
    else
      match g.find? ['-', c] with
      | some ⟨_, _, .stops _⟩ => readLetters g s rest
      | _ => s

/-- Acts on a short option with letters after it; if it takes a value the letters are the value. -/
def stopOrSet (g : Grammar) (r : Reading) (form : OptionForm) (more : Text) : Except Stop Reading :=
  match form.effect with
  | .stops s => .error (g.readLetters s more)
  | .sets accepts => r.set form.key more accepts

/-- Acts on an option with a value written together with it. -/
def setJoined (r : Reading) (form : OptionForm) (value : Text) : Except Stop Reading :=
  match form.effect with
  | .stops _ => .error .usage
  | .sets accepts => r.set form.key value accepts

/-- What the word before calls for. -/
inductive Pending where
  | nothing
  /-- A separator would go with the plain word before it. -/
  | separator
  /-- An option waits for its value. -/
  | value (key : Text) (accepts : Text → Bool)

/-- The state of reading. -/
structure Progress where
  reading : Reading
  /-- How many more plain words have a place. -/
  places : Nat
  pending : Pending

/-- The state after a word from which the reading came out. -/
def Progress.after (p : Progress) (r : Reading) : Progress := ⟨r, p.places, .nothing⟩

/-- Acts on a word. A separator goes with the plain word before or after it; without a place for
such a word nothing is made of it. -/
def step (g : Grammar) (p : Progress) (w : Word) : Except Stop Progress := do
  match p.pending, w.kind with
  | .value key accepts, .plain => return p.after (← p.reading.set key w.text accepts)
  | .value _ _, _ => throw .usage
  | _, .plain =>
    match p.places with
    | 0 => return p.after p.reading.drop
    | places + 1 => return ⟨p.reading.add w.text, places, .separator⟩
  | .separator, .separator => return p.after p.reading
  | .nothing, .separator => return p.after (if p.places = 0 then p.reading.drop else p.reading)
  | _, .unknown => return p.after p.reading.drop
  | _, .letters form more => return p.after (← g.stopOrSet p.reading form more)
  | _, .option form (some value) => return p.after (← setJoined p.reading form value)
  | _, .option form none =>
    match form.effect with
    | .stops s => throw s
    | .sets accepts => return ⟨p.reading, p.places, .value form.key accepts⟩

/-- The reading at the end of a command line; no option may wait for a value. -/
def Progress.finish (p : Progress) : Except Stop Reading :=
  match p.pending with
  | .value _ _ => .error .usage
  | _ => .ok p.reading

/-- Reads options and at most so many plain words. -/
def readPlain (g : Grammar) (places : Nat) (words : List Word) : Except Stop Reading := do
  (← words.foldlM g.step ⟨.empty, places, .nothing⟩).finish

/-- Does a word begin a command? It does unless it is an option or the value of one. -/
def Progress.beginsCommand (p : Progress) (w : Word) : Bool :=
  match p.pending, w.kind with
  | .value _ _, _ => false
  | _, .plain | _, .separator => true
  | _, _ => false

/-- Reads the options before a command; its words are left as they were given. -/
def readCommandFrom (g : Grammar) (p : Progress) :
    List Word → Except Stop (Reading × List Text)
  | [] => p.finish.map fun r => (r, [])
  | w :: rest =>
    if p.beginsCommand w then .ok (p.reading, (w :: rest).map (·.text))
    else do readCommandFrom g (← g.step p w) rest

/-- Reads the options before the first plain word, which begins a command. -/
def readCommand (g : Grammar) (words : List Word) : Except Stop (Reading × List Text) :=
  readCommandFrom g ⟨.empty, 0, .nothing⟩ words

end Grammar

end Phrasebook
