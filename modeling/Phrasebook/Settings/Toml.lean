import Phrasebook.Text.Quoted
import Phrasebook.Value.Equality
import Phrasebook.Value.Numeral

/-!
# TOML documents

A TOML document is a list of statements: a key with its value, the head of a table, or the head
of one more table of an array.  It denotes a mapping in the order in which keys come up first.

A table is opened by at most one head, keys of a table are given in one place only, and what was
written as an inline array or table is not extended later; `Outline` keeps account of that.

* `Toml.readValue`: a value;
* `Toml.read`: the mapping of a document, or what is wrong with it and where.
-/

namespace Phrasebook

/-- Why a text is no TOML document. -/
inductive TomlFault where
  /-- The text is malformed; the message tells the place. -/
  | malformed (message : Text)
  /-- A number has too many digits. -/
  | number (f : Fault)
  deriving DecidableEq, Repr

namespace Toml

/-- A failure inside a document: what is wrong, and the text from the place on. -/
inductive Trouble where
  | at (message : Text) (rest : Text)
  | number (f : Fault)

/-- The names that lead to a value, outermost first. -/
abbrev Key := List Text

/-- A key in messages. -/
def keyText (key : Key) : Text :=
  match key with
  | [name] => "(" ++ Text.quoted name ++ ",)"
  | _ => "(" ++ Text.join ", " (key.map Text.quoted) ++ ")"

/-! ## Blanks and comments -/

/-- The blanks inside a line. -/
def isBlank (c : Char) : Bool := c == ' ' || c == '\t'

/-- Drops the blanks inside a line. -/
def skip (t : Text) : Text := t.dropWhile isBlank

/-- Drops blanks and line ends. -/
def skipLines (t : Text) : Text := t.dropWhile fun c => isBlank c || c == '\n'

/-- A control character; a tab is none, nor is a line end where lines may end. -/
def isControl (lines : Bool) (c : Char) : Bool :=
  (c.toNat < 32 || c.toNat == 127) && c != '\t' && !(lines && c == '\n')

/-- The text before a mark, free of control characters, and the text from the mark on. Without the
mark everything is taken, unless it is needed. -/
def upTo (mark : Text) (lines needed : Bool) (t : Text) : Except Trouble (Text × Text) :=
  let check (before rest : Text) : Except Trouble (Text × Text) :=
    match before.dropWhile fun c => !isControl lines c with
    | [] => .ok (before, rest)
    | c :: _ =>
      let place := t.dropWhile fun c => !isControl lines c
      .error (.at ("Found invalid character " ++ Text.quoted [c]) place)
  match Text.cut? mark t with
  | some (before, after) => check before (mark ++ after)
  | none => if needed then .error (.at ("Expected " ++ Text.quoted mark) []) else check t []

/-- Drops a comment up to the end of its line. -/
def skipComment (t : Text) : Except Trouble Text :=
  match t with
  | '#' :: rest => (upTo "\n" false false rest).map (·.2)
  | _ => .ok t

/-- Drops blanks, line ends and comments between the items of an array; `rounds` bounds the number
of comments. -/
def skipBetween : Nat → Text → Except Trouble Text
  | 0, t => .ok t
  | rounds + 1, t =>
    match skipLines t with
    | '#' :: rest => do skipBetween rounds (← skipComment ('#' :: rest))
    | rest => .ok rest

/-! ## Strings -/

/-- The character of an escape of one letter. -/
def letterEscape? : Char → Option Char
  | 'b' => some '\x08'
  | 't' => some '\t'
  | 'n' => some '\n'
  | 'f' => some '\x0c'
  | 'r' => some '\r'
  | '"' => some '"'
  | '\\' => some '\\'
  | _ => none

/-- The character with the code of so many hexadecimal digits. -/
def codeEscape (count : Nat) (t : Text) : Except Trouble (Char × Text) :=
  let digits := t.take count
  if digits.length = count ∧ digits.all (fun c => (Text.digitValue? c).any (· < 16)) then
    let code := Text.hexValue digits
    if code < 0xd800 ∨ (0xe000 ≤ code ∧ code < 0x110000) then .ok (Char.ofNat code, t.drop count)
    else .error (.at "Escaped character is not a Unicode scalar value" (t.drop count))
  else .error (.at "Invalid hex value" t)

/-- What the text after a backslash stands for. In a string of several lines a backslash at the
end of a line joins the lines and takes the blanks between them away. -/
def escape (lines : Bool) (t : Text) : Except Trouble (Text × Text) :=
  let wrong (rest : Text) : Except Trouble (Text × Text) :=
    .error (.at "Unescaped '\\' in a string" rest)
  match t with
  | [] => wrong []
  | c :: rest =>
    if lines && (isBlank c || c == '\n') then
      if c == '\n' then .ok ([], skipLines rest)
      else
        match skip rest with
        | [] => .ok ([], [])
        | '\n' :: rest => .ok ([], skipLines rest)
        | rest => wrong rest
    else if c = 'u' then (codeEscape 4 rest).map fun (c, rest) => ([c], rest)
    else if c = 'U' then (codeEscape 8 rest).map fun (c, rest) => ([c], rest)
    else
      match letterEscape? c with
      | some c => .ok ([c], rest)
      | none => wrong rest

/-- The rest of a string in double quotes up to its end; `rounds` bounds its length. -/
def quotedRest (lines : Bool) : Nat → Text → Except Trouble (Text × Text)
  | 0, _ => .error (.at "Unterminated string" [])
  | rounds + 1, t =>
    match t with
    | [] => .error (.at "Unterminated string" [])
    | '"' :: rest =>
      if !lines then .ok ([], rest)
      else
        match rest with
        | '"' :: '"' :: rest => .ok ([], rest)
        | _ => do
          let (body, rest) ← quotedRest lines rounds rest
          return ('"' :: body, rest)
    | '\\' :: rest => do
      let (part, rest) ← escape lines rest
      let (body, rest) ← quotedRest lines rounds rest
      return (part ++ body, rest)
    | c :: rest =>
      if isControl lines c then .error (.at ("Illegal character " ++ Text.quoted [c]) t)
      else do
        let (body, rest) ← quotedRest lines rounds rest
        return (c :: body, rest)

/-- A string in double quotes on one line, after the opening quote. -/
def quotedLine (t : Text) : Except Trouble (Text × Text) := quotedRest false (t.length + 1) t

/-- A string in single quotes on one line, after the opening quote. -/
def literalLine (t : Text) : Except Trouble (Text × Text) := do
  let (body, rest) ← upTo "'" false true t
  return (body, rest.drop 1)

/-- Up to two more quotes after a string of several lines belong to it. -/
def moreQuotes (quote : Char) (body rest : Text) : Text × Text :=
  match rest with
  | c :: d :: rest' =>
    if c = quote then if d = quote then (body ++ [c, d], rest') else (body ++ [c], d :: rest')
    else (body, rest)
  | [c] => if c = quote then (body ++ [c], []) else (body, rest)
  | [] => (body, [])

/-- A string of several lines, after the three opening quotes. A line end right after them does
not belong to it. -/
def stringLines (quote : Char) (t : Text) : Except Trouble (Text × Text) := do
  let start := match t with
    | '\n' :: rest => rest
    | _ => t
  let (body, rest) ←
    if quote = '"' then quotedRest true (start.length + 1) start
    else do
      let (body, rest) ← upTo "'''" true true start
      pure (body, rest.drop 3)
  return moreQuotes quote body rest

/-! ## Keys -/

/-- A character of a name without quotes. -/
def isBare (c : Char) : Bool := c.isAlphanum || c == '-' || c == '_'

/-- A character that a key begins with. -/
def isKeyStart (c : Char) : Bool := isBare c || c == '"' || c == '\''

/-- A name in a key. -/
def readName (t : Text) : Except Trouble (Text × Text) :=
  match t with
  | '"' :: rest => quotedLine rest
  | '\'' :: rest => literalLine rest
  | _ =>
    match t.span isBare with
    | ([], _) => .error (.at "Invalid initial character for a key part" t)
    | found => .ok found

/-- A key, names with points between them; `rounds` bounds their number. -/
def readKeyWithin : Nat → Text → Except Trouble (Key × Text)
  | 0, t => .error (.at "Invalid initial character for a key part" t)
  | rounds + 1, t => do
    let (name, rest) ← readName t
    match skip rest with
    | '.' :: rest =>
      let (names, rest) ← readKeyWithin rounds (skip rest)
      return (name :: names, rest)
    | rest => return ([name], rest)

/-- A key with the blanks after it. -/
def readKey (t : Text) : Except Trouble (Key × Text) := readKeyWithin (t.length + 1) t

/-! ## Dates and times -/

/-- A number of so many digits within bounds. -/
def numeral? (count low high : Nat) (t : Text) : Option (Nat × Text) :=
  let digits := t.take count
  if digits.length = count ∧ digits.all Char.isDigit then
    let n := (Text.natOfDigits? 10 digits).getD 0
    if low ≤ n ∧ n ≤ high then some (n, t.drop count) else none
  else none

/-- The text after a character. -/
def after? (c : Char) : Text → Option Text
  | d :: rest => if c = d then some rest else none
  | [] => none

/-- The fraction of a second in millionths, if there are digits after a point; digits past the
sixth are dropped. -/
def readFraction (t : Text) : Nat × Text :=
  match t with
  | '.' :: rest =>
    match rest.span Char.isDigit with
    | ([], _) => (0, t)
    | (digits, rest) =>
      let six := (digits ++ Text.repeated 6 "0").take 6
      ((Text.natOfDigits? 10 six).getD 0, rest)
  | _ => (0, t)

/-- A time of day. -/
def readClock? (t : Text) : Option (Clock × Text) := do
  let (hour, rest) ← numeral? 2 0 23 t
  let (minute, rest) ← numeral? 2 0 59 (← after? ':' rest)
  let (second, rest) ← numeral? 2 0 59 (← after? ':' rest)
  let (fraction, rest) := readFraction rest
  return (⟨hour, minute, second, fraction⟩, rest)

/-- A distance from universal time in minutes. -/
def readOffset? (t : Text) : Option (Int × Text) :=
  match t with
  | [] => none
  | c :: rest =>
    if c = 'Z' ∨ c = 'z' then some (0, rest)
    else if c = '+' ∨ c = '-' then do
      let (hours, rest) ← numeral? 2 0 23 rest
      let (minutes, rest) ← numeral? 2 0 59 (← after? ':' rest)
      let offset : Int := hours * 60 + minutes
      return (if c = '-' then -offset else offset, rest)
    else none

/-- A day, whether or not the month is that long. -/
def readDate? (t : Text) : Option (Date × Text) := do
  let (year, rest) ← numeral? 4 0 9999 t
  let (month, rest) ← numeral? 2 1 12 (← after? '-' rest)
  let (day, rest) ← numeral? 2 1 31 (← after? '-' rest)
  return (⟨year, month, day⟩, rest)

/-- The time of day after a date, with its distance from universal time. -/
def readTimeOfDate? (t : Text) : Option (Clock × Option Int × Text) :=
  match t with
  | [] => none
  | c :: rest =>
    if c = 'T' ∨ c = 't' ∨ c = ' ' then do
      let (clock, rest) ← readClock? rest
      match readOffset? rest with
      | some (offset, rest) => return (clock, some offset, rest)
      | none => return (clock, none, rest)
    else none

/-- A date or a time, if one stands here. -/
def readMoment? (t : Text) : Option (Except Trouble (Value × Text)) :=
  match readDate? t with
  | some (d, rest) =>
    let (m, rest) := match readTimeOfDate? rest with
      | some (clock, offset, rest) => (Moment.both d clock offset, rest)
      | none => (.date d, rest)
    if d.isValid then some (.ok (.moment m, rest))
    else some (.error (.at "Invalid date or datetime" t))
  | none => (readClock? t).map fun (clock, rest) => .ok (.moment (.time clock), rest)

/-! ## Numbers -/

/-- Digits with single underscores between them, and the rest; an underscore that no digit follows
does not belong to them. -/
def digits (isDigit : Char → Bool) (t : Text) : Text × Text :=
  match t with
  | '_' :: c :: rest =>
    if isDigit c then
      let (more, rest) := digits isDigit rest
      ('_' :: c :: more, rest)
    else ([], t)
  | c :: rest =>
    if isDigit c then
      let (more, rest) := digits isDigit rest
      (c :: more, rest)
    else ([], t)
  | [] => ([], [])

/-- Digits that begin with a digit. -/
def digitsFrom (isDigit : Char → Bool) (t : Text) : Text × Text :=
  if t.head?.any isDigit then digits isDigit t else ([], t)

/-- A whole number in a base that its first characters announce. -/
def basedNumber? (t : Text) : Option (Text × Text) :=
  match t with
  | '0' :: mark :: rest =>
    let isDigit? : Option (Char → Bool) := match mark with
      | 'x' => some fun c => (Text.digitValue? c).any (· < 16)
      | 'b' => some fun c => c == '0' || c == '1'
      | 'o' => some fun c => '0' ≤ c && c ≤ '7'
      | _ => none
    match isDigit?.map fun isDigit => digitsFrom isDigit rest with
    | none | some ([], _) => none
    | some (found, rest) => some ('0' :: mark :: found, rest)
  | _ => none

/-- A sign that stands first, and the rest. -/
def sign (t : Text) : Text × Text :=
  match t with
  | c :: rest => if c = '+' ∨ c = '-' then ([c], rest) else ([], t)
  | [] => ([], [])

/-- The fraction and the exponent of a number as they stand. -/
def tail (t : Text) : Text × Text :=
  let (fraction, t) := match t with
    | '.' :: rest =>
      match digitsFrom Char.isDigit rest with
      | ([], _) => ([], t)
      | (found, rest) => ('.' :: found, rest)
    | _ => ([], t)
  let (power, t) := match t with
    | c :: rest =>
      let (s, body) := sign rest
      match digitsFrom Char.isDigit body with
      | ([], _) => ([], t)
      | (found, rest) => if c = 'e' ∨ c = 'E' then (c :: (s ++ found), rest) else ([], t)
    | [] => ([], t)
  (fraction ++ power, t)

/-- A number, if one stands here. -/
def readNumber? (t : Text) : Option (Except Trouble (Value × Text)) :=
  let whole (text rest : Text) : Except Trouble (Value × Text) :=
    match Value.readInteger 0 text with
    | .ok n => .ok (.int n, rest)
    | .error f => .error (.number f)
  match basedNumber? t with
  | some (text, rest) => some (whole text rest)
  | none =>
    let (s, body) := sign t
    let (found, rest) := match body with
      | '0' :: rest => (['0'], rest)
      | _ => digitsFrom Char.isDigit body
    if found = [] then none
    else
      match tail rest with
      | ([], _) => some (whole (s ++ found) rest)
      | (more, rest) =>
        some (.ok (.float ((Numeral.readFloat? (s ++ found ++ more)).getD 0), rest))

/-- An infinity, or the value that is no number, if one stands here. -/
def readSpecial? (t : Text) : Option (Value × Text) :=
  let (s, body) := sign t
  let word := body.take 3
  if word = "inf" ∨ word = "nan" then
    (Numeral.readFloat? (s ++ word)).map fun x => (.float x, body.drop 3)
  else none

/-! ## Tables -/

/-- What a key is refused with when something else than a table stands in its way. -/
def overwritten : Text := "Cannot overwrite a value"

/-- Changes the table that a key leads to; tables that are missing on the way are made. With
`lists`, an array of tables is entered at its last table. -/
def inTable (lists : Bool) (change : List (Value × Value) → Except Text (List (Value × Value))) :
    Key → List (Value × Value) → Except Text (List (Value × Value))
  | [], entries => change entries
  | name :: names, entries =>
    let put (v : Value) : List (Value × Value) := Value.insertEntry entries (.text name) v
    match Value.lookupName? entries name with
    | none => (inTable lists change names []).map fun inner => put (.dict inner)
    | some (.dict inner) => (inTable lists change names inner).map fun inner => put (.dict inner)
    | some (.list items) =>
      match lists, items.getLast? with
      | true, some (.dict inner) =>
        (inTable lists change names inner).map fun inner =>
          put (.list (items.dropLast ++ [.dict inner]))
      | _, _ => .error overwritten
    | some _ => .error overwritten

/-- Binds a name that is not bound yet. -/
def bind (taken : Text) (name : Text) (v : Value) (entries : List (Value × Value)) :
    Except Text (List (Value × Value)) :=
  match Value.lookupName? entries name with
  | some _ => .error taken
  | none => .ok (entries ++ [(.text name, v)])

/-- Adds one more table to the array with a name. -/
def addTable (name : Text) (entries : List (Value × Value)) :
    Except Text (List (Value × Value)) :=
  match Value.lookupName? entries name with
  | some (.list items) =>
    .ok (Value.insertEntry entries (.text name) (.list (items ++ [.dict []])))
  | some _ => .error overwritten
  | none => .ok (entries ++ [(.text name, .list [.dict []])])

/-- Does a key lead to or through one of the keys? -/
def passes (keys : List Key) (key : Key) : Bool := keys.any (·.isPrefixOf key)

/-- Is the value an array or a table, which was written out in one place? -/
def isWhole : Value → Bool
  | .dict _ | .list _ => true
  | _ => false

/-- The names before the last one, and the last one. -/
def splitKey (key : Key) : Key × Text := (key.dropLast, key.getLast?.getD [])

/-! ## Values -/

mutual

/-- A value; `rounds` bounds the nesting and length. -/
def readValue (rounds : Nat) (t : Text) : Except Trouble (Value × Text) :=
  match rounds with
  | 0 => .error (.at "Invalid value" t)
  | rounds + 1 =>
    match t with
    | '"' :: '"' :: '"' :: rest => do
      let (body, rest) ← stringLines '"' rest
      return (.text body, rest)
    | '"' :: rest => do
      let (body, rest) ← quotedLine rest
      return (.text body, rest)
    | '\'' :: '\'' :: '\'' :: rest => do
      let (body, rest) ← stringLines '\'' rest
      return (.text body, rest)
    | '\'' :: rest => do
      let (body, rest) ← literalLine rest
      return (.text body, rest)
    | 't' :: 'r' :: 'u' :: 'e' :: rest => .ok (.bool true, rest)
    | 'f' :: 'a' :: 'l' :: 's' :: 'e' :: rest => .ok (.bool false, rest)
    | '[' :: rest => do
      match ← skipBetween rest.length rest with
      | ']' :: rest => return (.list [], rest)
      | rest =>
        let (items, rest) ← readItems rounds rest
        return (.list items, rest)
    | '\x7b' :: rest =>
      match skip rest with
      | '\x7d' :: rest => .ok (.dict [], rest)
      | rest => do
        let (entries, rest) ← readEntries rounds [] [] rest
        return (.dict entries, rest)
    | _ =>
      match readMoment? t with
      | some found => found
      | none =>
        match readNumber? t with
        | some found => found
        | none =>
          match readSpecial? t with
          | some found => .ok found
          | none => .error (.at "Invalid value" t)

/-- The items of an array up to its closing bracket. -/
def readItems (rounds : Nat) (t : Text) : Except Trouble (List Value × Text) :=
  match rounds with
  | 0 => .error (.at "Invalid value" t)
  | rounds + 1 => do
    let (v, rest) ← readValue rounds t
    match ← skipBetween rest.length rest with
    | ']' :: rest => return ([v], rest)
    | ',' :: rest =>
      match ← skipBetween rest.length rest with
      | ']' :: rest => return ([v], rest)
      | rest =>
        let (items, rest) ← readItems rounds rest
        return (v :: items, rest)
    | rest => throw (.at "Unclosed array" rest)

/-- The entries of an inline table up to its closing brace, added to those before them; `fixed`
holds the keys of arrays and tables among these. -/
def readEntries (rounds : Nat) (entries : List (Value × Value)) (fixed : List Key) (t : Text) :
    Except Trouble (List (Value × Value) × Text) :=
  match rounds with
  | 0 => .error (.at "Invalid value" t)
  | rounds + 1 => do
    let (key, v, rest) ← readPair rounds t
    let (parent, name) := splitKey key
    if passes fixed key then
      throw (.at ("Cannot mutate immutable namespace " ++ keyText key) rest)
    let taken : Text := "Duplicate inline table key " ++ Text.quoted name
    match inTable false (bind taken name v) parent entries with
    | .error message => throw (.at message rest)
    | .ok entries =>
      match skip rest with
      | '\x7d' :: rest => return (entries, rest)
      | ',' :: rest =>
        readEntries rounds entries (if isWhole v then key :: fixed else fixed) (skip rest)
      | rest => throw (.at "Unclosed inline table" rest)

/-- A key, an equals sign and a value. -/
def readPair (rounds : Nat) (t : Text) : Except Trouble (Key × Value × Text) :=
  match rounds with
  | 0 => .error (.at "Invalid value" t)
  | rounds + 1 => do
    let (key, rest) ← readKey t
    match rest with
    | '=' :: rest =>
      let (v, rest) ← readValue rounds (skip rest)
      return (key, v, rest)
    | _ => throw (.at "Expected '=' after a key in a key/value pair" rest)

end

/-! ## Statements -/

/-- A document up to some statement. -/
structure Outline where
  entries : List (Value × Value)
  /-- The table that keys are given in at the moment. -/
  header : Key
  /-- Tables that have their place and are not opened by a head again. -/
  opened : List Key
  /-- Tables that a key went through since the last head; they count as opened from the next. -/
  pending : List Key
  /-- Arrays and tables that were written out in one place. -/
  fixed : List Key

namespace Outline

/-- The document without statements. -/
def empty : Outline := ⟨[], [], [], [], []⟩

/-- Binds a key in the table at hand. -/
def assign (o : Outline) (key : Key) (v : Value) : Except Text Outline := do
  let (parent, name) := splitKey key
  let ways := ((List.range key.length).drop 1).map fun n => o.header ++ key.take n
  match ways.find? o.opened.contains with
  | some way => throw ("Cannot redefine namespace " ++ keyText way)
  | none =>
    let table := o.header ++ parent
    if passes o.fixed table then
      throw ("Cannot mutate immutable namespace " ++ keyText table)
    else
      let entries ← inTable true (bind overwritten name v) table o.entries
      return { o with
        entries := entries, pending := ways ++ o.pending
        fixed := if isWhole v then (o.header ++ key) :: o.fixed else o.fixed }

/-- The document at the next head. -/
def close (o : Outline) : Outline := { o with opened := o.pending ++ o.opened, pending := [] }

/-- Opens the table with a key. -/
def openTable (o : Outline) (key : Key) : Except Text Outline := do
  if o.opened.contains key || passes o.fixed key then
    throw ("Cannot declare " ++ keyText key ++ " twice")
  else
    let entries ← inTable true .ok key o.entries
    return { o with entries := entries, opened := key :: o.opened, header := key }

/-- Opens one more table of the array with a key; what was said about the table before it no longer
counts. -/
def openItem (o : Outline) (key : Key) : Except Text Outline := do
  if passes o.fixed key then
    throw ("Cannot mutate immutable namespace " ++ keyText key)
  else
    let (parent, name) := splitKey key
    let entries ← inTable true (addTable name) parent o.entries
    let outside (keys : List Key) : List Key := keys.filter fun k => !key.isPrefixOf k
    return { o with
      entries := entries, opened := key :: outside o.opened, fixed := outside o.fixed
      header := key }

end Outline

/-- The head of a table with what follows it; `mark` closes the head. -/
def readHead (step : Outline → Key → Except Text Outline) (mark message : Text) (o : Outline)
    (t : Text) : Except Trouble (Outline × Text) := do
  let (key, rest) ← readKey (skip t)
  match step o.close key with
  | .error m => throw (.at m rest)
  | .ok o =>
    match Text.after? mark rest with
    | some rest => return (o, rest)
    | none => throw (.at message rest)

/-- A statement. -/
def readStatement (o : Outline) (t : Text) : Except Trouble (Outline × Text) :=
  match t with
  | '[' :: '[' :: rest =>
    readHead Outline.openItem "]]" "Expected ']]' at the end of an array declaration" o rest
  | '[' :: rest =>
    readHead Outline.openTable "]" "Expected ']' at the end of a table declaration" o rest
  | '#' :: _ => .ok (o, t)
  | _ => do
    if t.head?.any isKeyStart then
      let (key, v, rest) ← readPair (2 * t.length + 2) t
      match o.assign key v with
      | .ok o => return (o, rest)
      | .error m => throw (.at m rest)
    else throw (.at "Invalid statement" t)

/-- The statements of a document, a line each; `rounds` bounds their number. -/
def readStatements : Nat → Outline → Text → Except Trouble Outline
  | 0, o, _ => .ok o
  | rounds + 1, o, t =>
    match skip t with
    | [] => .ok o
    | '\n' :: rest => readStatements rounds o rest
    | start => do
      let (o, rest) ← readStatement o start
      match ← skipComment (skip rest) with
      | [] => return o
      | '\n' :: rest => readStatements rounds o rest
      | rest => throw (.at "Expected newline or end of document after a statement" rest)

/-- A line end of two characters counts as one. -/
def unifyPairs : Text → Text
  | '\r' :: '\n' :: rest => '\n' :: unifyPairs rest
  | c :: rest => c :: unifyPairs rest
  | [] => []

/-- Where the rest of a document begins, in words. -/
def placeText (t rest : Text) : Text :=
  match rest with
  | [] => "end of document"
  | _ =>
    let position := t.length - rest.length
    "line " ++ Text.ofNat (Text.lineAt t position) ++ ", column " ++
      Text.ofNat (Text.columnAt t position)

/-- The mapping of a document. -/
def read (text : Text) : Except TomlFault Value :=
  let t := unifyPairs text
  match readStatements (t.length + 1) .empty t with
  | .ok o => .ok (.dict o.entries)
  | .error (.at message rest) => .error (.malformed (message ++ " (at " ++ placeText t rest ++ ")"))
  | .error (.number f) => .error (.number f)

end Toml

end Phrasebook
