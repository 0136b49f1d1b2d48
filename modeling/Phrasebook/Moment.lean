import Phrasebook.Text.Basic

/-!
# Dates and times

What a settings document can say about time: a day, a time of day, or both, the latter perhaps
with its distance from universal time.

* `Date.isValid`: the days of the calendar;
* `Moment.text`, `Moment.quoted`: a moment in output and inside other values.
-/

namespace Phrasebook

/-- A day. -/
structure Date where
  year : Nat
  month : Nat
  day : Nat
  deriving DecidableEq, Repr

namespace Date

/-- Every fourth year is long, except for centuries that are not divisible by four hundred. -/
def isLongYear (year : Nat) : Bool := year % 4 = 0 ∧ (year % 100 ≠ 0 ∨ year % 400 = 0)

/-- How many days a month has. -/
def daysIn (year month : Nat) : Nat :=
  if month = 2 then if isLongYear year then 29 else 28
  else if month ∈ [4, 6, 9, 11] then 30
  else 31

/-- Is there such a day? -/
def isValid (d : Date) : Bool :=
  1 ≤ d.year ∧ d.year ≤ 9999 ∧ 1 ≤ d.month ∧ d.month ≤ 12 ∧ 1 ≤ d.day ∧
    d.day ≤ daysIn d.year d.month

end Date

/-- A time of day. -/
structure Clock where
  hour : Nat
  minute : Nat
  second : Nat
  /-- Millionths of a second. -/
  fraction : Nat
  deriving DecidableEq, Repr

/-- A day, a time of day, or both. -/
inductive Moment where
  | date (d : Date)
  | time (c : Clock)
  /-- Both; `offset` counts the minutes by which the clock is ahead of universal time. -/
  | both (d : Date) (c : Clock) (offset : Option Int)
  deriving DecidableEq, Repr

/-- A number with leading zeros. -/
def Text.padded (width n : Nat) : Text := padStart width '0' (ofNat n)

/-- The day with its parts joined by hyphens. -/
def Date.text (d : Date) : Text :=
  Text.join "-" [Text.padded 4 d.year, Text.padded 2 d.month, Text.padded 2 d.day]

namespace Clock

/-- The time with its parts joined by colons; millionths are shown where there are any. -/
def text (c : Clock) : Text :=
  Text.join ":" [Text.padded 2 c.hour, Text.padded 2 c.minute, Text.padded 2 c.second] ++
    if c.fraction = 0 then [] else '.' :: Text.padded 6 c.fraction

/-- The numbers of a time; a second and its fraction are left out where they are zero. -/
def numbers (c : Clock) : List Nat :=
  if c.fraction ≠ 0 then [c.hour, c.minute, c.second, c.fraction]
  else if c.second ≠ 0 then [c.hour, c.minute, c.second]
  else [c.hour, c.minute]

end Clock

namespace Moment

/-- The name under which the type of a moment is shown. -/
def typeName : Moment → Text
  | date _ => "date"
  | time _ => "time"
  | both _ _ _ => "datetime"

/-- A distance from universal time in hours and minutes with its sign. -/
def offsetText (offset : Int) : Text :=
  (if offset < 0 then '-' else '+') :: Text.padded 2 (offset.natAbs / 60) ++ ":" ++
    Text.padded 2 (offset.natAbs % 60)

/-- The moment in output. -/
def text : Moment → Text
  | date d => d.text
  | time c => c.text
  | both d c offset => d.text ++ " " ++ c.text ++ (offset.map offsetText).getD []

/-- A distance from universal time as days and seconds, of which only days are negative. -/
def zoneQuoted (offset : Int) : Text :=
  let seconds := offset * 60
  let days : Text := if seconds < 0 then "days=-1, " else []
  if offset = 0 then "datetime.timezone.utc"
  else "datetime.timezone(datetime.timedelta(" ++ days ++ "seconds=" ++
    Text.ofInt (seconds % 86400) ++ "))"

/-- The moment inside other values and in messages. -/
def quoted (m : Moment) : Text :=
  let call (numbers : List Nat) (zone : Text) : Text :=
    "datetime." ++ m.typeName ++ "(" ++ Text.join ", " (numbers.map Text.ofNat) ++ zone ++ ")"
  match m with
  | date d => call [d.year, d.month, d.day] []
  | time c => call c.numbers []
  | both d c offset =>
    let zone : Text := match offset with
      | some offset => ", tzinfo=" ++ zoneQuoted offset
      | none => []
    call ([d.year, d.month, d.day] ++ c.numbers) zone

end Moment

end Phrasebook
