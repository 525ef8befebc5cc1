import TypedPages.Text.Digits
import TypedPages.Text.Quoted

/-!
# Dates and timestamps

Calendar dates and moments of a day, with or without an offset from universal time, and times of a
clock. They are only carried and written: as `2024-05-01T12:30:00+00:00`, or spelled out with their
parts.
-/

namespace TypedPages

/-- A day of the calendar. -/
structure Date where
  year : Nat
  month : Nat
  day : Nat
  deriving DecidableEq, Repr, Inhabited

/-- A moment of a day; `offset` is its distance from universal time in microseconds. -/
structure Timestamp where
  date : Date
  hour : Nat
  minute : Nat
  second : Nat
  micro : Nat
  offset : Option Int
  deriving DecidableEq, Repr, Inhabited

namespace Date

/-- The number of days of a month. -/
def daysOfMonth (year month : Nat) : Nat :=
  if month = 2 then
    if year % 4 = 0 ∧ (year % 100 ≠ 0 ∨ year % 400 = 0) then 29 else 28
  else if [4, 6, 9, 11].contains month then 30
  else 31

/-- Whether the calendar has a date. -/
def isValid (d : Date) : Bool :=
  1 ≤ d.year && 1 ≤ d.month && d.month ≤ 12 && 1 ≤ d.day && d.day ≤ daysOfMonth d.year d.month

/-- The written form of a date: year, month and day between hyphens. -/
def text (d : Date) : List Char :=
  Text.padded 4 d.year ++ '-' :: Text.padded 2 d.month ++ '-' :: Text.padded 2 d.day

/-- Reads a number of exactly `width` digits off the front. -/
def readNumber? (width : Nat) (cs : List Char) : Option (Nat × List Char) :=
  let digits := cs.take width
  if digits.length < width then none
  else (Text.nat? digits).map fun n => (n, cs.drop width)

/-- Reads one given character off the front. -/
def readMark? (mark : Char) : List Char → Option (List Char)
  | c :: cs => if c = mark then some cs else none
  | [] => none

/-- Reads a date off the front. -/
def read? (cs : List Char) : Option (Date × List Char) := do
  let (year, cs) ← readNumber? 4 cs
  let cs ← readMark? '-' cs
  let (month, cs) ← readNumber? 2 cs
  let cs ← readMark? '-' cs
  let (day, cs) ← readNumber? 2 cs
  return (⟨year, month, day⟩, cs)

/-- Reads a text that is a date and nothing else. -/
def ofText? (cs : List Char) : Option Date :=
  match read? cs with
  | some (d, []) => some d
  | _ => none

/-- The literal of a date names its parts in order. -/
def literal (d : Date) : List Char :=
  "datetime.date".toList ++
    Text.parenthesized [d.year.repr.toList, d.month.repr.toList, d.day.repr.toList]

end Date

namespace Timestamp

/-- A fraction of a second, six digits after a point; none is written for a whole second. -/
def fractionText (micro : Nat) : List Char :=
  if micro = 0 then [] else '.' :: Text.padded 6 micro

/-- An offset: sign, hours and minutes, and below them only what is not zero. -/
def offsetText (offset : Int) : List Char :=
  let total := offset.natAbs
  let seconds := total / 1000000
  let micro := total % 1000000
  (if offset < 0 then '-' else '+') :: Text.padded 2 (seconds / 3600) ++
    ':' :: Text.padded 2 (seconds / 60 % 60) ++
    (if seconds % 60 = 0 ∧ micro = 0 then []
     else ':' :: Text.padded 2 (seconds % 60) ++ fractionText micro)

/-- The written form of a timestamp. -/
def text (t : Timestamp) : List Char :=
  t.date.text ++ 'T' :: Text.padded 2 t.hour ++ ':' :: Text.padded 2 t.minute ++
    ':' :: Text.padded 2 t.second ++ fractionText t.micro ++
    (t.offset.map offsetText).getD []

/-- Reads an optional fraction of a second off the front. -/
def readFraction? : List Char → Option (Nat × List Char)
  | '.' :: cs => Date.readNumber? 6 cs
  | cs => some (0, cs)

/-- Reads the seconds of an offset, if it has any, off the front. -/
def readOffsetSeconds? : List Char → Option (Nat × Nat × List Char)
  | ':' :: cs => do
    let (second, cs) ← Date.readNumber? 2 cs
    let (micro, cs) ← readFraction? cs
    return (second, micro, cs)
  | cs => some (0, 0, cs)

/-- Reads what follows the sign of an offset. One of less than a second is read as none. -/
def readOffset? (negative : Bool) (cs : List Char) : Option Int := do
  let (hour, cs) ← Date.readNumber? 2 cs
  let cs ← Date.readMark? ':' cs
  let (minute, cs) ← Date.readNumber? 2 cs
  let (second, micro, cs) ← readOffsetSeconds? cs
  let seconds := (hour * 60 + minute) * 60 + second
  let total : Int := if seconds = 0 then 0 else seconds * 1000000 + micro
  if cs.isEmpty then some (if negative then -total else total) else none

/-- Reads the end of a timestamp: nothing, or an offset. -/
def offset? : List Char → Option (Option Int)
  | [] => some none
  | '+' :: cs => (readOffset? false cs).map some
  | '-' :: cs => (readOffset? true cs).map some
  | _ => none

/-- Reads a text that is a timestamp and nothing else. -/
def ofText? (cs : List Char) : Option Timestamp := do
  let (date, cs) ← Date.read? cs
  let cs ← Date.readMark? 'T' cs
  let (hour, cs) ← Date.readNumber? 2 cs
  let cs ← Date.readMark? ':' cs
  let (minute, cs) ← Date.readNumber? 2 cs
  let cs ← Date.readMark? ':' cs
  let (second, cs) ← Date.readNumber? 2 cs
  let (micro, cs) ← readFraction? cs
  let offset ← offset? cs
  return ⟨date, hour, minute, second, micro, offset⟩

/-- One named part of a literal, left out when it is zero. -/
def namedPart (name : String) (n : Int) : List (List Char) :=
  if n = 0 then [] else [name.toList ++ '=' :: n.repr.toList]

/-- The literal of an offset: a number of days, possibly negative, and of seconds and
microseconds, never negative. The zero offset has a name of its own. -/
def offsetLiteral (offset : Int) : List Char :=
  if offset = 0 then "datetime.timezone.utc".toList
  else
    let seconds := offset.fdiv 1000000
    "datetime.timezone(datetime.timedelta(".toList ++
      Text.joined [',', ' ']
        (namedPart "days" (seconds.fdiv 86400) ++ namedPart "seconds" (seconds.fmod 86400) ++
          namedPart "microseconds" (offset.fmod 1000000)) ++ [')', ')']

/-- How many values stand inside each other in the literal of a timestamp: its zone, and the offset
in the zone unless that has a name of its own. -/
def nesting (t : Timestamp) : Nat :=
  match t.offset with
  | none => 0
  | some offset => if offset = 0 then 1 else 2

/-- The literal of a timestamp: seconds are left out when they and the microseconds are zero. -/
def literal (t : Timestamp) : List Char :=
  let lower :=
    if t.micro ≠ 0 then [t.second, t.micro] else if t.second ≠ 0 then [t.second] else []
  let numbers := [t.date.year, t.date.month, t.date.day, t.hour, t.minute] ++ lower
  let zone := t.offset.map fun offset => "tzinfo=".toList ++ offsetLiteral offset
  "datetime.datetime".toList ++
    Text.parenthesized (numbers.map (·.repr.toList) ++ zone.toList)

end Timestamp

/-- A time of a clock, without a date. -/
structure Clock where
  hour : Nat
  minute : Nat
  second : Nat
  micro : Nat
  deriving DecidableEq, Repr, Inhabited

namespace Clock

/-- Whether a clock can show a time. -/
def isValid (c : Clock) : Bool :=
  c.hour < 24 && c.minute < 60 && c.second < 60 && c.micro < 1000000

/-- The written form of a time. -/
def text (c : Clock) : List Char :=
  Text.padded 2 c.hour ++ ':' :: Text.padded 2 c.minute ++ ':' :: Text.padded 2 c.second ++
    Timestamp.fractionText c.micro

/-- The moment of a day at which a clock shows a time. -/
def on (date : Date) (offset : Option Int) (c : Clock) : Timestamp :=
  ⟨date, c.hour, c.minute, c.second, c.micro, offset⟩

/-- The microseconds of a fraction of a second that digits give; those after the sixth are cut. -/
def microOf (digits : List Char) : Nat :=
  (Text.nat? ((digits ++ List.replicate 6 '0').take 6)).getD 0

end Clock

/-- A date, a moment or a time. -/
inductive Moment where
  | date (value : Date)
  | timestamp (value : Timestamp)
  | clock (value : Clock)
  deriving DecidableEq, Repr, Inhabited

namespace Moment

/-- The class that messages give it. -/
def className : Moment → String
  | date _ => "datetime.date"
  | timestamp _ => "datetime.datetime"
  | clock _ => "datetime.time"

/-- The written form. -/
def text : Moment → List Char
  | date value => value.text
  | timestamp value => value.text
  | clock value => value.text

end Moment

end TypedPages
