import TypedPages.Document

/-!
# Moments in plain scalars

Which scalars are written as dates, with or without a time, and which of them the calendar has.
-/

namespace TypedPages

namespace Yaml

/-- Reads a number of one or two digits off the front, with the number of its digits. -/
def shortNumber? (cs : List Char) : Option (Nat × Nat × List Char) :=
  let digits := (cs.take 2).takeWhile Char.isDigit
  (Text.nat? digits).map fun n => (n, digits.length, cs.drop digits.length)

/-- A blank between the parts of a moment. -/
def isBlank (c : Char) : Bool :=
  c == ' ' || c == '\t'

/-- Reads the end of a moment: nothing, or an offset from universal time in minutes behind
blanks. -/
def offset? (cs : List Char) : Option (Option Int) :=
  match cs.dropWhile isBlank with
  | [] => if cs.isEmpty then some none else none
  | ['Z'] => some (some 0)
  | sign :: rest => do
    if sign ≠ '+' ∧ sign ≠ '-' then none
    let (hours, _, rest) ← shortNumber? rest
    let minutes ← match rest with
      | [] => some 0
      | ':' :: rest => if rest.length = 2 then Text.nat? rest else none
      | _ => none
    let offset : Int := hours * 60 + minutes
    return some (if sign = '-' then -offset else offset)

/-- Reads the time of a moment behind what parts it from the date, with the offset. -/
def clock? (cs : List Char) : Option (Clock × Option Int) := do
  let (hour, _, cs) ← shortNumber? cs
  let cs ← Date.readMark? ':' cs
  let (minute, cs) ← Date.readNumber? 2 cs
  let cs ← Date.readMark? ':' cs
  let (second, cs) ← Date.readNumber? 2 cs
  let (micro, cs) := match cs with
    | '.' :: cs => (Clock.microOf (cs.takeWhile Char.isDigit), cs.dropWhile Char.isDigit)
    | cs => (0, cs)
  let offset ← offset? cs
  return (⟨hour, minute, second, micro⟩, offset)

/-- What the time behind a date begins with: a letter or blanks. -/
def timeOf : List Char → Option (List Char)
  | 'T' :: cs | 't' :: cs => some cs
  | c :: cs => if isBlank c then some (cs.dropWhile isBlank) else none
  | [] => none

/-- Reads a text that is written as a date, which may have a time. A date alone has two digits for
the month and the day. -/
def moment? (cs : List Char) : Option Moment := do
  let (year, cs) ← Date.readNumber? 4 cs
  let cs ← Date.readMark? '-' cs
  let (month, monthWidth, cs) ← shortNumber? cs
  let cs ← Date.readMark? '-' cs
  let (day, dayWidth, cs) ← shortNumber? cs
  let date : Date := ⟨year, month, day⟩
  match timeOf cs with
  | none => if cs.isEmpty ∧ monthWidth = 2 ∧ dayWidth = 2 then return .date date else none
  | some cs =>
    let (clock, offset) ← clock? cs
    return .timestamp (clock.on date (offset.map (· * 60000000)))

/-- The moment of a text, if it is one that the calendar and the clock have. -/
def validMoment? : Moment → Option Document
  | .date d => if d.isValid then some (.moment (.date d)) else none
  | .timestamp t =>
    let clock : Clock := ⟨t.hour, t.minute, t.second, t.micro⟩
    if t.date.isValid ∧ clock.isValid then some (.moment (.timestamp t)) else none
  | .clock c => if c.isValid then some (.moment (.clock c)) else none

end Yaml

end TypedPages
