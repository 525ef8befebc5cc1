import TypedPages.Document

/-!
# Moments in literals

Dates, times, and dates with times, which may have an offset from universal time.
-/

namespace TypedPages

namespace Literal

/-- Reads a time off the front. Its fraction has one digit at least. -/
def clock? (cs : List Char) : Option (Clock × List Char) := do
  let (hour, cs) ← Date.readNumber? 2 cs
  let cs ← Date.readMark? ':' cs
  let (minute, cs) ← Date.readNumber? 2 cs
  let cs ← Date.readMark? ':' cs
  let (second, cs) ← Date.readNumber? 2 cs
  let digits := match cs with
    | '.' :: cs => cs.takeWhile Char.isDigit
    | _ => []
  let clock : Clock := ⟨hour, minute, second, Clock.microOf digits⟩
  if clock.isValid then
    return (clock, if digits.isEmpty then cs else cs.drop (digits.length + 1))
  else none

/-- Reads the offset from universal time of a moment, if it has one, in microseconds. -/
def offset (cs : List Char) : Option Int × List Char :=
  let signed : Option (Option Int × List Char) := do
    let (negative, rest) ← match cs with
      | '-' :: rest => some (true, rest)
      | '+' :: rest => some (false, rest)
      | _ => none
    let (hours, rest) ← Date.readNumber? 2 rest
    let rest ← Date.readMark? ':' rest
    let (minutes, rest) ← Date.readNumber? 2 rest
    let total : Int := (hours * 60 + minutes) * 60000000
    if hours < 24 ∧ minutes < 60 then return (some (if negative then -total else total), rest)
    else none
  match cs with
  | 'Z' :: rest | 'z' :: rest => (some 0, rest)
  | cs => signed.getD (none, cs)

/-- Reads a date, a time, or a date with a time behind a letter or a blank. -/
def moment? (cs : List Char) : Option (Moment × List Char) :=
  match Date.read? cs with
  | none => (clock? cs).map fun (clock, rest) => (.clock clock, rest)
  | some (date, rest) =>
    let timed := if ['T', 't', ' '].any (rest.head? = some ·) then clock? (rest.drop 1) else none
    if !date.isValid then none
    else match timed with
      | none => some (.date date, rest)
      | some (clock, rest) =>
        let (offset, rest) := offset rest
        some (.timestamp (clock.on date offset), rest)

end Literal

end TypedPages
