import TypedPages.Checked
import TypedPages.Document

/-!
# Numbers in plain scalars

Which scalars are written as numbers, and the numbers that they spell: whole numbers in four bases
and real numbers, with underscores among the digits.
-/

namespace TypedPages

namespace Yaml

/-- Splits off a sign; without one a number is positive. -/
def splitSign : List Char → Bool × List Char
  | '-' :: cs => (true, cs)
  | '+' :: cs => (false, cs)
  | cs => (false, cs)

/-- Underscores may stand among the digits of a number. -/
def isDigitOrLine (c : Char) : Bool :=
  c.isDigit || c == '_'

/-- Whether a text is the power of ten of a number, whose sign may have to be there. -/
def isPower (needsSign : Bool) : List Char → Bool
  | mark :: cs =>
    let digits := (splitSign cs).2
    (mark == 'e' || mark == 'E') && !digits.isEmpty && digits.all Char.isDigit &&
      (!needsSign || digits.length < cs.length)
  | [] => false

/-- Whether a text without its sign is written as a real number: digits with a fraction or with a
power of ten, or a fraction alone. -/
def isReal (cs : List Char) : Bool :=
  let whole := cs.takeWhile isDigitOrLine
  match cs.dropWhile isDigitOrLine with
  | '.' :: rest =>
    let fraction := rest.takeWhile isDigitOrLine
    let power := rest.dropWhile isDigitOrLine
    (whole.head?.any Char.isDigit && (power.isEmpty || isPower false power)) ||
      (whole.isEmpty && !fraction.isEmpty && (power.isEmpty || isPower true power))
  | power => whole.head?.any Char.isDigit && isPower false power

/-- The names of the special real numbers without their sign. -/
def infinityWords : List String := [".inf", ".Inf", ".INF"]

/-- The names of what is not a number. -/
def nanWords : List String := [".nan", ".NaN", ".NAN"]

/-- The bases of whole numbers by their markers. -/
def base? : List Char → Option (Nat × List Char)
  | '0' :: 'b' :: cs => some (2, cs)
  | '0' :: 'o' :: cs => some (8, cs)
  | '0' :: 'x' :: cs => some (16, cs)
  | _ => none

/-- The whole number of digits in a base, between which there are underscores. -/
def digits? (base : Nat) (cs : List Char) : Option Nat :=
  let digits := cs.filter (· != '_')
  if digits.isEmpty || (base == 10 && Document.numeralLimit < digits.length) then none
  else Text.digitsValue? base Text.hexDigit? 0 digits

/-- Whether a text without its sign is written as a whole number. -/
def isWhole (cs : List Char) : Bool :=
  match base? cs with
  | some (base, cs) =>
    !cs.isEmpty && cs.all fun c => c == '_' || (Text.hexDigit? c).any (· < base)
  | none => !cs.isEmpty && cs.all isDigitOrLine

/-- The number that a text without its sign spells, if it has digits. -/
def whole? (negative : Bool) (cs : List Char) : Option Document :=
  let n := match base? cs with
    | some (base, cs) => digits? base cs
    | none => digits? 10 cs
  n.map fun n => .whole (if negative then -(n : Int) else n)

/-- The real number that a text without its sign spells, if it has digits. -/
def real? (negative : Bool) (cs : List Char) : Option Document :=
  (Double.unsigned? negative (cs.filter (· != '_'))).map .real

end Yaml

end TypedPages
