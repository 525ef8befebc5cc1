import TypedPages.Double.Magnitude
import TypedPages.Text.Digits

/-!
# Doubles

A floating-point number is represented by its shortest decimal, which determines it: a sign, the
significant digits and a power of ten. The library never computes with doubles; it carries them
from page to page, compares them with whole numbers and writes them out.
-/

namespace TypedPages

/-- Not a number, an infinity, or plus or minus `digits` times ten to the `exponent`. -/
inductive Double where
  | nan
  | infinity (negative : Bool)
  | finite (negative : Bool) (digits : Nat) (exponent : Int)
  deriving DecidableEq, Repr, Inhabited

namespace Double

/-- Moves the zeros at the end of the digits into the exponent, `fuel` of them at most. -/
def stripZeros : Nat → Nat → Int → Nat × Int
  | 0, digits, exponent => (digits, exponent)
  | fuel + 1, digits, exponent =>
    if digits % 10 = 0 then stripZeros fuel (digits / 10) (exponent + 1) else (digits, exponent)

/-- The double next to a decimal, which it is given by. Decimals beyond the range of doubles give
an infinity or zero; this is seen by their length alone when they are far beyond it. -/
def ofDecimal (negative : Bool) (digits : Nat) (exponent : Int) : Double :=
  let reach := digits.repr.length + exponent
  if digits = 0 ∨ reach < -330 then .finite negative 0 0
  else if 310 < reach then .infinity negative
  else match Magnitude.nearest? ((Ratio.ofNat digits).scaled 10 exponent) with
    | none => .infinity negative
    | some m =>
      if m.significand = 0 then .finite negative 0 0
      else
        let (digits, exponent) := m.shortest
        let (digits, exponent) := stripZeros digits.repr.length digits exponent
        .finite negative digits exponent

/-- The exact size of a finite double. -/
def value? : Double → Option Ratio
  | finite _ 0 _ => some (.ofNat 0)
  | finite _ digits exponent =>
    (Magnitude.nearest? ((Ratio.ofNat digits).scaled 10 exponent)).map Magnitude.value
  | _ => none

/-- The double next to a whole number, if there is a finite one. -/
def ofInt? (n : Int) : Option Double :=
  match ofDecimal (n < 0) n.natAbs 0 with
  | infinity _ => none
  | x => some x

/-- Whether a double has a minus sign. -/
def isNegative : Double → Bool
  | nan => false
  | infinity negative => negative
  | finite negative _ _ => negative

/-- The whole number that is left when the fraction of a double is cut off. -/
def truncate? (x : Double) : Option Int :=
  x.value?.map fun r => if x.isNegative then -(r.floor : Int) else r.floor

/-- The whole number that a double equals; the two zeros equal the one whole zero. -/
def toInt? (x : Double) : Option Int :=
  match x.value? with
  | some r => if r.isWhole then x.truncate? else none
  | none => none

/-- The sign, which is written for negative numbers only. -/
def signText (negative : Bool) : List Char :=
  if negative then ['-'] else []

/-- A power of ten behind its mark: signed, with two digits at least. -/
def powerText (power : Int) : List Char :=
  ['e', if power < 0 then '-' else '+'] ++ Text.padded 2 power.natAbs

/-- A decimal with `point` digits before its point: positional while the point lies among the
first sixteen digits or at most four places before the first, else with a power of ten. -/
def decimalText (digits : List Char) (point : Int) : List Char :=
  if point ≤ -4 ∨ 16 < point then
    let fraction := digits.drop 1
    digits.take 1 ++ (if fraction.isEmpty then [] else '.' :: fraction) ++ powerText (point - 1)
  else if point ≤ 0 then
    ['0', '.'] ++ .replicate (-point).toNat '0' ++ digits
  else
    let whole := point.toNat
    let fraction := digits.drop whole
    digits.take whole ++ .replicate (whole - digits.length) '0' ++
      '.' :: (if fraction.isEmpty then ['0'] else fraction)

/-- The written form of a double. -/
def text : Double → List Char
  | nan => "nan".toList
  | infinity negative => signText negative ++ "inf".toList
  | finite negative 0 _ => signText negative ++ "0.0".toList
  | finite negative digits exponent =>
    let numeral := digits.repr.toList
    signText negative ++ decimalText numeral (numeral.length + exponent)

/-- The power of ten after an exponent mark; no mark stands for the power zero. -/
def power? : List Char → Option Int
  | [] => some 0
  | 'e' :: cs => Text.int? cs
  | 'E' :: cs => Text.int? cs
  | _ => none

/-- Reads a decimal without its sign: digits, an optional fraction and an optional power of ten. -/
def unsigned? (negative : Bool) (cs : List Char) : Option Double := do
  let whole := cs.takeWhile Char.isDigit
  let rest := cs.dropWhile Char.isDigit
  let (fraction, rest) := match rest with
    | '.' :: rest => (rest.takeWhile Char.isDigit, rest.dropWhile Char.isDigit)
    | _ => ([], rest)
  let digits ← Text.nat? (whole ++ fraction)
  let power ← power? rest
  return ofDecimal negative digits (power - fraction.length)

/-- Reads a double that has a sign or none, in any of its written forms. -/
def ofText? (cs : List Char) : Option Double :=
  let (negative, cs) := match cs with
    | '-' :: cs => (true, cs)
    | '+' :: cs => (false, cs)
    | _ => (false, cs)
  if cs = "nan".toList then some .nan
  else if cs = "inf".toList then some (.infinity negative)
  else unsigned? negative cs

end Double

end TypedPages
