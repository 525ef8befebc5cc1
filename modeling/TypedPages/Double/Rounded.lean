import TypedPages.Double

/-!
# Rounded doubles

The written forms of a double that show a set number of digits: positional, with a power of ten,
or whichever of the two suits its size. The exact value is rounded, half-way to the even digit.
Signs are not written here, and `point` asks for a point that no digit follows and for zeros at
the end that could be left out.
-/

namespace TypedPages

namespace Double

/-- A point and the digits after it. -/
def fractionText (point : Bool) (digits : List Char) : List Char :=
  if digits.isEmpty && !point then [] else '.' :: digits

/-- A ratio with so many places after the point. -/
def fixedText (point : Bool) (places : Nat) (r : Ratio) : List Char :=
  let digits := Text.padded (places + 1) (r.scaled 10 places).round
  let whole := digits.length - places
  digits.take whole ++ fractionText point (digits.drop whole)

/-- The leading digits of a ratio, `size` of them, and the power of ten of the first. -/
def leadingDigits (size : Nat) (r : Ratio) : List Char × Int :=
  if r.numerator = 0 then (.replicate size '0', 0)
  else
    let power := r.log10
    let n := (r.scaled 10 (size - 1 - power)).round
    if n = Nat.pow 10 size then (Text.padded size (n / 10), power + 1)
    else (Text.padded size n, power)

/-- A ratio as one digit, so many places after the point, and a power of ten. -/
def scientificText (point : Bool) (places : Nat) (r : Ratio) : List Char :=
  let (digits, power) := leadingDigits (places + 1) r
  digits.take 1 ++ fractionText point (digits.drop 1) ++ powerText power

/-- Drops the zeros at the end, unless a point is asked for. -/
def trimZeros (point : Bool) (digits : List Char) : List Char :=
  if point then digits else (digits.reverse.dropWhile (· == '0')).reverse

/-- A ratio with so many digits, but at least one: with a power of ten if that is below minus
four or does not lie among the digits, else positional. -/
def generalText (point : Bool) (size : Nat) (r : Ratio) : List Char :=
  let size := max 1 size
  let (digits, power) := leadingDigits size r
  if power < -4 ∨ (size : Int) ≤ power then
    digits.take 1 ++ fractionText point (trimZeros point (digits.drop 1)) ++ powerText power
  else if power < 0 then
    let digits := .replicate (-power - 1).toNat '0' ++ digits
    '0' :: fractionText point (trimZeros point digits)
  else
    let whole := power.toNat + 1
    digits.take whole ++ fractionText point (trimZeros point (digits.drop whole))

/-- The written form of a double without its sign, given how to write a ratio. -/
def roundedText (write : Ratio → List Char) (x : Double) : List Char :=
  match x, x.value? with
  | nan, _ => "nan".toList
  | _, some r => write r
  | _, none => "inf".toList

end Double

end TypedPages
