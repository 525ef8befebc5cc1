/-!
# Digits

Fixed-width and hexadecimal numerals, and the reading of decimal digits.
-/

namespace TypedPages.Text

/-- The lower-case numeral of a digit below sixteen. -/
def hexDigit (n : Nat) : Char :=
  if n < 10 then .ofNat ('0'.toNat + n) else .ofNat ('a'.toNat + (n - 10))

/-- The last `width` digits of a number in the given base, padded with zeros on the left. -/
def fixedDigits (base : Nat) : Nat → Nat → List Char
  | 0, _ => []
  | width + 1, n => fixedDigits base width (n / base) ++ [hexDigit (n % base)]

/-- A lower-case hexadecimal numeral of fixed width. -/
def hex (width n : Nat) : List Char :=
  fixedDigits 16 width n

/-- An upper-case hexadecimal numeral of fixed width. -/
def hexUpper (width n : Nat) : List Char :=
  (hex width n).map Char.toUpper

/-- A decimal numeral padded with zeros to at least `width` digits. -/
def padded (width n : Nat) : List Char :=
  let digits := n.repr.toList
  .replicate (width - digits.length) '0' ++ digits

/-- The value of a decimal digit of ASCII. -/
def digit? (c : Char) : Option Nat :=
  if c.isDigit then some (c.toNat - '0'.toNat) else none

/-- The value of a hexadecimal digit of either case. -/
def hexDigit? (c : Char) : Option Nat :=
  if c.isDigit then some (c.toNat - '0'.toNat)
  else if 'a' ≤ c ∧ c ≤ 'f' then some (c.toNat - 'a'.toNat + 10)
  else if 'A' ≤ c ∧ c ≤ 'F' then some (c.toNat - 'A'.toNat + 10)
  else none

/-- The number that a run of digits spells, on top of the digits read before it. -/
def digitsValue? (base : Nat) (read : Char → Option Nat) : Nat → List Char → Option Nat
  | value, [] => some value
  | value, c :: cs => (read c).bind fun d => digitsValue? base read (value * base + d) cs

/-- The number spelled by a non-empty run of decimal digits and nothing else. -/
def nat? (cs : List Char) : Option Nat :=
  if cs.isEmpty then none else digitsValue? 10 digit? 0 cs

/-- The number spelled by a non-empty run of hexadecimal digits and nothing else. -/
def hexNat? (cs : List Char) : Option Nat :=
  if cs.isEmpty then none else digitsValue? 16 hexDigit? 0 cs

/-- `nat?` with an optional sign in front. -/
def int? : List Char → Option Int
  | '-' :: cs => (nat? cs).map fun n => -(n : Int)
  | '+' :: cs => (nat? cs).map Int.ofNat
  | cs => (nat? cs).map Int.ofNat

end TypedPages.Text
