import TypedPages.Double.Ratio

/-!
# Magnitudes of doubles

A double without its sign is a natural number of at most 53 binary digits times a power of two.
Here are the two ways between such magnitudes and decimals: the magnitude nearest to a ratio, and
the shortest decimal that is nearer to a magnitude than to any other.
-/

namespace TypedPages

/-- The number `significand` times two to the `exponent`. -/
structure Magnitude where
  significand : Nat
  exponent : Int
  deriving DecidableEq, Repr, Inhabited

namespace Magnitude

/-- The exponent of the smallest magnitudes. -/
def leastExponent : Int := -1074

/-- The exponent of the largest magnitudes. -/
def greatestExponent : Int := 971

/-- The exact value. -/
def value (m : Magnitude) : Ratio :=
  (Ratio.ofNat m.significand).scaled 2 m.exponent

/-- The magnitude next to a positive ratio. Half-way between two it is the even one; none is next
to a ratio beyond the greatest. -/
def nearest? (r : Ratio) : Option Magnitude :=
  let exponent := max (r.log2 - 52) leastExponent
  let significand := (r.scaled 2 (-exponent)).round
  let (significand, exponent) :=
    if significand = Nat.pow 2 53 then (Nat.pow 2 52, exponent + 1) else (significand, exponent)
  if greatestExponent < exponent then none else some ⟨significand, exponent⟩

/-- Whether a ratio, given in quarters of the last binary digit, is read as the magnitude. Below a
power of two the next magnitude is half as far away as above it; the two ends are read as the
even neighbour. -/
def readsBack (m : Magnitude) (quarters : Ratio) : Bool :=
  let narrow := m.significand = Nat.pow 2 52 ∧ leastExponent < m.exponent
  let low := (4 * m.significand - (if narrow then 1 else 2)) * quarters.denominator
  let high := (4 * m.significand + 2) * quarters.denominator
  if m.significand % 2 = 0 then low ≤ quarters.numerator && quarters.numerator ≤ high
  else low < quarters.numerator && quarters.numerator < high

/-- The decimal of so many digits next to a magnitude, with its power of ten, if it is read back.
Of two neighbours the nearer one is taken, half-way between them the even one. -/
def decimal? (m : Magnitude) (size : Nat) : Option (Nat × Int) :=
  let power := m.value.log10 + 1 - size
  let grid := m.value.scaled 10 (-power)
  let back := fun (n : Nat) =>
    m.readsBack (((Ratio.ofNat n).scaled 10 power).scaled 2 (2 - m.exponent))
  let near := grid.round
  let other := if near = grid.floor then near + 1 else grid.floor
  if back near then some (near, power)
  else if back other then some (other, power)
  else none

/-- The shortest decimal that is read back as a positive magnitude: digits and a power of ten.
Seventeen digits always suffice. -/
def shortest (m : Magnitude) : Nat × Int :=
  ((List.range' 1 17).findSome? m.decimal?).getD (m.value.round, 0)

end Magnitude

end TypedPages
