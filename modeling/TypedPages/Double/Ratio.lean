/-!
# Ratios

Quotients of natural numbers, computed with exactly: scaled by powers, compared with powers, and
rounded to whole numbers. Denominators are positive throughout.
-/

namespace TypedPages

/-- The quotient of two natural numbers. -/
structure Ratio where
  numerator : Nat
  denominator : Nat
  deriving Repr, Inhabited

namespace Ratio

/-- A natural number as a ratio. -/
def ofNat (n : Nat) : Ratio :=
  ⟨n, 1⟩

/-- A ratio times a power of a base. -/
def scaled (base : Nat) (power : Int) (r : Ratio) : Ratio :=
  if 0 ≤ power then ⟨r.numerator * Nat.pow base power.toNat, r.denominator⟩
  else ⟨r.numerator, r.denominator * Nat.pow base (-power).toNat⟩

/-- The greatest whole number that is not above a ratio. -/
def floor (r : Ratio) : Nat :=
  r.numerator / r.denominator

/-- The whole number next to a ratio. Half-way between two it is the even one. -/
def round (r : Ratio) : Nat :=
  let rest := 2 * (r.numerator % r.denominator)
  if r.denominator < rest ∨ (rest = r.denominator ∧ r.floor % 2 = 1) then r.floor + 1 else r.floor

/-- Whether a ratio is a whole number. -/
def isWhole (r : Ratio) : Bool :=
  r.numerator % r.denominator = 0

/-- Whether a ratio is at least a power of a base. -/
def reaches (base : Nat) (power : Int) (r : Ratio) : Bool :=
  1 ≤ (r.scaled base (-power)).floor

/-- The power of two at or below a positive ratio. -/
def log2 (r : Ratio) : Int :=
  let estimate : Int := (r.numerator.log2 : Int) - r.denominator.log2
  if r.reaches 2 estimate then estimate else estimate - 1

/-- The power of ten at or below a positive ratio. The estimate by the power of two is at most
one too small or too large. -/
def log10 (r : Ratio) : Int :=
  let estimate := Int.fdiv (r.log2 * 30103) 100000
  if r.reaches 10 (estimate + 1) then estimate + 1
  else if r.reaches 10 estimate then estimate
  else estimate - 1

end Ratio

end TypedPages
