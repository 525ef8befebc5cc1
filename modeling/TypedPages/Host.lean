/-!
# Hosts

Messages show values, and the process in which the library runs does not write every value: a whole
number may have so many digits, and values may stand inside each other as deep as the stack has
room for. The library sets neither limit, so what holds of it holds for every host.
-/

namespace TypedPages

/-- What the running process can write into a message: the number of digits that a whole number may
have, if that is limited, and the number of values inside each other that the stack has room for. -/
class Host where
  digitLimit : Option Nat
  room : Nat

/-- Why a value cannot be written into a message. -/
inductive Unwritable where
  | digits (limit : Nat)
  | nesting
  deriving DecidableEq, Repr, Inhabited

/-- The wording with which the process refuses to write a value. -/
def Unwritable.message : Unwritable → String
  | digits limit =>
    s!"Exceeds the limit ({limit} digits) for integer string conversion; " ++
      "use sys.set_int_max_str_digits() to increase the limit"
  | nesting => "maximum recursion depth exceeded while getting the repr of an object"

namespace Host

/-- A process whose limits nobody has changed. It may have a thousand calls under way at a time, and
a hundred of them are set aside for those that lead to the message. -/
instance standard : Host where
  digitLimit := some 4300
  room := 900

/-- Whether a number has more than so many digits. -/
def hasMoreDigits : Nat → Nat → Bool
  | 0, n => n != 0
  | digits + 1, n => n != 0 && hasMoreDigits digits (n / 10)

theorem hasMoreDigits_iff {digits n : Nat} :
    hasMoreDigits digits n = true ↔ Nat.pow 10 digits ≤ n := by
  induction digits generalizing n with
  | zero =>
      change (n != 0) = true ↔ 1 ≤ n
      rw [bne_iff_ne, Nat.one_le_iff_ne_zero]
  | succ digits ih =>
      have tenfold : Nat.pow 10 digits ≤ n / 10 ↔ Nat.pow 10 (digits + 1) ≤ n :=
        Nat.le_div_iff_mul_le (by decide)
      have positive : 0 < Nat.pow 10 (digits + 1) := Nat.pow_pos (by decide)
      rw [hasMoreDigits, Bool.and_eq_true, ih, tenfold, bne_iff_ne]
      omega

/-- What keeps a whole number from being written; its sign does not count as a digit. -/
def obstacle? [host : Host] (n : Int) : Option Unwritable :=
  match host.digitLimit with
  | none => none
  | some limit => if hasMoreDigits limit n.natAbs then some (.digits limit) else none

/-- The least number that is too long for the standard host. -/
@[irreducible] def tooLong : Int :=
  (Nat.pow 10 4300 : Int)

theorem obstacle?_tooLong : obstacle? tooLong = some (.digits 4300) := by
  have length : tooLong.natAbs = Nat.pow 10 4300 := by
    rw [tooLong, Int.natAbs_natCast]
  exact if_pos (hasMoreDigits_iff.mpr (Nat.le_of_eq length.symm))

end Host

end TypedPages
