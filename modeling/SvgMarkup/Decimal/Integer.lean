import SvgMarkup.Decimal.Shortest

/-!
# Integers in decimal digits

Finding the digits of an integer takes time that grows faster than their number.  So an integer with
too many of them is not written at all.
-/

namespace SvgMarkup.Decimal

/-- The greatest number of digits with which integers are written. -/
def maxDigits : Nat := 4300

/-- The refusal to write an integer with more digits than that. -/
structure TooManyDigits where
deriving DecidableEq, Repr

/-- The text of an integer. -/
def integer (i : Int) : Except TooManyDigits String :=
  if digitCount i.natAbs ≤ maxDigits then .ok (toString i) else .error {}

/-- A power of ten has one digit more than its exponent says. -/
theorem lt_digitCount_pow {k : Nat} (hk : 0 < k) : k < digitCount (Nat.pow 10 k) :=
  Nat.not_le.mp fun h => Nat.lt_irrefl _ ((Nat.length_toDigits_le_iff (by decide) hk).mp h)

end SvgMarkup.Decimal
