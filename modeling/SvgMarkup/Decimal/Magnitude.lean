/-!
# The exact value of a double

A finite double is a sign and a magnitude `mantissa * 2 ^ exponent`.  Its digits, and its equality
with an integer, are decided on these natural and integer numbers, where arithmetic is exact.
-/

namespace SvgMarkup.Decimal

/-- The magnitude of a finite double: the number `mantissa * 2 ^ exponent`. -/
structure Magnitude where
  mantissa : Nat
  exponent : Int
  /-- Whether the next smaller double is only half as far away as the next larger one. -/
  narrowBelow : Bool
deriving DecidableEq, Repr

/-- What a double stands for. -/
inductive Reading where
  | nan
  | infinite (negative : Bool)
  | finite (negative : Bool) (magnitude : Magnitude)
deriving DecidableEq, Repr

/-- Reads a double from the fields of its bit pattern: one sign bit, eleven bits of exponent and
fifty-two bits of fraction.  The lowest exponent has no hidden leading bit, the highest one marks
infinities and missing numbers. -/
def Reading.ofFloat (x : Float) : Reading :=
  let bits := x.toBits.toNat
  let negative := bits / Nat.pow 2 63 == 1
  let exponent : Nat := bits / Nat.pow 2 52 % Nat.pow 2 11
  let fraction := bits % Nat.pow 2 52
  if exponent = Nat.pow 2 11 - 1 then
    if fraction = 0 then .infinite negative else .nan
  else if exponent = 0 then
    .finite negative ⟨fraction, -1074, false⟩
  else
    .finite negative
      ⟨Nat.pow 2 52 + fraction, (exponent : Int) - 1075, fraction == 0 && exponent != 1⟩

/-- The magnitude as a quotient of natural numbers: `numerator / denominator`. -/
def Magnitude.quotient (m : Magnitude) : Nat × Nat :=
  (m.mantissa * Nat.pow 2 m.exponent.toNat, Nat.pow 2 (-m.exponent).toNat)

/-- Whether a double has the value of an integer. -/
def Reading.isInt (i : Int) : Reading → Bool
  | .finite negative m =>
    let (numerator, denominator) := m.quotient
    let signed : Int := if negative then -(numerator : Int) else numerator
    signed == i * denominator
  | _ => false

end SvgMarkup.Decimal
