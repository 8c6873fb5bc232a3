import SvgMarkup.Decimal.Shortest

/-!
# Layouts of decimals

How the digits of a number are set out: where positional writing gives way to an exponent, how the
exponent is written, and which words stand for the values that have no digits.
-/

namespace SvgMarkup.Decimal

/-- The decisions of a format for decimals.  The *point* of a decimal is the number of its digits
before the decimal point, negative if zeros stand between the point and the first digit. -/
structure Layout where
  /-- The least point that is written positionally. -/
  leastPoint : Int
  /-- The greatest point that is written positionally. -/
  greatestPoint : Int
  /-- The least number of digits of an exponent. -/
  exponentWidth : Nat
  /-- The text for a missing number. -/
  nan : String
  /-- The text for infinity, without its sign. -/
  infinity : String

/-- The significant digits of a numeral without trailing zeros, and its point. -/
def Numeral.significant (d : Numeral) : List Char × Int :=
  let digits := Nat.toDigits 10 d.digits
  let trimmed := (digits.reverse.dropWhile (· == '0')).reverse
  (if trimmed.isEmpty then ['0'] else trimmed, digits.length + d.exponent)

/-- Digits with the decimal point after the first `point` of them, filled up with zeros on either
side so that a digit stands before and behind the point. -/
def positional (digits : List Char) (point : Int) : List Char :=
  let whole := digits.take point.toNat
  let fraction := List.replicate (-point).toNat '0' ++ digits.drop point.toNat
  (if whole.isEmpty then ['0'] else whole.rightpad point.toNat '0') ++ '.' ::
    (if fraction.isEmpty then ['0'] else fraction)

/-- Digits with the decimal point after the first of them, and an exponent. -/
def scientific (exponentWidth : Nat) (digits : List Char) (exponent : Int) : List Char :=
  let fraction := digits.drop 1
  digits.take 1 ++ (if fraction.isEmpty then [] else '.' :: fraction) ++
    ['e', if exponent < 0 then '-' else '+'] ++
    (Nat.toDigits 10 exponent.natAbs).leftpad exponentWidth '0'

/-- A numeral in the given layout. -/
def Layout.numeral (l : Layout) (d : Numeral) : List Char :=
  let (digits, point) := d.significant
  if l.leastPoint ≤ point ∧ point ≤ l.greatestPoint then positional digits point
  else scientific l.exponentWidth digits (point - 1)

/-- A double in the given layout, by its shortest digits. -/
def Layout.render (l : Layout) (x : Float) : String :=
  let signed (negative : Bool) (body : List Char) : String :=
    String.ofList (if negative then '-' :: body else body)
  match Reading.ofFloat x with
  | .nan => l.nan
  | .infinite negative => signed negative l.infinity.toList
  | .finite negative m =>
    signed negative (l.numeral (if m.mantissa = 0 then ⟨0, 0⟩ else m.shortest))

end SvgMarkup.Decimal
