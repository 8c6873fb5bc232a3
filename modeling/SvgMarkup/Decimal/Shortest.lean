import SvgMarkup.Decimal.Magnitude

/-!
# Shortest decimals

A double stands for all real numbers that round to it, an interval around its own value.  It is
shown by the decimal with the fewest digits in that interval, and by the one nearest to its value
where several have as few.  Grids of decimals with one, two, … seventeen significant digits are
tried in turn; on each only the two neighbours of the value matter, since the interval holds the
value itself.
-/

namespace SvgMarkup.Decimal

/-- The decimal number `digits * 10 ^ exponent`. -/
structure Numeral where
  digits : Nat
  exponent : Int
deriving DecidableEq, Repr

/-- The number of decimal digits of a positive number. -/
def digitCount (n : Nat) : Nat := (Nat.toDigits 10 n).length

/-- The exponent of the leading digit of the positive quotient `n / d`: the greatest `e` with
`10 ^ e ≤ n / d`. -/
def leadingExponent (n d : Nat) : Int :=
  if d ≤ n then digitCount (n / d) - 1 else -(digitCount ((d - 1) / n) : Int)

/-- The end points of the interval of a magnitude and the magnitude itself between them, as the
numerators of quotients with one denominator. -/
structure Interval where
  low : Nat
  value : Nat
  high : Nat
  denominator : Nat
  /-- Whether the end points belong to the interval. -/
  closed : Bool

/-- The numbers that round to a magnitude reach half way to the neighbouring doubles.  A number half
way between two doubles rounds to the one with the even mantissa. -/
def Magnitude.interval (m : Magnitude) : Interval :=
  let quarter := { m with mantissa := 1, exponent := m.exponent - 2 : Magnitude }.quotient
  let value := 4 * m.mantissa
  { low := (value - if m.narrowBelow then 1 else 2) * quarter.1
    value := value * quarter.1
    high := (value + 2) * quarter.1
    denominator := quarter.2
    closed := m.mantissa % 2 == 0 }

/-- Whether the quotient `n / d` lies in an interval. -/
def Interval.contains (i : Interval) (n d : Nat) : Bool :=
  let x := n * i.denominator
  if i.closed then decide (i.low * d ≤ x) && decide (x ≤ i.high * d)
  else decide (i.low * d < x) && decide (x < i.high * d)

/-- The multiple of `10 ^ exponent` in an interval that is nearest to its value, among the two
neighbours of the value; of two equally near ones the even one. -/
def Interval.nearestOn (i : Interval) (exponent : Int) : Option Nat :=
  let up := Nat.pow 10 exponent.toNat
  let down := Nat.pow 10 (-exponent).toNat
  let numerator := i.value * down
  let step := i.denominator * up
  let below := numerator / step
  let above := if numerator % step = 0 then below else below + 1
  let admits (k : Nat) : Bool := i.contains (k * up) down
  match admits below, admits above with
  | false, false => none
  | true, false => some below
  | false, true => some above
  | true, true =>
    match compare (2 * numerator) ((below + above) * step) with
    | .lt => some below
    | .gt => some above
    | .eq => if below % 2 = 0 then some below else some above

/-- The shortest decimal that rounds to a positive magnitude.  Seventeen digits always suffice. -/
def Magnitude.shortest (m : Magnitude) : Numeral :=
  let i := m.interval
  let top := leadingExponent i.value i.denominator
  let onGrid (width : Nat) : Option Numeral :=
    let exponent := top - width
    (i.nearestOn exponent).map (⟨·, exponent⟩)
  ((List.range 17).findSome? onGrid).getD ⟨0, 0⟩

end SvgMarkup.Decimal
