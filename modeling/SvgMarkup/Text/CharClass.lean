/-!
# Classes of characters

A class of characters is given by the ranges of its code points.
-/

namespace SvgMarkup.Text

/-- A class of characters. -/
structure CharClass where
  /-- The inclusive ranges of the code points. -/
  ranges : List (Nat × Nat)

/-- Whether a character belongs to a class. -/
def CharClass.contains (cls : CharClass) (c : Char) : Bool :=
  cls.ranges.any fun range => decide (range.1 ≤ c.toNat) && decide (c.toNat ≤ range.2)

end SvgMarkup.Text
