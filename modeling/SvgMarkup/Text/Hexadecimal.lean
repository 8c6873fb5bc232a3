/-!
# Hexadecimal numerals

Character codes are written in lower-case hexadecimal digits, in numerals of a fixed width.
-/

namespace SvgMarkup.Text

/-- The hexadecimal numeral of `n` in `width` digits; higher digits are left out. -/
def hexDigits : Nat → Nat → List Char
  | 0, _ => []
  | width + 1, n => hexDigits width (n / 16) ++ [Nat.digitChar (n % 16)]

@[simp] theorem length_hexDigits (width n : Nat) : (hexDigits width n).length = width := by
  induction width generalizing n with
  | zero => rfl
  | succ width ih => simp [hexDigits, ih]

end SvgMarkup.Text
