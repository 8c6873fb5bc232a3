import SvgMarkup.Text.Hexadecimal
import SvgMarkup.Text.Invisible

/-!
# Quoted text

The form in which log records and missing-replacement failures show a piece of text: between
quotation marks, with the marks, the backslash and the invisible characters written as escapes.
-/

namespace SvgMarkup.Text

/-- The mark that encloses a text: the apostrophe, unless the text holds apostrophes and no double
quotation mark. -/
def quotationMark (s : String) : Char :=
  if s.toList.contains '\'' && !s.toList.contains '"' then '"' else '\''

/-- The escape of a code point: a letter that tells the width of the numeral, and the numeral in the
least of the widths two, four and eight that holds every code point of its size. -/
def codeEscape (n : Nat) : List Char :=
  if n < 0x100 then '\\' :: 'x' :: hexDigits 2 n
  else if n < 0x10000 then '\\' :: 'u' :: hexDigits 4 n
  else '\\' :: 'U' :: hexDigits 8 n

/-- One character of a text quoted between two `mark`s. -/
def quotedChar (mark c : Char) : List Char :=
  if c = mark ∨ c = '\\' then ['\\', c]
  else if c = '\n' then ['\\', 'n']
  else if c = '\r' then ['\\', 'r']
  else if c = '\t' then ['\\', 't']
  else if isInvisible c then codeEscape c.toNat
  else [c]

/-- A text between quotation marks. -/
def quoted (s : String) : String :=
  let mark := quotationMark s
  String.ofList (mark :: s.toList.flatMap (quotedChar mark) ++ [mark])

end SvgMarkup.Text
