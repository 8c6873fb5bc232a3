import SvgMarkup.Text.CharClass

/-!
# Blank characters

A markup declaration keeps its body apart from its opening delimiter.  Where the body already
begins with a blank character nothing needs to be added, so the writer has to know which characters
are blank.  They are the characters with the Unicode property of white space together with the four
information separators `U+001C` to `U+001F`.
-/

namespace SvgMarkup.Text

/-- The blank characters. -/
def blank : CharClass where
  ranges :=
    [(0x09, 0x0D), (0x1C, 0x20), (0x85, 0x85), (0xA0, 0xA0), (0x1680, 0x1680), (0x2000, 0x200A),
      (0x2028, 0x2029), (0x202F, 0x202F), (0x205F, 0x205F), (0x3000, 0x3000)]

/-- Whether a character is blank. -/
def isBlank (c : Char) : Bool :=
  blank.contains c

end SvgMarkup.Text
