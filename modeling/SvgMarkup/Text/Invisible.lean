import SvgMarkup.Text.Blank
import SvgMarkup.Text.Unassigned

/-!
# Invisible characters

A character is invisible if printing it leaves no mark of its own: the control and format
characters, the separators other than the space, and the code points without a character that all
readers know, which are those of private use and the unassigned ones.  In the terms of Unicode these
are the general categories Other and Separator of its version 15.1, less the space.
-/

namespace SvgMarkup.Text

/-- The control characters. -/
def control : CharClass where
  ranges := [(0x00, 0x1F), (0x7F, 0x9F)]

/-- The format characters: those that join, direct, annotate or tag the text around them. -/
def format : CharClass where
  ranges :=
    [(0xAD, 0xAD), (0x600, 0x605), (0x61C, 0x61C), (0x6DD, 0x6DD), (0x70F, 0x70F), (0x890, 0x891),
      (0x8E2, 0x8E2), (0x180E, 0x180E), (0x200B, 0x200F), (0x202A, 0x202E), (0x2060, 0x2064),
      (0x2066, 0x206F), (0xFEFF, 0xFEFF), (0xFFF9, 0xFFFB), (0x110BD, 0x110BD),
      (0x110CD, 0x110CD), (0x13430, 0x1343F), (0x1BCA0, 0x1BCA3), (0x1D173, 0x1D17A),
      (0xE0001, 0xE0001), (0xE0020, 0xE007F)]

/-- The code points of private use. -/
def privateUse : CharClass where
  ranges := [(0xE000, 0xF8FF), (0xF0000, 0xFFFFD), (0x100000, 0x10FFFD)]

/-- Whether a character is invisible. -/
def isInvisible (c : Char) : Bool :=
  control.contains c || format.contains c || (isBlank c && c != ' ') || privateUse.contains c ||
    unassigned.contains c

end SvgMarkup.Text
