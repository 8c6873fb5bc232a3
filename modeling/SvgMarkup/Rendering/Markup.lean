import SvgMarkup.Config.Basic
import SvgMarkup.Failure
import SvgMarkup.Tree.Basic
import SvgMarkup.Text.Blank

/-!
# The markup of single nodes

What is written for a leaf, and for the tags of an element, under a configuration.  Pretty output
adds a line break to the delimiters that end a line and an indent in front of a tag.  Elements that
hold text, and elements that stand inside text, do without whichever of them would become part of
the text.
-/

namespace SvgMarkup

/-- Why some markup cannot be written. -/
inductive MarkupError where
  | missingReplacement (m : MissingReplacement)
  | tooManyDigits (e : Decimal.TooManyDigits)
deriving DecidableEq, Repr

/-- Missing markup as the failure of an operation. -/
def MarkupError.failure : MarkupError → Failure
  | missingReplacement m => .missingReplacement m
  | tooManyDigits e => .tooManyDigits e

namespace Config

/-- A delimiter as it is written during a pass. -/
def written (c : Config) (d : Delimiter) : String := c.prettified.delimiter d

/-- The markup of a text. -/
def textMarkup (c : Config) (s : String) : Except MarkupError String := do
  let escaped ← (escape c.textEntities c.encoder s).mapError .missingReplacement
  return c.written .textStart ++ escaped ++ c.written .textEnd

/-- The markup of a comment. -/
def commentMarkup (c : Config) (s : String) : String :=
  c.written .commentStart ++ s ++ c.written .commentEnd

/-- The markup of character data, which is written as it is. -/
def cdataMarkup (c : Config) (s : String) : String :=
  c.written .cdataStart ++ s ++ c.written .cdataEnd

/-- The body of a declaration with a blank between it and the delimiter before it, unless the body
is empty or begins with a blank. -/
def separated (body : String) : String :=
  match body.toList.head? with
  | none => body
  | some c => if Text.isBlank c then body else " " ++ body

/-- The markup of a document type declaration. -/
def doctypeMarkup (c : Config) (body : String) : String :=
  c.written .doctypeStart ++ separated body ++ c.written .doctypeEnd

/-- The markup of a processing instruction. -/
def instructionMarkup (c : Config) (i : Instruction) : String :=
  c.written .procInstStart ++ i.target ++ " " ++ i.body ++ c.written .procInstEnd

/-- The markup of an attribute. -/
def attributeMarkup (c : Config) (a : Attribute) : Except MarkupError String := do
  let text ← a.text.mapError .tooManyDigits
  let escaped ← (escape c.attributeEntities c.encoder text).mapError .missingReplacement
  return " " ++ a.name ++ c.written .attrStart ++ escaped ++ c.written .attrEnd

/-- The markup of the attributes of a tag, in their order. -/
def attributesMarkup (c : Config) (t : Tag) : Except MarkupError String := do
  return String.join (← t.attributes.mapM c.attributeMarkup)

/-- Whether an element holds text, so that nothing may be added at the ends of its body. -/
def holdsText (c : Config) (t : Tag) : Bool := decide (t.name ∈ c.textElements)

/-- Whether an element stands inside text, so that nothing may be added around its tags. -/
def standsInText (c : Config) (t : Tag) : Bool := decide (t.name ∈ c.textChildElements)

/-- The tag of an element without children. -/
def emptyTag (c : Config) (indent : String) (t : Tag) (attributes : String) : String :=
  indent ++ c.written .tagShortStart ++ t.name ++ attributes ++ c.written .tagShortEnd

/-- The opening tag of an element with children. -/
def openingTag (c : Config) (indent : String) (t : Tag) (attributes : String) : String :=
  (if c.standsInText t then c.delimiter .tagOpenStart else indent ++ c.written .tagOpenStart) ++
    t.name ++ attributes ++
    (if c.holdsText t then c.delimiter .tagOpenEnd else c.written .tagOpenEnd)

/-- The closing tag of an element with children. -/
def closingTag (c : Config) (indent : String) (t : Tag) : String :=
  (if c.holdsText t then c.delimiter .tagCloseStart else indent ++ c.written .tagCloseStart) ++
    t.name ++
    (if c.standsInText t then c.delimiter .tagCloseEnd else c.written .tagCloseEnd)

/-- The width and height that a tag gives to the document: those of its attributes, if it is the tag
of a root element. -/
def rootSize? (c : Config) (t : Tag) : Except Decimal.TooManyDigits (Option (String × String)) :=
  if t.name = c.rootElement then t.size? else return none

end Config

end SvgMarkup
