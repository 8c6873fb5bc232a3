import SvgMarkup.Config.Field
import SvgMarkup.Value

/-!
# Configurations

A configuration fixes how markup is written: the delimiters of its parts, the characters that are
escaped, the layout of pretty output and the limits of a pass.  The type admits valid configurations
only.
-/

namespace SvgMarkup

/-- The elements that hold text. -/
def textContentElements : OrderedSet String :=
  .ofList ["altGlyph", "altGlyphDef", "altGlyphItem", "glyph", "glyphRef", "textPath", "text",
    "tref", "tspan"]

/-- The elements that stand inside text. -/
def textContentChildElements : OrderedSet String :=
  .ofList ["altGlyph", "textPath", "tref", "tspan"]

/-- The elements whose body is text, where added white space would show. -/
def textElements : OrderedSet String :=
  textContentElements.insert "title"

/-- The nesting that is admitted unless another limit is given. -/
def standardMaxDepth : Nat := 100

/-- The indentation of one level unless another one is given. -/
def standardIndent : String := "    "

/-- The root element unless another one is given. -/
def standardRootElement : String := "svg"

/-- How markup is written. -/
structure Config where
  /-- The texts around the parts of the markup. -/
  delimiter : Delimiter → String
  /-- The indentation of one level of pretty output. -/
  indent : String
  /-- Whether line breaks and indentation are added. -/
  pretty : Bool
  /-- Whether a child that cannot be written is an error; otherwise it is skipped. -/
  strict : Bool
  /-- The characters that are escaped in text. -/
  textEntities : OrderedSet Char
  /-- The characters that are escaped in attribute values. -/
  attributeEntities : OrderedSet Char
  /-- The elements in whose body no white space may be added. -/
  textElements : OrderedSet String
  /-- The elements around whose tags no white space may be added. -/
  textChildElements : OrderedSet String
  /-- The replacement of escaped characters. -/
  encoder : Encoder
  /-- The name of the elements whose dimensions are noted. -/
  rootElement : String
  /-- The greatest nesting of containers. -/
  maxDepth : Nat
  /-- Which root element's dimensions are kept. -/
  capture : CapturePolicy
  rootElement_ne : rootElement ≠ ""
  maxDepth_pos : 0 < maxDepth

namespace Config

/-- The configuration for compact plain markup. -/
def standard : Config where
  delimiter := Delimiter.standard
  indent := standardIndent
  pretty := false
  strict := true
  textEntities := SvgMarkup.textEntities
  attributeEntities := SvgMarkup.attributeEntities
  textElements := SvgMarkup.textElements
  textChildElements := textContentChildElements
  encoder := .standard
  rootElement := standardRootElement
  maxDepth := standardMaxDepth
  capture := .last
  rootElement_ne := by decide
  maxDepth_pos := by decide

/-- The configuration under which a pass runs: for pretty output a line break is added to every
delimiter that ends a line. -/
def prettified (c : Config) : Config :=
  if c.pretty then
    { c with delimiter := fun d => if d.endsLine then c.delimiter d ++ "\n" else c.delimiter d }
  else c

theorem prettified_of_not_pretty {c : Config} (h : c.pretty = false) : c.prettified = c := by
  simp [prettified, h]

end Config

end SvgMarkup
