/-!
# The options of the writer

Every option has a field name in lower case with underscores.  Callers may also spell it without
underscores, with capitals in their place, and two options have older names besides.

* `Delimiter` lists the texts that enclose the parts of the markup.
* `Field` lists all options, `Field.all` in the order in which their values are checked.
* `Field.ofSpelling?` finds the option that a spelling means.
-/

namespace SvgMarkup

/-- The texts before and after each part of the markup. -/
inductive Delimiter where
  | doctypeStart
  | doctypeEnd
  | procInstStart
  | procInstEnd
  | tagOpenStart
  | tagOpenEnd
  | tagCloseStart
  | tagCloseEnd
  | tagShortStart
  | tagShortEnd
  | attrStart
  | attrEnd
  | commentStart
  | commentEnd
  | cdataStart
  | cdataEnd
  | textStart
  | textEnd
deriving DecidableEq, Repr

namespace Delimiter

/-- The delimiters, in the order in which their values are checked. -/
def all : List Delimiter :=
  [doctypeStart, doctypeEnd, procInstStart, procInstEnd, tagOpenStart, tagOpenEnd, tagCloseStart,
    tagCloseEnd, tagShortStart, tagShortEnd, attrStart, attrEnd, commentStart, commentEnd,
    cdataStart, cdataEnd, textStart, textEnd]

theorem mem_all (d : Delimiter) : d ∈ all := by
  cases d <;> decide

/-- The field name of a delimiter. -/
def name : Delimiter → String
  | doctypeStart => "doctype_start"
  | doctypeEnd => "doctype_end"
  | procInstStart => "proc_inst_start"
  | procInstEnd => "proc_inst_end"
  | tagOpenStart => "tag_open_start"
  | tagOpenEnd => "tag_open_end"
  | tagCloseStart => "tag_close_start"
  | tagCloseEnd => "tag_close_end"
  | tagShortStart => "tag_short_start"
  | tagShortEnd => "tag_short_end"
  | attrStart => "attr_start"
  | attrEnd => "attr_end"
  | commentStart => "comment_start"
  | commentEnd => "comment_end"
  | cdataStart => "cdata_start"
  | cdataEnd => "cdata_end"
  | textStart => "text_start"
  | textEnd => "text_end"

/-- The delimiters of plain markup. -/
def standard : Delimiter → String
  | doctypeStart => "<!DOCTYPE"
  | procInstStart => "<?"
  | procInstEnd => "?>"
  | tagOpenStart | tagShortStart => "<"
  | doctypeEnd | tagOpenEnd | tagCloseEnd => ">"
  | tagCloseStart => "</"
  | tagShortEnd => "/>"
  | attrStart => "=\""
  | attrEnd => "\""
  | commentStart => "<!--"
  | commentEnd => "-->"
  | cdataStart => "<![CDATA["
  | cdataEnd => "]]>"
  | textStart | textEnd => ""

/-- Whether a delimiter ends a line of pretty output.  Attributes and text stand inside lines. -/
def endsLine : Delimiter → Bool
  | doctypeEnd | procInstEnd | commentEnd | cdataEnd => true
  | tagShortEnd | tagOpenEnd | tagCloseEnd => true
  | _ => false

end Delimiter

/-- The options. -/
inductive Field where
  | delimiter (d : Delimiter)
  | indent
  | pretty
  | strict
  | textEntities
  | attributeEntities
  | textElements
  | textChildElements
  | encodeEntity
  | rootElement
  | maxDepth
  | dimensionCapture
deriving DecidableEq, Repr

/-- The parts between the underscores of a field name, joined with a capital at the start of all but
the first. -/
def camelCase : List Char → List Char
  | '_' :: c :: rest => c.toUpper :: camelCase rest
  | c :: rest => c :: camelCase rest
  | [] => []

namespace Field

/-- The options, in the order in which their values are checked. -/
def all : List Field :=
  Delimiter.all.map delimiter ++
    [indent, pretty, strict, textEntities, attributeEntities, textElements, textChildElements,
      encodeEntity, rootElement, maxDepth, dimensionCapture]

theorem mem_all (f : Field) : f ∈ all := by
  cases f with
  | delimiter d => exact List.mem_append_left _ (List.mem_map.mpr ⟨d, d.mem_all, rfl⟩)
  | _ => decide

/-- The field name of an option. -/
def name : Field → String
  | delimiter d => d.name
  | indent => "indent"
  | pretty => "pretty"
  | strict => "strict"
  | textEntities => "text_entities"
  | attributeEntities => "attribute_entities"
  | textElements => "text_elements"
  | textChildElements => "text_child_elements"
  | encodeEntity => "encode_entity"
  | rootElement => "root_element"
  | maxDepth => "max_depth"
  | dimensionCapture => "dimension_capture"

/-- The older names of an option. -/
def formerNames : Field → List String
  | textEntities => ["regEntities"]
  | attributeEntities => ["regValEntities"]
  | _ => []

/-- All spellings of an option. -/
def spellings (f : Field) : List String :=
  f.name :: String.ofList (camelCase f.name.toList) :: f.formerNames

/-- The option with a given field name. -/
def ofName? (name : String) : Option Field :=
  all.find? (·.name == name)

/-- The option that a spelling means. -/
def ofSpelling? (spelling : String) : Option Field :=
  all.find? (·.spellings.contains spelling)

end Field

end SvgMarkup
