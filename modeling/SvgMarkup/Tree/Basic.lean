import SvgMarkup.Value
import SvgMarkup.Decimal.Integer
import SvgMarkup.Decimal.Layout

/-!
# Markup trees

A document is a tree of nodes.  Six kinds of nodes can be written: elements, text, comments,
character data, document type declarations and processing instructions.  Documents themselves, bare
attributes and objects of other programs may also stand where a node is expected; a tree can hold
them, and writing it finds them out.

The types carry what construction checks: names are not empty, and the attributes of one element
have different names.
-/

namespace SvgMarkup

/-- The kinds of nodes that can be written. -/
inductive NodeKind where
  | element
  | text
  | doctype
  | processingInstruction
  | comment
  | cdata
deriving DecidableEq, Repr

namespace NodeKind

/-- The kinds, in the order in which they are listed to users. -/
def all : List NodeKind := [element, text, doctype, processingInstruction, comment, cdata]

/-- The name of a kind. -/
def label : NodeKind → String
  | element => "element"
  | text => "text"
  | doctype => "doctype"
  | processingInstruction => "processing_instruction"
  | comment => "comment"
  | cdata => "cdata"

/-- The name of the type of the nodes of a kind. -/
def typeName : NodeKind → String
  | element => "Element"
  | text => "Text"
  | doctype => "Doctype"
  | processingInstruction => "ProcessingInstruction"
  | comment => "Comment"
  | cdata => "CData"

end NodeKind

/-- The value of an attribute. -/
inductive AttributeValue where
  | text (s : String)
  | int (i : Int)
  | float (x : Float)
  | flag (b : Bool)
  | policy (p : CapturePolicy)

namespace AttributeValue

/-- The attribute value that a dynamic value is, if it is of a type that has a text. -/
def ofValue? : Value → Option AttributeValue
  | .text s => some (.text s)
  | .int i => some (.int i)
  | .float x => some (.float x)
  | .flag b => some (.flag b)
  | .policy p => some (.policy p)
  | _ => none

/-- An attribute value as a dynamic value. -/
def toValue : AttributeValue → Value
  | text s => .text s
  | int i => .int i
  | float x => .float x
  | flag b => .flag b
  | policy p => .policy p

@[simp] theorem ofValue?_toValue (v : AttributeValue) : ofValue? v.toValue = some v := by
  cases v <;> rfl

/-- Numbers are written positionally from `0.0001` up to sixteen digits before the point, with at
least one digit behind it; exponents have a sign and at least two digits. -/
def floatLayout : Decimal.Layout where
  leastPoint := -3
  greatestPoint := 16
  exponentWidth := 2
  nan := "nan"
  infinity := "inf"

/-- The text of an attribute value, before any character is escaped.  Only integers may have none:
those with too many digits. -/
def render : AttributeValue → Except Decimal.TooManyDigits String
  | text s => .ok s
  | int i => Decimal.integer i
  | float x => .ok (floatLayout.render x)
  | flag b => .ok (if b then "true" else "false")
  | policy p => .ok p.label

end AttributeValue

/-- An attribute of an element. -/
structure Attribute where
  name : String
  value : AttributeValue
  name_ne : name ≠ ""

/-- The text of an attribute's value, before any character is escaped. -/
def Attribute.text (a : Attribute) : Except Decimal.TooManyDigits String := a.value.render

/-- What is written inside the opening tag of an element: its name and its attributes, in order. -/
structure Tag where
  name : String
  attributes : List Attribute
  name_ne : name ≠ ""
  distinct : (attributes.map (·.name)).Nodup

namespace Tag

/-- Whether the name of a tag is the given text or a member of the given collection. -/
def isNamed (t : Tag) (names : Value) : Bool :=
  match names.text? with
  | some s => t.name == s
  | none => names.items?.any fun items => items.any (·.text? == some t.name)

/-- The attribute with a given name. -/
def attribute? (t : Tag) (name : String) : Option Attribute :=
  t.attributes.find? (·.name == name)

/-- Whether there is an attribute with a given name. -/
def hasAttribute (t : Tag) (name : String) : Bool :=
  t.attributes.any (·.name == name)

/-- The texts of the attributes with the given names, each under its name and the last one first. -/
def texts (t : Tag) (names : List String) : Except Decimal.TooManyDigits (List (String × String)) :=
  return (← (t.attributes.filter (·.name ∈ names)).mapM fun a => return (a.name, ← a.text)).reverse

/-- The width and height that a tag gives, if it has attributes for both. -/
def size? (t : Tag) : Except Decimal.TooManyDigits (Option (String × String)) :=
  if t.hasAttribute widthAttribute && t.hasAttribute heightAttribute then do
    let found ← t.texts [widthAttribute, heightAttribute]
    return match found.lookup widthAttribute, found.lookup heightAttribute with
      | some width, some height => some (width, height)
      | _, _ => none
  else return none

end Tag

/-- A processing instruction. -/
structure Instruction where
  target : String
  body : String
  target_ne : target ≠ ""
deriving DecidableEq

/-- A node of a tree, or something that stands in the place of one. -/
inductive Node where
  | element (tag : Tag) (children : List Node)
  | text (s : String)
  | comment (s : String)
  | cdata (s : String)
  | doctype (s : String)
  | instruction (i : Instruction)
  /-- A document, which is the root of a tree and no node of one. -/
  | document (children : List Node)
  | bareAttribute (a : Attribute)
  | value (v : Value)
  /-- An object of another program: the name of its type, the kind that it gives itself and its
  children. -/
  | foreign (type : String) (kind : Option String) (children : List Node)
deriving Inhabited

namespace Node

/-- The kind of a node that can be written. -/
def kind? : Node → Option NodeKind
  | element .. => some .element
  | text _ => some .text
  | comment _ => some .comment
  | cdata _ => some .cdata
  | doctype _ => some .doctype
  | instruction _ => some .processingInstruction
  | _ => none

/-- The name of the type of a node. -/
def typeName : Node → String
  | element .. => NodeKind.element.typeName
  | text _ => NodeKind.text.typeName
  | comment _ => NodeKind.comment.typeName
  | cdata _ => NodeKind.cdata.typeName
  | doctype _ => NodeKind.doctype.typeName
  | instruction _ => NodeKind.processingInstruction.typeName
  | document _ => "Document"
  | bareAttribute _ => "Attribute"
  | value v => v.typeName
  | foreign type .. => type

/-- The children of a node; a node that cannot have any has none. -/
def children : Node → List Node
  | element _ children | document children | foreign _ _ children => children
  | _ => []

/-- The name under which a container appears in an element path.  Only elements have one. -/
def label : Node → String
  | element tag _ => tag.name
  | _ => ""

/-- The tag of an element. -/
def tag? : Node → Option Tag
  | element tag _ => some tag
  | _ => none

end Node

end SvgMarkup
