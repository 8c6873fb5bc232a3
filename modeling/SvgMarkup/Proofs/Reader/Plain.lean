import SvgMarkup.Proofs.Reader.Scanner
import SvgMarkup.Proofs.Tree.Lookup

/-!
# Trees that plain markup can hold

Markup shows the text of an attribute value and not its type, so what is read is the tree in which
every value is a text: `Node.plain`.  Markup has no mark for the end of a name, a text or the body
of a declaration other than the characters that follow it.  A tree can be read back if none of its
parts can be mistaken for the end of it: `Node.Readable`.
-/

namespace SvgMarkup

open Reader (isNameChar)

/-! ### What markup shows of a tree -/

/-- An attribute with the text of its value in place of the value. -/
def Attribute.plain (a : Attribute) : Attribute := { a with value := .text a.shown }

/-- A tag with the texts of its attribute values in place of the values. -/
def Tag.plain (t : Tag) : Tag where
  name := t.name
  attributes := t.attributes.map Attribute.plain
  name_ne := t.name_ne
  distinct := by
    rw [List.map_map]
    exact t.distinct

namespace Node

mutual

/-- A tree with the texts of its attribute values in place of the values. -/
def plain : Node → Node
  | element t children => element t.plain (plainList children)
  | text s => text s
  | comment s => comment s
  | cdata s => cdata s
  | doctype s => doctype s
  | instruction i => instruction i
  | document children => document (plainList children)
  | bareAttribute a => bareAttribute a.plain
  | value v => value v
  | «foreign» type kind children => «foreign» type kind (plainList children)

/-- Some trees with the texts of their attribute values in place of the values. -/
def plainList : List Node → List Node
  | [] => []
  | n :: ns => plain n :: plainList ns

end

/-- Whether a node is a text. -/
def IsText : Node → Prop
  | text _ => True
  | _ => False

instance : DecidablePred IsText
  | text _ => .isTrue trivial
  | element _ _ | comment _ | cdata _ | doctype _ | instruction _ | document _ | bareAttribute _
  | value _ | «foreign» _ _ _ => .isFalse id

end Node

/-! ### Trees that can be read back -/

/-- A name without characters that would end it. -/
def ReadableName (name : String) : Prop := ∀ c ∈ name.toList, isNameChar c

instance : DecidablePred ReadableName := fun name =>
  List.decidableBAll (fun c => isNameChar c) name.toList

/-- A tag whose name and attribute names can be read back.  Attribute values are arbitrary. -/
def Tag.Readable (t : Tag) : Prop :=
  ReadableName t.name ∧ ∀ a ∈ t.attributes, ReadableName a.name

instance : DecidablePred Tag.Readable := fun t =>
  inferInstanceAs (Decidable (ReadableName t.name ∧ ∀ a ∈ t.attributes, ReadableName a.name))

namespace Node

mutual

/-- A node of one of the six kinds no part of which contains what would end it, and all of whose
descendants are such nodes. -/
def Readable : Node → Prop
  | element t children => t.Readable ∧ ReadableList children
  | text s => s ≠ ""
  | comment s => ¬ ['-', '-', '>'] <:+: s.toList
  | cdata s => ¬ [']', ']', '>'] <:+: s.toList
  | doctype s => '>' ∉ s.toList ∧ s.toList.head? ≠ some ' '
  | instruction i => ReadableName i.target ∧ ¬ ['?', '>'] <:+: i.body.toList
  | _ => False

/-- Some nodes that can be read back, no two adjacent ones of which are texts. -/
def ReadableList : List Node → Prop
  | [] => True
  | n :: ns => Readable n ∧ (n.IsText → ∀ m ∈ ns.head?, ¬ m.IsText) ∧ ReadableList ns

end

mutual

instance decidableReadable : (n : Node) → Decidable (Readable n)
  | element t children =>
    have := decidableReadableList children
    inferInstanceAs (Decidable (t.Readable ∧ ReadableList children))
  | text s => inferInstanceAs (Decidable (s ≠ ""))
  | comment s => inferInstanceAs (Decidable (¬ ['-', '-', '>'] <:+: s.toList))
  | cdata s => inferInstanceAs (Decidable (¬ [']', ']', '>'] <:+: s.toList))
  | doctype s => inferInstanceAs (Decidable ('>' ∉ s.toList ∧ s.toList.head? ≠ some ' '))
  | instruction i =>
    inferInstanceAs (Decidable (ReadableName i.target ∧ ¬ ['?', '>'] <:+: i.body.toList))
  | document _ | bareAttribute _ | value _ | «foreign» _ _ _ => .isFalse id

instance decidableReadableList : (ns : List Node) → Decidable (ReadableList ns)
  | [] => .isTrue trivial
  | n :: ns =>
    have := decidableReadable n
    have := decidableReadableList ns
    inferInstanceAs (Decidable (Readable n ∧ (n.IsText → ∀ m ∈ ns.head?, ¬ m.IsText) ∧
      ReadableList ns))

end

end Node

end SvgMarkup
