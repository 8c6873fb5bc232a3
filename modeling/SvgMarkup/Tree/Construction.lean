import SvgMarkup.Tree.Basic
import SvgMarkup.Diagnostic.Wording
import SvgMarkup.Failure

/-!
# The construction of trees

Attributes, tags and processing instructions are made of values whose types are not fixed in
advance.  Construction checks them and reports the first fault.
-/

namespace SvgMarkup

/-- The parts of a tree that have a name. -/
inductive NamedPart where
  | attr
  | element
  | instruction
deriving DecidableEq, Repr

/-- The name of a part's type. -/
def NamedPart.typeName : NamedPart → String
  | attr => "Attribute"
  | element => NodeKind.element.typeName
  | instruction => NodeKind.processingInstruction.typeName

/-- The faults that construction reports. -/
inductive ConstructionError where
  /-- The name of a part is empty or no text. -/
  | emptyName (part : NamedPart)
  /-- The value of the named attribute is of a type without a text. -/
  | unsupportedValue (name typeName : String)
  /-- An element has two attributes of one name. -/
  | duplicateAttribute (element name : String)
deriving DecidableEq, Repr

namespace ConstructionError

/-- The description of a fault. -/
def diagnostic : ConstructionError → Diagnostic
  | emptyName part => .ofEmptyName part.typeName
  | unsupportedValue name typeName => .ofInvalidAttributeValue name typeName
  | duplicateAttribute element name => .ofDuplicateAttribute element name

/-- A fault as the failure of an operation. -/
def failure (e : ConstructionError) : Failure := .of .construction e.diagnostic

end ConstructionError

/-- The name of a part: a text that is not empty. -/
def NamedPart.name (part : NamedPart) (v : Value) :
    Except ConstructionError { s : String // s ≠ "" } :=
  match v.text? with
  | some s => if h : s ≠ "" then .ok ⟨s, h⟩ else .error (.emptyName part)
  | none => .error (.emptyName part)

/-- An attribute with the given name and value.  The name is checked before the value. -/
def Attribute.ofValues (name value : Value) : Except ConstructionError Attribute := do
  let ⟨name, name_ne⟩ ← NamedPart.attr.name name
  match AttributeValue.ofValue? value with
  | some value => return { name, value, name_ne }
  | none => throw (.unsupportedValue name value.typeName)

/-- The first member of a list that is among `seen` or occurs earlier in the list. -/
def firstRepeated? (seen : List String) : List String → Option String
  | [] => none
  | s :: rest => if s ∈ seen then some s else firstRepeated? (s :: seen) rest

theorem nodup_of_firstRepeated?_eq_none {seen l : List String}
    (h : firstRepeated? seen l = none) : l.Nodup ∧ ∀ s ∈ l, s ∉ seen := by
  induction l generalizing seen with
  | nil => simp
  | cons s l ih =>
    simp only [firstRepeated?] at h
    split at h
    · cases h
    · next hs =>
      obtain ⟨hnd, hl⟩ := ih h
      refine ⟨List.nodup_cons.mpr ⟨fun hmem => hl s hmem List.mem_cons_self, hnd⟩, ?_⟩
      intro t ht
      rcases List.mem_cons.mp ht with rfl | ht
      · exact hs
      · exact fun hseen => hl t ht (List.mem_cons_of_mem _ hseen)

/-- A tag with the given name and attributes.  The name is checked before the attributes. -/
def Tag.ofAttributes (name : Value) (attributes : List Attribute) :
    Except ConstructionError Tag := do
  let ⟨name, name_ne⟩ ← NamedPart.element.name name
  match h : firstRepeated? [] (attributes.map (·.name)) with
  | some repeated => throw (.duplicateAttribute name repeated)
  | none => return { name, attributes, name_ne, distinct := (nodup_of_firstRepeated?_eq_none h).1 }

/-- The attributes with the given names and values, in order. -/
def Attribute.listOfValues (pairs : List (Value × Value)) :
    Except ConstructionError (List Attribute) :=
  pairs.mapM fun p => Attribute.ofValues p.1 p.2

/-- A tag whose attributes are the entries of a mapping. -/
def Tag.ofMapping (name : Value) (entries : List (Value × Value)) : Except ConstructionError Tag :=
  do Tag.ofAttributes name (← Attribute.listOfValues entries)

/-- A processing instruction with the given target and body. -/
def Instruction.ofValues (target : Value) (body : String) :
    Except ConstructionError Instruction := do
  let ⟨target, target_ne⟩ ← NamedPart.instruction.name target
  return { target, body, target_ne }

end SvgMarkup
