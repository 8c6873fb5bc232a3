/-!
# Diagnostics

A diagnostic describes one fault: a code that tools can rely on, a message for people, and as much
of the circumstances as is known.
-/

namespace SvgMarkup

namespace Diagnostic

/-- The faults that are told apart. -/
inductive Code where
  | unknownNodeKind
  | invalidAttributeValue
  | emptyName
  | duplicateAttribute
  | maxDepthExceeded
  | unknownConfigOption
  | invalidConfigValue
deriving DecidableEq, Repr

namespace Code

/-- All codes, by ascending number. -/
def all : List Code :=
  [unknownNodeKind, invalidAttributeValue, emptyName, duplicateAttribute, maxDepthExceeded,
    unknownConfigOption, invalidConfigValue]

/-- The name of a code. -/
def name : Code → String
  | unknownNodeKind => "UNKNOWN_NODE_KIND"
  | invalidAttributeValue => "INVALID_ATTRIBUTE_VALUE"
  | emptyName => "EMPTY_NAME"
  | duplicateAttribute => "DUPLICATE_ATTRIBUTE"
  | maxDepthExceeded => "MAX_DEPTH_EXCEEDED"
  | unknownConfigOption => "UNKNOWN_CONFIG_OPTION"
  | invalidConfigValue => "INVALID_CONFIG_VALUE"

/-- The number of a code.  Faults of the tree are numbered from 1000, faults of a pass over it from
2000 and faults of the configuration from 3000. -/
def number : Code → Nat
  | unknownNodeKind => 1001
  | invalidAttributeValue => 1002
  | emptyName => 1003
  | duplicateAttribute => 1004
  | maxDepthExceeded => 2001
  | unknownConfigOption => 3001
  | invalidConfigValue => 3002

/-- The code with a given name. -/
def ofName? (name : String) : Option Code :=
  all.find? (·.name == name)

theorem ofName?_name (c : Code) : ofName? c.name = some c := by
  cases c <;> decide

end Code

end Diagnostic

/-- The description of a fault. -/
structure Diagnostic where
  code : Diagnostic.Code
  message : String
  /-- Advice on how to mend the fault. -/
  hint : Option String := none
  /-- The names of the elements around the place of the fault. -/
  nodePath : Option String := none
  optionName : Option String := none
  expectedType : Option String := none
  receivedType : Option String := none
  severity : String := "error"
deriving DecidableEq, Repr

end SvgMarkup
