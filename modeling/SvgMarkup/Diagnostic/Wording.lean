import SvgMarkup.Decimal.Integer
import SvgMarkup.Diagnostic.Basic

/-!
# The wording of diagnostics

One function for each fault that the library reports, with the message and the advice that belong to
it.
-/

namespace SvgMarkup.Diagnostic

/-- An element path as a diagnostic shows it.  The empty path names no element and is left out. -/
def shownPath (path : String) : Option String :=
  if path = "" then none else some path

/-- A node that is of none of the kinds that can be written, below the elements of `path`. -/
def ofUnknownNodeKind (typeName path : String) : Diagnostic where
  code := .unknownNodeKind
  message := "Cannot serialize node of type '" ++ typeName ++ "'"
  hint := some ("Build the tree from svgwriter.syntax.ast node classes, " ++
    "or pass strict=False to skip unknown children")
  nodePath := shownPath path
  receivedType := some typeName

/-- Nesting beyond `limit`, at the innermost element of `path`.  There is no description if the
limit cannot be written. -/
def ofMaxDepthExceeded (limit : Int) (path : String) :
    Except Decimal.TooManyDigits Diagnostic := do
  return {
    code := .maxDepthExceeded
    message := "Maximum nesting depth exceeded (max: " ++ (← Decimal.integer limit) ++ ")"
    hint := some "Flatten the document or raise max_depth"
    nodePath := shownPath path }

/-- An attribute whose value is of a type that has no text. -/
def ofInvalidAttributeValue (name typeName : String) : Diagnostic where
  code := .invalidAttributeValue
  message := "Attribute '" ++ name ++ "' has unsupported value type '" ++ typeName ++ "'"
  hint := some "Attribute values must be str, int, float or bool"
  expectedType := some "str | int | float | bool"
  receivedType := some typeName

/-- A part of the tree without a name. -/
def ofEmptyName (part : String) : Diagnostic where
  code := .emptyName
  message := part ++ " name must be a non-empty string"

/-- A second attribute of one name. -/
def ofDuplicateAttribute (element name : String) : Diagnostic where
  code := .duplicateAttribute
  message := "Duplicate attribute '" ++ name ++ "' on element '" ++ element ++ "'"
  hint := some "Attribute names must be unique within one element"

/-- An option that does not exist. -/
def ofUnknownConfigOption (option : String) : Diagnostic where
  code := .unknownConfigOption
  message := "Unknown serializer option '" ++ option ++ "'"
  hint := some "Use a SerializerConfig field name or its camelCase alias"
  optionName := some option

/-- An option with a value that it cannot take. -/
def ofInvalidConfigValue (option expected typeName : String) : Diagnostic where
  code := .invalidConfigValue
  message := "Invalid value for option '" ++ option ++ "': expected " ++ expected
  optionName := some option
  expectedType := some expected
  receivedType := some typeName

end SvgMarkup.Diagnostic
