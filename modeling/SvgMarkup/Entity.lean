import SvgMarkup.OrderedSet

/-!
# Entity references

Characters that are reserved in markup are replaced by other text before they are written.  Each
reserved character of a text is replaced once, and the replacement is not looked at again, so the
ampersand of a reference is never itself escaped.

* `escape` is the replacement of reserved characters by an arbitrary encoder.
* `Encoder.standard` replaces the five characters of `entityTable` by their entity references.
-/

namespace SvgMarkup

/-- The characters that have a named entity reference. -/
def entityTable : List (Char × String) :=
  [('&', "&amp;"), ('\'', "&apos;"), ('"', "&quot;"), ('>', "&gt;"), ('<', "&lt;")]

/-- The entity reference of a character. -/
def entityReference? (c : Char) : Option String :=
  entityTable.lookup c

/-- A text with its entity reference in its place if it is one of the characters of the table; any
other text is left alone. -/
def encodeEntity (s : String) : String :=
  match s.toList with
  | [c] => (entityReference? c).getD s
  | _ => s

/-- The characters reserved in text between tags. -/
def textEntities : OrderedSet Char := .ofList ['&', '\'', '"', '<', '>']

/-- The characters reserved in attribute values.  The values stand between double quotation marks,
so the apostrophe needs no replacement. -/
def attributeEntities : OrderedSet Char := .ofList ['&', '"', '<', '>']

/-- A way to replace reserved characters. -/
structure Encoder where
  /-- The name under which the encoder is known. -/
  label : String
  /-- The replacement of a character, or nothing if the encoder cannot replace it. -/
  replacement? : Char → Option String

/-- The encoder that writes entity references and leaves characters without one alone. -/
def Encoder.standard : Encoder where
  label := "default"
  replacement? c := some (encodeEntity (String.singleton c))

/-- A reserved character for which the encoder has no replacement. -/
structure MissingReplacement where
  char : Char
deriving DecidableEq, Repr

/-- What is written for one character of a text. -/
def escapeChar (reserved : OrderedSet Char) (encoder : Encoder) (c : Char) :
    Except MissingReplacement (List Char) :=
  if c ∈ reserved then
    match encoder.replacement? c with
    | some replacement => .ok replacement.toList
    | none => .error ⟨c⟩
  else .ok [c]

/-- A text with its reserved characters replaced.  It fails at the first reserved character that the
encoder cannot replace. -/
def escape (reserved : OrderedSet Char) (encoder : Encoder) (text : String) :
    Except MissingReplacement String := do
  let pieces ← text.toList.mapM (escapeChar reserved encoder)
  return String.ofList pieces.flatten

end SvgMarkup
