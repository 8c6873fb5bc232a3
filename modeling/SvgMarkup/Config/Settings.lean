import SvgMarkup.Config.Basic
import SvgMarkup.Diagnostic.Wording
import SvgMarkup.Failure

/-!
# Settings

Settings give every option a value of any type.  A configuration is made from settings by reading
the value of each option in its form, and the first option in the order of `Field.all` whose value
does not have that form is reported.

* `Config.ofSettings` reads settings, `Config.settings` writes them.
-/

namespace SvgMarkup

/-- The forms of values that options ask for. -/
inductive Expectation where
  | text
  | flag
  | texts
  | characters
  | encoder
  | nonEmptyText
  | positiveInt
  | policy
deriving DecidableEq, Repr

/-- The description of a form. -/
def Expectation.wording : Expectation → String
  | text => "str"
  | flag => "bool"
  | texts => "an iterable of str"
  | characters => "a set of single characters"
  | encoder => "a callable str -> str"
  | nonEmptyText => "a non-empty str"
  | positiveInt => "a positive int"
  | policy => "'last' or 'first'"

/-- The faults of a configuration. -/
inductive ConfigError where
  /-- There is no option with that spelling. -/
  | unknownOption (spelling : String)
  /-- The value of an option, of the named type, does not have the form that is asked for. -/
  | invalidValue (field : Field) (expected : Expectation) (received : String)
  /-- A set was to be made of a collection with a member of the named type. -/
  | unhashable (typeName : String)
deriving DecidableEq, Repr

/-- A fault as the failure of an operation. -/
def ConfigError.failure : ConfigError → Failure
  | unknownOption spelling => .of .configuration (.ofUnknownConfigOption spelling)
  | invalidValue field expected received =>
    .of .configuration (.ofInvalidConfigValue field.name expected.wording received)
  | unhashable typeName => .unhashable typeName

/-- A value for every option. -/
abbrev Settings := Field → Value

/-- Why a value cannot be read. -/
inductive ReadError where
  /-- It does not have the form that is asked for. -/
  | expected (e : Expectation)
  /-- It has a member that cannot be in a set. -/
  | unhashable (typeName : String)
deriving DecidableEq, Repr

namespace Value

/-- Reads a text. -/
def readText (v : Value) : Except ReadError String :=
  match v.text? with
  | some s => .ok s
  | none => .error (.expected .text)

/-- Reads a truth value. -/
def readFlag : Value → Except ReadError Bool
  | flag b => .ok b
  | _ => .error (.expected .flag)

/-- Reads a collection of texts. -/
def readTexts (v : Value) : Except ReadError (List String) :=
  match v.items? with
  | none => .error (.expected .texts)
  | some items =>
    match unhashableIn? items with
    | some typeName => .error (.unhashable typeName)
    | none =>
      match texts? items with
      | some texts => .ok texts
      | none => .error (.expected .texts)

/-- Reads a set of characters from a collection of texts that have one character each. -/
def readCharacters (v : Value) : Except ReadError (OrderedSet Char) := do
  let texts ← v.readTexts
  match texts.mapM fun s => match s.toList with | [c] => some c | _ => none with
  | some characters => return .ofList characters
  | none => throw (.expected .characters)

/-- Reads a set of names.  A text is one name. -/
def readNames (v : Value) : Except ReadError (OrderedSet String) :=
  match v.text? with
  | some s => .ok (.singleton s)
  | none => do return .ofList (← v.readTexts)

/-- Reads an encoder. -/
def readEncoder : Value → Except ReadError Encoder
  | encoder e => .ok e
  | _ => .error (.expected .encoder)

/-- Reads a text that is not empty. -/
def readNonEmptyText (v : Value) : Except ReadError { s : String // s ≠ "" } :=
  match v.text? with
  | some s => if h : s ≠ "" then .ok ⟨s, h⟩ else .error (.expected .nonEmptyText)
  | none => .error (.expected .nonEmptyText)

/-- Reads a positive integer. -/
def readPositive : Value → Except ReadError { n : Nat // 0 < n }
  | int i => if h : 0 < i.toNat then .ok ⟨i.toNat, h⟩ else .error (.expected .positiveInt)
  | _ => .error (.expected .positiveInt)

/-- Reads a capture policy, which may be given by its name. -/
def readPolicy (v : Value) : Except ReadError CapturePolicy :=
  match v.text?.bind CapturePolicy.ofLabel? with
  | some p => .ok p
  | none => .error (.expected .policy)

end Value

namespace Settings

/-- Reads the value of an option. -/
def read {α : Type} (s : Settings) (field : Field) (reader : Value → Except ReadError α) :
    Except ConfigError α :=
  match reader (s field) with
  | .ok a => .ok a
  | .error (.expected e) => .error (.invalidValue field e (s field).typeName)
  | .error (.unhashable typeName) => .error (.unhashable typeName)

/-- Reads the texts of all delimiters. -/
def readDelimiters (s : Settings) : Except ConfigError (Delimiter → String) := do
  Delimiter.all.forM fun d => discard (s.read (.delimiter d) Value.readText)
  return fun d => (s (.delimiter d)).text?.getD ""

/-- The settings with a new value for one option. -/
def set (s : Settings) (field : Field) (v : Value) : Settings :=
  fun f => if f = field then v else s f

/-- The settings with new values for some options.  The last value given for an option counts. -/
def assign (s : Settings) (changes : List (Field × Value)) : Settings :=
  changes.foldl (fun s change => s.set change.1 change.2) s

end Settings

namespace Config

/-- The configuration that settings describe, or the first fault of theirs. -/
def ofSettings (s : Settings) : Except ConfigError Config := do
  let delimiter ← s.readDelimiters
  let indent ← s.read .indent Value.readText
  let pretty ← s.read .pretty Value.readFlag
  let strict ← s.read .strict Value.readFlag
  let textEntities ← s.read .textEntities Value.readCharacters
  let attributeEntities ← s.read .attributeEntities Value.readCharacters
  let textElements ← s.read .textElements Value.readNames
  let textChildElements ← s.read .textChildElements Value.readNames
  let encoder ← s.read .encodeEntity Value.readEncoder
  let ⟨rootElement, rootElement_ne⟩ ← s.read .rootElement Value.readNonEmptyText
  let ⟨maxDepth, maxDepth_pos⟩ ← s.read .maxDepth Value.readPositive
  let capture ← s.read .dimensionCapture Value.readPolicy
  return { delimiter, indent, pretty, strict, textEntities, attributeEntities, textElements,
           textChildElements, encoder, rootElement, rootElement_ne, maxDepth, maxDepth_pos,
           capture }

/-- The settings that describe a configuration. -/
def settings (c : Config) : Settings
  | .delimiter d => .text (c.delimiter d)
  | .indent => .text c.indent
  | .pretty => .flag c.pretty
  | .strict => .flag c.strict
  | .textEntities => .frozenSet (c.textEntities.toList.map fun a => .text (String.singleton a))
  | .attributeEntities =>
    .frozenSet (c.attributeEntities.toList.map fun a => .text (String.singleton a))
  | .textElements => .frozenSet (c.textElements.toList.map .text)
  | .textChildElements => .frozenSet (c.textChildElements.toList.map .text)
  | .encodeEntity => .encoder c.encoder
  | .rootElement => .text c.rootElement
  | .maxDepth => .int c.maxDepth
  | .dimensionCapture => .policy c.capture

end Config

end SvgMarkup
