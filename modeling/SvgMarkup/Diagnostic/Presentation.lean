import SvgMarkup.Diagnostic.Basic
import SvgMarkup.Json

/-!
# The presentation of diagnostics

Diagnostics are shown as annotated messages of several lines, as single lines or as JSON objects.
A presentation may bound the length of the texts that it shows and may colour the severity.
-/

namespace SvgMarkup.Diagnostic

/-- The forms in which a diagnostic can be shown. -/
inductive Form where
  /-- A message followed by one line for each known circumstance. -/
  | annotated
  /-- The message alone. -/
  | line
  /-- An object for tools. -/
  | json
deriving DecidableEq, Repr

namespace Form

/-- The forms, in the order in which they are listed to users. -/
def all : List Form := [.annotated, .line, .json]

/-- The name that selects a form. -/
def label : Form → String
  | annotated => "rust"
  | line => "simple"
  | json => "json"

/-- The form that a name selects. -/
def ofLabel? (name : String) : Option Form :=
  all.find? (·.label == name)

end Form

/-- How diagnostics are shown. -/
structure Presentation where
  form : Form := .annotated
  /-- Whether long texts are cut. -/
  sanitize : Bool := false
  /-- Whether the severity is coloured for a terminal. -/
  color : Bool := false
  /-- The number of characters to which long texts are cut.  A negative number says how many
  characters a cut removes from the end. -/
  maxLength : Int := 100
deriving DecidableEq, Repr

namespace Presentation

/-- The number of characters that a cut leaves of a text of the given length. -/
def keptLength (p : Presentation) (length : Nat) : Nat :=
  (if 0 ≤ p.maxLength then p.maxLength else length + p.maxLength).toNat

/-- A text, cut if it is too long. -/
def bounded (p : Presentation) (s : String) : String :=
  if p.sanitize ∧ p.maxLength < (s.length : Int) then
    String.ofList (s.toList.take (p.keptLength s.length)) ++ "..."
  else s

/-- A circumstance that is worth showing: one that is known and not empty. -/
def shown (field : Option String) : Option String :=
  field.filter (· != "")

/-- The severity as annotated messages show it; whatever is no warning is an error. -/
def severityWord (d : Diagnostic) : String :=
  if d.severity = "warning" then "warning" else "error"

/-- A severity word in its colour, red for errors and yellow for warnings. -/
def colored (word : String) : String :=
  (if word = "error" then "\x1b[1;31m" else "\x1b[1;33m") ++ word ++ "\x1b[0m"

/-- The first line of an annotated message. -/
def headline (p : Presentation) (d : Diagnostic) : String :=
  let word := severityWord d
  (if p.color then colored word else word) ++ "[" ++ d.code.name ++ "]: " ++ p.bounded d.message

/-- The lines that follow the first one in an annotated message. -/
def annotations (p : Presentation) (d : Diagnostic) : List String :=
  [(shown d.nodePath).map fun path => "  --> " ++ p.bounded path,
    (shown d.optionName).map fun option => "  = option: " ++ option,
    (shown d.expectedType).map fun type => "  = expected: " ++ type,
    (shown d.receivedType).map fun type => "  = received: " ++ type,
    (shown d.hint).map fun hint => "  = help: " ++ p.bounded hint].filterMap id

/-- The members of the object for a diagnostic. -/
def members (p : Presentation) (d : Diagnostic) : List (String × Json.Scalar) :=
  [("code", .text d.code.name), ("code_value", .number d.code.number),
    ("message", .text (p.bounded d.message)), ("severity", .text d.severity)] ++
  [(shown d.nodePath).map fun path => ("node_path", .text path),
    (shown d.optionName).map fun option => ("option_name", .text option),
    (shown d.expectedType).map fun type => ("expected_type", .text type),
    (shown d.receivedType).map fun type => ("received_type", .text type),
    (shown d.hint).map fun hint => ("hint", .text (p.bounded hint))].filterMap id

/-- A diagnostic as it is shown. -/
def render (p : Presentation) (d : Diagnostic) : String :=
  match p.form with
  | .annotated => String.intercalate "\n" (p.headline d :: p.annotations d)
  | .line => d.code.name ++ ": " ++ p.bounded d.message
  | .json => Json.renderObject (p.members d)

/-- Several diagnostics, with blank lines between them. -/
def renderAll (p : Presentation) (ds : List Diagnostic) : String :=
  String.intercalate "\n\n" (ds.map p.render)

end Presentation

/-- A diagnostic as the library shows it on its own account: annotated, uncut and without colour. -/
def report (d : Diagnostic) : String :=
  Presentation.render {} d

end SvgMarkup.Diagnostic
