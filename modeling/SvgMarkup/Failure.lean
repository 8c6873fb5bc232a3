import SvgMarkup.Decimal.Integer
import SvgMarkup.Diagnostic.Presentation
import SvgMarkup.Entity
import SvgMarkup.Text.Quoted

/-!
# Failures

Failures that the library reports on its own account are of a kind, and the kinds form a hierarchy:
whoever handles one kind handles all kinds below it.
-/

namespace SvgMarkup

/-- The kinds of failures that the library reports. -/
inductive FailureKind where
  /-- Any of them. -/
  | general
  /-- A failure while a tree is being written. -/
  | serialization
  /-- A child that cannot be written. -/
  | unknownNodeKind
  /-- A tree that is nested too deeply. -/
  | depth
  /-- An option that does not exist or a value that it cannot take. -/
  | configuration
  /-- A part of a tree with contents that it cannot have. -/
  | construction
deriving DecidableEq, Repr

namespace FailureKind

/-- The kind directly above a kind. -/
def parent? : FailureKind → Option FailureKind
  | general => none
  | serialization | configuration | construction => some general
  | unknownNodeKind | depth => some serialization

/-- All kinds, those below another after it. -/
def all : List FailureKind :=
  [general, serialization, unknownNodeKind, depth, configuration, construction]

/-- Whether a kind is `other` or lies below it. -/
def isA (kind other : FailureKind) : Bool :=
  kind == other || kind.parent?.any fun above => above == other || above.parent?.any (· == other)

/-- Whether a failure is the fault of an unsuitable argument. -/
def isUnsuitableArgument : FailureKind → Bool
  | configuration | construction => true
  | _ => false

end FailureKind

/-- What is known about a reported failure. -/
inductive Account where
  /-- A bare message. -/
  | message (s : String)
  | diagnostic (d : Diagnostic)
deriving DecidableEq, Repr

/-- A failure that the library reports. -/
structure Report where
  kind : FailureKind
  account : Account
deriving DecidableEq, Repr

namespace Report

/-- The diagnostic of a reported failure. -/
def diagnostic? (r : Report) : Option Diagnostic :=
  match r.account with
  | .message _ => none
  | .diagnostic d => some d

/-- The text of a reported failure. -/
def text (r : Report) : String :=
  match r.account with
  | .message s => s
  | .diagnostic d => d.report

end Report

/-- The ways in which an operation can fail. -/
inductive Failure where
  | reported (r : Report)
  /-- An encoder that was handed in has no replacement for a reserved character. -/
  | missingReplacement (m : MissingReplacement)
  /-- A set was to be made of values one of which cannot be a member of a set. -/
  | unhashable (typeName : String)
  /-- An integer was to be written that has too many digits. -/
  | tooManyDigits (e : Decimal.TooManyDigits)
deriving DecidableEq, Repr

/-- The text of a failure. -/
def Failure.text : Failure → String
  | reported r => r.text
  | missingReplacement m => Text.quoted (String.singleton m.char)
  | unhashable typeName => "unhashable type: '" ++ typeName ++ "'"
  | tooManyDigits _ =>
    "Exceeds the limit (" ++ toString Decimal.maxDigits ++ " digits) for integer string " ++
      "conversion; use sys.set_int_max_str_digits() to increase the limit"

/-- The failure of a kind that a diagnostic describes. -/
def Failure.of (kind : FailureKind) (d : Diagnostic) : Failure :=
  .reported ⟨kind, .diagnostic d⟩

end SvgMarkup
