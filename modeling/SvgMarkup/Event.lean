import SvgMarkup.Dimensions
import SvgMarkup.Diagnostic.Wording
import SvgMarkup.Text.Quoted

/-!
# Log events

What happens during a pass and is worth noting, although it is neither part of the output nor a
failure.
-/

namespace SvgMarkup

/-- How important an event is. -/
inductive Event.Level where
  /-- Something was not done as asked. -/
  | warning
  /-- A step towards the result. -/
  | debug
deriving DecidableEq, Repr

/-- The parts of the library that note events. -/
inductive Event.Source where
  | nesting
  | rendering
deriving DecidableEq, Repr

/-- An event of a pass. -/
inductive Event where
  /-- The depth that was asked for exceeds what a call stack of `frames` frames can carry; `granted`
  takes its place. -/
  | depthClamped (requested frames granted : Int)
  /-- A child of the named type cannot be written and was skipped. -/
  | childSkipped (typeName : String)
  /-- A root element gave the dimensions of the document. -/
  | sizeCaptured (element width height : String)
  /-- A pass ended with output of the given length. -/
  | serialized (length : Nat) (dimensions : Dimensions)
deriving DecidableEq, Repr

namespace Event

/-- The importance of an event. -/
def level : Event → Level
  | depthClamped .. | childSkipped _ => .warning
  | sizeCaptured .. | serialized .. => .debug

/-- The part of the library that notes an event. -/
def source : Event → Source
  | depthClamped .. => .nesting
  | _ => .rendering

/-- A dimension as the log shows it. -/
def shownDimension : Option String → String
  | some s => Text.quoted s
  | none => "None"

/-- The text of an event. -/
def text : Event → String
  | depthClamped requested frames granted =>
    "Requested depth " ++ toString requested ++ " exceeds Python recursion limit (" ++
      toString frames ++ "). Clamping to " ++ toString granted ++
      " to prevent RecursionError. Consider increasing sys.setrecursionlimit() if needed."
  | childSkipped typeName =>
    "Skipping child: " ++ (Diagnostic.ofUnknownNodeKind typeName "").message
  | sizeCaptured element width height =>
    "Captured <" ++ element ++ "> size " ++ Text.quoted width ++ " x " ++ Text.quoted height
  | serialized length dimensions =>
    "Serialized " ++ toString length ++ " characters (width=" ++
      shownDimension dimensions.width ++ ", height=" ++ shownDimension dimensions.height ++ ")"

end Event

end SvgMarkup
