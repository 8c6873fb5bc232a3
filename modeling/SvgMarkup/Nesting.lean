import SvgMarkup.Event
import SvgMarkup.Failure

/-!
# Nesting

While a tree is written, the containers that have been entered and not yet left are kept track of:
how many there are, what their names are and how many there may be.  The number fixes the
indentation, the names make up the path that an error message shows, and the limit keeps a pass from
exhausting the call stack.

* `Nesting.enter` and `Nesting.leave` undo each other: `Nesting.leave_of_enter`.
* `CallStack.clamp` bounds a limit by what the call stack can carry.
-/

namespace SvgMarkup

/-- The call stack that a pass can use. -/
structure CallStack where
  /-- The number of frames that the stack holds. -/
  frames : Int := 1000
  /-- The number of frames that are left to the callers and to the innermost parts of a pass. -/
  reserve : Int := 150
deriving DecidableEq, Repr

namespace CallStack

/-- The number of frames that one level of nesting takes. -/
def framesPerLevel : Int := 3

/-- The greatest nesting that a call stack can carry. -/
def capacity (s : CallStack) : Int :=
  (s.frames - s.reserve).fdiv framesPerLevel

/-- The limit that is granted when `requested` is asked for, and a warning if it is a lower one. -/
def clamp (s : CallStack) (requested : Int) : Int × List Event :=
  if s.capacity < requested then
    (s.capacity, [.depthClamped requested s.frames s.capacity])
  else (requested, [])

theorem clamp_fst (s : CallStack) (requested : Int) :
    (s.clamp requested).1 = min requested s.capacity := by
  unfold clamp
  split <;> simp <;> omega

end CallStack

/-- Names joined to a path; empty names are left out. -/
def elementPath (labels : List String) : String :=
  String.intercalate " > " (labels.filter (· != ""))

/-- The containers that have been entered. -/
structure Nesting where
  /-- The number of containers that may be entered. -/
  limit : Int
  /-- The number of containers that have been entered. -/
  depth : Nat := 0
  /-- The names of the containers that have been entered, outermost first. -/
  trail : List String := []
deriving DecidableEq, Repr

/-- The refusal to enter a container. -/
structure NestingExceeded where
  limit : Int
  /-- The names of the containers down to the refused one, as a path. -/
  path : String
deriving DecidableEq, Repr

/-- A refusal as the failure of an operation.  A limit that cannot be written takes the place of the
refusal. -/
def NestingExceeded.failure (e : NestingExceeded) : Failure :=
  match Diagnostic.ofMaxDepthExceeded e.limit e.path with
  | .ok d => .of .depth d
  | .error e => .tooManyDigits e

namespace Nesting

/-- The nesting before any container is entered, with the limit that the call stack grants. -/
def start (requested : Int) (stack : CallStack := {}) : Nesting × List Event :=
  let (limit, events) := stack.clamp requested
  ({ limit }, events)

/-- The path of the containers that have been entered. -/
def path (n : Nesting) : String := elementPath n.trail

/-- Checks whether another container with the given name may be entered. -/
def check (n : Nesting) (label : String) : Except NestingExceeded Unit :=
  if n.limit ≤ n.depth then .error ⟨n.limit, elementPath [n.path, label]⟩ else .ok ()

/-- Enters a container with the given name. -/
def enter (n : Nesting) (label : String) : Except NestingExceeded Nesting := do
  n.check label
  return { n with depth := n.depth + 1, trail := n.trail ++ [label] }

/-- Leaves the innermost container. -/
def leave (n : Nesting) : Nesting :=
  { n with depth := n.depth - 1, trail := n.trail.dropLast }

/-- The white space before a node at the current depth: one unit for each container around the one
that the node is in. -/
def indent (n : Nesting) (unit : String) (pretty : Bool) : String :=
  if pretty then String.join (List.replicate (n.depth - 1) unit) else ""

/-- Without layout nothing is indented. -/
@[simp] theorem indent_false (n : Nesting) (unit : String) : n.indent unit false = "" := rfl

theorem enter_eq_ok_iff {n m : Nesting} {label : String} :
    n.enter label = .ok m ↔
      (n.depth : Int) < n.limit ∧ m = ⟨n.limit, n.depth + 1, n.trail ++ [label]⟩ := by
  unfold enter check
  split
  · next h => simp only [bind, Except.bind, reduceCtorEq, false_iff]; omega
  · next h =>
    have : (n.depth : Int) < n.limit := by omega
    simp [bind, Except.bind, pure, Except.pure, this, eq_comm]

/-- Leaving a container restores the nesting before it was entered. -/
theorem leave_of_enter {n m : Nesting} {label : String} (h : n.enter label = .ok m) :
    m.leave = n := by
  obtain ⟨-, rfl⟩ := enter_eq_ok_iff.mp h
  simp [leave]

end Nesting

end SvgMarkup
