import SvgMarkup.Nesting
import SvgMarkup.Rendering.Markup

/-!
# Passes over a tree

A pass keeps track of the containers it is in and notes events.  It may fail; what it has noted
until then is kept, and the containers that it has entered are left all the same.
-/

namespace SvgMarkup

/-- The failures of a pass. -/
inductive RenderError where
  /-- A child of the named type, below the elements of the path, cannot be written. -/
  | unknownNodeKind (typeName path : String)
  | nestingExceeded (e : NestingExceeded)
  | markup (e : MarkupError)
deriving DecidableEq, Repr

/-- A failure of a pass as the failure of an operation. -/
def RenderError.failure : RenderError → Failure
  | unknownNodeKind typeName path => .of .unknownNodeKind (.ofUnknownNodeKind typeName path)
  | nestingExceeded e => e.failure
  | markup e => e.failure

/-- What comes of a pass or a step of it. -/
structure Transcript (α : Type) where
  /-- What it gives, or why it fails. -/
  result : Except RenderError α
  /-- Its events, oldest first. -/
  events : List Event

/-- The outcome of a step of a pass. -/
structure Outcome (α : Type) extends Transcript α where
  /-- The containers that the pass is in after the step. -/
  nesting : Nesting

/-- A step of a pass. -/
structure Pass (α : Type) where
  /-- What happens when the step is taken inside some containers. -/
  run : Nesting → Outcome α

namespace Pass

variable {α β : Type}

instance : Monad Pass where
  pure a := ⟨fun n => ⟨⟨.ok a, []⟩, n⟩⟩
  bind x f := ⟨fun n =>
    let first := x.run n
    match first.result with
    | .error e => ⟨⟨.error e, first.events⟩, first.nesting⟩
    | .ok a =>
      let second := (f a).run first.nesting
      ⟨⟨second.result, first.events ++ second.events⟩, second.nesting⟩⟩

/-- A failure. -/
def fail (e : RenderError) : Pass α := ⟨fun n => ⟨⟨.error e, []⟩, n⟩⟩

/-- Notes an event. -/
def note (e : Event) : Pass Unit := ⟨fun n => ⟨⟨.ok (), [e]⟩, n⟩⟩

/-- The containers that the pass is in. -/
def nesting : Pass Nesting := ⟨fun n => ⟨⟨.ok n, []⟩, n⟩⟩

/-- What is needed for the markup of a node, or a failure if there is no such markup. -/
def ofMarkup : Except MarkupError α → Pass α
  | .ok a => pure a
  | .error e => fail (.markup e)

/-- A step inside a container with the given name.  The container is left when the step ends, also
when it fails. -/
def within (label : String) (body : Pass α) : Pass α := ⟨fun n =>
  match n.enter label with
  | .error e => ⟨⟨.error (.nestingExceeded e), []⟩, n⟩
  | .ok inner =>
    let outcome := body.run inner
    { outcome with nesting := outcome.nesting.leave }⟩

/-- What comes of a pass that starts outside all containers. -/
def fromStart (pass : Pass α) (limit : Int) (stack : CallStack := {}) : Transcript α :=
  let (nesting, events) := Nesting.start limit stack
  let outcome := pass.run nesting
  ⟨outcome.result, events ++ outcome.events⟩

@[simp] theorem run_pure (a : α) (n : Nesting) : (pure a : Pass α).run n = ⟨⟨.ok a, []⟩, n⟩ := rfl

theorem run_bind (x : Pass α) (f : α → Pass β) (n : Nesting) :
    (x >>= f).run n = match (x.run n).result with
      | .error e => ⟨⟨.error e, (x.run n).events⟩, (x.run n).nesting⟩
      | .ok a =>
        let second := (f a).run (x.run n).nesting
        ⟨⟨second.result, (x.run n).events ++ second.events⟩, second.nesting⟩ := rfl

@[simp] theorem run_fail (e : RenderError) (n : Nesting) :
    (fail e : Pass α).run n = ⟨⟨.error e, []⟩, n⟩ := rfl

@[simp] theorem run_note (e : Event) (n : Nesting) : (note e).run n = ⟨⟨.ok (), [e]⟩, n⟩ := rfl

@[simp] theorem run_nesting (n : Nesting) : nesting.run n = ⟨⟨.ok n, []⟩, n⟩ := rfl

theorem run_within (label : String) (body : Pass α) (n : Nesting) :
    (within label body).run n = match n.enter label with
      | .error e => ⟨⟨.error (.nestingExceeded e), []⟩, n⟩
      | .ok inner => { body.run inner with nesting := (body.run inner).nesting.leave } := rfl

end Pass

end SvgMarkup
