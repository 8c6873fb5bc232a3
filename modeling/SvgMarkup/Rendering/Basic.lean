import SvgMarkup.Rendering.Markup
import SvgMarkup.Rendering.Pass

/-!
# Rendering

The markup of a tree, and the dimensions of its root element.

* `Node.render` is the markup of the children of a container.
* `Node.serialize` is a complete pass over a tree.
-/

namespace SvgMarkup

/-- The markup of a tree and the dimensions of its root element. -/
structure Rendering where
  data : String
  dimensions : Dimensions
deriving DecidableEq, Repr

namespace Rendering

/-- Markup that gives no dimensions. -/
def ofMarkup (data : String) : Rendering := ⟨data, .unknown⟩

/-- Two renderings, one after the other. -/
def append (policy : CapturePolicy) (r s : Rendering) : Rendering :=
  ⟨r.data ++ s.data, r.dimensions.merged s.dimensions policy⟩

end Rendering

namespace Node

/-- The dimensions that a tag gives to the document.  They are noted. -/
def captureSize (c : Config) (t : Tag) : Pass Dimensions := do
  match ← Pass.ofMarkup ((c.rootSize? t).mapError .tooManyDigits) with
  | some (width, height) =>
    Pass.note (.sizeCaptured t.name width height)
    return .ofTexts width height
  | none => return .unknown

/-- What becomes of a child that cannot be written: a strict pass fails, another one skips it. -/
def skipChild (c : Config) (typeName : String) : Pass Rendering := do
  if c.strict then
    Pass.fail (.unknownNodeKind typeName (← Pass.nesting).path)
  else
    Pass.note (.childSkipped typeName)
    return .ofMarkup ""

mutual

/-- The markup of a node.  The attributes of an element are written after its children, so a fault
among the children is found first. -/
def renderNode (c : Config) : Node → Pass Rendering
  | .element tag children => do
    let own ← captureSize c tag
    let indent := (← Pass.nesting).indent c.indent c.pretty
    if children.isEmpty then
      let attributes ← Pass.ofMarkup (c.attributesMarkup tag)
      return ⟨c.emptyTag indent tag attributes, own⟩
    else
      let body ← Pass.within tag.name (renderList c children)
      let attributes ← Pass.ofMarkup (c.attributesMarkup tag)
      return ⟨c.openingTag indent tag attributes ++ body.data ++ c.closingTag indent tag,
        own.merged body.dimensions c.capture⟩
  | .text s => do return .ofMarkup (← Pass.ofMarkup (c.textMarkup s))
  | .comment s => return .ofMarkup (c.commentMarkup s)
  | .cdata s => return .ofMarkup (c.cdataMarkup s)
  | .doctype s => return .ofMarkup (c.doctypeMarkup s)
  | .instruction i => return .ofMarkup (c.instructionMarkup i)
  | .document children => skipChild c (Node.document children).typeName
  | .bareAttribute a => skipChild c (Node.bareAttribute a).typeName
  | .value v => skipChild c (Node.value v).typeName
  | .foreign type kind children => skipChild c (Node.foreign type kind children).typeName

/-- The markup of some nodes, one after the other. -/
def renderList (c : Config) : List Node → Pass Rendering
  | [] => return .ofMarkup ""
  | n :: ns => do
    let first ← renderNode c n
    let rest ← renderList c ns
    return first.append c.capture rest

end

/-- The markup of the children of a container.  A container without children is not entered. -/
def render (c : Config) (n : Node) : Pass Rendering :=
  if n.children.isEmpty then return .ofMarkup ""
  else Pass.within n.label (renderList c n.children)

/-- The markup of the children of a container, in a pass of its own.  There is no pass, and no
event, if the container has no children. -/
def renderAlone (c : Config) (n : Node) (stack : CallStack := {}) : Transcript Rendering :=
  if n.children.isEmpty then ⟨.ok (.ofMarkup ""), []⟩
  else Pass.fromStart (render c n) c.maxDepth stack

/-- A complete pass over a tree. -/
def serialize (c : Config) (n : Node) (stack : CallStack := {}) : Transcript Rendering :=
  Pass.fromStart (do
    let r ← render c n
    Pass.note (.serialized r.data.length r.dimensions)
    return r) c.maxDepth stack

end Node

end SvgMarkup
