import SvgMarkup.Proofs.Computations
import SvgMarkup.Rendering.Lemmas

/-!
# The results of rendering

Every step of rendering ends inside the containers in which it started.  What a step gives is
therefore a function of these containers alone, and steps taken one after the other give what they
would give on their own.  This file says so for each kind of node, so that other proofs need to know
neither how a pass is run nor how it keeps track of the containers.

* `Pass.resultIn` is what a step gives inside some containers.
* `Node.resultIn_renderNode_element`, `Node.resultIn_renderList_cons` and their companions are the
  equations of rendering.
-/

namespace SvgMarkup

/-! ### What steps give -/

namespace Nesting

/-- The containers inside one more container with the given name. -/
def inside (n : Nesting) (label : String) : Nesting := ⟨n.limit, n.depth + 1, n.trail ++ [label]⟩

lemma enter_eq (n : Nesting) (label : String) :
    n.enter label = if n.limit ≤ n.depth then .error ⟨n.limit, elementPath [n.path, label]⟩
      else .ok (n.inside label) := by
  unfold enter check
  split <;> rfl

end Nesting

namespace Pass

variable {α β : Type}

/-- What a step gives when it is taken inside some containers. -/
def resultIn (x : Pass α) (n : Nesting) : Except RenderError α := (x.run n).result

@[simp] lemma resultIn_nesting (n : Nesting) : nesting.resultIn n = pure n := rfl

@[simp] lemma resultIn_ofMarkup (markup : Except MarkupError α) (n : Nesting) :
    (ofMarkup markup).resultIn n = markup.mapError .markup := by
  cases markup <;> rfl

/-- What follows a steady step starts where that step started. -/
lemma resultIn_bind {x : Pass α} (hx : x.Steady) (f : α → Pass β) (n : Nesting) :
    (x >>= f).resultIn n = x.resultIn n >>= fun a => (f a).resultIn n := by
  unfold resultIn
  rw [run_bind]
  cases h : (x.run n).result with
  | error e => rfl
  | ok a =>
    simp only [hx n]
    rfl

lemma resultIn_within (label : String) (body : Pass α) (n : Nesting) :
    (within label body).resultIn n =
      if n.limit ≤ n.depth then .error (.nestingExceeded ⟨n.limit, elementPath [n.path, label]⟩)
      else body.resultIn (n.inside label) := by
  unfold resultIn
  rw [run_within, Nesting.enter_eq]
  by_cases h : n.limit ≤ n.depth
  · simp only [h, if_true]
  · simp only [h, if_false]

/-- Two steps that go together inside a container go together from outside of it. -/
lemma together_within {E : RenderError → RenderError → Prop} (hE : ∀ e, E e e) {R : α → α → Prop}
    {body body' : Pass α} {label : String} {ν : Nesting}
    (h : Together E R (body.resultIn (ν.inside label)) (body'.resultIn (ν.inside label))) :
    Together E R ((within label body).resultIn ν) ((within label body').resultIn ν) := by
  rw [resultIn_within, resultIn_within]
  split
  · exact .error (hE _)
  · exact h

end Pass

/-- The dimensions with the given width and height, if these are known. -/
def Dimensions.ofSize (size : Option (String × String)) : Dimensions :=
  size.elim .unknown fun size => .ofTexts size.1 size.2

/-- The dimensions that a tag gives to the document on its own. -/
def Config.ownDimensions (c : Config) (t : Tag) : Except MarkupError Dimensions :=
  ((c.rootSize? t).map Dimensions.ofSize).mapError .tooManyDigits

namespace Node

variable (c : Config) (ν : Nesting)

lemma resultIn_captureSize (t : Tag) :
    (captureSize c t).resultIn ν = (c.ownDimensions t).mapError .markup := by
  unfold captureSize Config.ownDimensions
  rw [Pass.resultIn_bind (.ofMarkup _), Pass.resultIn_ofMarkup]
  rcases c.rootSize? t with _ | _ | ⟨width, height⟩ <;> rfl

lemma resultIn_skipChild (typeName : String) :
    (skipChild c typeName).resultIn ν =
      if c.strict then .error (.unknownNodeKind typeName ν.path) else pure (.ofMarkup "") := by
  unfold skipChild
  split
  · rw [Pass.resultIn_bind .nesting]
    rfl
  · rw [Pass.resultIn_bind (.note _)]
    rfl

/-! ### The equations of rendering -/

/-- An element without children is written as one tag. -/
lemma resultIn_renderNode_empty (t : Tag) :
    (renderNode c (.element t [])).resultIn ν = (do
      let own ← (c.ownDimensions t).mapError .markup
      let attributes ← (c.attributesMarkup t).mapError .markup
      return ⟨c.emptyTag (ν.indent c.indent c.pretty) t attributes, own⟩) := by
  rw [renderNode, Pass.resultIn_bind (steady_captureSize c t), resultIn_captureSize]
  congr 1
  funext own
  rw [Pass.resultIn_bind .nesting, Pass.resultIn_nesting, pure_bind]
  simp only [List.isEmpty_nil, if_true]
  rw [Pass.resultIn_bind (.ofMarkup _), Pass.resultIn_ofMarkup]
  rfl

/-- An element with children is entered, and its body comes between its dimensions and its
attributes. -/
lemma resultIn_renderNode_element (t : Tag) {children : List Node} (h : children ≠ []) :
    (renderNode c (.element t children)).resultIn ν = (do
      let own ← (c.ownDimensions t).mapError .markup
      let body ← (Pass.within t.name (renderList c children)).resultIn ν
      let attributes ← (c.attributesMarkup t).mapError .markup
      return ⟨c.openingTag (ν.indent c.indent c.pretty) t attributes ++ body.data ++
          c.closingTag (ν.indent c.indent c.pretty) t,
        own.merged body.dimensions c.capture⟩) := by
  rw [renderNode, Pass.resultIn_bind (steady_captureSize c t), resultIn_captureSize]
  congr 1
  funext own
  rw [Pass.resultIn_bind .nesting, Pass.resultIn_nesting, pure_bind]
  have hempty : children.isEmpty = false := List.isEmpty_eq_false_iff.mpr h
  simp only [hempty, Bool.false_eq_true, if_false]
  -- the body leaves the element again, so the closing tag is indented like the opening one
  rw [Pass.resultIn_bind (.within (steady_renderList c children) _)]
  congr 1
  funext body
  rw [Pass.resultIn_bind (.ofMarkup _), Pass.resultIn_ofMarkup]
  rfl

lemma resultIn_renderNode_text (s : String) :
    (renderNode c (.text s)).resultIn ν = (do
      let markup ← (c.textMarkup s).mapError .markup
      return .ofMarkup markup) := by
  rw [renderNode, Pass.resultIn_bind (.ofMarkup _), Pass.resultIn_ofMarkup]
  rfl

lemma resultIn_renderNode_comment (s : String) :
    (renderNode c (.comment s)).resultIn ν = pure (.ofMarkup (c.commentMarkup s)) := by
  rw [renderNode]
  rfl

lemma resultIn_renderNode_cdata (s : String) :
    (renderNode c (.cdata s)).resultIn ν = pure (.ofMarkup (c.cdataMarkup s)) := by
  rw [renderNode]
  rfl

lemma resultIn_renderNode_doctype (s : String) :
    (renderNode c (.doctype s)).resultIn ν = pure (.ofMarkup (c.doctypeMarkup s)) := by
  rw [renderNode]
  rfl

lemma resultIn_renderNode_instruction (i : Instruction) :
    (renderNode c (.instruction i)).resultIn ν = pure (.ofMarkup (c.instructionMarkup i)) := by
  rw [renderNode]
  rfl

/-- A node of none of the six kinds is skipped or refused, whatever it holds. -/
lemma renderNode_of_kind?_eq_none {n : Node} (h : n.kind? = none) :
    renderNode c n = skipChild c n.typeName := by
  cases n with
  | element | text | comment | cdata | doctype | instruction => cases h
  | document | bareAttribute | value | «foreign» => rw [renderNode]

lemma resultIn_renderNode_of_kind?_eq_none {n : Node} (h : n.kind? = none) :
    (renderNode c n).resultIn ν = (skipChild c n.typeName).resultIn ν := by
  rw [renderNode_of_kind?_eq_none c h]

lemma resultIn_renderList_nil : (renderList c []).resultIn ν = pure (.ofMarkup "") := by
  rw [renderList]
  rfl

lemma resultIn_renderList_cons (n : Node) (ns : List Node) :
    (renderList c (n :: ns)).resultIn ν = (do
      let first ← (renderNode c n).resultIn ν
      let rest ← (renderList c ns).resultIn ν
      return first.append c.capture rest) := by
  rw [renderList, Pass.resultIn_bind (steady_renderNode c n)]
  congr 1
  funext first
  rw [Pass.resultIn_bind (steady_renderList c ns)]
  rfl

lemma resultIn_render_of_children_eq_nil {n : Node} (h : n.children = []) :
    (render c n).resultIn ν = pure (.ofMarkup "") := by
  rw [render, h]
  rfl

lemma resultIn_render_of_children_ne_nil {n : Node} (h : n.children ≠ []) :
    (render c n).resultIn ν = (Pass.within n.label (renderList c n.children)).resultIn ν := by
  have hempty : n.children.isEmpty = false := List.isEmpty_eq_false_iff.mpr h
  simp only [render, hempty, Bool.false_eq_true, if_false]

/-- A complete pass gives what rendering gives outside all containers. -/
lemma result_serialize (n : Node) (stack : CallStack) :
    (serialize c n stack).result = (render c n).resultIn (Nesting.start c.maxDepth stack).1 := by
  have h : (serialize c n stack).result = (render c n >>= fun r =>
      Pass.note (.serialized r.data.length r.dimensions) >>= fun _ => pure r).resultIn
        (Nesting.start c.maxDepth stack).1 := rfl
  rw [h, Pass.resultIn_bind (steady_render c n)]
  cases (render c n).resultIn (Nesting.start c.maxDepth stack).1 <;> rfl

end Node

end SvgMarkup
