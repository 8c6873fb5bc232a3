import SvgMarkup.Rendering.Basic

/-!
# What all steps of rendering have in common

Rendering is put together from a few kinds of steps.  A property that these have, and that passes on
from the parts of a step to the whole, holds of rendering: `Node.render_of_compositional`.

A step is *steady* if it ends inside the same containers in which it started, whether it succeeds or
fails.  All steps of rendering are steady, since every container that is entered is left again:
`Node.steady_render`.
-/

namespace SvgMarkup

namespace Pass

/-- A property of the single steps of a pass that passes on to steps in sequence and to steps inside
a container. -/
structure Compositional (P : (α : Type) → Pass α → Prop) : Prop where
  pure {α : Type} (a : α) : P α (Pure.pure a)
  note (e : Event) : P Unit (Pass.note e)
  nesting : P Nesting Pass.nesting
  ofMarkup {α : Type} (markup : Except MarkupError α) : P α (Pass.ofMarkup markup)
  bind {α β : Type} {x : Pass α} {f : α → Pass β} (hx : P α x) (hf : ∀ a, P β (f a)) :
    P β (x >>= f)
  within {α : Type} {x : Pass α} (hx : P α x) (label : String) : P α (Pass.within label x)

end Pass

namespace Node

variable {P : (α : Type) → Pass α → Prop} {c : Config}

theorem captureSize_of_compositional (hP : Pass.Compositional P) (c : Config) (t : Tag) :
    P Dimensions (captureSize c t) := by
  refine hP.bind (hP.ofMarkup _) fun size => ?_
  cases size with
  | none => exact hP.pure _
  | some size => exact hP.bind (hP.note _) fun _ => hP.pure _

mutual

theorem renderNode_of_compositional (hP : Pass.Compositional P)
    (hskip : ∀ typeName, P Rendering (skipChild c typeName)) (n : Node) :
    P Rendering (renderNode c n) := by
  cases n with
  | element tag children =>
    rw [renderNode]
    refine hP.bind (captureSize_of_compositional hP c tag) fun _ => hP.bind hP.nesting fun _ => ?_
    split
    · exact hP.bind (hP.ofMarkup _) fun _ => hP.pure _
    · exact hP.bind (hP.within (renderList_of_compositional hP hskip children) _) fun _ =>
        hP.bind (hP.ofMarkup _) fun _ => hP.pure _
  | text s =>
    rw [renderNode]
    exact hP.bind (hP.ofMarkup _) fun _ => hP.pure _
  | comment | cdata | doctype | instruction =>
    rw [renderNode]
    exact hP.pure _
  | document | bareAttribute | value | «foreign» =>
    rw [renderNode]
    exact hskip _

theorem renderList_of_compositional (hP : Pass.Compositional P)
    (hskip : ∀ typeName, P Rendering (skipChild c typeName)) (ns : List Node) :
    P Rendering (renderList c ns) := by
  cases ns with
  | nil =>
    rw [renderList]
    exact hP.pure _
  | cons n ns =>
    rw [renderList]
    exact hP.bind (renderNode_of_compositional hP hskip n) fun _ =>
      hP.bind (renderList_of_compositional hP hskip ns) fun _ => hP.pure _

end

/-- A property of single steps that passes on to larger ones, and that the treatment of children of
none of the six kinds has, holds of rendering. -/
theorem render_of_compositional (hP : Pass.Compositional P)
    (hskip : ∀ typeName, P Rendering (skipChild c typeName)) (n : Node) :
    P Rendering (render c n) := by
  unfold render
  split
  · exact hP.pure _
  · exact hP.within (renderList_of_compositional hP hskip _) _

end Node

namespace Pass

variable {α β : Type}

/-- A step that ends inside the containers in which it started. -/
def Steady (x : Pass α) : Prop := ∀ n, (x.run n).nesting = n

namespace Steady

theorem pure (a : α) : (Pure.pure a : Pass α).Steady := fun _ => rfl

theorem fail (e : RenderError) : (Pass.fail e : Pass α).Steady := fun _ => rfl

theorem note (e : Event) : (Pass.note e).Steady := fun _ => rfl

theorem nesting : Pass.nesting.Steady := fun _ => rfl

theorem ofMarkup (markup : Except MarkupError α) : (Pass.ofMarkup markup).Steady := by
  cases markup <;> exact fun _ => rfl

theorem bind {x : Pass α} {f : α → Pass β} (hx : x.Steady) (hf : ∀ a, (f a).Steady) :
    (x >>= f).Steady := by
  intro n
  rw [run_bind]
  split
  · exact hx n
  · next a _ => rw [hf a, hx]

theorem within {x : Pass α} (hx : x.Steady) (label : String) : (Pass.within label x).Steady := by
  intro n
  rw [run_within]
  split
  · rfl
  · next h => rw [hx, Nesting.leave_of_enter h]

theorem compositional : Compositional fun _ => Steady :=
  ⟨pure, note, nesting, ofMarkup, bind, within⟩

end Steady

end Pass

namespace Node

theorem steady_captureSize (c : Config) (t : Tag) : (captureSize c t).Steady :=
  captureSize_of_compositional Pass.Steady.compositional c t

theorem steady_skipChild (c : Config) (typeName : String) : (skipChild c typeName).Steady := by
  unfold skipChild
  split
  · exact .bind .nesting fun _ => .fail _
  · exact .bind (.note _) fun _ => .pure _

theorem steady_renderNode (c : Config) (n : Node) : (renderNode c n).Steady :=
  renderNode_of_compositional Pass.Steady.compositional (steady_skipChild c) n

theorem steady_renderList (c : Config) (ns : List Node) : (renderList c ns).Steady :=
  renderList_of_compositional Pass.Steady.compositional (steady_skipChild c) ns

/-- Rendering ends inside the containers in which it started, also when it fails. -/
theorem steady_render (c : Config) (n : Node) : (render c n).Steady :=
  render_of_compositional Pass.Steady.compositional (steady_skipChild c) n

end Node

end SvgMarkup
