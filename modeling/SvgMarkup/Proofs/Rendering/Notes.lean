import SvgMarkup.Proofs.Rendering.Result

/-!
# The events of rendering

A pass that succeeds has gone through the whole tree, so its events can be read off the tree: each
root element with a size is noted, and so is each child that is skipped, all in document order.

* `Pass.Notes` says which events a step has whenever it succeeds.
* `Node.notesList` lists the events of writing some nodes.
* `Node.filter_events_serialize` picks events out of a complete pass.
-/

namespace SvgMarkup

namespace Pass

variable {α β : Type}

/-- A step notes some events if these are its events whenever it succeeds. -/
def Notes (x : Pass α) (es : List Event) : Prop :=
  ∀ ν a, (x.run ν).result = .ok a → (x.run ν).events = es

namespace Notes

lemma pure (a : α) : (Pure.pure a : Pass α).Notes [] := fun _ _ _ => rfl

/-- A step that always fails notes whatever one likes. -/
lemma fail (e : RenderError) (es : List Event) : (Pass.fail e : Pass α).Notes es := by
  intro ν a h
  cases h

lemma note (e : Event) : (Pass.note e).Notes [e] := fun _ _ _ => rfl

lemma nesting : Pass.nesting.Notes [] := fun _ _ _ => rfl

lemma ofMarkup (markup : Except MarkupError α) : (Pass.ofMarkup markup).Notes [] := by
  cases markup <;> exact fun _ _ _ => rfl

/-- Steps in sequence note their events in sequence. -/
lemma bind {x : Pass α} {f : α → Pass β} {es fs : List Event} (hx : x.Notes es)
    (hf : ∀ a, (f a).Notes fs) : (x >>= f).Notes (es ++ fs) := by
  intro ν b h
  rw [run_bind] at h ⊢
  cases hfirst : (x.run ν).result with
  | error e =>
    rw [hfirst] at h
    cases h
  | ok a =>
    simp only [hfirst] at h ⊢
    rw [hx ν a hfirst, hf a _ b h]

/-- What follows a step without notes of its own makes up all the notes. -/
lemma bind_of_nil {x : Pass α} {f : α → Pass β} {fs : List Event} (hx : x.Notes [])
    (hf : ∀ a, (f a).Notes fs) : (x >>= f).Notes fs := hx.bind hf

/-- A step that is not followed by further notes. -/
lemma bind_nil {x : Pass α} {f : α → Pass β} {es : List Event} (hx : x.Notes es)
    (hf : ∀ a, (f a).Notes []) : (x >>= f).Notes es := by
  have h := hx.bind hf
  rwa [List.append_nil] at h

lemma within {x : Pass α} {es : List Event} (hx : x.Notes es) (label : String) :
    (Pass.within label x).Notes es := by
  intro ν a h
  rw [run_within] at h ⊢
  cases henter : ν.enter label with
  | error e =>
    rw [henter] at h
    cases h
  | ok inner =>
    simp only [henter] at h ⊢
    exact hx inner a h

end Notes

end Pass

/-! ### The events of a tree -/

/-- The width and height that a tag gives to the document, if these can be written. -/
def Config.givenSize? (c : Config) (t : Tag) : Option (String × String) :=
  (c.rootSize? t).toOption.join

/-- The event of a tag that gives dimensions to the document. -/
def Config.captureNotes (c : Config) (t : Tag) : List Event :=
  ((c.givenSize? t).map fun size => Event.sizeCaptured t.name size.1 size.2).toList

namespace Node

mutual

/-- The events of writing a node, in document order.  Nothing is noted of what is below a child that
cannot be written. -/
def notes (c : Config) : Node → List Event
  | element t children => c.captureNotes t ++ notesList c children
  | text _ | comment _ | cdata _ | doctype _ | instruction _ => []
  | document children => [.childSkipped (document children).typeName]
  | bareAttribute a => [.childSkipped (bareAttribute a).typeName]
  | value v => [.childSkipped (value v).typeName]
  | «foreign» type kind children => [.childSkipped («foreign» type kind children).typeName]

/-- The events of writing some nodes, in document order. -/
def notesList (c : Config) : List Node → List Event
  | [] => []
  | n :: ns => notes c n ++ notesList c ns

end

variable (c : Config)

lemma notes_captureSize (t : Tag) : (captureSize c t).Notes (c.captureNotes t) := by
  unfold captureSize Config.captureNotes Config.givenSize?
  rcases c.rootSize? t with _ | _ | ⟨width, height⟩
  -- a size that cannot be written ends the pass, so its event is never due
  · exact Pass.Notes.fail _ _
  · exact Pass.Notes.pure _
  · exact Pass.Notes.bind (.note _) fun _ => .pure _

lemma notes_skipChild (typeName : String) :
    (skipChild c typeName).Notes [.childSkipped typeName] := by
  unfold skipChild
  split
  · exact .bind_of_nil .nesting fun _ => .fail _ _
  · exact Pass.Notes.bind (.note _) fun _ => .pure _

mutual

/-- Rendering a node notes the events of writing it. -/
lemma notes_renderNode (n : Node) : (renderNode c n).Notes (notes c n) := by
  cases n with
  | element t children =>
    rw [renderNode, notes]
    refine .bind (notes_captureSize c t) fun _ => .bind_of_nil .nesting fun _ => ?_
    split
    · next hempty =>
      rw [List.isEmpty_iff.mp hempty, notesList]
      exact .bind_of_nil (.ofMarkup _) fun _ => .pure _
    · exact .bind_nil (.within (notes_renderList children) _) fun _ =>
        .bind_of_nil (.ofMarkup _) fun _ => .pure _
  | text s =>
    rw [renderNode]
    exact .bind_of_nil (.ofMarkup _) fun _ => .pure _
  | comment | cdata | doctype | instruction =>
    rw [renderNode]
    exact .pure _
  | document | bareAttribute | value | «foreign» =>
    rw [renderNode]
    exact notes_skipChild c _

/-- Rendering some nodes notes the events of writing them. -/
lemma notes_renderList (ns : List Node) : (renderList c ns).Notes (notesList c ns) := by
  cases ns with
  | nil =>
    rw [renderList]
    exact .pure _
  | cons n ns =>
    rw [renderList]
    exact .bind (notes_renderNode n) fun _ => .bind_nil (notes_renderList ns) fun _ => .pure _

end

lemma notes_render (n : Node) : (render c n).Notes (notesList c n.children) := by
  unfold render
  split
  · next hempty =>
    rw [List.isEmpty_iff.mp hempty, notesList]
    exact .pure _
  · exact .within (notes_renderList c n.children) _

/-- A complete pass that succeeds begins with the warning that its limit was lowered, if it was, and
ends with the note that it has succeeded. -/
lemma events_serialize {n : Node} {stack : CallStack} {r : Rendering}
    (h : (serialize c n stack).result = .ok r) :
    (serialize c n stack).events = (stack.clamp c.maxDepth).2 ++
      (notesList c n.children ++ [.serialized r.data.length r.dimensions]) := by
  rw [result_serialize] at h
  have hnotes := notes_render c n _ r h
  have hpass : (serialize c n stack).events = (stack.clamp c.maxDepth).2 ++
      ((render c n >>= fun r => Pass.note (.serialized r.data.length r.dimensions) >>= fun _ =>
        pure r).run (Nesting.start c.maxDepth stack).1).events := rfl
  have hresult : ((render c n).run (Nesting.start c.maxDepth stack).1).result = .ok r := h
  rw [hpass, Pass.run_bind, hresult, hnotes]
  rfl

/-- Of the events of a complete pass that succeeds, those that come from the tree are the events of
writing it. -/
lemma filter_events_serialize {n : Node} {stack : CallStack} {r : Rendering} {p : Event → Bool}
    (h : (serialize c n stack).result = .ok r)
    (hclamp : ∀ requested frames granted, p (.depthClamped requested frames granted) = false)
    (hend : ∀ length dimensions, p (.serialized length dimensions) = false) :
    (serialize c n stack).events.filter p = (notesList c n.children).filter p := by
  have hwarning : (stack.clamp c.maxDepth).2.filter p = [] := by
    unfold CallStack.clamp
    split
    · exact List.filter_cons_of_neg (by simp [hclamp])
    · rfl
  have hlast : [Event.serialized r.data.length r.dimensions].filter p = [] :=
    List.filter_cons_of_neg (by simp [hend])
  rw [events_serialize c h, List.filter_append, List.filter_append, hwarning, hlast,
    List.nil_append, List.append_nil]

end Node

end SvgMarkup
