import SvgMarkup.Proofs.Rendering.Capture
import SvgMarkup.Proofs.Rendering.Markup

/-!
# The composition of rendering

What is written for two lists of nodes one after the other is what is written for each of them, and
the first part that fails decides the failure.  Without layout the markup of a container does not
depend on where it stands: only the room that is left for further containers matters, and only for
whether it is enough.

* `Node.resultIn_renderList_append`, `Node.resultIn_render_append` put renderings together.
* `Node.resultIn_renderList_of_room` moves compact renderings to places with more room.
-/

namespace SvgMarkup

namespace Rendering

variable (policy : CapturePolicy)

lemma append_assoc (r s t : Rendering) :
    (r.append policy s).append policy t = r.append policy (s.append policy t) := by
  simp only [append, String.append_assoc, Dimensions.merged_assoc]

lemma append_empty (r : Rendering) : r.append policy (ofMarkup "") = r := by
  rw [append, ofMarkup, String.append_empty, Dimensions.merged_unknown]

end Rendering

namespace Node

/-! ### One after the other -/

section

variable (c : Config)

/-- Nodes in front of others are rendered first, and their failure is the failure of all. -/
lemma resultIn_renderList_append (ns ms : List Node) (ν : Nesting) :
    (renderList c (ns ++ ms)).resultIn ν = (do
      let first ← (renderList c ns).resultIn ν
      let rest ← (renderList c ms).resultIn ν
      return first.append c.capture rest) := by
  induction ns with
  | nil =>
    rw [List.nil_append, resultIn_renderList_nil, pure_bind]
    cases hrest : (renderList c ms).resultIn ν with
    | error e => rfl
    | ok rest =>
      have happend := Rendering.empty_append_of_chosen (dimensions_renderList hrest)
      exact congrArg Except.ok happend.symm
  | cons n ns ih =>
    rw [List.cons_append, resultIn_renderList_cons, resultIn_renderList_cons, ih]
    simp only [bind_assoc, pure_bind, Rendering.append_assoc]

/-- A document is rendered like the documents that its children are divided into, one after the
other. -/
lemma resultIn_render_append (ns ms : List Node) (ν : Nesting) :
    (render c (document (ns ++ ms))).resultIn ν = (do
      let first ← (render c (document ns)).resultIn ν
      let rest ← (render c (document ms)).resultIn ν
      return first.append c.capture rest) := by
  by_cases hns : ns = []
  · subst hns
    rw [List.nil_append, resultIn_render_of_children_eq_nil (n := document []) c ν rfl, pure_bind]
    cases hrest : (render c (document ms)).resultIn ν with
    | error e => rfl
    | ok rest =>
      have happend := Rendering.empty_append_of_chosen (dimensions_render hrest)
      exact congrArg Except.ok happend.symm
  by_cases hms : ms = []
  · subst hms
    rw [List.append_nil, resultIn_render_of_children_eq_nil (n := document []) c ν rfl]
    cases (render c (document ns)).resultIn ν with
    | error e => rfl
    | ok first => exact congrArg Except.ok (Rendering.append_empty c.capture first).symm
  have hall : ns ++ ms ≠ [] := fun h => hns (List.append_eq_nil_iff.mp h).1
  rw [resultIn_render_of_children_ne_nil (n := document (ns ++ ms)) c ν hall,
    resultIn_render_of_children_ne_nil (n := document ns) c ν hns,
    resultIn_render_of_children_ne_nil (n := document ms) c ν hms]
  simp only [Pass.resultIn_within, label, children]
  split
  · rfl
  · exact resultIn_renderList_append c ns ms _

end

/-! ### Compact output at different places -/

end Node

/-- The number of containers that may still be entered. -/
def Nesting.room (ν : Nesting) : Int := ν.limit - ν.depth

lemma Nesting.room_inside (ν : Nesting) (label : String) :
    (ν.inside label).room = ν.room - 1 := by
  simp only [room, inside]
  omega

/-- A step inside a container that succeeds where there is less room succeeds where there is more,
if that holds of the step itself. -/
lemma Pass.resultIn_within_of_room {α : Type} {body : Pass α} {label label' : String}
    {ν ν' : Nesting} {a : α} (hroom : ν.room ≤ ν'.room)
    (hbody : body.resultIn (ν.inside label) = .ok a → body.resultIn (ν'.inside label') = .ok a)
    (h : (Pass.within label body).resultIn ν = .ok a) :
    (Pass.within label' body).resultIn ν' = .ok a := by
  rw [resultIn_within] at h
  split at h
  · cases h
  · next hentered =>
    have hentered' : ¬ ν'.limit ≤ ν'.depth := by
      simp only [Nesting.room] at hroom
      omega
    rw [resultIn_within, if_neg hentered']
    exact hbody h

namespace Node

variable {c : Config}

mutual

/-- A compact rendering of a node that succeeds where there is less room is the rendering of the
node where there is more. -/
lemma resultIn_renderNode_of_room (hc : c.pretty = false) {n : Node} {ν ν' : Nesting}
    {r : Rendering} (hroom : ν.room ≤ ν'.room) (h : (renderNode c n).resultIn ν = .ok r) :
    (renderNode c n).resultIn ν' = .ok r := by
  cases n with
  | element t children =>
    by_cases hempty : children = []
    · subst hempty
      rw [resultIn_renderNode_empty, hc] at h ⊢
      exact h
    · rw [resultIn_renderNode_element _ _ _ hempty, hc] at h ⊢
      obtain ⟨own, hown, h⟩ := exists_of_bind_eq_ok h
      obtain ⟨body, hbody, h⟩ := exists_of_bind_eq_ok h
      have hroom' : (ν.inside t.name).room ≤ (ν'.inside t.name).room := by
        rw [Nesting.room_inside, Nesting.room_inside]
        omega
      have hbody' :=
        Pass.resultIn_within_of_room hroom (resultIn_renderList_of_room hc hroom') hbody
      rw [hown]
      change ((Pass.within t.name (renderList c children)).resultIn ν' >>= _) = _
      rw [hbody']
      exact h
  | text s =>
    rw [resultIn_renderNode_text] at h ⊢
    exact h
  | comment | cdata | doctype | instruction =>
    rw [renderNode] at h ⊢
    exact h
  | document | bareAttribute | value | «foreign» =>
    rw [resultIn_renderNode_of_kind?_eq_none _ _ rfl, resultIn_skipChild] at h ⊢
    split at h
    · cases h
    · next hstrict =>
      rw [if_neg hstrict]
      exact h

/-- A compact rendering of some nodes that succeeds where there is less room is the rendering of the
nodes where there is more. -/
lemma resultIn_renderList_of_room (hc : c.pretty = false) {ns : List Node} {ν ν' : Nesting}
    {r : Rendering} (hroom : ν.room ≤ ν'.room) (h : (renderList c ns).resultIn ν = .ok r) :
    (renderList c ns).resultIn ν' = .ok r := by
  cases ns with
  | nil =>
    rw [resultIn_renderList_nil] at h ⊢
    exact h
  | cons n ns =>
    rw [resultIn_renderList_cons] at h ⊢
    obtain ⟨first, hfirst, h⟩ := exists_of_bind_eq_ok h
    obtain ⟨rest, hrest, h⟩ := exists_of_bind_eq_ok h
    rw [resultIn_renderNode_of_room hc hroom hfirst, resultIn_renderList_of_room hc hroom hrest]
    exact h

end

section

variable (hc : c.pretty = false)

include hc

lemma resultIn_render_of_room {n : Node} {ν ν' : Nesting} {r : Rendering}
    (hroom : ν.room ≤ ν'.room) (h : (render c n).resultIn ν = .ok r) :
    (render c n).resultIn ν' = .ok r := by
  by_cases hempty : n.children = []
  · rw [resultIn_render_of_children_eq_nil _ _ hempty] at h ⊢
    exact h
  · rw [resultIn_render_of_children_ne_nil _ _ hempty] at h ⊢
    have hroom' : (ν.inside n.label).room ≤ (ν'.inside n.label).room := by
      rw [Nesting.room_inside, Nesting.room_inside]
      omega
    exact Pass.resultIn_within_of_room hroom (resultIn_renderList_of_room hc hroom') h

/-- A compact rendering of a document with a single element is the rendering of the element between
its tags. -/
lemma exists_resultIn_render_of_singleton {t : Tag} {children : List Node} (hne : children ≠ [])
    {ν : Nesting} {r : Rendering}
    (h : (render c (document [element t children])).resultIn ν = .ok r) :
    ∃ attributes body, c.attributesMarkup t = .ok attributes ∧
      (render c (element t children)).resultIn ν = .ok body ∧
      r.data = c.delimiter .tagOpenStart ++ t.name ++ attributes ++ c.delimiter .tagOpenEnd ++
        body.data ++ (c.delimiter .tagCloseStart ++ t.name ++ c.delimiter .tagCloseEnd) := by
  have hchildren : (document [element t children]).children ≠ [] := List.cons_ne_nil _ _
  rw [resultIn_render_of_children_ne_nil c ν hchildren, Pass.resultIn_within] at h
  split at h
  · cases h
  · simp only [label, SvgMarkup.Node.children] at h
    rw [resultIn_renderList_cons, resultIn_renderNode_element _ _ _ hne, hc] at h
    obtain ⟨first, hfirst, h⟩ := exists_of_bind_eq_ok h
    obtain ⟨own, -, hfirst⟩ := exists_of_bind_eq_ok hfirst
    obtain ⟨body, hbody, hfirst⟩ := exists_of_bind_eq_ok hfirst
    obtain ⟨attributes, hattributes, hfirst⟩ := exists_of_bind_eq_ok hfirst
    obtain rfl := Except.ok.inj hfirst
    obtain rfl := Except.ok.inj h
    refine ⟨attributes, body, eq_ok_of_mapError_eq_ok hattributes, ?_, ?_⟩
    · -- without the document around it there is room for one container more
      have hroom : (ν.inside "").room ≤ ν.room := by
        rw [Nesting.room_inside]
        omega
      have hroom' : ((ν.inside "").inside t.name).room ≤ (ν.inside t.name).room := by
        rw [Nesting.room_inside, Nesting.room_inside, Nesting.room_inside]
        omega
      rw [resultIn_render_of_children_ne_nil (n := element t children) c ν hne]
      exact Pass.resultIn_within_of_room hroom (resultIn_renderList_of_room hc hroom') hbody
    · have hindent : Nesting.indent (ν.inside "") c.indent false = "" := rfl
      simp only [Rendering.append, Rendering.ofMarkup, String.append_empty]
      rw [hindent, Config.openingTag_of_not_pretty hc, Config.closingTag_of_not_pretty hc]

end

/-- Rendering is compositional.  Inside any containers, a document is rendered like the documents
that its children are divided into, one after the other: the markup is put together, the dimensions
are merged under the policy, and the first of the two failures is the failure.  Without layout, the
rendering of a container is the same wherever it succeeds, and the markup of a document with a
single element that has children is that of the element on its own between its tags. -/
theorem render_composes (c : Config) :
    (∀ (ns ms : List Node) (ν : Nesting),
      (render c (document (ns ++ ms))).resultIn ν = (do
        let first ← (render c (document ns)).resultIn ν
        let rest ← (render c (document ms)).resultIn ν
        return ⟨first.data ++ rest.data, first.dimensions.merged rest.dimensions c.capture⟩)) ∧
    (c.pretty = false →
      (∀ (n : Node) (ν ν' : Nesting) (r r' : Rendering), (render c n).resultIn ν = .ok r →
        (render c n).resultIn ν' = .ok r' → r = r') ∧
      ∀ (t : Tag) (children : List Node) (stack : CallStack) (r : Rendering), children ≠ [] →
        (serialize c (document [element t children]) stack).result = .ok r →
        ∃ attributes body, c.attributesMarkup t = .ok attributes ∧
          (serialize c (element t children) stack).result = .ok body ∧
          r.data = c.delimiter .tagOpenStart ++ t.name ++ attributes ++ c.delimiter .tagOpenEnd ++
            body.data ++ (c.delimiter .tagCloseStart ++ t.name ++ c.delimiter .tagCloseEnd)) := by
  refine ⟨resultIn_render_append c, fun hc => ⟨?_, ?_⟩⟩
  · intro n ν ν' r r' hr hr'
    -- of two places one has at least the room of the other
    rcases Int.le_total ν.room ν'.room with hroom | hroom
    · have h := resultIn_render_of_room hc hroom hr
      exact Except.ok.inj (h.symm.trans hr')
    · have h := resultIn_render_of_room hc hroom hr'
      exact Except.ok.inj (hr.symm.trans h)
  · intro t children stack r hne hr
    rw [result_serialize] at hr
    obtain ⟨attributes, body, hattributes, hbody, hdata⟩ :=
      exists_resultIn_render_of_singleton hc hne hr
    refine ⟨attributes, body, hattributes, ?_, hdata⟩
    rw [result_serialize]
    exact hbody

/-- The tag of a root element with a size that has to be escaped. -/
def frameTag : Tag := sizedTag "8" "<6>"

/-- The contents of a root element: a comment, another root element and text. -/
def frameBody : List Node := [.comment "c", .element frameTag [], .text "a & b"]

theorem render_framedElement :
    Config.standard.pretty = false ∧ frameBody ≠ [] ∧
    (∃ r r', (render .standard (element frameTag frameBody)).resultIn ⟨9, 0, []⟩ = .ok r ∧
      (render .standard (element frameTag frameBody)).resultIn ⟨7, 4, ["", "g", "", "a"]⟩ = .ok r' ∧
      r = r') ∧
    ∃ r body, (serialize .standard (document [element frameTag frameBody])).result = .ok r ∧
      (serialize .standard (element frameTag frameBody)).result = .ok body ∧
      r.data = "<svg width=\"8\" height=\"&lt;6&gt;\">" ++ body.data ++ "</svg>" := by
  have hcompact : Config.standard.pretty = false := rfl
  have hne : frameBody ≠ [] := List.cons_ne_nil _ _
  have hok : ((render .standard (element frameTag frameBody)).resultIn ⟨9, 0, []⟩).isOk ∧
      ((render .standard (element frameTag frameBody)).resultIn ⟨7, 4, ["", "g", "", "a"]⟩).isOk ∧
      (serialize .standard (document [element frameTag frameBody])).result.isOk := by
    decide +kernel
  obtain ⟨hok, hok', hokDocument⟩ := hok
  obtain ⟨r, hr⟩ := exists_eq_ok_of_isOk hok
  obtain ⟨r', hr'⟩ := exists_eq_ok_of_isOk hok'
  obtain ⟨s, hs⟩ := exists_eq_ok_of_isOk hokDocument
  obtain ⟨hsame, hsplit⟩ := (render_composes .standard).2 hcompact
  obtain ⟨attributes, body, hattributes, hbody, hdata⟩ := hsplit _ _ _ _ hne hs
  have hattributes' : Config.standard.attributesMarkup frameTag =
      .ok " width=\"8\" height=\"&lt;6&gt;\"" := by
    decide +kernel
  obtain rfl := Except.ok.inj (hattributes.symm.trans hattributes')
  exact ⟨hcompact, hne, ⟨r, r', hr, hr', hsame _ _ _ _ _ hr hr'⟩, s, body, hs, hbody, hdata⟩

end Node

end SvgMarkup
