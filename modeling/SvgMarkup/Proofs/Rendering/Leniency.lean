import SvgMarkup.Proofs.Rendering.Capture
import SvgMarkup.Proofs.Rendering.Markup
import SvgMarkup.Proofs.Tree.Pruning

/-!
# Lenient passes

A strict pass fails at the first stranger that it meets; a lenient one skips the strangers.  As long
as no container consists of strangers alone, that is the same as a strict pass over the tree without
them.  A container is treated as one with children as soon as it has any, so an element whose
children are all strangers is written with an empty body instead of as a single tag.

* `Node.resultIn_renderList_pruned`: lenient rendering is strict rendering of the pruned tree.
* `Node.renderList_hollowed`: rendering does not look into strangers.
* `Node.filter_isSkip_notesList`: the warnings of a lenient pass are the strangers of the tree.
-/

namespace SvgMarkup

namespace Config

/-- A configuration that skips strangers, and otherwise like a given one. -/
def lenient (c : Config) : Config := { c with strict := false }

/-- A configuration that refuses strangers, and otherwise like a given one. -/
def exacting (c : Config) : Config := { c with strict := true }

lemma lenient_writesLike_exacting (c : Config) : c.lenient.WritesLike c.exacting :=
  ⟨rfl, rfl, rfl, rfl, rfl, rfl, rfl, rfl⟩

end Config

/-! ### Lenient passes know no strangers -/

/-- A step that never fails because of a stranger. -/
def Pass.Tolerant {α : Type} (x : Pass α) : Prop :=
  ∀ ν typeName path, x.resultIn ν ≠ .error (.unknownNodeKind typeName path)

namespace Pass.Tolerant

variable {α β : Type}

lemma pure (a : α) : (Pure.pure a : Pass α).Tolerant := fun _ _ _ h => by cases h

lemma note (e : Event) : (Pass.note e).Tolerant := fun _ _ _ h => by cases h

lemma nesting : Pass.nesting.Tolerant := fun _ _ _ h => by cases h

lemma ofMarkup (markup : Except MarkupError α) : (Pass.ofMarkup markup).Tolerant := by
  intro ν typeName path h
  cases markup <;> cases h

lemma bind {x : Pass α} {f : α → Pass β} (hx : x.Tolerant) (hf : ∀ a, (f a).Tolerant) :
    (x >>= f).Tolerant := by
  intro ν typeName path h
  rw [resultIn, run_bind] at h
  cases hfirst : (x.run ν).result with
  | error e =>
    simp only [hfirst] at h
    obtain rfl := Except.error.inj h
    exact hx ν typeName path hfirst
  | ok a =>
    simp only [hfirst] at h
    exact hf a _ typeName path h

lemma within {x : Pass α} (hx : x.Tolerant) (label : String) : (Pass.within label x).Tolerant := by
  intro ν typeName path h
  rw [resultIn_within] at h
  split at h
  · cases h
  · exact hx _ typeName path h

lemma compositional : Compositional fun _ => Tolerant :=
  ⟨pure, note, nesting, ofMarkup, bind, within⟩

end Pass.Tolerant

namespace Node

variable (c : Config) (ν : Nesting)

lemma resultIn_skipChild_lenient (typeName : String) :
    (skipChild c.lenient typeName).resultIn ν = pure (.ofMarkup "") := by
  rw [resultIn_skipChild]
  exact if_neg Bool.false_ne_true

/-- Lenient rendering never fails because of a stranger. -/
lemma tolerant_render (n : Node) : (render c.lenient n).Tolerant := by
  refine render_of_compositional Pass.Tolerant.compositional (fun typeName ν _ _ h => ?_) n
  rw [resultIn_skipChild_lenient] at h
  cases h

/-! ### Lenient rendering of the tree is strict rendering of the pruned tree -/

/-- A stranger in front of other nodes adds nothing to a lenient rendering of these. -/
lemma resultIn_renderList_cons_of_stranger {n : Node} (hn : n.kind? = none) (ns : List Node) :
    (renderList c.lenient (n :: ns)).resultIn ν = (renderList c.lenient ns).resultIn ν := by
  rw [resultIn_renderList_cons, resultIn_renderNode_of_kind?_eq_none _ _ hn,
    resultIn_skipChild_lenient, pure_bind]
  cases hrest : (renderList c.lenient ns).resultIn ν with
  | error e => rfl
  | ok rest =>
    -- the dimensions of the rest are complete or missing, so merging leaves them as they are
    have happend := Rendering.empty_append_of_chosen (dimensions_renderList hrest)
    exact congrArg Except.ok happend

variable {c}

/-- What is written for a node without children does not depend on how strangers are treated. -/
lemma resultIn_renderNode_childless {ν : Nesting} {n : Node} (hn : n.kind? ≠ none)
    (hempty : n.children = []) :
    (renderNode c.lenient n).resultIn ν = (renderNode c.exacting n).resultIn ν := by
  have hwrites := c.lenient_writesLike_exacting
  cases n with
  | element t children =>
    obtain rfl : children = [] := hempty
    rw [resultIn_renderNode_empty, resultIn_renderNode_empty, hwrites.leaves.attributesMarkup,
      hwrites.leaves.emptyTag]
    rfl
  | text s => rw [resultIn_renderNode_text, resultIn_renderNode_text, hwrites.leaves.textMarkup]
  | comment s =>
    rw [resultIn_renderNode_comment, resultIn_renderNode_comment, hwrites.leaves.commentMarkup]
  | cdata s => rw [resultIn_renderNode_cdata, resultIn_renderNode_cdata, hwrites.leaves.cdataMarkup]
  | doctype s =>
    rw [resultIn_renderNode_doctype, resultIn_renderNode_doctype, hwrites.leaves.doctypeMarkup]
  | instruction i =>
    rw [resultIn_renderNode_instruction, resultIn_renderNode_instruction,
      hwrites.leaves.instructionMarkup]
  | document | bareAttribute | value | «foreign» => exact absurd rfl hn

mutual

/-- Lenient rendering of a node in which no element has strangers only is strict rendering of the
node without its strangers. -/
lemma resultIn_renderNode_pruned {n : Node} {ν : Nesting} (hn : n.kind? ≠ none)
    (hkeeps : ∀ m ∈ n.written, m.KeepsChild) :
    (renderNode c.lenient n).resultIn ν = (renderNode c.exacting n.pruned).resultIn ν := by
  have hwrites := c.lenient_writesLike_exacting
  cases n with
  | element t children =>
    rw [written, List.forall_mem_cons] at hkeeps
    obtain ⟨hchild, hbelow⟩ := hkeeps
    rw [pruned_element]
    by_cases hempty : children = []
    · subst hempty
      exact resultIn_renderNode_childless hn rfl
    · have hrest : prunedList children ≠ [] := prunedList_ne_nil (hchild hempty)
      rw [resultIn_renderNode_element _ _ _ hempty, resultIn_renderNode_element _ _ _ hrest,
        Pass.resultIn_within, Pass.resultIn_within, resultIn_renderList_pruned hbelow,
        hwrites.leaves.attributesMarkup, hwrites.openingTag, hwrites.closingTag]
      rfl
  | text | comment | cdata | doctype | instruction =>
    exact resultIn_renderNode_childless hn rfl
  | document | bareAttribute | value | «foreign» => exact absurd rfl hn

/-- Lenient rendering of nodes in which no element has strangers only is strict rendering of the
nodes without the strangers. -/
lemma resultIn_renderList_pruned {ns : List Node} {ν : Nesting}
    (hkeeps : ∀ m ∈ writtenList ns, m.KeepsChild) :
    (renderList c.lenient ns).resultIn ν = (renderList c.exacting (prunedList ns)).resultIn ν := by
  cases ns with
  | nil => rfl
  | cons n ns =>
    rw [writtenList, List.forall_mem_append] at hkeeps
    obtain ⟨hn, hns⟩ := hkeeps
    by_cases hkind : n.kind? = none
    · rw [resultIn_renderList_cons_of_stranger c ν hkind, prunedList_cons_of_stranger hkind,
        resultIn_renderList_pruned hns]
    · rw [prunedList_cons_of_known hkind, resultIn_renderList_cons, resultIn_renderList_cons,
        resultIn_renderNode_pruned hkind hn, resultIn_renderList_pruned hns]
      rfl

end

/-- Lenient rendering of a container is strict rendering of the container without its strangers, as
long as every container that has children has one that is no stranger. -/
lemma resultIn_render_pruned {n : Node} {ν : Nesting}
    (hkeeps : ∀ m ∈ n :: writtenList n.children, m.KeepsChild) :
    (render c.lenient n).resultIn ν = (render c.exacting n.pruned).resultIn ν := by
  obtain ⟨hchild, hbelow⟩ := List.forall_mem_cons.mp hkeeps
  have hchildren : n.pruned.children = prunedList n.children := children_replaceStrangers _ n
  by_cases hempty : n.children = []
  · have hpruned : n.pruned.children = [] := by
      rw [hchildren, hempty]
      rfl
    rw [resultIn_render_of_children_eq_nil _ _ hempty,
      resultIn_render_of_children_eq_nil _ _ hpruned]
  · have hpruned : n.pruned.children ≠ [] := by
      rw [hchildren]
      exact prunedList_ne_nil (hchild hempty)
    have hlabel : n.pruned.label = n.label := label_replaceStrangers _ n
    rw [resultIn_render_of_children_ne_nil _ _ hempty,
      resultIn_render_of_children_ne_nil _ _ hpruned, Pass.resultIn_within, Pass.resultIn_within,
      hlabel, hchildren, resultIn_renderList_pruned hbelow]

/-! ### Elements that hold strangers only -/

/-- Strangers alone are rendered as nothing. -/
lemma resultIn_renderList_of_strangers {ns : List Node} {ν : Nesting}
    (h : ∀ k ∈ ns, k.kind? = none) :
    (renderList c.lenient ns).resultIn ν = pure (.ofMarkup "") := by
  induction ns with
  | nil => exact resultIn_renderList_nil _ _
  | cons n ns ih =>
    obtain ⟨hn, hns⟩ := List.forall_mem_cons.mp h
    rw [resultIn_renderList_cons_of_stranger c ν hn, ih hns]

/-- An element whose children are all strangers is entered, if it may be, and is written with an
empty body between its tags. -/
lemma resultIn_renderNode_of_strangers (t : Tag) {children : List Node} {ν : Nesting}
    (hne : children ≠ []) (hall : ∀ k ∈ children, k.kind? = none) :
    (renderNode c.lenient (.element t children)).resultIn ν = do
      let own ← (c.ownDimensions t).mapError .markup
      if ν.limit ≤ ν.depth then .error (.nestingExceeded ⟨ν.limit, elementPath [ν.path, t.name]⟩)
      else
        let attributes ← (c.lenient.attributesMarkup t).mapError .markup
        return ⟨c.lenient.openingTag (ν.indent c.indent c.pretty) t attributes ++
          c.lenient.closingTag (ν.indent c.indent c.pretty) t, own⟩ := by
  rw [resultIn_renderNode_element _ _ _ hne, Pass.resultIn_within]
  have hown : c.lenient.ownDimensions t = c.ownDimensions t := rfl
  rw [hown]
  congr 1
  funext own
  split
  · rfl
  · rw [resultIn_renderList_of_strangers hall, pure_bind]
    simp only [Rendering.ofMarkup, String.append_empty, Dimensions.merged_unknown]
    rfl

/-! ### The warnings of a lenient pass -/

end Node

/-- Whether an event is the warning that a child is skipped. -/
def Event.isSkip : Event → Bool
  | childSkipped _ => true
  | depthClamped .. | sizeCaptured .. | serialized .. => false

/-- The warnings that some nodes are skipped. -/
def Node.skipNotes (ns : List Node) : List Event := ns.map fun m => .childSkipped m.typeName

lemma Config.filter_isSkip_captureNotes (c : Config) (t : Tag) :
    (c.captureNotes t).filter Event.isSkip = [] := by
  unfold captureNotes
  cases c.givenSize? t <;> rfl

namespace Node

mutual

lemma filter_isSkip_notes (c : Config) {n : Node} (hn : n.kind? ≠ none) :
    (notes c n).filter Event.isSkip = skipNotes n.strangers := by
  cases n with
  | element t children =>
    rw [notes, strangers, List.filter_append, Config.filter_isSkip_captureNotes, List.nil_append,
      filter_isSkip_notesList]
  | text | comment | cdata | doctype | instruction => rfl
  | document | bareAttribute | value | «foreign» => exact absurd rfl hn

/-- Of the events of writing some nodes, the warnings are one for each stranger. -/
lemma filter_isSkip_notesList (c : Config) (ns : List Node) :
    (notesList c ns).filter Event.isSkip = skipNotes (strangersList ns) := by
  cases ns with
  | nil => rfl
  | cons n ns =>
    rw [notesList, List.filter_append, filter_isSkip_notesList c ns]
    by_cases hn : n.kind? = none
    · have hnotes : notes c n = [.childSkipped n.typeName] := by
        cases n with
        | element | text | comment | cdata | doctype | instruction => cases hn
        | document | bareAttribute | value | «foreign» => rw [notes]
      rw [hnotes, strangersList_cons_of_stranger hn]
      rfl
    · rw [filter_isSkip_notes c hn, strangersList_cons_of_known hn]
      exact List.map_append.symm

end

/-! ### What is below a stranger -/

variable (c : Config)

mutual

lemma renderNode_hollowed {n : Node} (hn : n.kind? ≠ none) :
    renderNode c n.hollowed = renderNode c n := by
  cases n with
  | element t children =>
    rw [hollowed_element]
    by_cases hempty : children = []
    · subst hempty
      rfl
    · have hhollowed : hollowedList children ≠ [] := mt hollowedList_eq_nil_iff.mp hempty
      rw [renderNode, renderNode, renderList_hollowed children,
        List.isEmpty_eq_false_iff.mpr hempty, List.isEmpty_eq_false_iff.mpr hhollowed]
  | text | comment | cdata | doctype | instruction => rfl
  | document | bareAttribute | value | «foreign» => exact absurd rfl hn

/-- Rendering does not look into strangers. -/
lemma renderList_hollowed (ns : List Node) : renderList c (hollowedList ns) = renderList c ns := by
  cases ns with
  | nil => rfl
  | cons n ns =>
    by_cases hn : n.kind? = none
    · have hstranger : renderNode c («foreign» n.typeName none []) = renderNode c n := by
        rw [renderNode_of_kind?_eq_none c hn, renderNode_of_kind?_eq_none c rfl]
        rfl
      rw [hollowedList_cons_of_stranger hn, renderList, renderList, hstranger,
        renderList_hollowed ns]
    · rw [hollowedList_cons_of_known hn, renderList, renderList, renderNode_hollowed hn,
        renderList_hollowed ns]

end

/-- A pass over a container is the same whatever is below the strangers in it. -/
lemma serialize_hollowed (n : Node) (stack : CallStack) :
    serialize c n.hollowed stack = serialize c n stack := by
  have hchildren : n.hollowed.children = hollowedList n.children := children_replaceStrangers _ n
  have hlabel : n.hollowed.label = n.label := label_replaceStrangers _ n
  have hrender : render c n.hollowed = render c n := by
    unfold render
    rw [hchildren, hlabel, renderList_hollowed]
    by_cases hempty : n.children = []
    · rw [hempty]
      rfl
    · have hhollowed : hollowedList n.children ≠ [] := mt hollowedList_eq_nil_iff.mp hempty
      rw [List.isEmpty_eq_false_iff.mpr hempty, List.isEmpty_eq_false_iff.mpr hhollowed]
  unfold serialize
  rw [hrender]

/-! ### Strict passes that succeed -/

variable {c}

mutual

/-- A node that strict rendering accepts has no strangers in it, and lenient rendering gives the
same for it. -/
lemma lenient_of_exacting_renderNode {n : Node} {ν : Nesting} {r : Rendering}
    (h : (renderNode c.exacting n).resultIn ν = .ok r) :
    n.kind? ≠ none ∧ n.strangers = [] ∧ (renderNode c.lenient n).resultIn ν = .ok r := by
  have hwrites := c.lenient_writesLike_exacting
  cases n with
  | element t children =>
    by_cases hempty : children = []
    · subst hempty
      rw [← h]
      exact ⟨Option.some_ne_none _, rfl, resultIn_renderNode_childless (Option.some_ne_none _) rfl⟩
    · rw [resultIn_renderNode_element _ _ _ hempty] at h
      obtain ⟨own, hown, h⟩ := exists_of_bind_eq_ok h
      obtain ⟨body, hbody, h⟩ := exists_of_bind_eq_ok h
      rw [Pass.resultIn_within] at hbody
      split at hbody
      · cases hbody
      · next hlimit =>
        obtain ⟨hstrangers, hlenient⟩ := lenient_of_exacting_renderList hbody
        have hown' : (c.lenient.ownDimensions t).mapError RenderError.markup = .ok own := hown
        refine ⟨Option.some_ne_none _, by rw [strangers, hstrangers], ?_⟩
        rw [resultIn_renderNode_element _ _ _ hempty, Pass.resultIn_within, if_neg hlimit, hlenient,
          hown', hwrites.leaves.attributesMarkup, hwrites.openingTag, hwrites.closingTag]
        exact h
  | text | comment | cdata | doctype | instruction =>
    rw [← h]
    exact ⟨Option.some_ne_none _, rfl, resultIn_renderNode_childless (Option.some_ne_none _) rfl⟩
  | document | bareAttribute | value | «foreign» =>
    rw [resultIn_renderNode_of_kind?_eq_none _ _ rfl, resultIn_skipChild] at h
    cases h

/-- Nodes that strict rendering accepts have no strangers among them or in them, and lenient
rendering gives the same for them. -/
lemma lenient_of_exacting_renderList {ns : List Node} {ν : Nesting} {r : Rendering}
    (h : (renderList c.exacting ns).resultIn ν = .ok r) :
    strangersList ns = [] ∧ (renderList c.lenient ns).resultIn ν = .ok r := by
  cases ns with
  | nil => exact ⟨rfl, h⟩
  | cons n ns =>
    rw [resultIn_renderList_cons] at h
    obtain ⟨first, hfirst, h⟩ := exists_of_bind_eq_ok h
    obtain ⟨rest, hrest, h⟩ := exists_of_bind_eq_ok h
    obtain ⟨hkind, hn, hfirst⟩ := lenient_of_exacting_renderNode hfirst
    obtain ⟨hns, hrest⟩ := lenient_of_exacting_renderList hrest
    refine ⟨by rw [strangersList_cons_of_known hkind, hn, hns, List.append_nil], ?_⟩
    rw [resultIn_renderList_cons, hfirst, hrest]
    exact h

end

/-- A container that strict rendering accepts has no strangers in it, and lenient rendering gives
the same for it. -/
lemma lenient_of_exacting_render {n : Node} {ν : Nesting} {r : Rendering}
    (h : (render c.exacting n).resultIn ν = .ok r) :
    n.strangers = [] ∧ (render c.lenient n).resultIn ν = .ok r := by
  rw [strangers_eq]
  by_cases hempty : n.children = []
  · rw [resultIn_render_of_children_eq_nil _ _ hempty] at h ⊢
    rw [hempty]
    exact ⟨rfl, h⟩
  · rw [resultIn_render_of_children_ne_nil _ _ hempty, Pass.resultIn_within] at h ⊢
    split at h
    · cases h
    · next hlimit =>
      rw [if_neg hlimit]
      exact lenient_of_exacting_renderList h

/-! ### Complete passes -/

/-- A lenient pass never fails because of a stranger.  If every container that is written and has
children has one that is no stranger, the lenient pass gives what a strict pass gives for the tree
without the strangers, be it a result or an error; an element all of whose children are strangers is
written with an empty body between its tags.  A lenient pass that succeeds warns once of each
stranger, in document order, and what is below the strangers makes no difference to a pass.  Where a
strict pass succeeds, the lenient one gives the same result and does not warn of strangers. -/
theorem serialize_lenient (c : Config) (n : Node) (stack : CallStack) :
    (∀ typeName path,
      (serialize c.lenient n stack).result ≠ .error (.unknownNodeKind typeName path)) ∧
    ((∀ m ∈ n :: writtenList n.children, m.KeepsChild) →
      (serialize c.lenient n stack).result = (serialize c.exacting n.pruned stack).result) ∧
    (∀ (ν : Nesting) (t : Tag) (children : List Node), children ≠ [] →
      (∀ k ∈ children, k.kind? = none) →
      (renderNode c.lenient (.element t children)).resultIn ν = do
        let own ← (c.ownDimensions t).mapError .markup
        if ν.limit ≤ ν.depth then .error (.nestingExceeded ⟨ν.limit, elementPath [ν.path, t.name]⟩)
        else
          let attributes ← (c.lenient.attributesMarkup t).mapError .markup
          return ⟨c.lenient.openingTag (ν.indent c.indent c.pretty) t attributes ++
            c.lenient.closingTag (ν.indent c.indent c.pretty) t, own⟩) ∧
    (∀ r, (serialize c.lenient n stack).result = .ok r →
      (serialize c.lenient n stack).events.filter Event.isSkip =
        n.strangers.map fun m => .childSkipped m.typeName) ∧
    serialize c.lenient n.hollowed stack = serialize c.lenient n stack ∧
    (∀ r, (serialize c.exacting n stack).result = .ok r →
      (serialize c.lenient n stack).result = .ok r ∧
      (serialize c.lenient n stack).events.filter Event.isSkip = []) := by
  have hwarnings : ∀ r, (serialize c.lenient n stack).result = .ok r →
      (serialize c.lenient n stack).events.filter Event.isSkip = skipNotes n.strangers := by
    intro r hr
    rw [filter_events_serialize c.lenient hr (fun _ _ _ => rfl) fun _ _ => rfl,
      filter_isSkip_notesList, strangers_eq]
  refine ⟨fun typeName path => ?_, fun hkeeps => ?_,
    fun ν t _ hne hall => resultIn_renderNode_of_strangers t hne hall, hwarnings,
    serialize_hollowed _ n stack, fun r hr => ?_⟩
  · rw [result_serialize]
    exact tolerant_render c n _ typeName path
  · rw [result_serialize, result_serialize]
    exact resultIn_render_pruned hkeeps
  · rw [result_serialize] at hr
    obtain ⟨hstrangers, hlenient⟩ := lenient_of_exacting_render hr
    have hresult : (serialize c.lenient n stack).result = .ok r :=
      (result_serialize _ n stack).trans hlenient
    refine ⟨hresult, ?_⟩
    rw [hwarnings r hresult, hstrangers]
    rfl

/-- A document with strangers beside other nodes, at its top and in an element.  One of them says
that it is an element and holds a root element. -/
def guestTree : Node :=
  .document [
    .element ⟨"switch", [], by decide, List.nodup_nil⟩
      [.foreign "Box" (some "element") [.element (sizedTag "1" "1") []], .text "t"],
    .value (.int 5),
    .comment "c"]

/-- An element with nothing but a stranger in it. -/
def guestHouse : Node := .element ⟨"metadata", [], by decide, List.nodup_nil⟩ [.value (.int 5)]

theorem serialize_guestTree :
    (serialize Config.standard.lenient guestTree).result =
      (serialize Config.standard.exacting guestTree.pruned).result ∧
    (serialize Config.standard.lenient guestTree).result =
      .ok ⟨"<switch>t</switch><!--c-->", .unknown⟩ ∧
    (serialize Config.standard.lenient guestTree).events.filter Event.isSkip =
      [.childSkipped "Box", .childSkipped "int"] ∧
    (serialize Config.standard.lenient guestTree.pruned).events.filter Event.isSkip = [] ∧
    (renderNode Config.standard.lenient guestHouse).resultIn ⟨1, 0, []⟩ =
      .ok ⟨"<metadata></metadata>", .unknown⟩ := by
  have hkeeps : ∀ m ∈ guestTree :: writtenList guestTree.children, m.KeepsChild := by
    decide +kernel
  have hresult : (serialize Config.standard.exacting guestTree.pruned).result =
      .ok ⟨"<switch>t</switch><!--c-->", .unknown⟩ := by
    decide +kernel
  have hlenient := (serialize_lenient Config.standard guestTree {}).2.1 hkeeps
  refine ⟨hlenient, hlenient.trans hresult, ?_, ?_, ?_⟩
  · exact (serialize_lenient Config.standard guestTree {}).2.2.2.1 _ (hlenient.trans hresult)
  · exact ((serialize_lenient Config.standard guestTree.pruned {}).2.2.2.2.2 _ hresult).2
  · exact (serialize_lenient Config.standard guestTree {}).2.2.1 ⟨1, 0, []⟩ _ [.value (.int 5)]
      (List.cons_ne_nil _ _) (by decide)

end Node

end SvgMarkup
