import SvgMarkup.Proofs.Tree.Descendants

/-!
# Strangers

A child of none of the six kinds is a stranger in its tree.  Strangers are found in the container
that is written and in the elements below it; what is below a stranger is not part of the tree.

* `Node.strangers` lists the strangers in a container.
* `Node.pruned` is a container without its strangers.
* `Node.hollowed` is a container with strangers that have nothing in them.
-/

namespace SvgMarkup.Node

mutual

/-- The strangers in a container, in document order. -/
def strangers : Node → List Node
  | element _ children | document children | «foreign» _ _ children => strangersList children
  | text _ | comment _ | cdata _ | doctype _ | instruction _ | bareAttribute _ | value _ => []

/-- The strangers among some nodes and in these, in document order. -/
def strangersList : List Node → List Node
  | [] => []
  | n :: ns => (if n.kind?.isSome then strangers n else [n]) ++ strangersList ns

end

mutual

/-- A container with some nodes in the place of each of its strangers. -/
def replaceStrangers (f : Node → List Node) : Node → Node
  | element t children => element t (replaceStrangersList f children)
  | document children => document (replaceStrangersList f children)
  | «foreign» type kind children => «foreign» type kind (replaceStrangersList f children)
  | text s => text s
  | comment s => comment s
  | cdata s => cdata s
  | doctype s => doctype s
  | instruction i => instruction i
  | bareAttribute a => bareAttribute a
  | value v => value v

/-- Some nodes with others in the place of each of the strangers among them and in them. -/
def replaceStrangersList (f : Node → List Node) : List Node → List Node
  | [] => []
  | n :: ns =>
    (if n.kind?.isSome then [replaceStrangers f n] else f n) ++ replaceStrangersList f ns

end

/-- A container without its strangers. -/
def pruned (n : Node) : Node := n.replaceStrangers fun _ => []

/-- Some nodes without the strangers among them and in them. -/
def prunedList (ns : List Node) : List Node := replaceStrangersList (fun _ => []) ns

/-- A container in which nothing is below the strangers: each is an object of the same type without
any contents. -/
def hollowed (n : Node) : Node := n.replaceStrangers fun m => [«foreign» m.typeName none []]

/-- Some nodes in which nothing is below the strangers. -/
def hollowedList (ns : List Node) : List Node :=
  replaceStrangersList (fun m => [«foreign» m.typeName none []]) ns

section

variable (f : Node → List Node)

lemma children_replaceStrangers (n : Node) :
    (n.replaceStrangers f).children = replaceStrangersList f n.children := by
  cases n with
  | element | document | «foreign» => rw [replaceStrangers, children, children]
  | text | comment | cdata | doctype | instruction | bareAttribute | value => rfl

lemma label_replaceStrangers (n : Node) : (n.replaceStrangers f).label = n.label := by
  cases n with
  | element => rw [replaceStrangers, label, label]
  | document | «foreign» => rw [replaceStrangers]; rfl
  | text | comment | cdata | doctype | instruction | bareAttribute | value => rfl

end

lemma strangers_eq (n : Node) : n.strangers = strangersList n.children := by
  cases n with
  | element | document | «foreign» => rw [strangers, children]
  | text | comment | cdata | doctype | instruction | bareAttribute | value => rfl

lemma pruned_element (t : Tag) (children : List Node) :
    (element t children).pruned = element t (prunedList children) := by
  rw [pruned, replaceStrangers]
  rfl

lemma hollowed_element (t : Tag) (children : List Node) :
    (element t children).hollowed = element t (hollowedList children) := by
  rw [hollowed, replaceStrangers]
  rfl

lemma strangersList_cons_of_known {n : Node} (h : n.kind? ≠ none) (ns : List Node) :
    strangersList (n :: ns) = n.strangers ++ strangersList ns := by
  rw [strangersList, if_pos (Option.isSome_iff_ne_none.mpr h)]

lemma strangersList_cons_of_stranger {n : Node} (h : n.kind? = none) (ns : List Node) :
    strangersList (n :: ns) = n :: strangersList ns := by
  rw [strangersList, h]
  rfl

lemma prunedList_cons_of_known {n : Node} (h : n.kind? ≠ none) (ns : List Node) :
    prunedList (n :: ns) = n.pruned :: prunedList ns := by
  rw [prunedList, replaceStrangersList, if_pos (Option.isSome_iff_ne_none.mpr h)]
  rfl

lemma prunedList_cons_of_stranger {n : Node} (h : n.kind? = none) (ns : List Node) :
    prunedList (n :: ns) = prunedList ns := by
  rw [prunedList, replaceStrangersList, h]
  rfl

lemma hollowedList_cons_of_known {n : Node} (h : n.kind? ≠ none) (ns : List Node) :
    hollowedList (n :: ns) = n.hollowed :: hollowedList ns := by
  rw [hollowedList, replaceStrangersList, if_pos (Option.isSome_iff_ne_none.mpr h)]
  rfl

lemma hollowedList_cons_of_stranger {n : Node} (h : n.kind? = none) (ns : List Node) :
    hollowedList (n :: ns) = «foreign» n.typeName none [] :: hollowedList ns := by
  rw [hollowedList, replaceStrangersList, h]
  rfl

lemma hollowedList_eq_nil_iff {ns : List Node} : hollowedList ns = [] ↔ ns = [] := by
  cases ns with
  | nil => exact ⟨fun _ => rfl, fun _ => rfl⟩
  | cons n ns =>
    by_cases h : n.kind? = none
    · simp [hollowedList_cons_of_stranger h]
    · simp [hollowedList_cons_of_known h]

/-- Whether a container that has children has one that is no stranger. -/
def KeepsChild (n : Node) : Prop := n.children ≠ [] → ∃ k ∈ n.children, k.kind? ≠ none

instance : DecidablePred KeepsChild := fun n =>
  inferInstanceAs (Decidable (n.children ≠ [] → ∃ k ∈ n.children, k.kind? ≠ none))

/-- Pruning leaves something of nodes that are not all strangers. -/
lemma prunedList_ne_nil {ns : List Node} (h : ∃ k ∈ ns, k.kind? ≠ none) : prunedList ns ≠ [] := by
  obtain ⟨k, hk, hkind⟩ := h
  induction ns with
  | nil => cases hk
  | cons n ns ih =>
    by_cases hn : n.kind? = none
    · rw [prunedList_cons_of_stranger hn]
      rcases List.mem_cons.mp hk with rfl | hk
      · exact absurd hn hkind
      · exact ih hk
    · rw [prunedList_cons_of_known hn]
      exact List.cons_ne_nil _ _

end SvgMarkup.Node
