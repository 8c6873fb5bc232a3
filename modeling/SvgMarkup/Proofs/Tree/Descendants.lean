import Mathlib.Tactic.Common
import SvgMarkup.Tree.Basic

/-!
# Descendants

What lies below a container, what of it can be written, and how deeply containers with children are
nested in it.
-/

namespace SvgMarkup.Node

mutual

/-- All nodes below a node, in document order. -/
def descendants : Node → List Node
  | element _ children | document children | «foreign» _ _ children => descendantsList children
  | text _ | comment _ | cdata _ | doctype _ | instruction _ | bareAttribute _ | value _ => []

/-- Some nodes and all nodes below them, in document order. -/
def descendantsList : List Node → List Node
  | [] => []
  | n :: ns => n :: (descendants n ++ descendantsList ns)

end

mutual

/-- A node that can be written and all nodes that are written with it, in document order.  What is
below a node of none of the six kinds is not written. -/
def written : Node → List Node
  | element t children => element t children :: writtenList children
  | text s => [text s]
  | comment s => [comment s]
  | cdata s => [cdata s]
  | doctype s => [doctype s]
  | instruction i => [instruction i]
  | document _ | bareAttribute _ | value _ | «foreign» _ _ _ => []

/-- All nodes that are written with some nodes, in document order. -/
def writtenList : List Node → List Node
  | [] => []
  | n :: ns => written n ++ writtenList ns

end

mutual

/-- The length of the longest chain of nested elements with children in a node. -/
def height : Node → Nat
  | element _ children => if children.isEmpty then 0 else heightList children + 1
  | text _ | comment _ | cdata _ | doctype _ | instruction _ | document _ | bareAttribute _
  | value _ | «foreign» _ _ _ => 0

/-- The length of the longest chain of nested elements with children in some nodes. -/
def heightList : List Node → Nat
  | [] => 0
  | n :: ns => max (height n) (heightList ns)

end

/-- The length of the longest chain of nested containers with children that starts with a given
container. -/
def containerHeight (n : Node) : Nat := if n.children.isEmpty then 0 else heightList n.children + 1

lemma descendants_eq (n : Node) : n.descendants = descendantsList n.children := by
  cases n with
  | element | document | «foreign» => rw [descendants, children]
  | text | comment | cdata | doctype | instruction | bareAttribute | value => rfl

/-- What holds of all descendants holds of each node, of what is below it and of what follows it. -/
lemma forall_mem_descendantsList_cons {p : Node → Prop} {n : Node} {ns : List Node} :
    (∀ m ∈ descendantsList (n :: ns), p m) ↔
      p n ∧ (∀ m ∈ n.descendants, p m) ∧ ∀ m ∈ descendantsList ns, p m := by
  rw [descendantsList, List.forall_mem_cons, List.forall_mem_append]

mutual

/-- Only nodes of the six kinds are written with a node. -/
lemma kind?_of_mem_written {n m : Node} (h : m ∈ n.written) : m.kind? ≠ none := by
  cases n with
  | element t children =>
    rw [written, List.mem_cons] at h
    rcases h with rfl | hbelow
    · nofun
    · exact kind?_of_mem_writtenList hbelow
  | text | comment | cdata | doctype | instruction =>
    obtain rfl := List.mem_singleton.mp h
    nofun
  | document | bareAttribute | value | «foreign» => cases h

/-- Only nodes of the six kinds are written with some nodes. -/
lemma kind?_of_mem_writtenList {ns : List Node} {m : Node} (h : m ∈ writtenList ns) :
    m.kind? ≠ none := by
  cases ns with
  | nil => cases h
  | cons n ns =>
    rw [writtenList, List.mem_append] at h
    rcases h with h | h
    · exact kind?_of_mem_written h
    · exact kind?_of_mem_writtenList h

end

end SvgMarkup.Node
