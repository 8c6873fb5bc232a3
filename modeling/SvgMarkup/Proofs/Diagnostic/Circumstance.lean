import Mathlib.Data.List.Forall2
import Mathlib.Tactic.Common
import SvgMarkup.Diagnostic.Presentation
import SvgMarkup.Proofs.Diagnostic.Paragraphs

/-!
# The circumstances of a fault

Besides its message a diagnostic may hold the place of a fault, an option, an expected and a
received type, and advice.  Annotated messages and objects list those of them that are known, always
in the same order, each in a form that tells which one it is: in a line that begins with a label or
in a member with a key.

* `Circumstance.mem_listed_iff`: which circumstances are known can be seen from such a list.
* `Presentation.annotations_eq_listed`, `Presentation.members_eq`: the lists of both forms.
* `Presentation.renderAll_eq_iff`: lists of diagnostics are told apart by their lines.
-/

namespace SvgMarkup

/-- Texts none of which is the beginning of another one are told apart, whatever follows them. -/
lemma Text.append_inj_of_prefix {α : Type} {f : α → String} {l : List α}
    (hall : ∀ a ∈ l, ∀ b ∈ l, (f a).toList <+: (f b).toList → a = b) {a b : α} (ha : a ∈ l)
    (hb : b ∈ l) {s t : String} (h : f a ++ s = f b ++ t) : a = b ∧ s = t := by
  have hlists : (f a).toList ++ s.toList = (f b).toList ++ t.toList := by
    rw [← String.toList_append, h, String.toList_append]
  have hab : a = b := by
    rcases List.prefix_or_prefix_of_prefix (List.prefix_append (f a).toList s.toList)
      (hlists ▸ List.prefix_append (f b).toList t.toList) with hpre | hpre
    · exact hall a ha b hb hpre
    · exact (hall b hb a ha hpre).symm
  subst hab
  exact ⟨rfl, String.toList_injective (List.append_cancel_left hlists)⟩

namespace Diagnostic

/-- What a diagnostic may hold besides a message. -/
inductive Circumstance where
  | place
  | option
  | expected
  | received
  | advice
deriving DecidableEq, Repr

namespace Circumstance

/-- The circumstances, in the order in which they are listed. -/
def all : List Circumstance := [place, option, expected, received, advice]

theorem mem_all (k : Circumstance) : k ∈ all := by
  cases k <;> decide

/-- The text that a diagnostic holds for a circumstance. -/
def text? (k : Circumstance) (d : Diagnostic) : Option String :=
  match k with
  | place => d.nodePath
  | option => d.optionName
  | expected => d.expectedType
  | received => d.receivedType
  | advice => d.hint

/-- The text of a circumstance, if there is one.  An empty text is none. -/
def known (k : Circumstance) (d : Diagnostic) : Option String :=
  Presentation.shown (k.text? d)

lemma known_eq_some_iff {d : Diagnostic} {k : Circumstance} {s : String} :
    k.known d = some s ↔ k.text? d = some s ∧ s ≠ "" := by
  rw [known, Presentation.shown, Option.filter_eq_some_iff, bne_iff_ne]

/-! ### Lists of known circumstances -/

/-- The known circumstances of a fault, each of them written in the same way. -/
def listed {α : Type} (write : Circumstance → String → α) (d : Diagnostic) : List α :=
  all.filterMap fun k => (k.known d).map (write k)

section Listed

variable {α : Type} {write : Circumstance → String → α}

/-- If the written forms are told apart, a list of them tells what is known. -/
lemma mem_listed_iff (h : ∀ j k s t, write j s = write k t → j = k ∧ s = t) {d : Diagnostic}
    {k : Circumstance} {s : String} : write k s ∈ listed write d ↔ k.known d = some s := by
  rw [listed, List.mem_filterMap]
  constructor
  · rintro ⟨j, -, hj⟩
    obtain ⟨t, ht, heq⟩ := Option.map_eq_some_iff.mp hj
    obtain ⟨rfl, rfl⟩ := h j k t s heq
    exact ht
  · intro hs
    exact ⟨k, mem_all k, by rw [hs, Option.map_some]⟩

lemma known_eq_of_listed_eq (h : ∀ j k s t, write j s = write k t → j = k ∧ s = t)
    {d e : Diagnostic} (heq : listed write d = listed write e) (k : Circumstance) :
    k.known d = k.known e := by
  refine Option.ext fun s => ?_
  rw [← mem_listed_iff h, heq, mem_listed_iff h]

lemma listed_congr {d e : Diagnostic} (h : ∀ k : Circumstance, k.known d = k.known e) :
    listed write d = listed write e := by
  simp only [listed, h]

end Listed

/-! ### The two forms -/

/-- The label in front of a circumstance in an annotated message. -/
def label : Circumstance → String
  | place => "  --> "
  | option => "  = option: "
  | expected => "  = expected: "
  | received => "  = received: "
  | advice => "  = help: "

/-- The key of the member for a circumstance in an object. -/
def key : Circumstance → String
  | place => "node_path"
  | option => "option_name"
  | expected => "expected_type"
  | received => "received_type"
  | advice => "hint"

lemma key_injective : Function.Injective key := by
  have hall : ∀ j ∈ all, ∀ k ∈ all, j.key = k.key → j = k := by decide
  intro j k h
  exact hall j (mem_all j) k (mem_all k) h

/-- The line for a circumstance in an annotated message. -/
def line (k : Circumstance) (s : String) : String := k.label ++ s

/-- The member for a circumstance in an object. -/
def member (k : Circumstance) (s : String) : String × Json.Scalar := (k.key, .text s)

lemma line_inj (j k : Circumstance) (s t : String) (h : line j s = line k t) : j = k ∧ s = t := by
  have hall : ∀ j ∈ all, ∀ k ∈ all, j.label.toList <+: k.label.toList → j = k := by decide
  exact Text.append_inj_of_prefix hall (mem_all j) (mem_all k) h

lemma member_inj (j k : Circumstance) (s t : String) (h : member j s = member k t) :
    j = k ∧ s = t := by
  obtain ⟨hkey, htext⟩ := Prod.mk.inj h
  exact ⟨key_injective hkey, Json.Scalar.text.inj htext⟩

end Circumstance

/-- Two diagnostics tell the same of a fault, except perhaps how severe it is. -/
structure Alike (d e : Diagnostic) : Prop where
  code : d.code = e.code
  message : d.message = e.message
  known : ∀ k : Circumstance, k.known d = k.known e

namespace Presentation

variable {p : Presentation}

lemma bounded_of_not_sanitize (h : p.sanitize = false) (s : String) : p.bounded s = s := by
  rw [bounded, if_neg (by simp [h])]

/-- If texts are not cut, the annotations are the lines for the known circumstances. -/
lemma annotations_eq_listed (h : p.sanitize = false) (d : Diagnostic) :
    p.annotations d = Circumstance.listed Circumstance.line d := by
  simp only [annotations, bounded_of_not_sanitize h]
  rfl

/-- If texts are not cut, the members of an object are four that are always there and those for the
known circumstances. -/
lemma members_eq (h : p.sanitize = false) (d : Diagnostic) :
    p.members d =
      [("code", .text d.code.name), ("code_value", .number d.code.number),
        ("message", .text d.message), ("severity", .text d.severity)] ++
      Circumstance.listed Circumstance.member d := by
  simp only [members, bounded_of_not_sanitize h]
  rfl

/-- Lists of diagnostics that are shown as paragraphs are told apart if their lines are. -/
lemma renderAll_eq_iff {lines : Diagnostic → List String}
    (hlines : ∀ d, p.render d = String.intercalate "\n" (lines d)) {ds es : List Diagnostic}
    (hds : ∀ d ∈ ds, Paragraphs.IsParagraph (lines d))
    (hes : ∀ e ∈ es, Paragraphs.IsParagraph (lines e)) :
    p.renderAll ds = p.renderAll es ↔ List.Forall₂ (fun d e => lines d = lines e) ds es := by
  have htext (fs : List Diagnostic) : p.renderAll fs = Paragraphs.text (fs.map lines) := by
    rw [renderAll, Paragraphs.text, List.map_map, funext hlines]
    rfl
  rw [htext, htext, Paragraphs.text_map_eq_iff hds hes]

end Presentation

end Diagnostic

end SvgMarkup
