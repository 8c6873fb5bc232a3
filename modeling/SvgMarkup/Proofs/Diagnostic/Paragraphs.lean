import Mathlib.Data.List.Forall2
import Mathlib.Tactic.Common

/-!
# Paragraphs

Several messages of some lines each are shown as paragraphs: line breaks stand between the lines of
a paragraph and blank lines between paragraphs.  The messages can be told from the text if no line
of them is blank or has a line break in it, since then the blank lines are those between paragraphs.

* `Paragraphs.read_text`: reading undoes writing.
* `Paragraphs.text_map_eq_iff`: messages are told apart if their lines are.
-/

namespace SvgMarkup.Paragraphs

/-- The lines of a message that can be shown as a paragraph. -/
structure IsParagraph (ls : List String) : Prop where
  ne_nil : ls ≠ []
  notMem : ∀ l ∈ ls, '\n' ∉ l.toList
  ne_blank : "" ∉ ls

/-- Some paragraphs with blank lines between them. -/
def text (ps : List (List String)) : String :=
  String.intercalate "\n\n" (ps.map (String.intercalate "\n"))

/-- The lines of some paragraphs, with blank ones between them. -/
def lines (ps : List (List String)) : List String := [""].intercalate ps

/-- The paragraphs of a text. -/
def read (s : String) : List (List String) :=
  (((s.toList.splitOn '\n').map String.ofList).splitOn "").filter fun ls => !ls.isEmpty

lemma lines_ne_nil {p : List String} (hp : p ≠ []) (ps : List (List String)) :
    lines (p :: ps) ≠ [] := by
  cases ps with
  | nil => rwa [lines, List.intercalate_singleton]
  | cons q ps =>
    rw [lines, List.intercalate_cons_cons]
    simp [hp]

/-- A blank line between two paragraphs is a pair of line breaks. -/
lemma intercalate_lines {ps : List (List String)} (h : ∀ p ∈ ps, p ≠ []) :
    String.intercalate "\n" (lines ps) = text ps := by
  induction ps with
  | nil => rfl
  | cons p ps ih =>
    obtain ⟨hp, hps⟩ := List.forall_mem_cons.mp h
    cases ps with
    | nil => rw [lines, text, List.intercalate_singleton, List.map_singleton,
        String.intercalate_singleton]
    | cons q ps =>
      have hq := lines_ne_nil (hps q List.mem_cons_self) ps
      have hlines : lines (p :: q :: ps) = p ++ ("" :: lines (q :: ps)) := by
        rw [lines, List.intercalate_cons_cons, List.append_assoc]
        rfl
      have htext : text (p :: q :: ps) = String.intercalate "\n" p ++ "\n\n" ++ text (q :: ps) :=
        String.intercalate_cons_cons
      have hbreaks : "\n\n" = "\n" ++ "\n" := rfl
      rw [hlines, String.intercalate_append_of_ne_nil hp (List.cons_ne_nil _ _),
        String.intercalate_cons_of_ne_nil hq, ih hps, htext, hbreaks]
      simp only [String.empty_append, String.append_assoc]

lemma mem_lines {ps : List (List String)} {l : String} (h : l ∈ lines ps) :
    l = "" ∨ ∃ p ∈ ps, l ∈ p := by
  induction ps with
  | nil => cases h
  | cons p ps ih =>
    by_cases hps : ps = []
    · subst hps
      rw [lines, List.intercalate_singleton] at h
      exact .inr ⟨p, List.mem_cons_self, h⟩
    · rw [lines, List.intercalate_cons_of_ne_nil hps, List.mem_append, List.mem_append,
        List.mem_singleton] at h
      rcases h with (h | h) | h
      · exact .inr ⟨p, List.mem_cons_self, h⟩
      · exact .inl h
      · exact (ih h).imp_right fun ⟨q, hq, hl⟩ => ⟨q, List.mem_cons_of_mem p hq, hl⟩

/-- Reading undoes writing. -/
theorem read_text {ps : List (List String)} (h : ∀ p ∈ ps, IsParagraph p) :
    read (text ps) = ps := by
  cases ps with
  | nil => rfl
  | cons p ps =>
    have hne : ∀ q ∈ p :: ps, q ≠ [] := fun q hq => (h q hq).ne_nil
    have hbreaks : ∀ l ∈ (lines (p :: ps)).map String.toList, '\n' ∉ l := by
      rw [List.forall_mem_map]
      intro l hl
      rcases mem_lines hl with rfl | ⟨q, hq, hlq⟩
      · decide
      · exact (h q hq).notMem l hlq
    have hlines : (lines (p :: ps)).map String.toList ≠ [] :=
      fun heq => lines_ne_nil (hne p List.mem_cons_self) ps (List.map_eq_nil_iff.mp heq)
    have hread : (text (p :: ps)).toList.splitOn '\n' = (lines (p :: ps)).map String.toList := by
      rw [← intercalate_lines hne, String.toList_intercalate]
      exact List.splitOn_intercalate '\n' hbreaks hlines
    have hblank : (lines (p :: ps)).splitOn "" = p :: ps :=
      List.splitOn_intercalate "" (fun q hq => (h q hq).ne_blank) (List.cons_ne_nil p ps)
    have hself : ((lines (p :: ps)).map String.toList).map String.ofList = lines (p :: ps) := by
      simp
    rw [read, hread, hself, hblank, List.filter_eq_self]
    intro q hq
    simp [hne q hq]

/-- Messages that are shown as paragraphs are told apart if their lines are. -/
theorem text_map_eq_iff {α : Type} {f : α → List String} {as bs : List α}
    (ha : ∀ a ∈ as, IsParagraph (f a)) (hb : ∀ b ∈ bs, IsParagraph (f b)) :
    text (as.map f) = text (bs.map f) ↔ List.Forall₂ (fun a b => f a = f b) as bs := by
  have hmap : as.map f = bs.map f ↔ List.Forall₂ (fun a b => f a = f b) as bs := by
    rw [← List.forall₂_eq_eq_eq, List.forall₂_map_left_iff, List.forall₂_map_right_iff]
  rw [← hmap]
  constructor
  · intro h
    rw [← read_text (List.forall_mem_map.mpr ha), h, read_text (List.forall_mem_map.mpr hb)]
  · exact congrArg text

end SvgMarkup.Paragraphs
