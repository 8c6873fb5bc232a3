import SvgMarkup.Proofs.Diagnostic.AnnotatedForm
import SvgMarkup.Proofs.Diagnostic.ObjectForm

/-!
# Diagnostics with excerpts of their texts

A presentation that cuts texts shows at most so many characters of a message and of an advice, and
marks what is missing by three dots.  Of the two texts that depend on the input besides, it cuts the
place in annotated messages but not in objects, and the option nowhere.

* `Presentation.render_cutting`: what is shown, and when it consists of excerpts only.
* `Presentation.not_forall_excerpts_shown`: places and options are shown beyond their excerpts.
-/

namespace SvgMarkup

/-! ### Excerpts -/

/-- A text, of which at most so many characters are shown. -/
def Text.excerpt (n : Nat) (s : String) : String :=
  if s.length ≤ n then s else String.ofList (s.toList.take n) ++ "..."

open Text

lemma Text.excerpt_empty (n : Nat) : excerpt n "" = "" :=
  if_pos (Nat.zero_le n)

lemma Text.excerpt_ne_empty {n : Nat} {s : String} (h : s ≠ "") : excerpt n s ≠ "" := by
  unfold excerpt
  split
  · exact h
  · rw [ne_eq, String.append_eq_empty_iff]
    exact fun hempty => absurd hempty.2 (by decide)

/-- The empty text is its own excerpt, so only the other ones are to be looked at. -/
lemma Text.map_excerpt_eq_of_forall {n : Nat} {o : Option String}
    (h : ∀ s, o = some s → s ≠ "" → excerpt n s = s) : o.map (excerpt n) = o := by
  cases o with
  | none => rfl
  | some s =>
    by_cases hs : s = ""
    · rw [hs, Option.map_some, excerpt_empty]
    · rw [Option.map_some, h s rfl hs]

namespace Diagnostic

/-- A diagnostic with excerpts in place of all texts that depend on the input. -/
def excerpted (n : Nat) (d : Diagnostic) : Diagnostic :=
  { d with
    message := excerpt n d.message
    hint := d.hint.map (excerpt n)
    nodePath := d.nodePath.map (excerpt n)
    optionName := d.optionName.map (excerpt n) }

/-- A diagnostic with excerpts in place of those texts that a form cuts. -/
def shortened (form : Form) (n : Nat) (d : Diagnostic) : Diagnostic :=
  { d with
    message := excerpt n d.message
    hint := d.hint.map (excerpt n)
    nodePath := if form = .json then d.nodePath else d.nodePath.map (excerpt n) }

namespace Presentation

/-- A presentation that cuts texts to so many characters. -/
def cutting (form : Form) (color : Bool) (n : Nat) : Presentation where
  form := form
  sanitize := true
  color := color
  maxLength := n

/-- A presentation that shows texts as they are. -/
def whole (form : Form) (color : Bool) : Presentation where
  form := form
  color := color

lemma bounded_cutting (form : Form) (color : Bool) (n : Nat) (s : String) :
    (cutting form color n).bounded s = excerpt n s := by
  have hkept : (cutting form color n).keptLength s.length = n := by
    rw [keptLength, cutting, if_pos (Int.natCast_nonneg n), Int.toNat_natCast]
  rw [bounded, hkept, excerpt]
  by_cases h : s.length ≤ n
  · rw [if_pos h, if_neg (by simp [cutting, h])]
  · rw [if_neg h, if_pos ⟨rfl, by simpa [cutting] using h⟩]

lemma bounded_whole (form : Form) (color : Bool) (s : String) :
    (whole form color).bounded s = s :=
  bounded_of_not_sanitize rfl s

lemma shown_some {s : String} (h : s ≠ "") : shown (some s) = some s := by
  simp [shown, h]

/-- The excerpt of a circumstance is shown if the circumstance is. -/
lemma shown_map_excerpt (n : Nat) (o : Option String) :
    shown (o.map (excerpt n)) = (shown o).map (excerpt n) := by
  cases o with
  | none => rfl
  | some s =>
    by_cases h : s = ""
    · subst h
      rw [Option.map_some, excerpt_empty]
      rfl
    · rw [Option.map_some, shown_some (excerpt_ne_empty h), shown_some h, Option.map_some]

/-! ### What is shown -/

lemma render_line {p : Presentation} (h : p.form = .line) (d : Diagnostic) :
    p.render d = d.code.name ++ ": " ++ p.bounded d.message := by
  rw [render, h]

/-- What a presentation shows that cuts texts is what one that does not would show of a diagnostic
with excerpts in it. -/
lemma render_cutting_eq (form : Form) (color : Bool) (n : Nat) (d : Diagnostic) :
    (cutting form color n).render d = (whole form color).render (d.shortened form n) := by
  cases form with
  | annotated =>
    have hheadline : (cutting .annotated color n).headline d =
        (whole .annotated color).headline (d.shortened .annotated n) := by
      simp only [headline, bounded_cutting, bounded_whole]
      rfl
    have hannotations : (cutting .annotated color n).annotations d =
        (whole .annotated color).annotations (d.shortened .annotated n) := by
      simp only [annotations, bounded_cutting, bounded_whole, shortened, reduceCtorEq, if_false,
        shown_map_excerpt, Option.map_map]
      rfl
    rw [render_annotated rfl, render_annotated rfl, lines, lines, hheadline, hannotations]
  | line =>
    rw [render_line rfl, render_line rfl, bounded_cutting, bounded_whole]
    rfl
  | json =>
    have hmembers : (cutting .json color n).members d =
        (whole .json color).members (d.shortened .json n) := by
      simp only [members, bounded_cutting, bounded_whole, shortened, if_true, shown_map_excerpt,
        Option.map_map]
      rfl
    rw [render_json rfl, render_json rfl, hmembers]

/-! ### What is shown beyond excerpts -/

/-- Of texts between separators, one can be told if the others are known. -/
lemma eq_of_intercalate_eq {separator t u v : String} {ls rs : List String}
    (h : separator.intercalate (t :: (ls ++ u :: rs)) =
      separator.intercalate (t :: (ls ++ v :: rs))) : u = v := by
  have hlists := congrArg String.toList h
  rw [Reader.toList_intercalate_cons, Reader.toList_intercalate_cons, List.flatMap_append,
    List.flatMap_append, List.flatMap_cons, List.flatMap_cons] at hlists
  have hmiddle := List.append_cancel_right
    (List.append_cancel_left (List.append_cancel_left hlists))
  exact String.toList_injective (List.append_cancel_left hmiddle)

/-- The line for the option stands between lines that do not depend on it. -/
lemma exists_annotations_eq (p : Presentation) (d : Diagnostic) :
    ∃ ls rs, ∀ o, p.annotations { d with optionName := o } =
      ls ++ (((shown o).map (Circumstance.line .option)).toList ++ rs) := by
  refine ⟨((shown d.nodePath).map fun path => "  --> " ++ p.bounded path).toList,
    [(shown d.expectedType).map fun type => "  = expected: " ++ type,
      (shown d.receivedType).map fun type => "  = received: " ++ type,
      (shown d.hint).map fun hint => "  = help: " ++ p.bounded hint].filterMap id, fun o => ?_⟩
  unfold annotations
  cases shown d.nodePath <;> cases shown o <;> rfl

/-- Annotated messages that differ in the option only are told apart, also if there are line breaks
in their texts. -/
lemma eq_of_render_option {p : Presentation} (h : p.form = .annotated) {d : Diagnostic}
    {s t : String} (hs : s ≠ "") (ht : t ≠ "")
    (heq : p.render { d with optionName := some s } = p.render { d with optionName := some t }) :
    s = t := by
  obtain ⟨ls, rs, hlines⟩ := p.exists_annotations_eq d
  have hheadline (o : Option String) : p.headline { d with optionName := o } = p.headline d := rfl
  rw [render_annotated h, render_annotated h, lines, lines, hlines, hlines, hheadline, hheadline,
    shown_some hs, shown_some ht] at heq
  exact (Circumstance.line_inj _ _ _ _ (eq_of_intercalate_eq heq)).2

/-- An annotated message shows of an option what it would show of its excerpt only if the option is
its own excerpt. -/
lemma map_excerpt_eq_of_render {p : Presentation} (h : p.form = .annotated) {n : Nat}
    {d : Diagnostic} {o : Option String}
    (heq : p.render { d with optionName := o } =
      p.render { d with optionName := o.map (excerpt n) }) : o.map (excerpt n) = o := by
  refine map_excerpt_eq_of_forall fun s ho hs => ?_
  subst ho
  exact (eq_of_render_option h hs (excerpt_ne_empty hs) heq).symm

/-- The excerpt of a circumstance is known like the circumstance only if this is its own excerpt. -/
lemma map_excerpt_eq_of_shown {n : Nat} {o : Option String}
    (h : shown o = shown (o.map (excerpt n))) : o.map (excerpt n) = o := by
  refine map_excerpt_eq_of_forall fun s ho hs => ?_
  rw [ho, shown_some hs, Option.map_some, shown_some (excerpt_ne_empty hs)] at h
  exact (Option.some.inj h).symm

/-- A presentation that cuts texts shows what one that does not would show of a diagnostic with
excerpts in place of the texts that its form cuts.  So it shows nothing beyond excerpts if and only
if the option is its own excerpt, where the form shows it, and the place, if the form is that of
objects. -/
theorem render_cutting (form : Form) (color : Bool) (n : Nat) (d : Diagnostic) :
    (cutting form color n).render d = (whole form color).render (d.shortened form n) ∧
    ((cutting form color n).render d = (whole form color).render (d.excerpted n) ↔
      (form ≠ .line → d.optionName.map (excerpt n) = d.optionName) ∧
      (form = .json → d.nodePath.map (excerpt n) = d.nodePath)) := by
  refine ⟨render_cutting_eq form color n d, ?_⟩
  rw [render_cutting_eq]
  cases form with
  | annotated =>
    constructor
    · intro h
      exact ⟨fun _ => map_excerpt_eq_of_render (d := d.excerpted n) rfl h, nofun⟩
    · rintro ⟨hoption, -⟩
      rw [excerpted, hoption nofun]
      rfl
  | line =>
    refine iff_of_true ?_ ⟨fun h => absurd rfl h, nofun⟩
    rw [render_line rfl, render_line rfl]
    rfl
  | json =>
    constructor
    · intro h
      obtain ⟨halike, -⟩ := (members_eq_iff rfl).mp ((render_json_eq_iff rfl).mp h)
      exact ⟨fun _ => map_excerpt_eq_of_shown (halike.known .option),
        fun _ => map_excerpt_eq_of_shown (halike.known .place)⟩
    · rintro ⟨hoption, hplace⟩
      rw [excerpted, hoption nofun, hplace rfl]
      rfl

/-- A diagnostic about an option at a place. -/
def located (place option : String) : Diagnostic where
  code := .invalidConfigValue
  message := "m"
  nodePath := some place
  optionName := some option

/-- Diagnostics with the same excerpts of all their texts are not always shown alike: objects show
places to their ends, and annotated messages show options so. -/
theorem not_forall_excerpts_shown :
    (¬ ∀ (color : Bool) (n : Nat) (d e : Diagnostic), d.excerpted n = e.excerpted n →
      (cutting .json color n).render d = (cutting .json color n).render e) ∧
    ¬ ∀ (color : Bool) (n : Nat) (d e : Diagnostic), d.excerpted n = e.excerpted n →
      (cutting .annotated color n).render d = (cutting .annotated color n).render e := by
  constructor
  · intro h
    have hplaces : excerpt 3 "svg > g" = excerpt 3 "svg > a" := by decide
    have heq := h false 3 (located "svg > g" "a") (located "svg > a" "a")
      (by simp only [excerpted, located, Option.map_some, hplaces])
    rw [render_cutting_eq, render_cutting_eq] at heq
    obtain ⟨halike, -⟩ := (members_eq_iff rfl).mp ((render_json_eq_iff rfl).mp heq)
    exact absurd (halike.known .place) (by decide)
  · intro h
    have hoptions : excerpt 3 "indent" = excerpt 3 "indents" := by decide
    have heq := h false 3 (located "svg" "indent") (located "svg" "indents")
      (by simp only [excerpted, located, Option.map_some, hoptions])
    have hoption :=
      eq_of_render_option (d := located "svg" "indent") rfl (by decide) (by decide) heq
    exact absurd hoption (by decide)

end Presentation

end Diagnostic

end SvgMarkup
