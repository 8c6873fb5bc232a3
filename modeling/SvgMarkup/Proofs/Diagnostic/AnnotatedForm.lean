import SvgMarkup.Proofs.Diagnostic.Circumstance

/-!
# Diagnostics as annotated messages

An annotated message is read line by line: the first line gives the severity, the code and the
message, and the label of each other line tells which circumstance the rest of the line is.  So
messages and circumstances may have any form, even that of another line, as long as they have no
line breaks.

* `Presentation.headline_eq_iff`, `Presentation.lines_eq_iff`: which diagnostics have the same
  lines.
* `Presentation.renderAll_annotated`: lists of diagnostics on single lines are told apart.
-/

namespace SvgMarkup.Diagnostic

/-- Whether none of the texts that a diagnostic shows has a line break. -/
structure IsSingleLine (d : Diagnostic) : Prop where
  message : '\n' ∉ d.message.toList
  circumstance : ∀ k : Circumstance, ∀ s ∈ k.text? d, '\n' ∉ s.toList

instance decidableIsSingleLine (d : Diagnostic) : Decidable d.IsSingleLine :=
  decidable_of_iff
    ('\n' ∉ d.message.toList ∧
      ∀ k ∈ Circumstance.all, ∀ s ∈ k.text? d, '\n' ∉ s.toList)
    ⟨fun h => ⟨h.1, fun k => h.2 k k.mem_all⟩, fun h => ⟨h.message, fun k _ => h.circumstance k⟩⟩

namespace Code

/-- A code in brackets, as it stands between the severity and the message. -/
def bracketed (c : Code) : String := "[" ++ c.name ++ "]: "

lemma mem_all (c : Code) : c ∈ all := by
  cases c <;> decide

end Code

namespace Presentation

variable {p : Presentation} {d e : Diagnostic}

/-! ### The first line -/

/-- The severities that annotated messages show. -/
def severityWords : List String := ["warning", "error"]

lemma severityWord_mem (d : Diagnostic) : severityWord d ∈ severityWords := by
  unfold severityWord
  split <;> decide

lemma severityWord_eq_iff :
    severityWord d = severityWord e ↔ (d.severity = "warning" ↔ e.severity = "warning") := by
  unfold severityWord
  by_cases hd : d.severity = "warning" <;> by_cases he : e.severity = "warning" <;> simp [hd, he]

/-- A severity as a presentation shows it. -/
def painted (color : Bool) (word : String) : String := if color then colored word else word

lemma headline_eq (h : p.sanitize = false) (d : Diagnostic) :
    p.headline d = painted p.color (severityWord d) ++ (d.code.bracketed ++ d.message) := by
  simp only [headline, bounded_of_not_sanitize h, painted, Code.bracketed, String.append_assoc]

/-- The first line tells the severity, the code and the message. -/
lemma headline_eq_iff (h : p.sanitize = false) :
    p.headline d = p.headline e ↔
      severityWord d = severityWord e ∧ d.code = e.code ∧ d.message = e.message := by
  have hwords : ∀ v ∈ severityWords, ∀ w ∈ severityWords,
      (painted p.color v).toList <+: (painted p.color w).toList → v = w := by
    cases p.color <;> decide
  have hcodes : ∀ a ∈ Code.all, ∀ b ∈ Code.all,
      a.bracketed.toList <+: b.bracketed.toList → a = b := by decide
  rw [headline_eq h, headline_eq h]
  constructor
  · intro heq
    obtain ⟨hword, hrest⟩ :=
      Text.append_inj_of_prefix hwords (severityWord_mem d) (severityWord_mem e) heq
    exact ⟨hword, Text.append_inj_of_prefix hcodes (Code.mem_all _) (Code.mem_all _) hrest⟩
  · rintro ⟨hword, hcode, hmessage⟩
    rw [hword, hcode, hmessage]

/-! ### All lines -/

/-- The lines of an annotated message. -/
def lines (p : Presentation) (d : Diagnostic) : List String := p.headline d :: p.annotations d

lemma render_annotated (h : p.form = .annotated) (d : Diagnostic) :
    p.render d = String.intercalate "\n" (p.lines d) := by
  rw [render, h]
  rfl

/-- The lines of an annotated message tell everything of a fault that is known. -/
lemma lines_eq_iff (h : p.sanitize = false) :
    p.lines d = p.lines e ↔ Alike d e ∧ (d.severity = "warning" ↔ e.severity = "warning") := by
  rw [lines, lines, List.cons.injEq, headline_eq_iff h, annotations_eq_listed h,
    annotations_eq_listed h, severityWord_eq_iff]
  constructor
  · rintro ⟨⟨hseverity, hcode, hmessage⟩, hlisted⟩
    exact ⟨⟨hcode, hmessage, Circumstance.known_eq_of_listed_eq Circumstance.line_inj hlisted⟩,
      hseverity⟩
  · rintro ⟨⟨hcode, hmessage, hknown⟩, hseverity⟩
    exact ⟨⟨hseverity, hcode, hmessage⟩, Circumstance.listed_congr hknown⟩

lemma notMem_headline (h : p.sanitize = false) (hd : d.IsSingleLine) :
    '\n' ∉ (p.headline d).toList := by
  have hwords : ∀ w ∈ severityWords, '\n' ∉ (painted p.color w).toList := by
    cases p.color <;> decide
  have hcodes : ∀ c ∈ Code.all, '\n' ∉ c.bracketed.toList := by decide
  rw [headline_eq h, String.toList_append, String.toList_append, List.mem_append, List.mem_append,
    not_or, not_or]
  exact ⟨hwords _ (severityWord_mem d), hcodes _ (Code.mem_all _), hd.message⟩

lemma headline_ne_empty (h : p.sanitize = false) (d : Diagnostic) : p.headline d ≠ "" := by
  have hcodes : ∀ c ∈ Code.all, c.bracketed ≠ "" := by decide
  rw [headline_eq h, ne_eq, String.append_eq_empty_iff, String.append_eq_empty_iff]
  rintro ⟨-, hcode, -⟩
  exact hcodes _ (Code.mem_all _) hcode

/-- A line for a circumstance without line breaks is a single line and not blank. -/
lemma line_of_mem_annotations (h : p.sanitize = false) (hd : d.IsSingleLine) {l : String}
    (hl : l ∈ p.annotations d) : '\n' ∉ l.toList ∧ l ≠ "" := by
  have hlabels : ∀ k ∈ Circumstance.all, '\n' ∉ k.label.toList ∧ k.label ≠ "" := by decide
  rw [annotations_eq_listed h] at hl
  obtain ⟨k, hk, hline⟩ := List.mem_filterMap.mp hl
  obtain ⟨s, hs, rfl⟩ := Option.map_eq_some_iff.mp hline
  obtain ⟨hlabel, hne⟩ := hlabels k hk
  obtain ⟨htext, -⟩ := Circumstance.known_eq_some_iff.mp hs
  constructor
  · rw [Circumstance.line, String.toList_append, List.mem_append, not_or]
    exact ⟨hlabel, hd.circumstance k s htext⟩
  · rw [Circumstance.line, ne_eq, String.append_eq_empty_iff]
    exact fun hempty => hne hempty.1

/-- An annotated message of texts without line breaks is a paragraph. -/
lemma isParagraph_lines (h : p.sanitize = false) (hd : d.IsSingleLine) :
    Paragraphs.IsParagraph (p.lines d) where
  ne_nil := List.cons_ne_nil _ _
  notMem := List.forall_mem_cons.mpr
    ⟨notMem_headline h hd, fun _ hl => (line_of_mem_annotations h hd hl).1⟩
  ne_blank := by
    rw [lines, List.mem_cons, not_or]
    exact ⟨(headline_ne_empty h d).symm, fun hl => (line_of_mem_annotations h hd hl).2 rfl⟩

/-! ### Several messages -/

/-- Annotated messages of diagnostics without line breaks and without cuts tell these apart: lists
are shown alike if and only if they are equally long and their members tell the same in turn, where
a circumstance may be empty or absent and whatever is no warning counts as an error. -/
theorem renderAll_annotated (hform : p.form = .annotated) (hwhole : p.sanitize = false)
    {ds es : List Diagnostic} (hds : ∀ d ∈ ds, d.IsSingleLine) (hes : ∀ e ∈ es, e.IsSingleLine) :
    p.renderAll ds = p.renderAll es ↔
      List.Forall₂ (fun d e => Alike d e ∧ (d.severity = "warning" ↔ e.severity = "warning"))
        ds es := by
  rw [renderAll_eq_iff (render_annotated hform) (fun d hd => isParagraph_lines hwhole (hds d hd))
    fun e he => isParagraph_lines hwhole (hes e he)]
  simp only [lines_eq_iff hwhole]

/-- A diagnostic whose texts look like other lines. -/
def mimicry : Diagnostic where
  code := .emptyName
  message := "[EMPTY_NAME]:   = option: a"
  hint := some "  = help: "
  nodePath := some "a  = help: b"
  optionName := some "  --> a"
  severity := "warning"

/-- The presentation of diagnostics on a terminal. -/
def forTerminal : Presentation := { color := true }

/-- Diagnostics that are shown like two of the above, although they are not the same. -/
def doubles : List Diagnostic :=
  [{ mimicry with receivedType := some "" }, { mimicry with severity := "note" }]

theorem renderAll_mimicry :
    forTerminal.form = .annotated ∧ forTerminal.sanitize = false ∧
    (∀ d ∈ [mimicry, { mimicry with severity := "error" }], d.IsSingleLine) ∧
    (∀ d ∈ doubles, d.IsSingleLine) ∧
    forTerminal.renderAll [mimicry, { mimicry with severity := "error" }] =
      forTerminal.renderAll doubles ∧
    forTerminal.renderAll [mimicry, { mimicry with optionName := none, hint := none }] ≠
      forTerminal.renderAll doubles := by
  have hsingle : (∀ d ∈ [mimicry, { mimicry with severity := "error" }], d.IsSingleLine) ∧
      (∀ d ∈ doubles, d.IsSingleLine) ∧
      ∀ d ∈ [mimicry, { mimicry with optionName := none, hint := none }], d.IsSingleLine := by
    decide
  obtain ⟨hds, hdoubles, hes⟩ := hsingle
  refine ⟨rfl, rfl, hds, hdoubles, (renderAll_annotated rfl rfl hds hdoubles).mpr ?_, fun heq => ?_⟩
  · have hfirst (k : Circumstance) :
        k.known mimicry = k.known { mimicry with receivedType := some "" } := by
      cases k <;> rfl
    exact .cons ⟨⟨rfl, rfl, hfirst⟩, Iff.rfl⟩ (.cons ⟨⟨rfl, rfl, fun _ => rfl⟩, by decide⟩ .nil)
  · obtain ⟨-, hsecond⟩ :=
      List.forall₂_cons.mp ((renderAll_annotated rfl rfl hes hdoubles).mp heq)
    obtain ⟨⟨halike, -⟩, -⟩ := List.forall₂_cons.mp hsecond
    exact absurd (halike.known .option) (by decide)

end Presentation

end SvgMarkup.Diagnostic
