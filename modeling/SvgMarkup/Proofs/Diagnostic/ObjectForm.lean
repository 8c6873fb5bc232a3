import SvgMarkup.Proofs.Diagnostic.Circumstance
import SvgMarkup.Proofs.Reader.JsonObject

/-!
# Diagnostics as objects

An object for a diagnostic loses nothing as long as texts are not cut: a reader of JSON gets its
members back, with all characters of their texts.  An object has no line breaks, even where its
texts have some, so several objects can be told apart by the blank lines between them.

* `Presentation.read_render_json`: what a reader gets.
* `Presentation.members_eq_iff`: for which diagnostics it gets the same.
* `Presentation.renderAll_json`: the texts for lists of diagnostics.
-/

namespace SvgMarkup.Diagnostic

lemma Code.name_injective : Function.Injective Code.name := by
  intro a b h
  have hsome := Code.ofName?_name a
  rw [h, Code.ofName?_name] at hsome
  exact (Option.some.inj hsome).symm

/-- The members that the object for a diagnostic has: four that are always there, and one for each
circumstance that is not empty. -/
inductive HasMember (d : Diagnostic) : String → Json.Scalar → Prop where
  | code : HasMember d "code" (.text d.code.name)
  | number : HasMember d "code_value" (.number d.code.number)
  | message : HasMember d "message" (.text d.message)
  | severity : HasMember d "severity" (.text d.severity)
  | circumstance (k : Circumstance) {s : String} (h : k.text? d = some s) (hs : s ≠ "") :
    HasMember d k.key (.text s)

namespace Presentation

variable {p : Presentation}

/-! ### Single objects -/

/-- The keys of the circumstances of an object are among those of all circumstances. -/
lemma keys_listed_sublist (d : Diagnostic) :
    ((Circumstance.listed Circumstance.member d).map Prod.fst).Sublist
      (Circumstance.all.map Circumstance.key) := by
  rw [Circumstance.listed]
  induction Circumstance.all with
  | nil => exact List.Sublist.slnil
  | cons k ks ih =>
    rw [List.filterMap_cons, List.map_cons]
    cases k.known d with
    | none => exact ih.cons _
    | some s => exact ih.cons_cons _

/-- The keys of an object are different. -/
lemma nodup_keys_members (h : p.sanitize = false) (d : Diagnostic) :
    ((p.members d).map Prod.fst).Nodup := by
  have hall : (["code", "code_value", "message", "severity"] ++
      Circumstance.all.map Circumstance.key).Nodup := by decide
  rw [members_eq h, List.map_append]
  exact hall.sublist ((List.Sublist.refl _).append (keys_listed_sublist d))

lemma mem_members_iff (h : p.sanitize = false) {d : Diagnostic} {name : String}
    {value : Json.Scalar} : (name, value) ∈ p.members d ↔ d.HasMember name value := by
  rw [members_eq h, List.mem_append]
  constructor
  · rintro (hmem | hmem)
    · simp only [List.mem_cons, Prod.mk.injEq, List.not_mem_nil, or_false] at hmem
      rcases hmem with ⟨rfl, rfl⟩ | ⟨rfl, rfl⟩ | ⟨rfl, rfl⟩ | ⟨rfl, rfl⟩
      · exact .code
      · exact .number
      · exact .message
      · exact .severity
    · obtain ⟨k, -, hk⟩ := List.mem_filterMap.mp hmem
      obtain ⟨s, hs, heq⟩ := Option.map_eq_some_iff.mp hk
      obtain ⟨rfl, rfl⟩ := Prod.mk.inj heq
      obtain ⟨htext, hne⟩ := Circumstance.known_eq_some_iff.mp hs
      exact .circumstance k htext hne
  · intro hmember
    cases hmember with
    | code | number | message | severity => exact .inl (by simp)
    | circumstance k htext hne =>
      exact .inr ((Circumstance.mem_listed_iff Circumstance.member_inj).mpr
        (Circumstance.known_eq_some_iff.mpr ⟨htext, hne⟩))

/-- Objects have the same members if and only if they are about diagnostics that tell the same and
are equally severe. -/
lemma members_eq_iff (h : p.sanitize = false) {d e : Diagnostic} :
    p.members d = p.members e ↔ Alike d e ∧ d.severity = e.severity := by
  rw [members_eq h, members_eq h]
  constructor
  · intro heq
    obtain ⟨hfour, hlisted⟩ := List.append_inj heq rfl
    simp only [List.cons.injEq, Prod.mk.injEq, Json.Scalar.text.injEq, true_and, and_true] at hfour
    obtain ⟨hcode, -, hmessage, hseverity⟩ := hfour
    exact ⟨⟨Code.name_injective hcode, hmessage,
      Circumstance.known_eq_of_listed_eq Circumstance.member_inj hlisted⟩, hseverity⟩
  · rintro ⟨⟨hcode, hmessage, hknown⟩, hseverity⟩
    rw [hcode, hmessage, hseverity, Circumstance.listed_congr hknown]

section Json

variable (hform : p.form = .json)
include hform

lemma render_json (d : Diagnostic) : p.render d = Json.renderObject (p.members d) := by
  rw [render, hform]

/-- A reader of objects gets the members of the object for a diagnostic. -/
lemma read_render_json (d : Diagnostic) :
    Json.readObject? (p.render d).toList = some (p.members d) := by
  rw [render_json hform, Json.readObject?_renderObject]

lemma render_json_eq_iff {d e : Diagnostic} :
    p.render d = p.render e ↔ p.members d = p.members e := by
  constructor
  · intro heq
    have hread := read_render_json hform d
    rw [heq, read_render_json hform] at hread
    exact (Option.some.inj hread).symm
  · intro heq
    rw [render_json hform, render_json hform, heq]

/-! ### Several objects -/

/-- An object is a paragraph of one line. -/
lemma isParagraph_render_json (d : Diagnostic) : Paragraphs.IsParagraph [p.render d] where
  ne_nil := List.cons_ne_nil _ _
  notMem := by
    rw [List.forall_mem_singleton, render_json hform]
    intro hmem
    exact absurd (Json.isPrinted_renderObject _ '\n' hmem) (by decide)
  ne_blank := by
    rw [List.mem_singleton]
    intro hblank
    have hread := read_render_json hform d
    rw [← hblank] at hread
    cases hread

/-- An object for a diagnostic that is not cut is written on one line, without control characters.
A reader finds one object in it, whose keys are different and whose members are those that belong to
the diagnostic.  The objects for a list of diagnostics tell these apart, except that a circumstance
may be empty or absent. -/
theorem renderAll_json (hwhole : p.sanitize = false) :
    (∀ d : Diagnostic, (∀ c ∈ (p.render d).toList, 0x20 ≤ c.toNat) ∧
      ∃ object, Json.readObject? (p.render d).toList = some object ∧
        (object.map Prod.fst).Nodup ∧
        ∀ name value, (name, value) ∈ object ↔ d.HasMember name value) ∧
    ∀ ds es : List Diagnostic, p.renderAll ds = p.renderAll es ↔
      List.Forall₂ (fun d e => Alike d e ∧ d.severity = e.severity) ds es := by
  constructor
  · intro d
    refine ⟨?_, p.members d, read_render_json hform d, nodup_keys_members hwhole d,
      fun name value => mem_members_iff hwhole⟩
    rw [render_json hform]
    exact Json.isPrinted_renderObject _
  · intro ds es
    have hpoint (d e : Diagnostic) :
        [p.render d] = [p.render e] ↔ Alike d e ∧ d.severity = e.severity := by
      rw [List.cons.injEq, and_iff_left rfl, render_json_eq_iff hform, members_eq_iff hwhole]
    rw [renderAll_eq_iff (fun d => String.intercalate_singleton.symm)
      (fun d _ => isParagraph_render_json hform d) fun e _ => isParagraph_render_json hform e]
    simp only [hpoint]

end Json

/-- The presentation of diagnostics for tools. -/
def forTools : Presentation := { form := .json }

/-- A diagnostic with an empty circumstance and with characters in its texts that are written as
escapes. -/
def intricateDiagnostic : Diagnostic where
  code := .unknownConfigOption
  message := "\n\n\x7b\"code\": \\"
  nodePath := some ""
  optionName := some "\x1b\x7f\x08"
  severity := "note"

theorem renderAll_intricateDiagnostic :
    forTools.form = .json ∧ forTools.sanitize = false ∧
    (∃ object, Json.readObject? (forTools.render intricateDiagnostic).toList = some object ∧
      ("option_name", .text "\x1b\x7f\x08") ∈ object ∧ ∀ value, ("node_path", value) ∉ object) ∧
    forTools.renderAll [intricateDiagnostic, intricateDiagnostic] =
      forTools.renderAll [intricateDiagnostic, { intricateDiagnostic with nodePath := none }] ∧
    forTools.renderAll [intricateDiagnostic] ≠
      forTools.renderAll [{ intricateDiagnostic with severity := "error" }] := by
  obtain ⟨hobject, hlists⟩ := renderAll_json (p := forTools) rfl rfl
  refine ⟨rfl, rfl, ?_, ?_, ?_⟩
  · obtain ⟨-, object, hread, -, hmember⟩ := hobject intricateDiagnostic
    refine ⟨object, hread, ?_, fun value hmem => ?_⟩
    · exact (hmember _ _).mpr (.circumstance .option rfl (by decide))
    · generalize hname : "node_path" = name at hmem
      cases (hmember _ _).mp hmem with
      | code | number | message | severity => exact absurd hname (by decide)
      | circumstance k htext hne =>
        obtain rfl : .place = k := Circumstance.key_injective hname
        exact hne (Option.some.inj htext).symm
  · refine (hlists _ _).mpr
      (.cons ⟨⟨rfl, rfl, fun _ => rfl⟩, rfl⟩ (.cons ⟨⟨rfl, rfl, ?_⟩, rfl⟩ .nil))
    intro k
    cases k <;> rfl
  · intro heq
    obtain ⟨⟨-, hseverity⟩, -⟩ := List.forall₂_cons.mp ((hlists _ _).mp heq)
    exact absurd hseverity (by decide)

end Presentation

end SvgMarkup.Diagnostic
