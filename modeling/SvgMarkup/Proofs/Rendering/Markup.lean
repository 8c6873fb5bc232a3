import SvgMarkup.Proofs.Entity.Escaped
import SvgMarkup.Proofs.Tree.Lookup
import SvgMarkup.Rendering.Markup

/-!
# The markup of single nodes

Text and attribute values are the only parts of a tree that are escaped.  If the encoder has a
replacement for every reserved character, the markup of a text, and of an attribute that has a text,
is put together from the escaped characters.  In compact output the delimiters are written as they
are, and all tags in the same way.

The markup of a single node depends on a part of the configuration only: `Config.WritesLike`, and
for leaves `Config.WritesLeavesLike`.
-/

namespace SvgMarkup.Config

variable {c : Config}

/-- Layout leaves delimiters alone that do not end a line. -/
lemma written_of_not_endsLine {d : Delimiter} (h : d.endsLine = false) :
    c.written d = c.delimiter d := by
  unfold written prettified
  split
  · simp only [h, Bool.false_eq_true, if_false]
  · rfl

/-! ### Compact output -/

section Compact

variable (hc : c.pretty = false)

include hc

lemma written_of_not_pretty (d : Delimiter) : c.written d = c.delimiter d := by
  rw [written, prettified_of_not_pretty hc]

lemma openingTag_of_not_pretty (t : Tag) (attributes : String) :
    c.openingTag "" t attributes =
      c.delimiter .tagOpenStart ++ t.name ++ attributes ++ c.delimiter .tagOpenEnd := by
  simp only [openingTag, written_of_not_pretty hc, String.empty_append, ite_self]

lemma closingTag_of_not_pretty (t : Tag) :
    c.closingTag "" t = c.delimiter .tagCloseStart ++ t.name ++ c.delimiter .tagCloseEnd := by
  simp only [closingTag, written_of_not_pretty hc, String.empty_append, ite_self]

end Compact

/-! ### Encoders that never fail -/

variable {replacement : Char → String}

/-- The markup of a text whose reserved characters all have replacements. -/
lemma textMarkup_eq_ok (h : ∀ a ∈ c.textEntities, c.encoder.replacement? a = some (replacement a))
    (s : String) :
    c.textMarkup s = .ok (c.written .textStart ++
      String.ofList (escaped c.textEntities (fun a => (replacement a).toList) s.toList) ++
      c.written .textEnd) := by
  rw [textMarkup, escape_eq_ok h]
  rfl

/-- The markup of an attribute in which the given replacements stand for reserved characters. -/
def attributeWith (c : Config) (replacement : Char → String) (a : Attribute) : String :=
  " " ++ a.name ++ c.written .attrStart ++
    String.ofList (escaped c.attributeEntities (fun b => (replacement b).toList) a.shown.toList) ++
    c.written .attrEnd

/-- The markup of an attribute that has a text and whose reserved characters all have
replacements. -/
lemma attributeMarkup_eq_ok
    (h : ∀ b ∈ c.attributeEntities, c.encoder.replacement? b = some (replacement b))
    {a : Attribute} (ha : a.HasText) :
    c.attributeMarkup a = .ok (c.attributeWith replacement a) := by
  have htext : a.text.mapError MarkupError.tooManyDigits = .ok a.shown := congrArg _ ha
  simp only [attributeMarkup, htext, escape_eq_ok h]
  rfl

lemma attributeMarkup_eq_error {a : Attribute} (ha : ¬ a.HasText) :
    c.attributeMarkup a = .error (.tooManyDigits {}) := by
  rw [attributeMarkup, Attribute.not_hasText_iff.mp ha]
  rfl

/-! ### The attributes of a tag -/

variable {t : Tag} {markup : String}

/-- The markup of the attributes of a tag is that of each of them, if none of them fails. -/
lemma attributesMarkup_eq_ok {write : Attribute → String}
    (h : ∀ a ∈ t.attributes, c.attributeMarkup a = .ok (write a)) :
    c.attributesMarkup t = .ok (String.join (t.attributes.map write)) := by
  rw [attributesMarkup, mapM_eq_ok_of_forall h]
  rfl

/-- Attributes whose markup exists have texts. -/
lemma hasText_of_attributesMarkup (h : c.attributesMarkup t = .ok markup) {a : Attribute}
    (ha : a ∈ t.attributes) : a.HasText := by
  obtain ⟨markups, hmarkups, -⟩ := exists_of_bind_eq_ok h
  obtain ⟨markup, hmarkup⟩ := exists_eq_ok_of_mapM_eq_ok hmarkups ha
  obtain ⟨text, htext, -⟩ := exists_of_bind_eq_ok hmarkup
  exact Attribute.hasText_iff.mpr ⟨text, eq_ok_of_mapError_eq_ok htext⟩

/-- A tag whose attributes have texts gives a size or none. -/
lemma exists_rootSize?_eq_ok (c : Config) (h : ∀ a ∈ t.attributes, a.HasText) :
    ∃ size, c.rootSize? t = .ok size := by
  unfold rootSize?
  split
  · rw [Tag.size?_eq]
    cases hwidth : t.attribute? widthAttribute with
    | none => exact ⟨none, rfl⟩
    | some width =>
      cases hheight : t.attribute? heightAttribute with
      | none => exact ⟨none, rfl⟩
      | some height =>
        rw [Option.map_some, h width (Tag.attribute?_eq_some_iff.mp hwidth).1,
          Option.map_some, h height (Tag.attribute?_eq_some_iff.mp hheight).1]
        exact ⟨_, rfl⟩
  · exact ⟨none, rfl⟩

/-! ### Configurations that write alike -/

/-- Two configurations write leaves alike if they agree on all that the markup of leaves and of
attributes depends on. -/
structure WritesLeavesLike (c d : Config) : Prop where
  written : c.written = d.written
  textEntities : c.textEntities = d.textEntities
  attributeEntities : c.attributeEntities = d.attributeEntities
  encoder : c.encoder = d.encoder

namespace WritesLeavesLike

variable {d : Config} (h : c.WritesLeavesLike d)

include h

lemma textMarkup (s : String) : c.textMarkup s = d.textMarkup s := by
  rw [Config.textMarkup, Config.textMarkup, h.written, h.textEntities, h.encoder]

lemma commentMarkup (s : String) : c.commentMarkup s = d.commentMarkup s := by
  rw [Config.commentMarkup, Config.commentMarkup, h.written]

lemma cdataMarkup (s : String) : c.cdataMarkup s = d.cdataMarkup s := by
  rw [Config.cdataMarkup, Config.cdataMarkup, h.written]

lemma doctypeMarkup (s : String) : c.doctypeMarkup s = d.doctypeMarkup s := by
  rw [Config.doctypeMarkup, Config.doctypeMarkup, h.written]

lemma instructionMarkup (i : Instruction) : c.instructionMarkup i = d.instructionMarkup i := by
  rw [Config.instructionMarkup, Config.instructionMarkup, h.written]

lemma attributesMarkup (t : Tag) : c.attributesMarkup t = d.attributesMarkup t := by
  have heach : c.attributeMarkup = d.attributeMarkup := by
    funext a
    rw [attributeMarkup, attributeMarkup, h.written, h.attributeEntities, h.encoder]
  rw [Config.attributesMarkup, Config.attributesMarkup, heach]

lemma emptyTag : c.emptyTag = d.emptyTag := by
  funext indent t attributes
  rw [Config.emptyTag, Config.emptyTag, h.written]

end WritesLeavesLike

/-- Two configurations write alike if they agree on all that the markup of single nodes depends
on. -/
structure WritesLike (c d : Config) : Prop where
  delimiter : c.delimiter = d.delimiter
  indent : c.indent = d.indent
  pretty : c.pretty = d.pretty
  textEntities : c.textEntities = d.textEntities
  attributeEntities : c.attributeEntities = d.attributeEntities
  textElements : c.textElements = d.textElements
  textChildElements : c.textChildElements = d.textChildElements
  encoder : c.encoder = d.encoder

/-- Delimiters are written alike if they are the same and layout is added to both or to neither. -/
lemma written_eq_of_delimiter {d : Config} (hdelimiter : c.delimiter = d.delimiter)
    (hpretty : c.pretty = d.pretty) : c.written = d.written := by
  funext e
  unfold Config.written prettified
  rw [hpretty]
  split <;> rw [hdelimiter]

namespace WritesLike

variable {d : Config} (h : c.WritesLike d)

include h

lemma leaves : c.WritesLeavesLike d where
  written := written_eq_of_delimiter h.delimiter h.pretty
  textEntities := h.textEntities
  attributeEntities := h.attributeEntities
  encoder := h.encoder

lemma openingTag : c.openingTag = d.openingTag := by
  funext indent t attributes
  rw [Config.openingTag, Config.openingTag, holdsText, holdsText, standsInText, standsInText,
    h.leaves.written, h.delimiter, h.textElements, h.textChildElements]

lemma closingTag : c.closingTag = d.closingTag := by
  funext indent t
  rw [Config.closingTag, Config.closingTag, holdsText, holdsText, standsInText, standsInText,
    h.leaves.written, h.delimiter, h.textElements, h.textChildElements]

end WritesLike

end SvgMarkup.Config
