import Mathlib.Data.List.Forall2
import Mathlib.Data.List.Infix
import SvgMarkup.Proofs.Reader.Token
import SvgMarkup.Proofs.Rendering.Markup
import SvgMarkup.Proofs.Rendering.Result

/-!
# Payloads stay where they are put

Nothing in a text or in the value of an attribute can end the part of the markup in which it stands.
The characters that would end it are reserved, and all that escaping puts in their places are
references.

* `forall₂_prefix_references`: the ampersands of an escaped text are the beginnings of the
  references of its reserved characters.
* `Config.IsPlain` are the configurations that write plain markup, compact or pretty.
* `Reader.readValues_append`: the values of attributes, whatever the names of the attributes, are
  found by looking for the next double quote.
* `Node.escape_confines` is what follows for the markup of texts and elements.
-/

namespace SvgMarkup

/-! ### The ampersands of escaped text -/

/-- What stands in some characters from each occurrence of a character on. -/
def Text.suffixesAt (c : Char) (s : List Char) : List (List Char) :=
  s.tails.filter (·.head? = some c)

/-- The references of the reserved characters of a text, in their order. -/
def references (reserved : OrderedSet Char) (s : List Char) : List String :=
  (s.filter (· ∈ reserved)).filterMap entityReference?

namespace Text

lemma suffixesAt_cons_self (c : Char) (s : List Char) :
    suffixesAt c (c :: s) = (c :: s) :: suffixesAt c s := by
  simp [suffixesAt]

lemma suffixesAt_append_of_notMem {c : Char} {w : List Char} (h : c ∉ w) (s : List Char) :
    suffixesAt c (w ++ s) = suffixesAt c s := by
  induction w with
  | nil => rfl
  | cons d w ih =>
    have hd : d ≠ c := Ne.symm (List.ne_of_not_mem_cons h)
    rw [← ih (List.not_mem_of_not_mem_cons h), List.cons_append, suffixesAt, List.tails_cons,
      List.filter_cons_of_neg (by simpa using hd)]
    rfl

end Text

/-- If the ampersand is reserved, the ampersands of an escaped text are those of the references of
its reserved characters: as many, in the same order, and each with its reference behind it. -/
lemma forall₂_prefix_references {reserved : OrderedSet Char} (hamp : '&' ∈ reserved)
    (s : List Char) :
    List.Forall₂ (fun r suffix => r.toList <+: suffix) (references reserved s)
      (Text.suffixesAt '&' (escaped reserved reference s)) := by
  induction s with
  | nil => exact .nil
  | cons c s ih =>
    rw [escaped_cons]
    rcases notMem_or_reference hamp c with ⟨hnot, hnone⟩ | ⟨hc, r, hr, hwritten⟩
    · have hskip : references reserved (c :: s) = references reserved s := by
        by_cases hc : c ∈ reserved
        · simp [references, hc, hnone hc]
        · simp [references, hc]
      rw [hskip, Text.suffixesAt_append_of_notMem hnot]
      exact ih
    · obtain ⟨tail, htail, hcons⟩ := exists_toList_eq_cons hr
      have htake : references reserved (c :: s) = r :: references reserved s := by
        simp [references, hc, entityReference?_eq_some_iff.mpr hr]
      rw [htake, hwritten, hcons, List.cons_append, Text.suffixesAt_cons_self,
        Text.suffixesAt_append_of_notMem htail]
      refine .cons ?_ ih
      rw [hcons, ← List.cons_append]
      exact List.prefix_append _ _

/-! ### Plain markup -/

namespace Config

/-- A configuration writes plain markup if its delimiters, its reserved characters and its encoder
are the standard ones, with or without layout. -/
structure IsPlain (c : Config) : Prop where
  delimiter : c.delimiter = Delimiter.standard
  textEntities : c.textEntities = SvgMarkup.textEntities
  attributeEntities : c.attributeEntities = SvgMarkup.attributeEntities
  encoder : c.encoder = .standard

namespace IsPlain

variable {c : Config} (h : c.IsPlain)

include h

lemma written {d : Delimiter} (hd : d.endsLine = false) : c.written d = Delimiter.standard d := by
  rw [written_of_not_endsLine hd, h.delimiter]

lemma textMarkup (s : String) :
    c.textMarkup s = .ok (String.ofList (escaped SvgMarkup.textEntities reference s.toList)) := by
  have hwritten : c.textMarkup s = .ok ("" ++
      String.ofList (escaped SvgMarkup.textEntities reference s.toList) ++ "") := by
    rw [Config.textMarkup, h.textEntities, h.encoder, escape_standard, h.written rfl, h.written rfl]
    rfl
  rwa [String.empty_append, String.append_empty] at hwritten

lemma attributeMarkup {a : Attribute} (ha : a.HasText) :
    c.attributeMarkup a = .ok (String.ofList (Reader.writeAttribute a)) := by
  have hencoder : ∀ b ∈ c.attributeEntities,
      c.encoder.replacement? b = some (String.ofList (reference b)) := by
    intro b _
    rw [h.encoder, reference, String.ofList_toList]
    rfl
  rw [attributeMarkup_eq_ok hencoder ha, attributeWith, h.attributeEntities, h.written rfl,
    h.written rfl]
  refine congrArg Except.ok (String.toList_injective ?_)
  simp [Delimiter.standard, Reader.writeAttribute]

/-- Attributes whose markup exists have texts, and their markup is put together from these. -/
lemma attributesMarkup {t : Tag} {markup : String} (hmarkup : c.attributesMarkup t = .ok markup) :
    (∀ a ∈ t.attributes, a.HasText) ∧
      markup = String.ofList (t.attributes.flatMap Reader.writeAttribute) := by
  have htexts : ∀ a ∈ t.attributes, a.HasText := fun a => hasText_of_attributesMarkup hmarkup
  refine ⟨htexts, ?_⟩
  rw [attributesMarkup_eq_ok fun a ha => h.attributeMarkup (htexts a ha)] at hmarkup
  obtain rfl := Except.ok.inj hmarkup
  refine String.toList_injective ?_
  rw [String.toList_join, String.toList_ofList, List.flatMap_map]
  simp only [String.toList_ofList]

/-- Every tag begins, after its indentation, with `<`, the name and the attributes. -/
lemma exists_emptyTag (indent : String) (t : Tag) (attributes : String) :
    ∃ rest, c.emptyTag indent t attributes = indent ++ "<" ++ t.name ++ attributes ++ rest := by
  rw [emptyTag, h.written rfl]
  exact ⟨_, rfl⟩

lemma exists_openingTag (indent : String) (t : Tag) (attributes : String) :
    ∃ indent' rest, (indent' = "" ∨ indent' = indent) ∧
      c.openingTag indent t attributes = indent' ++ "<" ++ t.name ++ attributes ++ rest := by
  rw [openingTag, h.written rfl, h.delimiter]
  by_cases hc : c.standsInText t
  · rw [if_pos hc]
    exact ⟨"", _, .inl rfl, rfl⟩
  · rw [if_neg hc]
    exact ⟨indent, _, .inr rfl, rfl⟩

end IsPlain

end Config

/-! ### Values end at the next double quote -/

namespace Reader

/-- Reads the values of attributes with the given names.  Each of them ends at the first double
quote behind the one with which it begins. -/
def readValues : List String → List Char → Option (List String × List Char)
  | [], s => some ([], s)
  | name :: names, s => do
    let s ← (" " ++ name ++ "=\"").toList.isPrefixOf? s
    let (value, s) ← s.dropInfix? ['"']
    let (values, rest) ← readValues names s
    return (String.ofList value :: values, rest)

/-- The values that are read are those that were escaped. -/
lemma readValues_append (attributes : List Attribute) (tail : List Char) :
    readValues (attributes.map (·.name)) (attributes.flatMap writeAttribute ++ tail) =
      some (attributes.map fun a => String.ofList (escaped attributeEntities reference
        a.shown.toList), tail) := by
  induction attributes with
  | nil => rfl
  | cons a attributes ih =>
    have hquote : '"' ∉ escaped attributeEntities reference a.shown.toList :=
      notMem_escaped_reference (by decide) (by decide) _
    have hvalue := dropInfix?_singleton hquote (attributes.flatMap writeAttribute ++ tail)
    have hstart : (" " ++ a.name ++ "=\"").toList.isPrefixOf?
        (writeAttribute a ++ (attributes.flatMap writeAttribute ++ tail)) =
        some (escaped attributeEntities reference a.shown.toList ++
          '"' :: (attributes.flatMap writeAttribute ++ tail)) :=
      List.isPrefixOf?_eq_some_iff_append_eq.mpr (by simp [writeAttribute])
    rw [List.map_cons, List.flatMap_cons, List.append_assoc, readValues, hstart]
    simp only [Option.bind_eq_bind, Option.bind_some, hvalue, ih]
    rfl

end Reader

/-! ### Texts and elements -/

namespace Node

section Plain

variable {c : Config} (hc : c.IsPlain) {ν : Nesting}

include hc

/-- An element begins, after its indentation, with `<`, its name and its attributes, all of which
have texts. -/
lemma exists_tag_renderNode {t : Tag} {children : List Node} {r : Rendering}
    (h : (renderNode c (.element t children)).resultIn ν = .ok r) :
    (∀ a ∈ t.attributes, a.HasText) ∧
      ∃ indent rest, (indent = "" ∨ indent = ν.indent c.indent c.pretty) ∧
        r.data = indent ++ "<" ++ t.name ++
          String.ofList (t.attributes.flatMap Reader.writeAttribute) ++ rest := by
  by_cases hempty : children = []
  · subst hempty
    rw [resultIn_renderNode_empty] at h
    obtain ⟨own, -, h⟩ := exists_of_bind_eq_ok h
    obtain ⟨attributes, hattributes, h⟩ := exists_of_bind_eq_ok h
    obtain rfl := Except.ok.inj h
    obtain ⟨htexts, rfl⟩ := hc.attributesMarkup (eq_ok_of_mapError_eq_ok hattributes)
    obtain ⟨rest, hrest⟩ := hc.exists_emptyTag (ν.indent c.indent c.pretty) t
      (String.ofList (t.attributes.flatMap Reader.writeAttribute))
    exact ⟨htexts, _, rest, .inr rfl, hrest⟩
  · rw [resultIn_renderNode_element _ _ _ hempty] at h
    obtain ⟨own, -, h⟩ := exists_of_bind_eq_ok h
    obtain ⟨body, -, h⟩ := exists_of_bind_eq_ok h
    obtain ⟨attributes, hattributes, h⟩ := exists_of_bind_eq_ok h
    obtain rfl := Except.ok.inj h
    obtain ⟨htexts, rfl⟩ := hc.attributesMarkup (eq_ok_of_mapError_eq_ok hattributes)
    obtain ⟨indent, rest, hindent, hrest⟩ := hc.exists_openingTag (ν.indent c.indent c.pretty) t
      (String.ofList (t.attributes.flatMap Reader.writeAttribute))
    refine ⟨htexts, indent, rest ++ body.data ++ c.closingTag (ν.indent c.indent c.pretty) t,
      hindent, ?_⟩
    simp only [hrest, String.append_assoc]

/-- The text of a node is written without `<` and `>`. -/
lemma resultIn_renderNode_text_of_isPlain (s : String) :
    (renderNode c (.text s)).resultIn ν =
      .ok (.ofMarkup (String.ofList (escaped textEntities reference s.toList))) := by
  rw [resultIn_renderNode_text, hc.textMarkup]
  rfl

end Plain

/-- Escaping with the standard encoder leaves none of the reserved characters `'`, `"`, `<` and `>`,
and, if the ampersand is reserved, no ampersands but those of the references of reserved characters.
So in plain markup, compact or pretty, the values of the attributes of an element are found by
looking for the next double quote, and no text contains `<` or `>`. -/
theorem escape_confines :
    (∀ (reserved : OrderedSet Char) (text : String), ∃ written,
      escape reserved .standard text = .ok written ∧
      (∀ b ∈ ['\'', '"', '<', '>'], b ∈ reserved → b ∉ written.toList) ∧
      ('&' ∈ reserved → List.Forall₂ (fun r suffix => r.toList <+: suffix)
        (references reserved text.toList) (Text.suffixesAt '&' written.toList))) ∧
    ∀ c : Config, c.IsPlain → ∀ ν : Nesting,
      (∀ t children r, (renderNode c (.element t children)).resultIn ν = .ok r →
        ∃ indent rest values tail, (indent = "" ∨ indent = ν.indent c.indent c.pretty) ∧
          r.data = indent ++ "<" ++ t.name ++ rest ∧
          Reader.readValues (t.attributes.map (·.name)) rest.toList = some (values, tail) ∧
          List.Forall₂ (fun a value => ∃ text, a.text = .ok text ∧
            escape attributeEntities .standard text = .ok value) t.attributes values) ∧
      ∀ s, ∃ markup, (renderNode c (.text s)).resultIn ν = .ok (.ofMarkup markup) ∧
        '<' ∉ markup.toList ∧ '>' ∉ markup.toList := by
  refine ⟨fun reserved text => ⟨_, escape_standard reserved text, ?_⟩,
    fun c hc ν => ⟨fun t children r h => ?_, fun s => ?_⟩⟩
  · rw [String.toList_ofList]
    exact ⟨fun b hb hr => Reader.notMem_escaped_reference hr hb _,
      fun hamp => forall₂_prefix_references hamp _⟩
  · obtain ⟨htexts, indent, rest, hindent, hdata⟩ := exists_tag_renderNode hc h
    have hread := Reader.readValues_append t.attributes rest.toList
    rw [← String.toList_ofList (l := t.attributes.flatMap Reader.writeAttribute),
      ← String.toList_append] at hread
    refine ⟨indent, _, _, _, hindent, hdata.trans (String.append_assoc ..), hread, ?_⟩
    rw [List.forall₂_map_right_iff, List.forall₂_same]
    exact fun a ha => ⟨a.shown, htexts a ha, escape_standard attributeEntities a.shown⟩
  · refine ⟨_, resultIn_renderNode_text_of_isPlain hc s, ?_⟩
    rw [String.toList_ofList]
    exact ⟨Reader.notMem_escaped_reference (by decide) (by decide) _,
      Reader.notMem_escaped_reference (by decide) (by decide) _⟩

/-- A configuration for pretty plain markup whose indentation looks like an attribute. -/
def quotedIndentConfig : Config := { Config.standard with pretty := true, indent := " a=\"" }

/-- A tag with an attribute that has no plain name, and values that look like the end of a tag, like
another attribute and like references. -/
def hostileTag : Tag where
  name := "polygon"
  attributes :=
    [⟨"\"=", .text "\"/><b c=\"", by decide⟩, ⟨"d", .text "&quot; d=\"&", by decide⟩]
  name_ne := by decide
  distinct := (by decide : ["\"=", "d"].Nodup)

/-- What is written for an element with `hostileTag` inside two others. -/
def hostileMarkup : String :=
  " a=\"<polygon \"==\"&quot;/&gt;&lt;b c=&quot;\" d=\"&amp;quot; d=&quot;&amp;\">\n" ++
    "&lt;/a&gt; a=\"</polygon>\n"

theorem escape_confines_hostileTag :
    quotedIndentConfig.IsPlain ∧
    (renderNode quotedIndentConfig (.element hostileTag [.text "</a>"])).resultIn ⟨3, 2, []⟩ =
      .ok ⟨hostileMarkup, .unknown⟩ ∧
    ∃ indent rest tail, hostileMarkup = indent ++ "<" ++ "polygon" ++ rest ∧
      Reader.readValues ["\"=", "d"] rest.toList =
        some (["&quot;/&gt;&lt;b c=&quot;", "&amp;quot; d=&quot;&amp;"], tail) := by
  have hplain : quotedIndentConfig.IsPlain := ⟨rfl, rfl, rfl, rfl⟩
  have hresult : (renderNode quotedIndentConfig (.element hostileTag [.text "</a>"])).resultIn
      ⟨3, 2, []⟩ = .ok ⟨hostileMarkup, .unknown⟩ := by
    decide +kernel
  obtain ⟨indent, rest, values, tail, -, hdata, hread, hvalues⟩ :=
    (escape_confines.2 _ hplain _).1 _ _ _ hresult
  obtain rfl : values = ["&quot;/&gt;&lt;b c=&quot;", "&amp;quot; d=&quot;&amp;"] := by
    cases hvalues with
    | cons hfirst hvalues =>
      cases hvalues with
      | cons hsecond hvalues =>
        cases hvalues
        obtain ⟨first, hfirst, hescaped⟩ := hfirst
        obtain ⟨second, hsecond, hescaped'⟩ := hsecond
        obtain rfl := Except.ok.inj hfirst
        obtain rfl := Except.ok.inj hsecond
        exact congrArg₂ (fun v w => [v, w]) (Except.ok.inj hescaped.symm)
          (Except.ok.inj hescaped'.symm)
  exact ⟨hplain, hresult, indent, rest, tail, hdata, hread⟩

end Node

end SvgMarkup
