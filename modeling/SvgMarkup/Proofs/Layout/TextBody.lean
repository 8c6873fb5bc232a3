import SvgMarkup.Proofs.Layout.Pretty

/-!
# The bodies of text elements

Layout inside text would become part of it.  In the body of an element that holds text, as far as it
consists of text, character data and elements that stand inside text and hold text themselves, there
are only two places for layout: a line break follows character data, and a childless element, which
has no body to keep free, is indented and followed by a line break.  All else is written as in
compact output, at every depth.

* `Node.inlineMarkup` is the markup of such a body, with or without layout.
* `Node.data_renderList_of_isInline` says that this is what is written.
* `Node.inlineMarkupList_eq` says when layout makes no difference.
-/

namespace SvgMarkup

namespace Config

variable (c : Config) (pretty : Bool)

/-- The nodes that the body of a text element may consist of. -/
def IsInline : Node → Prop
  | .text _ | .cdata _ => True
  | .element t _ => c.holdsText t ∧ c.standsInText t
  | .comment _ | .doctype _ | .instruction _ | .document _ | .bareAttribute _ | .value _
  | .foreign _ _ _ => False

instance : DecidablePred c.IsInline
  | .text _ | .cdata _ => .isTrue trivial
  | .element t _ => inferInstanceAs (Decidable (c.holdsText t ∧ c.standsInText t))
  | .comment _ | .doctype _ | .instruction _ | .document _ | .bareAttribute _ | .value _
  | .foreign _ _ _ => .isFalse id

/-! ### Pieces of markup -/

/-- What layout adds at the end of a line. -/
def lineEnd : String := if pretty then "\n" else ""

/-- What layout adds before a tag inside so many containers. -/
def tagIndent (depth : Nat) : String :=
  if pretty then String.join (List.replicate (depth - 1) c.indent) else ""

lemma written_withLayout (d : Delimiter) :
    (c.withLayout pretty).written d =
      c.delimiter d ++ if d.endsLine then lineEnd pretty else "" := by
  cases pretty with
  | false =>
    have hplain : (if d.endsLine then lineEnd false else "") = "" := ite_self _
    rw [hplain, String.append_empty]
    rfl
  | true =>
    have hspacious : (c.withLayout true).written d =
        if d.endsLine then c.delimiter d ++ "\n" else c.delimiter d := rfl
    rw [hspacious]
    split
    · rfl
    · rw [String.append_empty]

lemma cdataMarkup_withLayout (s : String) :
    (c.withLayout pretty).cdataMarkup s = c.compact.cdataMarkup s ++ lineEnd pretty := by
  have hend : (c.withLayout pretty).written .cdataEnd =
      c.delimiter .cdataEnd ++ lineEnd pretty := written_withLayout ..
  have hstart : (c.withLayout pretty).written .cdataStart = c.compact.written .cdataStart := by
    cases pretty <;> rfl
  rw [cdataMarkup, cdataMarkup, hend, hstart, ← String.append_assoc, ← written_compact]

lemma emptyTag_withLayout (indent : String) (t : Tag) (attributes : String) :
    (c.withLayout pretty).emptyTag indent t attributes =
      indent ++ c.compact.emptyTag "" t attributes ++ lineEnd pretty := by
  have hend : (c.withLayout pretty).written .tagShortEnd =
      c.delimiter .tagShortEnd ++ lineEnd pretty := written_withLayout ..
  have hstart : (c.withLayout pretty).written .tagShortStart =
      c.compact.written .tagShortStart := by
    cases pretty <;> rfl
  rw [emptyTag, emptyTag, hend, hstart, written_compact, written_compact]
  simp only [String.empty_append, String.append_assoc]

/-- The markup of a text, if it exists. -/
def inlineText (s : String) : String := (c.compact.textMarkup s).toOption.getD ""

/-- The markup of the attributes of a tag, if it exists. -/
def inlineAttributes (t : Tag) : String := (c.compact.attributesMarkup t).toOption.getD ""

/-- The tags of an element around a body, without layout. -/
def inlineTags (t : Tag) (body : String) : String :=
  c.delimiter .tagOpenStart ++ t.name ++ c.inlineAttributes t ++ c.delimiter .tagOpenEnd ++ body ++
    (c.delimiter .tagCloseStart ++ t.name ++ c.delimiter .tagCloseEnd)

lemma inlineText_of_eq_ok {s markup : String}
    (h : (c.withLayout pretty).textMarkup s = .ok markup) : c.inlineText s = markup := by
  have hcompact : c.compact.textMarkup s = .ok markup := by
    rw [← h]
    cases pretty <;> rfl
  rw [inlineText, hcompact]
  rfl

lemma inlineAttributes_of_eq_ok {t : Tag} {markup : String}
    (h : (c.withLayout pretty).attributesMarkup t = .ok markup) :
    c.inlineAttributes t = markup := by
  have hcompact : c.compact.attributesMarkup t = .ok markup := by
    rw [← h]
    cases pretty <;> rfl
  rw [inlineAttributes, hcompact]
  rfl

/-- The tags of an element that holds text have layout only around them, and none at all if the
element stands inside text. -/
lemma tags_of_holdsText {t : Tag} (hholds : c.holdsText t = true) (indent body : String) :
    (c.withLayout pretty).openingTag indent t (c.inlineAttributes t) ++ body ++
        (c.withLayout pretty).closingTag indent t =
      (if c.standsInText t then "" else indent) ++ c.inlineTags t body ++
        (if c.standsInText t then "" else lineEnd pretty) := by
  have hholds' : (c.withLayout pretty).holdsText t = true := hholds
  have hstands : (c.withLayout pretty).standsInText t = c.standsInText t := rfl
  have hdelimiter : (c.withLayout pretty).delimiter = c.delimiter := rfl
  have hstart : (c.withLayout pretty).written .tagOpenStart = c.delimiter .tagOpenStart := by
    rw [written_withLayout]
    exact String.append_empty
  have hend : (c.withLayout pretty).written .tagCloseEnd =
      c.delimiter .tagCloseEnd ++ lineEnd pretty := written_withLayout ..
  rw [openingTag, closingTag, hholds', hstands, hdelimiter, hstart, hend]
  cases c.standsInText t with
  | true => simp [inlineTags, String.append_assoc]
  | false => simp [inlineTags, String.append_assoc]

end Config

namespace Node

/-- Whether a node in text has layout around it: character data and childless elements have. -/
def HasInlineLayout : Node → Prop
  | cdata _ => True
  | element _ children => children = []
  | _ => False

/-! ### The markup of text bodies -/

section Markup

variable (c : Config) (pretty : Bool)

mutual

/-- The markup of a node in text, inside so many containers. -/
def inlineMarkup (depth : Nat) : Node → String
  | element t children =>
    if children.isEmpty then
      c.tagIndent pretty depth ++ c.compact.emptyTag "" t (c.inlineAttributes t) ++
        Config.lineEnd pretty
    else c.inlineTags t (inlineMarkupList (depth + 1) children)
  | text s => c.inlineText s
  | cdata s => c.compact.cdataMarkup s ++ Config.lineEnd pretty
  | comment _ | doctype _ | instruction _ | document _ | bareAttribute _ | value _
  | «foreign» _ _ _ => ""

/-- The markup of some nodes in text, inside so many containers. -/
def inlineMarkupList (depth : Nat) : List Node → String
  | [] => ""
  | n :: ns => inlineMarkup depth n ++ inlineMarkupList depth ns

end

end Markup

variable {c : Config}

mutual

/-- Without character data and childless elements, layout makes no difference. -/
lemma inlineMarkup_eq {n : Node} (hn : ¬ n.HasInlineLayout)
    (h : ∀ m ∈ n.descendants, ¬ m.HasInlineLayout) (depth : Nat) :
    inlineMarkup c true depth n = inlineMarkup c false depth n := by
  cases n with
  | element t children =>
    have hne : children.isEmpty = false := by simpa [HasInlineLayout] using hn
    rw [descendants] at h
    rw [inlineMarkup, inlineMarkup, hne, inlineMarkupList_eq h]
    rfl
  | cdata s => exact absurd trivial hn
  | text | comment | doctype | instruction | document | bareAttribute | value | «foreign» => rfl

/-- Without character data and childless elements, layout makes no difference. -/
lemma inlineMarkupList_eq {ns : List Node} (h : ∀ m ∈ descendantsList ns, ¬ m.HasInlineLayout)
    (depth : Nat) : inlineMarkupList c true depth ns = inlineMarkupList c false depth ns := by
  cases ns with
  | nil => rfl
  | cons n ns =>
    obtain ⟨hn, hbelow, hns⟩ := forall_mem_descendantsList_cons.mp h
    rw [inlineMarkupList, inlineMarkupList, inlineMarkup_eq hn hbelow, inlineMarkupList_eq hns]

end

/-! ### Text bodies are rendered inline -/

/-- An element with children that holds text is rendered with layout only around its tags. -/
lemma data_renderNode_of_holdsText {pretty : Bool} {t : Tag} {children : List Node}
    (hne : children ≠ []) (hholds : c.holdsText t = true) {ν : Nesting} {r : Rendering}
    (h : (renderNode (c.withLayout pretty) (.element t children)).resultIn ν = .ok r) :
    ∃ body, (renderList (c.withLayout pretty) children).resultIn (ν.inside t.name) = .ok body ∧
      r.data = (if c.standsInText t then "" else ν.indent c.indent pretty) ++
        c.inlineTags t body.data ++ (if c.standsInText t then "" else Config.lineEnd pretty) := by
  rw [resultIn_renderNode_element _ _ _ hne] at h
  obtain ⟨own, -, h⟩ := exists_of_bind_eq_ok h
  obtain ⟨body, hbody, h⟩ := exists_of_bind_eq_ok h
  obtain ⟨attributes, hattributes, h⟩ := exists_of_bind_eq_ok h
  obtain rfl := Except.ok.inj h
  rw [Pass.resultIn_within] at hbody
  split at hbody
  · cases hbody
  · have htext := c.inlineAttributes_of_eq_ok pretty (eq_ok_of_mapError_eq_ok hattributes)
    rw [← htext]
    exact ⟨body, hbody, c.tags_of_holdsText pretty hholds _ _⟩

mutual

/-- A node in text is rendered as its markup in text. -/
lemma data_renderNode_of_isInline {pretty : Bool} {n : Node} {ν : Nesting} {r : Rendering}
    (hn : c.IsInline n) (hbelow : ∀ m ∈ n.descendants, c.IsInline m)
    (h : (renderNode (c.withLayout pretty) n).resultIn ν = .ok r) :
    r.data = inlineMarkup c pretty ν.depth n := by
  cases n with
  | element t children =>
    obtain ⟨hholds, hstands⟩ := hn
    by_cases hempty : children = []
    · subst hempty
      rw [resultIn_renderNode_empty] at h
      obtain ⟨own, -, h⟩ := exists_of_bind_eq_ok h
      obtain ⟨attributes, hattributes, h⟩ := exists_of_bind_eq_ok h
      have htext := c.inlineAttributes_of_eq_ok pretty (eq_ok_of_mapError_eq_ok hattributes)
      obtain rfl := Except.ok.inj h
      rw [← htext, Config.emptyTag_withLayout]
      rfl
    · obtain ⟨body, hbody, hdata⟩ := data_renderNode_of_holdsText hempty hholds h
      have hisEmpty : children.isEmpty = false := List.isEmpty_eq_false_iff.mpr hempty
      rw [descendants] at hbelow
      have ih := data_renderList_of_isInline hbelow hbody
      -- the element stands inside text, so there is no layout around its tags either
      rw [hdata, ih, hstands, inlineMarkup, hisEmpty]
      simp [Nesting.inside]
  | text s =>
    rw [resultIn_renderNode_text] at h
    obtain ⟨markup, hmarkup, h⟩ := exists_of_bind_eq_ok h
    obtain rfl := Except.ok.inj h
    exact (c.inlineText_of_eq_ok pretty (eq_ok_of_mapError_eq_ok hmarkup)).symm
  | cdata s =>
    rw [resultIn_renderNode_cdata] at h
    obtain rfl := Except.ok.inj h
    exact c.cdataMarkup_withLayout pretty s
  | comment | doctype | instruction | document | bareAttribute | value | «foreign» =>
    exact absurd hn id

/-- Nodes in text are rendered as their markup in text. -/
lemma data_renderList_of_isInline {pretty : Bool} {ns : List Node} {ν : Nesting} {r : Rendering}
    (hinline : ∀ m ∈ descendantsList ns, c.IsInline m)
    (h : (renderList (c.withLayout pretty) ns).resultIn ν = .ok r) :
    r.data = inlineMarkupList c pretty ν.depth ns := by
  cases ns with
  | nil =>
    rw [resultIn_renderList_nil] at h
    obtain rfl := Except.ok.inj h
    rfl
  | cons n ns =>
    rw [resultIn_renderList_cons] at h
    obtain ⟨first, hfirst, h⟩ := exists_of_bind_eq_ok h
    obtain ⟨rest, hrest, h⟩ := exists_of_bind_eq_ok h
    obtain rfl := Except.ok.inj h
    obtain ⟨hn, hbelow, hns⟩ := forall_mem_descendantsList_cons.mp hinline
    rw [Rendering.append, data_renderNode_of_isInline hn hbelow hfirst,
      data_renderList_of_isInline hns hrest, inlineMarkupList]

end

/-- An element with children that holds text is rendered by passes without and with layout alike,
if its descendants are text, character data and elements that stand inside text and hold text: the
tags are the same in both, and so is the body except for the layout of character data and childless
elements.  If there are no such nodes, the bodies are the same. -/
theorem renderNode_textElement {t : Tag} {children : List Node} (hne : children ≠ [])
    (hholds : c.holdsText t = true) (hinline : ∀ m ∈ descendantsList children, c.IsInline m)
    (ν : Nesting) :
    (∃ e, (renderNode c.compact (.element t children)).resultIn ν = .error e ∧
      (renderNode c.spacious (.element t children)).resultIn ν = .error e) ∨
    ∃ r s, (renderNode c.compact (.element t children)).resultIn ν = .ok r ∧
      (renderNode c.spacious (.element t children)).resultIn ν = .ok s ∧
      r.data = c.inlineTags t (inlineMarkupList c false (ν.depth + 1) children) ∧
      s.data = (if c.standsInText t then "" else ν.indent c.indent true) ++
        c.inlineTags t (inlineMarkupList c true (ν.depth + 1) children) ++
        (if c.standsInText t then "" else "\n") ∧
      ((∀ m ∈ descendantsList children, ¬ m.HasInlineLayout) →
        inlineMarkupList c true (ν.depth + 1) children =
          inlineMarkupList c false (ν.depth + 1) children) := by
  rcases (agree_renderNode c (.element t children) ν).cases with ⟨e, he, he'⟩ | ⟨r, s, hr, hs, -⟩
  · exact .inl ⟨e, he, he'⟩
  · obtain ⟨body, hbody, hdata⟩ := data_renderNode_of_holdsText hne hholds hr
    obtain ⟨body', hbody', hdata'⟩ := data_renderNode_of_holdsText hne hholds hs
    have hmarkup := data_renderList_of_isInline hinline hbody
    have hmarkup' := data_renderList_of_isInline hinline hbody'
    refine .inr ⟨r, s, hr, hs, ?_, ?_, fun h => inlineMarkupList_eq h _⟩
    · -- without layout there is nothing around the tags, whatever the element stands in
      have hbare : (if c.standsInText t then "" else ν.indent c.indent false) = "" := ite_self _
      have hbare' : (if c.standsInText t then "" else Config.lineEnd false) = "" := ite_self _
      rw [hdata, hmarkup, hbare, hbare', String.empty_append, String.append_empty]
      rfl
    · rw [hdata', hmarkup']
      rfl

/-- The body of a text element with nodes of all kinds that may stand in it. -/
def mixedBody : List Node :=
  [.text "a", .element tspanTag [.text "<"], .element tspanTag [], .cdata "d"]

/-- The containers of a document with a root element. -/
def insideRoot : Nesting := ⟨9, 2, ["", "svg"]⟩

theorem renderNode_mixedBody :
    mixedBody ≠ [] ∧ Config.standard.holdsText titleTag = true ∧
    (∀ m ∈ descendantsList mixedBody, Config.standard.IsInline m) ∧
    ∃ r s, (renderNode Config.standard.compact (.element titleTag mixedBody)).resultIn insideRoot =
        .ok r ∧
      (renderNode Config.standard.spacious (.element titleTag mixedBody)).resultIn insideRoot =
        .ok s ∧
      r.data = "<title>a<tspan>&lt;</tspan><tspan/><![CDATA[d]]></title>" ∧
      s.data = "    <title>a<tspan>&lt;</tspan>        <tspan/>\n<![CDATA[d]]>\n</title>\n" := by
  have hne : mixedBody ≠ [] := List.cons_ne_nil _ _
  have hholds : Config.standard.holdsText titleTag = true := by decide +kernel
  have hinline : ∀ m ∈ descendantsList mixedBody, Config.standard.IsInline m := by decide +kernel
  have hok : ((renderNode Config.standard.compact (.element titleTag mixedBody)).resultIn
      insideRoot).isOk := by decide +kernel
  rcases renderNode_textElement hne hholds hinline insideRoot with
    ⟨e, he, -⟩ | ⟨r, s, hr, hs, hdata, hdata', -⟩
  · rw [he] at hok
    cases hok
  · refine ⟨hne, hholds, hinline, r, s, hr, hs, ?_, ?_⟩
    · rw [hdata]
      decide +kernel
    · rw [hdata']
      decide +kernel

/-- The layout of character data and childless elements shows in the body of a text element. -/
theorem not_forall_textBody_eq :
    ¬ ∀ (c : Config) (t : Tag) (children : List Node) (ν : Nesting) (r s : Rendering),
      children ≠ [] → c.holdsText t = true → (∀ m ∈ descendantsList children, c.IsInline m) →
      (renderList c.compact children).resultIn (ν.inside t.name) = .ok r →
      (renderList c.spacious children).resultIn (ν.inside t.name) = .ok s → s.data = r.data := by
  intro h
  have hinline : ∀ m ∈ descendantsList mixedBody, Config.standard.IsInline m := by decide +kernel
  have hcompact : (renderList Config.standard.compact mixedBody).resultIn
      (insideRoot.inside titleTag.name) =
      .ok ⟨"a<tspan>&lt;</tspan><tspan/><![CDATA[d]]>", .unknown⟩ := by
    decide +kernel
  have hspacious : (renderList Config.standard.spacious mixedBody).resultIn
      (insideRoot.inside titleTag.name) =
      .ok ⟨"a<tspan>&lt;</tspan>        <tspan/>\n<![CDATA[d]]>\n", .unknown⟩ := by
    decide +kernel
  have hsame := h .standard titleTag mixedBody insideRoot _ _ (List.cons_ne_nil _ _)
    (by decide +kernel) hinline hcompact hspacious
  exact absurd hsame (by decide)

end Node

end SvgMarkup
