import SvgMarkup.Proofs.Layout.Spread
import SvgMarkup.Proofs.Rendering.Result
import SvgMarkup.Proofs.Tree.Descendants

/-!
# Pretty output

Pretty output differs from compact output by layout only.  The two fail alike, and where they do not
fail each piece of compact markup spreads to the corresponding piece of pretty markup.

* `Config.compact` and `Config.spacious` are the two variants of a configuration.
* `Config.lineBreaks` is the number of line breaks that layout adds to a node.
* `Node.agree_renderList` relates the two renderings of some nodes.
-/

namespace SvgMarkup

lemma Nesting.toList_indent (ν : Nesting) (unit : String) :
    (ν.indent unit true).toList = (List.replicate (ν.depth - 1) unit.toList).flatten := by
  rw [indent, if_pos rfl, String.toList_join, List.flatMap_def, List.map_replicate]

namespace Config

/-- A configuration with or without layout, and otherwise like a given one. -/
def withLayout (c : Config) (pretty : Bool) : Config := { c with pretty }

/-- A configuration without layout. -/
def compact (c : Config) : Config := c.withLayout false

/-- A configuration with layout. -/
def spacious (c : Config) : Config := c.withLayout true

/-- The number of line breaks that layout adds to a node apart from its children. -/
def lineBreaks (c : Config) : Node → Nat
  | .element t children =>
    if children.isEmpty then 1
    else (if c.holdsText t then 0 else 1) + (if c.standsInText t then 0 else 1)
  | .comment _ | .cdata _ | .doctype _ | .instruction _ => 1
  | .text _ | .document _ | .bareAttribute _ | .value _ | .foreign _ _ _ => 0

/-- The number of line breaks that layout adds to some nodes. -/
def lineBreaksAmong (c : Config) : List Node → Nat
  | [] => 0
  | n :: ns => c.lineBreaks n + lineBreaksAmong c ns

variable (c : Config)

lemma lineBreaksAmong_append (ns ms : List Node) :
    c.lineBreaksAmong (ns ++ ms) = c.lineBreaksAmong ns + c.lineBreaksAmong ms := by
  induction ns with
  | nil => exact (Nat.zero_add _).symm
  | cons n ns ih =>
    rw [List.cons_append, lineBreaksAmong, lineBreaksAmong, ih, Nat.add_assoc]

/-! ### Pieces of markup -/

lemma written_compact (d : Delimiter) : c.compact.written d = c.delimiter d := rfl

lemma written_spacious (d : Delimiter) :
    c.spacious.written d = if d.endsLine then c.delimiter d ++ "\n" else c.delimiter d := rfl

lemma textMarkup_spacious (s : String) : c.spacious.textMarkup s = c.compact.textMarkup s := rfl

lemma attributesMarkup_spacious (t : Tag) :
    c.spacious.attributesMarkup t = c.compact.attributesMarkup t := rfl

lemma holdsText_spacious (t : Tag) : c.spacious.holdsText t = c.holdsText t := rfl

lemma holdsText_compact (t : Tag) : c.compact.holdsText t = c.holdsText t := rfl

lemma standsInText_spacious (t : Tag) : c.spacious.standsInText t = c.standsInText t := rfl

lemma standsInText_compact (t : Tag) : c.compact.standsInText t = c.standsInText t := rfl

lemma delimiter_spacious : c.spacious.delimiter = c.delimiter := rfl

lemma delimiter_compact : c.compact.delimiter = c.delimiter := rfl

/-- An empty tag has white space in front of it and a line break behind it. -/
lemma emptyTag_spacious (indent : String) (t : Tag) (attributes : String) :
    c.spacious.emptyTag indent t attributes =
      indent ++ c.compact.emptyTag "" t attributes ++ "\n" := by
  simp [emptyTag, written_spacious, written_compact, Delimiter.endsLine, String.append_assoc]

/-- An opening tag has white space in front of it unless the element stands inside text, and a line
break behind it unless the element holds text. -/
lemma openingTag_spacious (indent : String) (t : Tag) (attributes : String) :
    c.spacious.openingTag indent t attributes =
      (if c.standsInText t then "" else indent) ++ c.compact.openingTag "" t attributes ++
        (if c.holdsText t then "" else "\n") := by
  rw [openingTag, openingTag, holdsText_spacious, holdsText_compact, standsInText_spacious,
    standsInText_compact, delimiter_spacious, delimiter_compact]
  cases c.standsInText t <;> cases c.holdsText t <;>
    simp [written_spacious, written_compact, Delimiter.endsLine, String.append_assoc]

/-- A closing tag has white space in front of it unless the element holds text, and a line break
behind it unless the element stands inside text. -/
lemma closingTag_spacious (indent : String) (t : Tag) :
    c.spacious.closingTag indent t =
      (if c.holdsText t then "" else indent) ++ c.compact.closingTag "" t ++
        (if c.standsInText t then "" else "\n") := by
  rw [closingTag, closingTag, holdsText_spacious, holdsText_compact, standsInText_spacious,
    standsInText_compact, delimiter_spacious, delimiter_compact]
  cases c.standsInText t <;> cases c.holdsText t <;>
    simp [written_spacious, written_compact, Delimiter.endsLine, String.append_assoc]

/-! ### Pieces of markup spread -/

/-- A line break follows a leaf. -/
lemma spread_leaf (start : String) {d : Delimiter} (h : d.endsLine = true) :
    Spread c.indent.toList 1 (start ++ c.compact.written d).toList
      (start ++ c.spacious.written d).toList := by
  rw [written_compact, written_spacious, h, if_pos rfl, ← String.append_assoc,
    String.toList_append (s := start ++ c.delimiter d)]
  exact .append_lineBreak _

/-- The white space in front of a tag is indentation. -/
lemma spread_indent (ν : Nesting) (s : String) :
    Spread c.indent.toList 0 s.toList (ν.indent c.indent true ++ s).toList := by
  rw [String.toList_append, Nesting.toList_indent]
  exact .indents_append _ _

/-- A tag spreads to itself with layout around it, which may have to be left out on either side. -/
lemma spread_tag (ν : Nesting) (tag : String) (bareStart bareEnd : Bool) :
    Spread c.indent.toList (if bareEnd then 0 else 1) tag.toList
      ((if bareStart then "" else ν.indent c.indent true) ++ tag ++
        (if bareEnd then "" else "\n")).toList := by
  have hstart : Spread c.indent.toList 0 tag.toList
      ((if bareStart then "" else ν.indent c.indent true) ++ tag).toList := by
    cases bareStart with
    | true =>
      rw [if_pos rfl, String.empty_append]
      exact .refl _
    | false => exact c.spread_indent ν tag
  cases bareEnd with
  | true =>
    rw [if_pos rfl, if_pos rfl, String.append_empty]
    exact hstart
  | false =>
    have hbreak : Spread c.indent.toList 1 [] ['\n'] := .append_lineBreak []
    have h := hstart.append hbreak
    rw [List.append_nil, Nat.zero_add] at h
    rw [String.toList_append]
    exact h

lemma spread_emptyTag (ν : Nesting) (t : Tag) (attributes : String) :
    Spread c.indent.toList 1 (c.compact.emptyTag "" t attributes).toList
      (c.spacious.emptyTag (ν.indent c.indent true) t attributes).toList := by
  rw [emptyTag_spacious]
  exact c.spread_tag ν _ false false

lemma spread_openingTag (ν : Nesting) (t : Tag) (attributes : String) :
    Spread c.indent.toList (if c.holdsText t then 0 else 1)
      (c.compact.openingTag "" t attributes).toList
      (c.spacious.openingTag (ν.indent c.indent true) t attributes).toList := by
  rw [openingTag_spacious]
  exact c.spread_tag ν _ _ _

lemma spread_closingTag (ν : Nesting) (t : Tag) :
    Spread c.indent.toList (if c.standsInText t then 0 else 1)
      (c.compact.closingTag "" t).toList
      (c.spacious.closingTag (ν.indent c.indent true) t).toList := by
  rw [closingTag_spacious]
  exact c.spread_tag ν _ _ _

end Config

/-! ### Renderings -/

/-- A rendering spreads to another one with the same dimensions if its markup does. -/
structure Rendering.SpreadsTo (c : Config) (k : Nat) (r s : Rendering) : Prop where
  dimensions_eq : s.dimensions = r.dimensions
  spread : Spread c.indent.toList k r.data.toList s.data.toList

namespace Rendering.SpreadsTo

variable {c : Config} {k l : Nat} {r s : Rendering}

lemma refl (r : Rendering) : r.SpreadsTo c 0 r := ⟨rfl, .refl _⟩

lemma ofMarkup {data data' : String} (h : Spread c.indent.toList k data.toList data'.toList) :
    (Rendering.ofMarkup data).SpreadsTo c k (.ofMarkup data') :=
  ⟨rfl, h⟩

lemma append {r' s' : Rendering} (h : r.SpreadsTo c k s) (h' : r'.SpreadsTo c l s') :
    (r.append c.capture r').SpreadsTo c (k + l) (s.append c.capture s') := by
  constructor
  · rw [Rendering.append, Rendering.append, h.dimensions_eq, h'.dimensions_eq]
  · rw [Rendering.append, Rendering.append, String.toList_append, String.toList_append]
    exact h.spread.append h'.spread

end Rendering.SpreadsTo

namespace Node

variable (c : Config)

/-- The tags around a body that spreads get the line breaks of their element. -/
lemma spreadsTo_element (ν : Nesting) (t : Tag) {children : List Node} (hne : children ≠ [])
    (own : Dimensions) (attributes : String) {k : Nat} {r s : Rendering}
    (h : r.SpreadsTo c k s) :
    Rendering.SpreadsTo c (c.lineBreaks (.element t children) + k)
      ⟨c.compact.openingTag "" t attributes ++ r.data ++ c.compact.closingTag "" t,
        own.merged r.dimensions c.capture⟩
      ⟨c.spacious.openingTag (ν.indent c.indent true) t attributes ++ s.data ++
          c.spacious.closingTag (ν.indent c.indent true) t,
        own.merged s.dimensions c.capture⟩ := by
  constructor
  · rw [h.dimensions_eq]
  · have hopening := c.spread_openingTag ν t attributes
    have hclosing := c.spread_closingTag ν t
    have hall := (hopening.append h.spread).append hclosing
    have hisEmpty : children.isEmpty = false := List.isEmpty_eq_false_iff.mpr hne
    have hbreaks : c.lineBreaks (.element t children) + k =
        (if c.holdsText t then 0 else 1) + k + (if c.standsInText t then 0 else 1) := by
      rw [Config.lineBreaks, hisEmpty, if_neg Bool.false_ne_true]
      omega
    rw [hbreaks]
    simpa only [String.toList_append] using hall

/-- A node of none of the six kinds is treated alike with and without layout. -/
lemma agree_skipChild (typeName : String) (ν : Nesting) :
    Agree (Rendering.SpreadsTo c 0) ((skipChild c.compact typeName).resultIn ν)
      ((skipChild c.spacious typeName).resultIn ν) := by
  rw [resultIn_skipChild, resultIn_skipChild]
  by_cases hstrict : c.strict
  · have hcompact : c.compact.strict = true := hstrict
    have hspacious : c.spacious.strict = true := hstrict
    rw [if_pos hcompact, if_pos hspacious]
    exact .error _
  · have hcompact : ¬ c.compact.strict = true := hstrict
    have hspacious : ¬ c.spacious.strict = true := hstrict
    rw [if_neg hcompact, if_neg hspacious]
    exact .pure (.refl _)

mutual

/-- Without and with layout, rendering a node fails alike or gives renderings the first of which
spreads to the second. -/
lemma agree_renderNode (n : Node) (ν : Nesting) :
    Agree (Rendering.SpreadsTo c (c.lineBreaksAmong n.written))
      ((renderNode c.compact n).resultIn ν) ((renderNode c.spacious n).resultIn ν) := by
  cases n with
  | element t children =>
    by_cases hempty : children = []
    · subst hempty
      rw [resultIn_renderNode_empty, resultIn_renderNode_empty, Config.attributesMarkup_spacious]
      refine .bind_self _ fun own => .bind_self _ fun attributes => ?_
      exact .pure ⟨rfl, c.spread_emptyTag ν t attributes⟩
    · rw [resultIn_renderNode_element _ _ _ hempty, resultIn_renderNode_element _ _ _ hempty,
        Config.attributesMarkup_spacious]
      -- both passes enter the element alike, and its attributes are the same text in both
      have hbody :=
        Pass.together_within (fun _ => rfl) (agree_renderList children (ν.inside t.name))
      refine .bind_self _ fun own => hbody.bind fun r s hrs => ?_
      refine Agree.bind_self _ fun attributes => ?_
      exact .pure (spreadsTo_element c ν t hempty own attributes hrs)
  | text s =>
    rw [resultIn_renderNode_text, resultIn_renderNode_text, Config.textMarkup_spacious]
    refine .bind_self _ fun markup => ?_
    exact .pure (.refl _)
  | comment s =>
    rw [resultIn_renderNode_comment, resultIn_renderNode_comment]
    exact .pure (.ofMarkup (c.spread_leaf _ rfl))
  | cdata s =>
    rw [resultIn_renderNode_cdata, resultIn_renderNode_cdata]
    exact .pure (.ofMarkup (c.spread_leaf _ rfl))
  | doctype s =>
    rw [resultIn_renderNode_doctype, resultIn_renderNode_doctype]
    exact .pure (.ofMarkup (c.spread_leaf _ rfl))
  | instruction i =>
    rw [resultIn_renderNode_instruction, resultIn_renderNode_instruction]
    exact .pure (.ofMarkup (c.spread_leaf _ rfl))
  | document | bareAttribute | value | «foreign» =>
    rw [resultIn_renderNode_of_kind?_eq_none _ _ rfl, resultIn_renderNode_of_kind?_eq_none _ _ rfl]
    exact agree_skipChild c _ ν

/-- Without and with layout, rendering some nodes fails alike or gives renderings the first of which
spreads to the second. -/
lemma agree_renderList (ns : List Node) (ν : Nesting) :
    Agree (Rendering.SpreadsTo c (c.lineBreaksAmong (writtenList ns)))
      ((renderList c.compact ns).resultIn ν) ((renderList c.spacious ns).resultIn ν) := by
  cases ns with
  | nil =>
    rw [resultIn_renderList_nil, resultIn_renderList_nil]
    exact .pure (.refl _)
  | cons n ns =>
    rw [resultIn_renderList_cons, resultIn_renderList_cons]
    rw [writtenList, Config.lineBreaksAmong_append]
    refine (agree_renderNode n ν).bind fun r s hrs => ?_
    refine (agree_renderList ns ν).bind fun r' s' hrs' => ?_
    exact .pure (hrs.append hrs')

end

/-! ### Complete passes -/

/-- Without and with layout, rendering the children of a container fails alike or gives renderings
the first of which spreads to the second. -/
lemma agree_render (n : Node) (ν : Nesting) :
    Agree (Rendering.SpreadsTo c (c.lineBreaksAmong (writtenList n.children)))
      ((render c.compact n).resultIn ν) ((render c.spacious n).resultIn ν) := by
  by_cases hempty : n.children = []
  · rw [resultIn_render_of_children_eq_nil _ _ hempty,
      resultIn_render_of_children_eq_nil _ _ hempty, hempty]
    exact .pure (.refl _)
  · rw [resultIn_render_of_children_ne_nil _ _ hempty,
      resultIn_render_of_children_ne_nil _ _ hempty]
    exact Pass.together_within (fun _ => rfl) (agree_renderList c n.children (ν.inside n.label))

/-- Passes without and with layout fail with the same error or both succeed.  If they succeed, the
dimensions are the same; the compact markup is what is left of the pretty one if some characters are
deleted; deleting from both all characters of any class that includes the line break and the
characters of the indentation leaves the same text; and if the indentation has no line breaks, the
pretty markup has as many more of them as the nodes that are written call for. -/
theorem serialize_spacious (n : Node) (stack : CallStack) :
    (∃ e, (serialize c.compact n stack).result = .error e ∧
      (serialize c.spacious n stack).result = .error e) ∨
    ∃ r s, (serialize c.compact n stack).result = .ok r ∧
      (serialize c.spacious n stack).result = .ok s ∧
      s.dimensions = r.dimensions ∧
      r.data.toList.Sublist s.data.toList ∧
      (∀ layout : Char → Bool, layout '\n' → (∀ a ∈ c.indent.toList, layout a) →
        s.data.toList.filter (fun a => !layout a) = r.data.toList.filter (fun a => !layout a)) ∧
      ('\n' ∉ c.indent.toList → s.data.toList.count '\n' =
        r.data.toList.count '\n' + c.lineBreaksAmong (writtenList n.children)) := by
  have hstart : (Nesting.start c.spacious.maxDepth stack).1 =
      (Nesting.start c.compact.maxDepth stack).1 := rfl
  rw [result_serialize, result_serialize, hstart]
  rcases (agree_render c n _).cases with ⟨e, he, he'⟩ | ⟨r, s, hr, hs, h⟩
  · exact .inl ⟨e, he, he'⟩
  · refine .inr ⟨r, s, hr, hs, h.dimensions_eq, h.spread.sublist, ?_, h.spread.count_eq⟩
    intro layout hbreak hindent
    refine h.spread.filter_eq ?_ ?_
    · rw [hbreak, Bool.not_true]
    · intro a ha
      rw [hindent a ha, Bool.not_true]

/-- The tag of an element that holds text and does not stand inside text. -/
def titleTag : Tag := ⟨"title", [], by decide, List.nodup_nil⟩

/-- The tag of an element that holds text and stands inside text. -/
def tspanTag : Tag := ⟨"tspan", [], by decide, List.nodup_nil⟩

/-- A document with elements inside and outside the groups, with and without children. -/
def layeredDocument : Node :=
  .document [.comment "c", .element ⟨"desc", [], by decide, List.nodup_nil⟩
    [.element titleTag [.text "a", .element tspanTag [.text "b"], .element tspanTag []],
      .element titleTag [.text " d"]]]

theorem serialize_layeredDocument :
    ∃ r s, (serialize Config.standard.compact layeredDocument).result = .ok r ∧
      (serialize Config.standard.spacious layeredDocument).result = .ok s ∧
      s.data.toList.filter (fun a => !a.isWhitespace) =
        r.data.toList.filter (fun a => !a.isWhitespace) ∧
      s.data.toList.count '\n' = r.data.toList.count '\n' + 6 := by
  have hok : (serialize Config.standard.compact layeredDocument).result.isOk := by decide +kernel
  have hindent : ∀ a ∈ Config.standard.indent.toList, a.isWhitespace :=
    List.all_eq_true.mp (by decide)
  have hbreak : '\n' ∉ Config.standard.indent.toList := by decide +kernel
  rcases serialize_spacious .standard layeredDocument {} with
    ⟨e, he, -⟩ | ⟨r, s, hr, hs, -, -, hfilter, hcount⟩
  · rw [he] at hok
    cases hok
  · exact ⟨r, s, hr, hs, hfilter Char.isWhitespace rfl hindent, hcount hbreak⟩

end Node

end SvgMarkup
