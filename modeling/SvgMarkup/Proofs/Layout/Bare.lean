import SvgMarkup.Proofs.Layout.Pretty

/-!
# Output without layout

Pretty output is the same text as compact output exactly if every node that is written is *bare*:
text, or an element with children that holds text and stands inside text.  Bare nodes are written
alike in both; any other node gets a line break of its own, which nothing takes back, so the pretty
text is longer.

* `Config.lineBreaksAmong_eq_zero_iff`: the nodes that layout adds no line breaks to are bare.
* `Node.resultIn_renderList_of_isBare`: bare nodes are rendered alike with and without layout.
* `Node.render_spacious_eq_iff` puts both together.
-/

namespace SvgMarkup

namespace Config

variable (c : Config)

/-- Whether a node is written without layout: text is, and an element with children if it is in both
groups of elements that have to do with text. -/
def IsBare : Node → Prop
  | .text _ => True
  | .element t children => children ≠ [] ∧ c.holdsText t ∧ c.standsInText t
  | .comment _ | .cdata _ | .doctype _ | .instruction _ | .document _ | .bareAttribute _ | .value _
  | .foreign _ _ _ => False

instance : DecidablePred c.IsBare
  | .text _ => .isTrue trivial
  | .element t children =>
    inferInstanceAs (Decidable (children ≠ [] ∧ c.holdsText t ∧ c.standsInText t))
  | .comment _ | .cdata _ | .doctype _ | .instruction _ | .document _ | .bareAttribute _ | .value _
  | .foreign _ _ _ => .isFalse id

variable {c}

/-- Of the six kinds of nodes, layout adds no line break to bare ones only. -/
lemma lineBreaks_eq_zero_iff {n : Node} (h : n.kind? ≠ none) :
    c.lineBreaks n = 0 ↔ c.IsBare n := by
  cases n with
  | element t children =>
    rw [lineBreaks, IsBare]
    by_cases hempty : children = []
    · simp [hempty]
    · cases c.holdsText t <;> cases c.standsInText t <;> simp [hempty]
  | text => exact ⟨fun _ => trivial, fun _ => rfl⟩
  | comment | cdata | doctype | instruction => exact ⟨fun h => absurd h Nat.one_ne_zero, False.elim⟩
  | document | bareAttribute | value | «foreign» => exact absurd rfl h

/-- Layout adds no line break to nodes of the six kinds exactly if all of them are bare. -/
lemma lineBreaksAmong_eq_zero_iff {ns : List Node} (h : ∀ n ∈ ns, n.kind? ≠ none) :
    c.lineBreaksAmong ns = 0 ↔ ∀ n ∈ ns, c.IsBare n := by
  induction ns with
  | nil => exact ⟨fun _ => List.forall_mem_nil _, fun _ => rfl⟩
  | cons n ns ih =>
    obtain ⟨hn, hns⟩ := List.forall_mem_cons.mp h
    rw [lineBreaksAmong, Nat.add_eq_zero_iff, lineBreaks_eq_zero_iff hn, ih hns,
      List.forall_mem_cons]

end Config

namespace Node

variable {c : Config}

/-! ### Bare nodes are rendered alike -/

mutual

/-- A node with which only bare nodes are written is rendered alike with and without layout. -/
lemma resultIn_renderNode_of_isBare {n : Node} (h : ∀ m ∈ n.written, c.IsBare m) (ν : Nesting) :
    (renderNode c.spacious n).resultIn ν = (renderNode c.compact n).resultIn ν := by
  cases n with
  | element t children =>
    rw [written, List.forall_mem_cons] at h
    obtain ⟨⟨hne, hholds, hstands⟩, hbelow⟩ := h
    have hbody := resultIn_renderList_of_isBare hbelow (ν.inside t.name)
    have hopening (indent attributes : String) :
        c.spacious.openingTag indent t attributes = c.compact.openingTag "" t attributes := by
      rw [Config.openingTag_spacious, hholds, hstands, if_pos rfl, if_pos rfl, String.empty_append,
        String.append_empty]
    have hclosing (indent : String) :
        c.spacious.closingTag indent t = c.compact.closingTag "" t := by
      rw [Config.closingTag_spacious, hholds, hstands, if_pos rfl, if_pos rfl, String.empty_append,
        String.append_empty]
    rw [resultIn_renderNode_element _ _ _ hne, resultIn_renderNode_element _ _ _ hne,
      Pass.resultIn_within, Pass.resultIn_within, hbody, Config.attributesMarkup_spacious, hclosing]
    simp only [hopening]
    rfl
  | text s =>
    rw [resultIn_renderNode_text, resultIn_renderNode_text, Config.textMarkup_spacious]
  | comment s | cdata s | doctype s | instruction i => exact (h _ (List.mem_singleton_self _)).elim
  | document | bareAttribute | value | «foreign» =>
    -- a stranger is skipped or refused in both, and its contents do not matter
    rw [resultIn_renderNode_of_kind?_eq_none _ _ rfl, resultIn_renderNode_of_kind?_eq_none _ _ rfl,
      resultIn_skipChild, resultIn_skipChild]
    rfl

/-- Nodes with which only bare nodes are written are rendered alike with and without layout. -/
lemma resultIn_renderList_of_isBare {ns : List Node} (h : ∀ m ∈ writtenList ns, c.IsBare m)
    (ν : Nesting) :
    (renderList c.spacious ns).resultIn ν = (renderList c.compact ns).resultIn ν := by
  cases ns with
  | nil => rw [resultIn_renderList_nil, resultIn_renderList_nil]
  | cons n ns =>
    rw [writtenList, List.forall_mem_append] at h
    obtain ⟨hn, hns⟩ := h
    rw [resultIn_renderList_cons, resultIn_renderList_cons, resultIn_renderNode_of_isBare hn ν,
      resultIn_renderList_of_isBare hns ν]
    rfl

end

lemma resultIn_render_of_isBare {n : Node} (h : ∀ m ∈ writtenList n.children, c.IsBare m)
    (ν : Nesting) : (render c.spacious n).resultIn ν = (render c.compact n).resultIn ν := by
  by_cases hempty : n.children = []
  · rw [resultIn_render_of_children_eq_nil _ _ hempty,
      resultIn_render_of_children_eq_nil _ _ hempty]
  · rw [resultIn_render_of_children_ne_nil _ _ hempty,
      resultIn_render_of_children_ne_nil _ _ hempty, Pass.resultIn_within, Pass.resultIn_within,
      resultIn_renderList_of_isBare h]

/-! ### The condition -/

/-- Inside any containers, rendering a container without and with layout fails alike, or gives the
same text exactly if all nodes that are written are bare.  Otherwise the text with layout is
longer. -/
theorem render_spacious_eq_iff (c : Config) (n : Node) (ν : Nesting) :
    (∃ e, (render c.compact n).resultIn ν = .error e ∧
      (render c.spacious n).resultIn ν = .error e) ∨
    ∃ r s, (render c.compact n).resultIn ν = .ok r ∧ (render c.spacious n).resultIn ν = .ok s ∧
      (s.data = r.data ↔ ∀ m ∈ writtenList n.children, c.IsBare m) ∧
      (s.data ≠ r.data → r.data.length < s.data.length) := by
  rcases (agree_render c n ν).cases with ⟨e, he, he'⟩ | ⟨r, s, hr, hs, h⟩
  · exact .inl ⟨e, he, he'⟩
  have hsame (hbare : ∀ m ∈ writtenList n.children, c.IsBare m) : s.data = r.data := by
    have hrender := resultIn_render_of_isBare hbare ν
    rw [hr, hs] at hrender
    rw [Except.ok.inj hrender]
  have hlonger (hbare : ¬ ∀ m ∈ writtenList n.children, c.IsBare m) :
      r.data.length < s.data.length := by
    have hbreaks : c.lineBreaksAmong (writtenList n.children) ≠ 0 := fun hzero =>
      hbare ((Config.lineBreaksAmong_eq_zero_iff fun m => kind?_of_mem_writtenList).mp hzero)
    have hlength := h.spread.length_add_le
    rw [String.length_toList, String.length_toList] at hlength
    omega
  refine .inr ⟨r, s, hr, hs, ⟨fun heq => ?_, hsame⟩, fun hne => hlonger fun hbare => ?_⟩
  · by_contra hbare
    have hlt := hlonger hbare
    rw [heq] at hlt
    exact Nat.lt_irrefl _ hlt
  · exact hne (hsame hbare)

/-- A configuration that skips strangers and in which neither group of elements contains the
other. -/
def crossedConfig : Config :=
  { Config.standard with
    textElements := .ofList ["b", "p"], textChildElements := .ofList ["b", "i"], strict := false }

/-- The tag of an element in both groups. -/
def boldTag : Tag := ⟨"b", [], by decide, List.nodup_nil⟩

/-- The tag of an element that stands inside text without holding text. -/
def italicTag : Tag := ⟨"i", [], by decide, List.nodup_nil⟩

/-- A container in which all that is written is bare, since strangers are not. -/
def bareContainer : Node :=
  .document [.text "a", .element boldTag [.value (.int 1), .element boldTag [.document []]]]

/-- A container with an element that is not bare. -/
def laidOutContainer : Node := .document [.element boldTag [.element italicTag [.text "a"]]]

/-- The containers of a document in which an element has been entered. -/
def insideBold : Nesting := ⟨9, 2, ["", "b"]⟩

theorem render_crossedConfig :
    (∀ m ∈ writtenList bareContainer.children, crossedConfig.IsBare m) ∧
    (∃ r s, (render crossedConfig.compact bareContainer).resultIn insideBold = .ok r ∧
      (render crossedConfig.spacious bareContainer).resultIn insideBold = .ok s ∧
      s.data = r.data) ∧
    ∃ r s, (render crossedConfig.compact laidOutContainer).resultIn insideBold = .ok r ∧
      (render crossedConfig.spacious laidOutContainer).resultIn insideBold = .ok s ∧
      s.data ≠ r.data ∧ r.data.length < s.data.length := by
  have hbare : (∀ m ∈ writtenList bareContainer.children, crossedConfig.IsBare m) ∧
      ¬ ∀ m ∈ writtenList laidOutContainer.children, crossedConfig.IsBare m := by
    decide +kernel
  have hok : ((render crossedConfig.compact bareContainer).resultIn insideBold).isOk ∧
      ((render crossedConfig.compact laidOutContainer).resultIn insideBold).isOk := by
    decide +kernel
  refine ⟨hbare.1, ?_, ?_⟩
  · rcases render_spacious_eq_iff crossedConfig bareContainer insideBold with
      ⟨e, he, -⟩ | ⟨r, s, hr, hs, hiff, -⟩
    · rw [he] at hok
      cases hok.1
    · exact ⟨r, s, hr, hs, hiff.mpr hbare.1⟩
  · rcases render_spacious_eq_iff crossedConfig laidOutContainer insideBold with
      ⟨e, he, -⟩ | ⟨r, s, hr, hs, hiff, hlonger⟩
    · rw [he] at hok
      cases hok.2
    · have hne : s.data ≠ r.data := fun heq => hbare.2 (hiff.mp heq)
      exact ⟨r, s, hr, hs, hne, hlonger hne⟩

end Node

end SvgMarkup
