import SvgMarkup.Proofs.Rendering.Markup
import SvgMarkup.Proofs.Rendering.Result
import SvgMarkup.Proofs.Tree.Descendants

/-!
# What options have an influence on

The options that say which dimensions are noted have no influence on the markup, and the options for
layout have none as long as there is no layout.  So two passes over one tree, under configurations
that differ in nothing else, write the same or both fail.  They fail alike, unless only one of them
wants a size with too many digits: that one fails before the children of the element, and the other
one when it comes to its attributes at the latest.

* `Config.SharesMarkup` and `Config.SharesLayout` say on what two configurations agree.
* `Config.WritesTagsLike`: two configurations write the same tags at every depth.
* `Config.SharesSize`: two configurations share the size of a tag, as far as the errors tell.
* `Node.together_renderNode_data`: passes that write leaves and tags alike write trees alike.
-/

namespace SvgMarkup

namespace Config

/-! ### Configurations that agree -/

/-- Two configurations share their markup if they agree on all options other than those for layout
and for dimensions. -/
structure SharesMarkup (c d : Config) : Prop where
  delimiter : c.delimiter = d.delimiter
  textEntities : c.textEntities = d.textEntities
  attributeEntities : c.attributeEntities = d.attributeEntities
  encoder : c.encoder = d.encoder
  pretty : c.pretty = d.pretty
  strict : c.strict = d.strict
  maxDepth : c.maxDepth = d.maxDepth

/-- Two configurations share their layout if they agree on how pretty output is laid out. -/
structure SharesLayout (c d : Config) : Prop where
  indent : c.indent = d.indent
  textElements : c.textElements = d.textElements
  textChildElements : c.textChildElements = d.textChildElements

/-- Two configurations write tags alike if the tags of an element are the same under both, wherever
the element stands. -/
structure WritesTagsLike (c d : Config) : Prop where
  emptyTag : ∀ (ν : Nesting) (t : Tag) (attributes : String),
    c.emptyTag (ν.indent c.indent c.pretty) t attributes =
      d.emptyTag (ν.indent d.indent d.pretty) t attributes
  openingTag : ∀ (ν : Nesting) (t : Tag) (attributes : String),
    c.openingTag (ν.indent c.indent c.pretty) t attributes =
      d.openingTag (ν.indent d.indent d.pretty) t attributes
  closingTag : ∀ (ν : Nesting) (t : Tag),
    c.closingTag (ν.indent c.indent c.pretty) t = d.closingTag (ν.indent d.indent d.pretty) t

variable {c d : Config}

lemma SharesMarkup.leaves (h : c.SharesMarkup d) : c.WritesLeavesLike d where
  written := written_eq_of_delimiter h.delimiter h.pretty
  textEntities := h.textEntities
  attributeEntities := h.attributeEntities
  encoder := h.encoder

lemma SharesMarkup.writesLike (h : c.SharesMarkup d) (hlayout : c.SharesLayout d) :
    c.WritesLike d where
  delimiter := h.delimiter
  indent := hlayout.indent
  pretty := h.pretty
  textEntities := h.textEntities
  attributeEntities := h.attributeEntities
  textElements := hlayout.textElements
  textChildElements := hlayout.textChildElements
  encoder := h.encoder

/-- Configurations that agree on everything but dimensions write tags alike. -/
lemma WritesLike.tags (h : c.WritesLike d) : c.WritesTagsLike d where
  emptyTag ν t attributes := by rw [h.leaves.emptyTag, h.indent, h.pretty]
  openingTag ν t attributes := by rw [h.openingTag, h.indent, h.pretty]
  closingTag ν t := by rw [h.closingTag, h.indent, h.pretty]

/-- Without layout, configurations that share their markup write tags alike. -/
lemma SharesMarkup.tags_of_not_pretty (h : c.SharesMarkup d) (hc : c.pretty = false) :
    c.WritesTagsLike d := by
  have hd : d.pretty = false := h.pretty ▸ hc
  refine ⟨fun ν t attributes => ?_, fun ν t attributes => ?_, fun ν t => ?_⟩ <;>
    rw [hc, hd, Nesting.indent_false, Nesting.indent_false]
  · rw [h.leaves.emptyTag]
  · rw [openingTag_of_not_pretty hc, openingTag_of_not_pretty hd, h.delimiter]
  · rw [closingTag_of_not_pretty hc, closingTag_of_not_pretty hd, h.delimiter]

end Config

/-! ### Sizes with too many digits -/

/-- The error of a pass that meets an integer with too many digits. -/
def RenderError.unwritten : RenderError := .markup (.tooManyDigits {})

/-- Two configurations share the size of a tag as far as some relation between errors tells: both of
them get it or neither does, or else the error of the one that does not is related to all errors. -/
def Config.SharesSize (c d : Config) (E : RenderError → RenderError → Prop) (t : Tag) : Prop :=
  (c.rootSize? t).isOk = (d.rootSize? t).isOk ∨ ∀ e, E .unwritten e ∧ E e .unwritten

/-- If a size cannot be written, the attributes cannot either. -/
lemma Config.exists_attributesMarkup_eq_error {c : Config} {t : Tag} {e : Decimal.TooManyDigits}
    (h : c.rootSize? t = .error e) (d : Config) : ∃ e', d.attributesMarkup t = .error e' := by
  cases hmarkup : d.attributesMarkup t with
  | error e' => exact ⟨e', rfl⟩
  | ok markup =>
    obtain ⟨size, hsize⟩ := c.exists_rootSize?_eq_ok fun a => hasText_of_attributesMarkup hmarkup
    cases h.symm.trans hsize

variable {c d : Config} {E : RenderError → RenderError → Prop}

/-- What follows the sizes of a tag goes together under two configurations that share the size, if
it goes together and neither succeeds without the attributes. -/
lemma together_ownDimensions_bind {t : Tag} (ht : c.SharesSize d E t) (hE : ∀ e, E e e)
    {f g : Dimensions → Except RenderError Rendering} {R : Rendering → Rendering → Prop}
    (hfg : ∀ own own', Together E R (f own) (g own'))
    (hf : ∀ e own, c.attributesMarkup t = .error e → ∃ e', f own = .error e')
    (hg : ∀ e own, d.attributesMarkup t = .error e → ∃ e', g own = .error e') :
    Together E R ((c.ownDimensions t).mapError .markup >>= f)
      ((d.ownDimensions t).mapError .markup >>= g) := by
  unfold Config.ownDimensions
  cases hc : c.rootSize? t with
  | ok size =>
    cases hd : d.rootSize? t with
    | ok size' => exact hfg _ _
    | error long =>
      have hlong : ∀ e, E .unwritten e ∧ E e .unwritten :=
        ht.resolve_left fun h => by simp [hc, hd, Except.isOk, Except.toBool] at h
      obtain ⟨e, he⟩ := Config.exists_attributesMarkup_eq_error hd c
      obtain ⟨e', he'⟩ := hf e (.ofSize size) he
      change Together E R (f (.ofSize size)) (.error .unwritten)
      rw [he']
      exact .error (hlong e').2
  | error long =>
    cases hd : d.rootSize? t with
    | ok size =>
      have hlong : ∀ e, E .unwritten e ∧ E e .unwritten :=
        ht.resolve_left fun h => by simp [hc, hd, Except.isOk, Except.toBool] at h
      obtain ⟨e, he⟩ := Config.exists_attributesMarkup_eq_error hc d
      obtain ⟨e', he'⟩ := hg e (.ofSize size) he
      change Together E R (.error .unwritten) (g (.ofSize size))
      rw [he']
      exact .error (hlong e').1
    | error long' => exact .error (hE _)

namespace Node

mutual

/-- Rendering a node under configurations that write leaves and tags alike, are both strict or both
not, and share the sizes in it gives the same markup or fails alike. -/
lemma together_renderNode_data (hleaves : c.WritesLeavesLike d) (htags : c.WritesTagsLike d)
    (hstrict : c.strict = d.strict) (hE : ∀ e, E e e) (n : Node)
    (hn : ∀ t ∈ n.tag?, c.SharesSize d E t)
    (hbelow : ∀ m ∈ n.descendants, ∀ t ∈ m.tag?, c.SharesSize d E t) (ν : Nesting) :
    Together E (fun r s => r.data = s.data) ((renderNode c n).resultIn ν)
      ((renderNode d n).resultIn ν) := by
  cases n with
  | element t children =>
    by_cases hempty : children = []
    · subst hempty
      rw [resultIn_renderNode_empty, resultIn_renderNode_empty]
      refine together_ownDimensions_bind (hn t rfl) hE (fun own own' => ?_) (fun e own h => ?_)
        fun e own h => ?_
      · rw [hleaves.attributesMarkup]
        refine .bind_self hE _ fun attributes => ?_
        exact .pure (htags.emptyTag ν t attributes)
      · rw [h]
        exact ⟨_, rfl⟩
      · rw [h]
        exact ⟨_, rfl⟩
    · rw [resultIn_renderNode_element _ _ _ hempty, resultIn_renderNode_element _ _ _ hempty]
      rw [descendants] at hbelow
      have hbody := Pass.together_within hE
        (together_renderList_data hleaves htags hstrict hE children hbelow (ν.inside t.name))
      refine together_ownDimensions_bind (hn t rfl) hE (fun own own' => ?_) (fun e own h => ?_)
        fun e own h => ?_
      · -- the body comes before the attributes, so its error is the one that counts
        refine hbody.bind fun r s hdata => ?_
        rw [hleaves.attributesMarkup]
        refine .bind_self hE _ fun attributes => .pure ?_
        simp only [htags.openingTag, htags.closingTag, hdata]
      · rw [h]
        exact exists_bind_eq_error _ fun _ => ⟨_, rfl⟩
      · rw [h]
        exact exists_bind_eq_error _ fun _ => ⟨_, rfl⟩
  | text s =>
    rw [resultIn_renderNode_text, resultIn_renderNode_text, hleaves.textMarkup]
    exact .bind_self hE _ fun markup => .pure rfl
  | comment s =>
    rw [resultIn_renderNode_comment, resultIn_renderNode_comment, hleaves.commentMarkup]
    exact .pure rfl
  | cdata s =>
    rw [resultIn_renderNode_cdata, resultIn_renderNode_cdata, hleaves.cdataMarkup]
    exact .pure rfl
  | doctype s =>
    rw [resultIn_renderNode_doctype, resultIn_renderNode_doctype, hleaves.doctypeMarkup]
    exact .pure rfl
  | instruction i =>
    rw [resultIn_renderNode_instruction, resultIn_renderNode_instruction,
      hleaves.instructionMarkup]
    exact .pure rfl
  | document | bareAttribute | value | «foreign» =>
    rw [resultIn_renderNode_of_kind?_eq_none _ _ rfl, resultIn_renderNode_of_kind?_eq_none _ _ rfl,
      resultIn_skipChild, resultIn_skipChild, hstrict]
    split
    · exact .error (hE _)
    · exact .pure rfl

/-- Rendering some nodes under configurations that write leaves and tags alike, are both strict or
both not, and share the sizes in them gives the same markup or fails alike. -/
lemma together_renderList_data (hleaves : c.WritesLeavesLike d) (htags : c.WritesTagsLike d)
    (hstrict : c.strict = d.strict) (hE : ∀ e, E e e) (ns : List Node)
    (h : ∀ m ∈ descendantsList ns, ∀ t ∈ m.tag?, c.SharesSize d E t) (ν : Nesting) :
    Together E (fun r s => r.data = s.data) ((renderList c ns).resultIn ν)
      ((renderList d ns).resultIn ν) := by
  cases ns with
  | nil =>
    rw [resultIn_renderList_nil, resultIn_renderList_nil]
    exact .pure rfl
  | cons n ns =>
    obtain ⟨hn, hbelow, hns⟩ := forall_mem_descendantsList_cons.mp h
    rw [resultIn_renderList_cons, resultIn_renderList_cons]
    have hnode := together_renderNode_data hleaves htags hstrict hE n hn hbelow ν
    have hlist := together_renderList_data hleaves htags hstrict hE ns hns ν
    refine hnode.bind fun r s hfirst => hlist.bind fun r' s' hrest => .pure ?_
    simp only [Rendering.append, hfirst, hrest]

end

/-- Rendering the children of a container under configurations that write leaves and tags alike, are
both strict or both not, and share the sizes below it gives the same markup or fails alike. -/
lemma together_render_data (hleaves : c.WritesLeavesLike d) (htags : c.WritesTagsLike d)
    (hstrict : c.strict = d.strict) (hE : ∀ e, E e e) (n : Node)
    (h : ∀ m ∈ n.descendants, ∀ t ∈ m.tag?, c.SharesSize d E t) (ν : Nesting) :
    Together E (fun r s => r.data = s.data) ((render c n).resultIn ν)
      ((render d n).resultIn ν) := by
  rw [descendants_eq] at h
  by_cases hempty : n.children = []
  · rw [resultIn_render_of_children_eq_nil _ _ hempty,
      resultIn_render_of_children_eq_nil _ _ hempty]
    exact .pure rfl
  · rw [resultIn_render_of_children_ne_nil _ _ hempty,
      resultIn_render_of_children_ne_nil _ _ hempty]
    exact Pass.together_within hE (together_renderList_data hleaves htags hstrict hE _ h _)

/-- Passes over one tree write the same markup or both fail, under configurations that agree on all
options other than those for layout and dimensions, if they agree on the options for layout as well
or there is no layout.  They fail with the same error, or else one of them meets an integer with too
many digits.  If each size in the tree is wanted by both in vain or by neither, the errors are the
same. -/
theorem serialize_sharedMarkup (h : c.SharesMarkup d)
    (hlayout : c.SharesLayout d ∨ c.pretty = false) (n : Node) (stack : CallStack) :
    ((∃ r s, (serialize c n stack).result = .ok r ∧ (serialize d n stack).result = .ok s ∧
        r.data = s.data) ∨
      ∃ e e', (serialize c n stack).result = .error e ∧ (serialize d n stack).result = .error e' ∧
        (e = e' ∨ e = .unwritten ∨ e' = .unwritten)) ∧
    ((∀ m ∈ n.descendants, ∀ t ∈ m.tag?, (c.rootSize? t).isOk = (d.rootSize? t).isOk) →
      (serialize c n stack).result.map (·.data) = (serialize d n stack).result.map (·.data)) := by
  have htags : c.WritesTagsLike d :=
    hlayout.elim (fun hlayout => (h.writesLike hlayout).tags) h.tags_of_not_pretty
  rw [result_serialize, result_serialize, h.maxDepth]
  constructor
  · have hlong : ∀ t, c.SharesSize d (fun e e' => e = e' ∨ e = .unwritten ∨ e' = .unwritten) t :=
      fun t => .inr fun e => ⟨.inr (.inl rfl), .inr (.inr rfl)⟩
    exact (together_render_data h.leaves htags h.strict (fun _ => .inl rfl) n
      (fun _ _ t _ => hlong t) _).cases.symm
  · intro hsizes
    exact Agree.map_eq (together_render_data h.leaves htags h.strict (fun _ => rfl) n
      (fun m hm t ht => .inl (hsizes m hm t ht)) _)

/-- A pretty configuration that takes the first dimensions of another root element. -/
def drawingConfig : Config :=
  { Config.standard with
    pretty := true, rootElement := "symbol", rootElement_ne := by decide, capture := .first }

/-- A compact configuration with layout of its own, in which a symbol is an element that holds text
and an image one that stands inside text. -/
def symbolConfig : Config :=
  { Config.standard with
    indent := "\t", textElements := .singleton "symbol", textChildElements := .singleton "image",
    rootElement := "symbol", rootElement_ne := by decide }

/-- A document in which an image with a size stands in a symbol with a size. -/
def drawing : Node :=
  document [element ⟨"symbol", [⟨"width", .int 1, by decide⟩, ⟨"height", .int 2, by decide⟩],
    by decide, (by decide : ["width", "height"].Nodup)⟩ [.comment "c",
      element ⟨"image", [⟨"width", .int 3, by decide⟩, ⟨"height", .int 4, by decide⟩],
        by decide, (by decide : ["width", "height"].Nodup)⟩ []]]

theorem serialize_drawing :
    drawingConfig.SharesMarkup { Config.standard with pretty := true } ∧
    drawingConfig.SharesLayout { Config.standard with pretty := true } ∧
    (serialize drawingConfig drawing).result.map (·.data) =
      (serialize { Config.standard with pretty := true } drawing).result.map (·.data) ∧
    symbolConfig.SharesMarkup .standard ∧ symbolConfig.pretty = false ∧
    (serialize symbolConfig drawing).result.map (·.data) =
      (serialize .standard drawing).result.map (·.data) := by
  have hpretty : drawingConfig.SharesMarkup { Config.standard with pretty := true } :=
    ⟨rfl, rfl, rfl, rfl, rfl, rfl, rfl⟩
  have hlayout : drawingConfig.SharesLayout { Config.standard with pretty := true } :=
    ⟨rfl, rfl, rfl⟩
  have hcompact : symbolConfig.SharesMarkup .standard := ⟨rfl, rfl, rfl, rfl, rfl, rfl, rfl⟩
  have hsizes : (∀ m ∈ drawing.descendants, ∀ t ∈ m.tag?, (drawingConfig.rootSize? t).isOk =
      ({ Config.standard with pretty := true }.rootSize? t).isOk) ∧
      ∀ m ∈ drawing.descendants, ∀ t ∈ m.tag?, (symbolConfig.rootSize? t).isOk =
        (Config.standard.rootSize? t).isOk := by
    decide +kernel
  exact ⟨hpretty, hlayout, (serialize_sharedMarkup hpretty (.inl hlayout) drawing {}).2 hsizes.1,
    hcompact, rfl, (serialize_sharedMarkup hcompact (.inr rfl) drawing {}).2 hsizes.2⟩

/-- The standard configuration with another root element. -/
def canvasConfig : Config :=
  { Config.standard with rootElement := "canvas", rootElement_ne := by decide }

/-- The tag of a root element the width of which is a natural number. -/
def numberedTag (width : Nat) : Tag where
  name := standardRootElement
  attributes := [⟨widthAttribute, .int width, widthAttribute_ne⟩,
    ⟨heightAttribute, .int 1, heightAttribute_ne⟩]
  name_ne := Config.standard.rootElement_ne
  distinct := nodup_sizeAttributes

/-- A width with too many digits is an error before a number among the children is one, but only if
the element counts as a root element. -/
lemma serialize_numberedTag {width : Nat} (h : Decimal.maxDigits < Decimal.digitCount width) :
    (serialize .standard (document [element (numberedTag width) [value (.int 1)]])).result.map
        (·.data) ≠
      (serialize canvasConfig (document [element (numberedTag width) [value (.int 1)]])).result.map
        (·.data) := by
  have hlong : Attribute.text ⟨widthAttribute, .int width, widthAttribute_ne⟩ = .error {} :=
    Attribute.not_hasText_iff.mp
      (Attribute.not_hasText_iff_exists_int.mpr ⟨width, rfl, by rwa [Int.natAbs_natCast]⟩)
  have hsize : (numberedTag width).size? = .error {} := by
    have hwidth : (numberedTag width).attribute? widthAttribute =
        some ⟨widthAttribute, .int width, widthAttribute_ne⟩ := rfl
    have hheight : (numberedTag width).attribute? heightAttribute =
        some ⟨heightAttribute, .int 1, heightAttribute_ne⟩ := rfl
    rw [Tag.size?_eq, hwidth, hheight, Option.map_some, hlong]
    rfl
  have hroot : Config.standard.rootSize? (numberedTag width) = .error {} := by
    have hname : (numberedTag width).name = Config.standard.rootElement := rfl
    rw [Config.rootSize?, if_pos hname, hsize]
  have hstandard : (serialize .standard
      (document [element (numberedTag width) [value (.int 1)]])).result = .error .unwritten := by
    have hne : (document [element (numberedTag width) [value (.int 1)]]).children ≠ [] :=
      List.cons_ne_nil _ _
    have hnode (ν : Nesting) : (renderNode .standard
        (element (numberedTag width) [value (.int 1)])).resultIn ν = .error .unwritten := by
      rw [resultIn_renderNode_element _ _ _ (List.cons_ne_nil _ _), Config.ownDimensions, hroot]
      rfl
    have hentry : ¬ (Nesting.start Config.standard.maxDepth {}).1.limit ≤
        (Nesting.start Config.standard.maxDepth {}).1.depth := by decide +kernel
    rw [result_serialize, resultIn_render_of_children_ne_nil _ _ hne, Pass.resultIn_within,
      if_neg hentry, children, resultIn_renderList_cons, hnode]
    rfl
  have hcanvas : (serialize canvasConfig
      (document [element (numberedTag width) [value (.int 1)]])).result =
      .error (.unknownNodeKind "int" standardRootElement) := by
    rfl
  rw [hstandard, hcanvas]
  intro h
  cases h

/-- The error of a pass may depend on the name of root elements. -/
theorem not_forall_serialize_sharedMarkup :
    ¬ ∀ (c d : Config) (n : Node) (stack : CallStack), c.SharesMarkup d → c.SharesLayout d →
      (serialize c n stack).result.map (·.data) = (serialize d n stack).result.map (·.data) := by
  intro h
  exact serialize_numberedTag (Decimal.lt_digitCount_pow (by decide))
    (h .standard canvasConfig _ {} ⟨rfl, rfl, rfl, rfl, rfl, rfl, rfl⟩ ⟨rfl, rfl, rfl⟩)

end Node

end SvgMarkup
