import SvgMarkup.Proofs.Rendering.Notes
import SvgMarkup.Proofs.Tree.Descendants
import SvgMarkup.Proofs.Tree.Lookup

/-!
# The dimensions of a document

The dimensions that a pass reports are those of the first or of the last root element below the
container that has both a width and a height.  A pass never looks for that element: it merges the
dimensions of an element with those of its body, and those of a node with those of the nodes after
it.

* `Config.sizesAmong` lists the sizes of the root elements among some nodes.
* `Dimensions.merged_chosen`: choosing from two lists and merging is choosing from both at once.
* `Node.dimensions_renderList` says that the dimensions are chosen from the nodes that are written.
-/

namespace SvgMarkup

/-! ### Tags that give a size -/

namespace Config

variable {c : Config}

/-- A tag gives a size to the document if it has the name of root elements and attributes for the
width and the height with these texts. -/
def GivesSize (c : Config) (t : Tag) (size : String × String) : Prop :=
  t.name = c.rootElement ∧
    (∃ a ∈ t.attributes, a.name = widthAttribute ∧ a.text = .ok size.1) ∧
    ∃ a ∈ t.attributes, a.name = heightAttribute ∧ a.text = .ok size.2

lemma givenSize?_eq_some_iff {t : Tag} {size : String × String} :
    c.givenSize? t = some size ↔ c.GivesSize t size := by
  have htext (name s : String) : (t.attribute? name).map Attribute.text = some (.ok s) ↔
      ∃ a ∈ t.attributes, a.name = name ∧ a.text = .ok s := by
    simp only [Option.map_eq_some_iff, Tag.attribute?_eq_some_iff, and_assoc]
  have hjoin (x : Except Decimal.TooManyDigits (Option (String × String))) :
      x.toOption.join = some size ↔ x = .ok (some size) := by
    cases x with
    | error e => exact ⟨nofun, nofun⟩
    | ok a => exact ⟨fun h => congrArg _ h, fun h => Except.ok.inj h⟩
  unfold givenSize? rootSize? GivesSize
  rw [hjoin]
  by_cases hroot : t.name = c.rootElement
  · rw [if_pos hroot, Tag.size?_eq, Tag.sizeOf?_eq_ok_some_iff, htext, htext]
    exact (and_iff_right hroot).symm
  · rw [if_neg hroot]
    exact ⟨nofun, fun h => absurd h.1 hroot⟩

/-- The sizes of the root elements among some nodes, in their order. -/
def sizesAmong (c : Config) (ns : List Node) : List (String × String) :=
  (ns.filterMap Node.tag?).filterMap c.givenSize?

lemma sizesAmong_append (ns ms : List Node) :
    c.sizesAmong (ns ++ ms) = c.sizesAmong ns ++ c.sizesAmong ms := by
  rw [sizesAmong, List.filterMap_append, List.filterMap_append]
  rfl

lemma sizesAmong_element_cons (t : Tag) (children ns : List Node) :
    c.sizesAmong (.element t children :: ns) = (c.givenSize? t).toList ++ c.sizesAmong ns := by
  have htag : (Node.element t children :: ns).filterMap Node.tag? = t :: ns.filterMap Node.tag? :=
    List.filterMap_cons_some rfl
  rw [sizesAmong, htag, List.filterMap_cons]
  cases c.givenSize? t <;> rfl

end Config

/-! ### The choice between sizes -/

namespace Dimensions

/-- The dimensions that are left of sizes found one after the other. -/
def chosen (policy : CapturePolicy) (sizes : List (String × String)) : Dimensions :=
  match policy with
  | .last => sizes.getLast?.elim unknown fun size => ofTexts size.1 size.2
  | .first => sizes.head?.elim unknown fun size => ofTexts size.1 size.2

/-- Complete dimensions that come last take precedence under the policy for the last. -/
lemma merged_last (d : Dimensions) {later : Dimensions} (h : later.captured = true) :
    d.merged later .last = later := by
  unfold merged
  cases d.captured <;> simp [h]

/-- Complete dimensions that come first take precedence under the policy for the first. -/
lemma merged_first {d : Dimensions} (h : d.captured = true) (later : Dimensions) :
    d.merged later .first = d := by
  unfold merged
  cases later.captured <;> simp [h]

variable (policy : CapturePolicy)

@[simp] lemma chosen_nil : chosen policy [] = unknown := by
  cases policy <;> rfl

lemma captured_chosen {sizes : List (String × String)} (h : sizes ≠ []) :
    (chosen policy sizes).captured = true := by
  cases policy with
  | last => rw [chosen, List.getLast?_eq_some_getLast h]; rfl
  | first => rw [chosen, List.head?_eq_some_head h]; rfl

/-- Choosing from two lists and merging what is left is choosing from both at once. -/
lemma merged_chosen (sizes later : List (String × String)) :
    (chosen policy sizes).merged (chosen policy later) policy = chosen policy (sizes ++ later) := by
  by_cases hlater : later = []
  · rw [hlater, chosen_nil, merged_unknown, List.append_nil]
  by_cases hsizes : sizes = []
  · rw [hsizes, chosen_nil, unknown_merged, captured_chosen policy hlater, if_pos rfl,
      List.nil_append]
  -- with a size on either side the policy decides
  cases policy with
  | last =>
    have hlast : (sizes ++ later).getLast? = later.getLast? := by
      rw [List.getLast?_append, List.getLast?_eq_some_getLast hlater, Option.some_or]
    rw [merged_last _ (captured_chosen .last hlater), chosen, chosen, hlast]
  | first =>
    have hfirst : (sizes ++ later).head? = sizes.head? := by
      rw [List.head?_append, List.head?_eq_some_head hsizes, Option.some_or]
    rw [merged_first (captured_chosen .first hsizes), chosen, chosen, hfirst]

/-- Chosen dimensions are complete or missing. -/
lemma isSome_width_chosen (sizes : List (String × String)) :
    (chosen policy sizes).width.isSome = (chosen policy sizes).height.isSome := by
  by_cases h : sizes = []
  · rw [h, chosen_nil]
    rfl
  · have hcaptured := captured_chosen policy h
    rw [captured, Bool.and_eq_true] at hcaptured
    rw [hcaptured.1, hcaptured.2]

end Dimensions

/-- Nothing in front of a rendering with chosen dimensions leaves it as it is. -/
lemma Rendering.empty_append_of_chosen {r : Rendering} {policy : CapturePolicy}
    {sizes : List (String × String)} (h : r.dimensions = .chosen policy sizes) :
    (ofMarkup "").append policy r = r := by
  have hdimensions : Dimensions.merged .unknown r.dimensions policy = r.dimensions := by
    rw [h, ← Dimensions.chosen_nil policy, Dimensions.merged_chosen, List.nil_append]
  rw [append, ofMarkup, hdimensions, String.empty_append]

/-! ### The dimensions of nodes -/

lemma Config.eq_chosen_of_ownDimensions {c : Config} {t : Tag} {own : Dimensions}
    (h : c.ownDimensions t = .ok own) : own = .chosen c.capture (c.givenSize? t).toList := by
  unfold ownDimensions at h
  unfold givenSize?
  rcases hsize : c.rootSize? t with e | _ | size
  · rw [hsize] at h
    cases h
  · rw [hsize] at h
    obtain rfl := Except.ok.inj h
    exact (Dimensions.chosen_nil _).symm
  · rw [hsize] at h
    obtain rfl := Except.ok.inj h
    cases c.capture <;> rfl

namespace Node

variable {c : Config}

/-- A size that is captured is that of the attributes for the width and the height. -/
lemma captureSize_of_captured {t : Tag} {ν : Nesting} {d : Dimensions}
    (h : (captureSize c t).resultIn ν = .ok d) (hd : d.captured) :
    ∃ width height widthText heightText, t.attribute? widthAttribute = some width ∧
      t.attribute? heightAttribute = some height ∧ width.text = .ok widthText ∧
      height.text = .ok heightText ∧ d = .ofTexts widthText heightText ∧
      ((captureSize c t).run ν).events = [.sizeCaptured t.name widthText heightText] := by
  rcases hsize : c.rootSize? t with e | _ | size
  · rw [Pass.resultIn, captureSize, hsize] at h
    cases h
  · rw [Pass.resultIn, captureSize, hsize] at h
    obtain rfl := Except.ok.inj h
    cases hd
  · have hgiven : c.givenSize? t = some size := by rw [Config.givenSize?, hsize]; rfl
    obtain ⟨-, ⟨width, hw, hwname, hwtext⟩, height, hh, hhname, hhtext⟩ :=
      Config.givenSize?_eq_some_iff.mp hgiven
    rw [Pass.resultIn, captureSize, hsize] at h
    obtain rfl := Except.ok.inj h
    refine ⟨width, height, size.1, size.2, Tag.attribute?_eq_some_iff.mpr ⟨hw, hwname⟩,
      Tag.attribute?_eq_some_iff.mpr ⟨hh, hhname⟩, hwtext, hhtext, rfl, ?_⟩
    rw [captureSize, hsize]
    rfl

mutual

/-- The dimensions that rendering a node gives are chosen from the nodes that are written. -/
lemma dimensions_renderNode {n : Node} {ν : Nesting} {r : Rendering}
    (h : (renderNode c n).resultIn ν = .ok r) :
    r.dimensions = .chosen c.capture (c.sizesAmong n.written) := by
  cases n with
  | element t children =>
    rw [written, Config.sizesAmong_element_cons]
    by_cases hempty : children = []
    · subst hempty
      rw [resultIn_renderNode_empty] at h
      obtain ⟨own, hown, h⟩ := exists_of_bind_eq_ok h
      obtain ⟨attributes, -, h⟩ := exists_of_bind_eq_ok h
      obtain rfl := Except.ok.inj h
      have hbelow : c.sizesAmong (writtenList []) = [] := rfl
      rw [hbelow, List.append_nil,
        ← Config.eq_chosen_of_ownDimensions (eq_ok_of_mapError_eq_ok hown)]
    · rw [resultIn_renderNode_element _ _ _ hempty] at h
      obtain ⟨own, hown, h⟩ := exists_of_bind_eq_ok h
      obtain ⟨body, hbody, h⟩ := exists_of_bind_eq_ok h
      obtain ⟨attributes, -, h⟩ := exists_of_bind_eq_ok h
      obtain rfl := Except.ok.inj h
      rw [Pass.resultIn_within] at hbody
      split at hbody
      · cases hbody
      · have hchosen := Config.eq_chosen_of_ownDimensions (eq_ok_of_mapError_eq_ok hown)
        rw [dimensions_renderList hbody, hchosen, Dimensions.merged_chosen]
  | text s =>
    rw [resultIn_renderNode_text] at h
    obtain ⟨markup, -, h⟩ := exists_of_bind_eq_ok h
    obtain rfl := Except.ok.inj h
    exact (Dimensions.chosen_nil _).symm
  | comment | cdata | doctype | instruction =>
    rw [renderNode] at h
    obtain rfl := Except.ok.inj h
    exact (Dimensions.chosen_nil _).symm
  | document | bareAttribute | value | «foreign» =>
    rw [resultIn_renderNode_of_kind?_eq_none _ _ rfl, resultIn_skipChild] at h
    split at h
    · cases h
    · obtain rfl := Except.ok.inj h
      exact (Dimensions.chosen_nil _).symm

/-- The dimensions that rendering some nodes gives are chosen from the nodes that are written. -/
lemma dimensions_renderList {ns : List Node} {ν : Nesting} {r : Rendering}
    (h : (renderList c ns).resultIn ν = .ok r) :
    r.dimensions = .chosen c.capture (c.sizesAmong (writtenList ns)) := by
  cases ns with
  | nil =>
    rw [resultIn_renderList_nil] at h
    obtain rfl := Except.ok.inj h
    exact (Dimensions.chosen_nil _).symm
  | cons n ns =>
    rw [resultIn_renderList_cons] at h
    obtain ⟨first, hfirst, h⟩ := exists_of_bind_eq_ok h
    obtain ⟨rest, hrest, h⟩ := exists_of_bind_eq_ok h
    obtain rfl := Except.ok.inj h
    rw [writtenList, Config.sizesAmong_append, Rendering.append, dimensions_renderNode hfirst,
      dimensions_renderList hrest, Dimensions.merged_chosen]

end

/-- The dimensions that rendering the children of a container gives are chosen from the nodes that
are written below it. -/
lemma dimensions_render {n : Node} {ν : Nesting} {r : Rendering}
    (h : (render c n).resultIn ν = .ok r) :
    r.dimensions = .chosen c.capture (c.sizesAmong (writtenList n.children)) := by
  by_cases hempty : n.children = []
  · rw [resultIn_render_of_children_eq_nil _ _ hempty] at h
    obtain rfl := Except.ok.inj h
    rw [hempty]
    exact (Dimensions.chosen_nil _).symm
  · rw [resultIn_render_of_children_ne_nil _ _ hempty, Pass.resultIn_within] at h
    split at h
    · cases h
    · exact dimensions_renderList h

end Node

/-! ### The notes of captured sizes -/

/-- Whether an event is the note of a captured size. -/
def Event.isCapture : Event → Bool
  | sizeCaptured .. => true
  | depthClamped .. | childSkipped _ | serialized .. => false

/-- The notes of some captured sizes. -/
def Config.sizeNotes (c : Config) (sizes : List (String × String)) : List Event :=
  sizes.map fun size => .sizeCaptured c.rootElement size.1 size.2

lemma Config.captureNotes_eq (c : Config) (t : Tag) :
    c.captureNotes t = c.sizeNotes (c.givenSize? t).toList := by
  unfold captureNotes sizeNotes
  cases hsize : c.givenSize? t with
  | none => rfl
  | some size =>
    obtain ⟨hname, -⟩ := givenSize?_eq_some_iff.mp hsize
    rw [← hname]
    rfl

lemma Config.filter_isCapture_sizeNotes (c : Config) (sizes : List (String × String)) :
    (c.sizeNotes sizes).filter Event.isCapture = c.sizeNotes sizes := by
  rw [List.filter_eq_self]
  intro e he
  obtain ⟨size, -, rfl⟩ := List.mem_map.mp he
  rfl

namespace Node

variable (c : Config)

mutual

lemma filter_isCapture_notes (n : Node) :
    (notes c n).filter Event.isCapture = c.sizeNotes (c.sizesAmong n.written) := by
  cases n with
  | element t children =>
    rw [notes, written, List.filter_append, filter_isCapture_notesList children,
      Config.captureNotes_eq, Config.filter_isCapture_sizeNotes, Config.sizesAmong_element_cons]
    exact List.map_append.symm
  | text | comment | cdata | doctype | instruction => rfl
  | document | bareAttribute | value | «foreign» => rfl

/-- Of the events of writing some nodes, the captures are those of the root elements with a size. -/
lemma filter_isCapture_notesList (ns : List Node) :
    (notesList c ns).filter Event.isCapture = c.sizeNotes (c.sizesAmong (writtenList ns)) := by
  cases ns with
  | nil => rfl
  | cons n ns =>
    rw [notesList, writtenList, List.filter_append, filter_isCapture_notes n,
      filter_isCapture_notesList ns, Config.sizesAmong_append]
    exact List.map_append.symm

end

/-! ### Complete passes -/

variable {c}

/-- The sizes among the nodes that are written below a container are those of the root elements with
a width and a height, in document order.  A pass that succeeds reports the last or the first of
them, as the policy says, or nothing if there are none; it never reports a width or a height alone.
Each of the sizes is noted, in the same order. -/
theorem serialize_sizes {n : Node} {stack : CallStack} {r : Rendering}
    (h : (serialize c n stack).result = .ok r) :
    (∀ t size, c.givenSize? t = some size ↔ c.GivesSize t size) ∧
    r.dimensions = .chosen c.capture (c.sizesAmong (writtenList n.children)) ∧
    r.dimensions.width.isSome = r.dimensions.height.isSome ∧
    (serialize c n stack).events.filter Event.isCapture =
      (c.sizesAmong (writtenList n.children)).map
        fun size => .sizeCaptured c.rootElement size.1 size.2 := by
  have hevents : (serialize c n stack).events.filter Event.isCapture =
      (notesList c n.children).filter Event.isCapture :=
    filter_events_serialize c h (fun _ _ _ => rfl) fun _ _ => rfl
  rw [result_serialize] at h
  have hdimensions := dimensions_render h
  refine ⟨fun _ _ => Config.givenSize?_eq_some_iff, hdimensions, ?_, ?_⟩
  · rw [hdimensions]
    exact Dimensions.isSome_width_chosen _ _
  · rw [hevents]
    exact filter_isCapture_notesList c n.children

/-- A tag of a root element with a width and a height. -/
def sizedTag (width height : String) : Tag where
  name := standardRootElement
  attributes :=
    [⟨widthAttribute, .text width, widthAttribute_ne⟩,
      ⟨heightAttribute, .text height, heightAttribute_ne⟩]
  name_ne := Config.standard.rootElement_ne
  distinct := nodup_sizeAttributes

/-- A document with root elements side by side and inside one another, one of them without a height
and one inside an object that is skipped. -/
def nestedRoots : Node :=
  .document [
    .element ⟨standardRootElement, [⟨widthAttribute, .text "0", widthAttribute_ne⟩],
      Config.standard.rootElement_ne, List.nodup_singleton _⟩ [],
    .foreign "Box" none [.element (sizedTag "1" "1") []],
    .element (sizedTag "2" "3") [.comment "c", .element (sizedTag "4" "5") []],
    .element (sizedTag "6" "7") []]

/-- The standard configuration, except that unknown children are skipped and the first root element
counts. -/
def firstRootConfig : Config := { Config.standard with strict := false, capture := .first }

theorem serialize_nestedRoots :
    ∃ r, (serialize firstRootConfig nestedRoots).result = .ok r ∧
      r.dimensions = .ofTexts "2" "3" ∧
      (serialize firstRootConfig nestedRoots).events.filter Event.isCapture =
        [.sizeCaptured "svg" "2" "3", .sizeCaptured "svg" "4" "5",
          .sizeCaptured "svg" "6" "7"] := by
  have hok : (serialize firstRootConfig nestedRoots).result.isOk := by decide +kernel
  cases hresult : (serialize firstRootConfig nestedRoots).result with
  | error e =>
    rw [hresult] at hok
    cases hok
  | ok r =>
    obtain ⟨-, hdimensions, -, hevents⟩ := serialize_sizes hresult
    exact ⟨r, rfl, hdimensions, hevents⟩

end Node

end SvgMarkup
