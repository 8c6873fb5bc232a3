import SvgMarkup.Proofs.Rendering.Markup
import SvgMarkup.Proofs.Rendering.Result
import SvgMarkup.Proofs.Tree.Descendants

/-!
# The faults of a tree

A tree can be at fault in three ways: containers with children may be nested too deeply in it, a
child of none of the six kinds may stand in it where none is allowed, and an integer among the
values of its attributes may have too many digits.  `Node.containerFaults` lists all faults of a
tree in the order in which a pass comes across them, without writing anything.  A pass with an
encoder that never fails succeeds exactly if there are none, and otherwise fails with the first of
them.

* `Fault.DecidedBy` says that a result is the one that a list of faults stands for.
* `Node.decidedBy_renderList` says that what rendering gives is decided by the faults of the nodes.
* `Node.containerFaults_eq_nil_iff` compares the nesting of a tree of the six kinds with the limit.
-/

namespace SvgMarkup

/-! ### Paths -/

lemma elementPath_eq_empty_iff {labels : List String} :
    elementPath labels = "" ↔ labels.filter (· != "") = [] := by
  unfold elementPath
  constructor
  · intro h
    by_contra hne
    obtain ⟨a, as, has⟩ := List.exists_cons_of_ne_nil hne
    have ha : a ∈ labels.filter (· != "") := by
      rw [has]
      exact List.mem_cons_self
    have ha' : a ≠ "" := by simpa using (List.mem_filter.mp ha).2
    rw [has] at h
    cases as with
    | nil => exact ha' (by simpa using h)
    | cons b bs => simp [ha'] at h
  · intro h
    rw [h, String.intercalate_nil]

/-- A path can be extended by the name of one more container. -/
lemma elementPath_append_singleton (labels : List String) (label : String) :
    elementPath (labels ++ [label]) = elementPath [elementPath labels, label] := by
  have happend : elementPath (labels ++ [label]) =
      String.intercalate " > " (labels.filter (· != "") ++ [label].filter (· != "")) := by
    rw [elementPath, List.filter_append]
  by_cases hpath : elementPath labels = ""
  -- without a named container above, no separator is due on either side
  · rw [happend, elementPath_eq_empty_iff.mp hpath, hpath]
    rfl
  · have hcons : elementPath [elementPath labels, label] =
        String.intercalate " > " (elementPath labels :: [label].filter (· != "")) := by
      rw [elementPath, List.filter_cons_of_pos (by simpa using hpath)]
    rw [happend, hcons]
    by_cases hlabel : [label].filter (· != "") = []
    · rw [hlabel, List.append_nil, String.intercalate_singleton, elementPath]
    · have hlabels : labels.filter (· != "") ≠ [] :=
        fun h => hpath (elementPath_eq_empty_iff.mpr h)
      rw [String.intercalate_append_of_ne_nil hlabels hlabel,
        String.intercalate_cons_of_ne_nil hlabel, elementPath]

/-! ### Faults -/

/-- A reason for which a tree cannot be written, with the names of the containers that lead to
it. -/
inductive Fault where
  /-- A container with children is nested too deeply.  It is the last one of those named. -/
  | tooDeep (names : List String)
  /-- A child of the named type is of none of the six kinds. -/
  | unknownKind (typeName : String) (names : List String)
  /-- The value of an attribute is an integer with too many digits. -/
  | longInteger
deriving DecidableEq, Repr

namespace Fault

/-- The place of a fault: the containers that have a name, if there are any. -/
def place (names : List String) : Option String :=
  match names.filter (· != "") with
  | [] => none
  | named => some (String.intercalate " > " named)

/-- The error with which a pass stops at a fault. -/
def error (limit : Int) : Fault → RenderError
  | tooDeep names => .nestingExceeded ⟨limit, elementPath names⟩
  | unknownKind typeName names => .unknownNodeKind typeName (elementPath names)
  | longInteger => .markup (.tooManyDigits {})

/-- A failure reports a fault where so many containers may be nested: it is of the right kind, and
gives the right message and place.  An integer with too many digits, also as the number of
containers, is a failure of its own. -/
inductive ReportedBy (limit : Int) : Fault → Failure → Prop
  | tooDeep {names : List String} {number : String} {d : Diagnostic}
      (hnumber : Decimal.integer limit = .ok number)
      (hmessage : d.message = "Maximum nesting depth exceeded (max: " ++ number ++ ")")
      (hplace : d.nodePath = place names) : ReportedBy limit (.tooDeep names) (.of .depth d)
  | tooDeepForNumber {names : List String} {e : Decimal.TooManyDigits}
      (hnumber : Decimal.integer limit = .error e) :
      ReportedBy limit (.tooDeep names) (.tooManyDigits e)
  | unknownKind {typeName : String} {names : List String} {d : Diagnostic}
      (hmessage : d.message = "Cannot serialize node of type '" ++ typeName ++ "'")
      (hplace : d.nodePath = place names) :
      ReportedBy limit (.unknownKind typeName names) (.of .unknownNodeKind d)
  | longInteger : ReportedBy limit .longInteger (.tooManyDigits {})

lemma shownPath_elementPath (names : List String) :
    Diagnostic.shownPath (elementPath names) = place names := by
  unfold Diagnostic.shownPath place
  split
  · next h => rw [elementPath_eq_empty_iff.mp h]
  · next h =>
    split
    · next hnil => exact absurd (elementPath_eq_empty_iff.mpr hnil) h
    · rfl

lemma reportedBy_error (f : Fault) (limit : Int) : f.ReportedBy limit (f.error limit).failure := by
  cases f with
  | tooDeep names =>
    cases hnumber : Decimal.integer limit with
    | error e =>
      have hfailure : ((tooDeep names).error limit).failure = .tooManyDigits e := by
        simp only [error, RenderError.failure, NestingExceeded.failure,
          Diagnostic.ofMaxDepthExceeded, hnumber]
        rfl
      rw [hfailure]
      exact .tooDeepForNumber hnumber
    | ok number =>
      obtain ⟨d, hd, hmessage, hpath⟩ : ∃ d : Diagnostic,
          ((tooDeep names).error limit).failure = .of .depth d ∧
          d.message = "Maximum nesting depth exceeded (max: " ++ number ++ ")" ∧
          d.nodePath = Diagnostic.shownPath (elementPath names) := by
        simp only [error, RenderError.failure, NestingExceeded.failure,
          Diagnostic.ofMaxDepthExceeded, hnumber]
        exact ⟨_, rfl, rfl, rfl⟩
      rw [hd]
      exact .tooDeep hnumber hmessage (hpath.trans (shownPath_elementPath names))
  | unknownKind typeName names => exact .unknownKind rfl (shownPath_elementPath names)
  | longInteger => exact .longInteger

/-! ### Results that are decided by faults -/

variable {α β : Type} {limit : Int} {fs gs : List Fault} {x : Except RenderError α}

/-- A result is decided by some faults if it is a success in case there are none, and otherwise the
error of the first of them. -/
def DecidedBy (limit : Int) (x : Except RenderError α) : List Fault → Prop
  | [] => ∃ a, x = .ok a
  | f :: _ => x = .error (f.error limit)

/-- Faults decide a result as their errors do. -/
lemma decidedBy_iff :
    DecidedBy limit x fs ↔ SvgMarkup.DecidedBy x (fs.map (Fault.error limit)) := by
  cases fs <;> rfl

lemma decidedBy_pure (a : α) : DecidedBy limit (pure a) [] := ⟨a, rfl⟩

/-- Computations in sequence are decided by their faults in sequence. -/
lemma DecidedBy.bind {f : α → Except RenderError β} (hx : DecidedBy limit x fs)
    (hf : ∀ a, DecidedBy limit (f a) gs) : DecidedBy limit (x >>= f) (fs ++ gs) := by
  rw [decidedBy_iff, List.map_append]
  exact (decidedBy_iff.mp hx).bind fun a => decidedBy_iff.mp (hf a)

lemma DecidedBy.bind_pure {f : α → Except RenderError β} (hx : DecidedBy limit x fs)
    (hf : ∀ a, DecidedBy limit (f a) []) : DecidedBy limit (x >>= f) fs :=
  decidedBy_iff.mpr ((decidedBy_iff.mp hx).bind_pure fun a => decidedBy_iff.mp (hf a))

lemma DecidedBy.exists_ok_iff (h : DecidedBy limit x fs) : (∃ a, x = .ok a) ↔ fs = [] :=
  (decidedBy_iff.mp h).exists_ok_iff.trans List.map_eq_nil_iff

lemma DecidedBy.eq_error (h : DecidedBy limit x fs) {f : Fault} (hf : f ∈ fs.head?) :
    x = .error (f.error limit) := by
  refine (decidedBy_iff.mp h).eq_error ?_
  rw [List.head?_map, Option.mem_def.mp hf]
  rfl

end Fault

/-! ### The faults of trees -/

/-- The fault of a container with children inside the named ones, if these are already as many as
may be nested. -/
def entryFaults (limit : Int) (above : List String) (label : String) : List Fault :=
  if limit ≤ above.length then [.tooDeep (above ++ [label])] else []

/-- The fault of a tag whose width and height are wanted before anything else of it. -/
def sizeFaults (c : Config) (t : Tag) : List Fault :=
  match t.attribute? widthAttribute, t.attribute? heightAttribute with
  | some width, some height =>
    if t.name = c.rootElement ∧ ¬ (width.HasText ∧ height.HasText) then [.longInteger] else []
  | _, _ => []

/-- The faults of the attributes of a tag: one for each of them that has no text. -/
def attributeFaults (t : Tag) : List Fault :=
  t.attributes.flatMap fun a => if a.HasText then [] else [.longInteger]

namespace Node

/-- The fault of a child of none of the six kinds inside the named containers. -/
def strangerFaults (strict : Bool) (above : List String) (n : Node) : List Fault :=
  if strict then [.unknownKind n.typeName above] else []

mutual

/-- The faults of a node inside the named containers.  The attributes of an element are written
after its children.  Children that cannot be written are faults in a strict pass; what is below them
is never looked at. -/
def faults (c : Config) (limit : Int) (above : List String) : Node → List Fault
  | element t children =>
    sizeFaults c t ++
      ((if children.isEmpty then []
        else entryFaults limit above t.name ++ faultsList c limit (above ++ [t.name]) children) ++
      attributeFaults t)
  | text _ | comment _ | cdata _ | doctype _ | instruction _ => []
  | document children => strangerFaults c.strict above (document children)
  | bareAttribute a => strangerFaults c.strict above (bareAttribute a)
  | value v => strangerFaults c.strict above (value v)
  | «foreign» type kind children => strangerFaults c.strict above («foreign» type kind children)

/-- The faults of some nodes inside the named containers. -/
def faultsList (c : Config) (limit : Int) (above : List String) : List Node → List Fault
  | [] => []
  | n :: ns => faults c limit above n ++ faultsList c limit above ns

end

/-- The faults of a container that a pass starts with, in the order in which the pass comes across
them. -/
def containerFaults (c : Config) (limit : Int) (n : Node) : List Fault :=
  if n.children.isEmpty then []
  else entryFaults limit [] n.label ++ faultsList c limit [n.label] n.children

/-! ### Trees without long integers -/

/-- Whether all attributes of a node have texts. -/
def HasTexts (n : Node) : Prop := ∀ t ∈ n.tag?, ∀ a ∈ t.attributes, a.HasText

section Texts

variable {c : Config} {limit : Int}

lemma longInteger_notMem_entryFaults {above : List String} {label : String} :
    .longInteger ∉ entryFaults limit above label := by
  unfold entryFaults
  split <;> simp

lemma sizeFaults_eq_nil {t : Tag} (h : ∀ a ∈ t.attributes, a.HasText) : sizeFaults c t = [] := by
  unfold sizeFaults
  split
  · next width height hwidth hheight =>
    have hw := h width (Tag.attribute?_eq_some_iff.mp hwidth).1
    have hh := h height (Tag.attribute?_eq_some_iff.mp hheight).1
    exact if_neg fun hnot => hnot.2 ⟨hw, hh⟩
  · rfl

lemma attributeFaults_eq_nil {t : Tag} (h : ∀ a ∈ t.attributes, a.HasText) :
    attributeFaults t = [] :=
  List.flatMap_eq_nil_iff.mpr fun a ha => if_pos (h a ha)

lemma faults_element {t : Tag} (ht : ∀ a ∈ t.attributes, a.HasText) (above : List String)
    (children : List Node) :
    (element t children).faults c limit above = if children.isEmpty then []
      else entryFaults limit above t.name ++ faultsList c limit (above ++ [t.name]) children := by
  rw [faults, sizeFaults_eq_nil ht, attributeFaults_eq_nil ht, List.nil_append, List.append_nil]

mutual

/-- A node all of whose attributes have texts has no faults of long integers. -/
lemma longInteger_notMem_faults {n : Node} (above : List String) (hn : n.HasTexts)
    (hbelow : ∀ m ∈ n.descendants, m.HasTexts) : .longInteger ∉ n.faults c limit above := by
  cases n with
  | element t children =>
    rw [descendants] at hbelow
    have ih := longInteger_notMem_faultsList (above ++ [t.name]) hbelow
    rw [faults_element (hn t rfl)]
    split
    · exact List.not_mem_nil
    · rw [List.mem_append]
      exact not_or_intro longInteger_notMem_entryFaults ih
  | text | comment | cdata | doctype | instruction => exact List.not_mem_nil
  | document | bareAttribute | value | «foreign» =>
    rw [faults, strangerFaults]
    split <;> simp

/-- Nodes all of whose attributes have texts have no faults of long integers. -/
lemma longInteger_notMem_faultsList {ns : List Node} (above : List String)
    (h : ∀ m ∈ descendantsList ns, m.HasTexts) : .longInteger ∉ faultsList c limit above ns := by
  cases ns with
  | nil => exact List.not_mem_nil
  | cons n ns =>
    obtain ⟨hn, hbelow, hns⟩ := forall_mem_descendantsList_cons.mp h
    rw [faultsList, List.mem_append]
    exact not_or_intro (longInteger_notMem_faults above hn hbelow)
      (longInteger_notMem_faultsList above hns)

end

/-- A container all of whose descendants have texts has no faults of long integers. -/
lemma longInteger_notMem_containerFaults {n : Node} (h : ∀ m ∈ n.descendants, m.HasTexts) :
    .longInteger ∉ n.containerFaults c limit := by
  rw [descendants_eq] at h
  rw [containerFaults]
  split
  · exact List.not_mem_nil
  · rw [List.mem_append]
    exact not_or_intro longInteger_notMem_entryFaults (longInteger_notMem_faultsList _ h)

end Texts

/-! ### Trees of the six kinds -/

section Kinds

variable {c : Config} {limit : Int}

lemma entryFaults_eq_nil_iff {above : List String} {label : String} :
    entryFaults limit above label = [] ↔ (above.length : Int) < limit := by
  unfold entryFaults
  split
  · next h => simpa using h
  · next h => simpa using h

mutual

/-- A node all of whose descendants are of the six kinds and have texts is without fault exactly if
no chain of nested elements with children in it is too long. -/
lemma faults_eq_nil_iff {n : Node} (above : List String) (hn : n.kind? ≠ none ∧ n.HasTexts)
    (hbelow : ∀ m ∈ n.descendants, m.kind? ≠ none ∧ m.HasTexts) :
    n.faults c limit above = [] ↔ n.height = 0 ∨ (above.length + n.height : Int) ≤ limit := by
  cases n with
  | element t children =>
    rw [descendants] at hbelow
    rw [faults_element (hn.2 t rfl), height]
    by_cases hempty : children.isEmpty
    · simp only [hempty, if_true, true_or]
    · -- one more container is above the children, and one more is in the chain
      have ih := faultsList_eq_nil_iff (above ++ [t.name]) hbelow
      rw [List.length_append, List.length_singleton] at ih
      simp only [hempty, Bool.false_eq_true, if_false, List.append_eq_nil_iff,
        entryFaults_eq_nil_iff, ih]
      omega
  | text | comment | cdata | doctype | instruction => simp only [faults, height, true_or]
  | document | bareAttribute | value | «foreign» => exact absurd rfl hn.1

lemma faultsList_eq_nil_iff {ns : List Node} (above : List String)
    (h : ∀ m ∈ descendantsList ns, m.kind? ≠ none ∧ m.HasTexts) :
    faultsList c limit above ns = [] ↔
      heightList ns = 0 ∨ (above.length + heightList ns : Int) ≤ limit := by
  cases ns with
  | nil => simp only [faultsList, heightList, true_or]
  | cons n ns =>
    obtain ⟨hn, hbelow, hns⟩ := forall_mem_descendantsList_cons.mp h
    have ihn := faults_eq_nil_iff above hn hbelow
    have ihns := faultsList_eq_nil_iff above hns
    rw [faultsList, heightList, List.append_eq_nil_iff, ihn, ihns]
    omega

end

/-- A container all of whose descendants are of the six kinds and have texts is without fault
exactly if no chain of nested containers with children that starts with it is longer than the
limit. -/
lemma containerFaults_eq_nil_iff {n : Node}
    (h : ∀ m ∈ n.descendants, m.kind? ≠ none ∧ m.HasTexts) (hlimit : 0 ≤ limit) :
    n.containerFaults c limit = [] ↔ (n.containerHeight : Int) ≤ limit := by
  rw [containerFaults, containerHeight]
  by_cases hempty : n.children.isEmpty
  · simp only [hempty, if_true, true_iff]
    exact hlimit
  · rw [descendants_eq] at h
    simp only [hempty, Bool.false_eq_true, if_false, List.append_eq_nil_iff,
      entryFaults_eq_nil_iff, faultsList_eq_nil_iff _ h, List.length_nil, List.length_singleton]
    omega

end Kinds

end Node

/-! ### Rendering stops at the first fault -/

/-- The containers with the given names. -/
def Nesting.named (limit : Int) (names : List String) : Nesting := ⟨limit, names.length, names⟩

lemma Nesting.inside_named (limit : Int) (names : List String) (label : String) :
    (named limit names).inside label = named limit (names ++ [label]) := by
  simp [named, inside]

/-- Entering a container is a fault if there are too many around it; otherwise the faults inside it
decide. -/
lemma Pass.decidedBy_within {α : Type} {limit : Int} {above : List String} {label : String}
    {fs : List Fault} {body : Pass α}
    (hbody : Fault.DecidedBy limit (body.resultIn (.named limit (above ++ [label]))) fs) :
    Fault.DecidedBy limit ((Pass.within label body).resultIn (.named limit above))
      (entryFaults limit above label ++ fs) := by
  rw [Pass.resultIn_within, Nesting.inside_named, entryFaults]
  by_cases h : limit ≤ above.length
  · have hdepth : (Nesting.named limit above).limit ≤ (Nesting.named limit above).depth := h
    rw [if_pos hdepth, if_pos h]
    have hpath : elementPath [(Nesting.named limit above).path, label] =
        elementPath (above ++ [label]) := (elementPath_append_singleton above label).symm
    rw [hpath]
    rfl
  · have hdepth : ¬ (Nesting.named limit above).limit ≤ (Nesting.named limit above).depth := h
    rw [if_neg hdepth, if_neg h]
    exact hbody

/-- The number of containers that a pass may nest on a given call stack. -/
def Config.grantedDepth (c : Config) (stack : CallStack) : Int := (stack.clamp c.maxDepth).1

/-- The encoder of a configuration has a replacement for each reserved character. -/
def Config.ReplacesReserved (c : Config) : Prop :=
  ∀ a, a ∈ c.textEntities ∨ a ∈ c.attributeEntities → (c.encoder.replacement? a).isSome

namespace Config

variable {c : Config} (hc : c.ReplacesReserved)

include hc

lemma exists_replacement {a : Char} (ha : a ∈ c.textEntities ∨ a ∈ c.attributeEntities) :
    c.encoder.replacement? a = some ((c.encoder.replacement? a).getD "") := by
  obtain ⟨s, hs⟩ := Option.isSome_iff_exists.mp (hc a ha)
  rw [hs, Option.getD_some]

lemma exists_textMarkup (s : String) : ∃ markup, c.textMarkup s = .ok markup :=
  ⟨_, textMarkup_eq_ok (fun _ ha => exists_replacement hc (.inl ha)) s⟩

/-- The markup of the attributes of a tag is decided by their texts. -/
lemma decidedBy_attributesMarkup (limit : Int) (t : Tag) :
    Fault.DecidedBy limit ((c.attributesMarkup t).mapError .markup) (attributeFaults t) := by
  have heach (a : Attribute) : DecidedBy (c.attributeMarkup a)
      (if a.HasText then [] else [.tooManyDigits {}]) := by
    split
    · next ha => exact ⟨_, attributeMarkup_eq_ok (fun _ hb => exists_replacement hc (.inr hb)) ha⟩
    · next ha => exact attributeMarkup_eq_error ha
  have hall : DecidedBy (c.attributesMarkup t)
      (t.attributes.flatMap fun a => if a.HasText then [] else [.tooManyDigits {}]) :=
    (DecidedBy.mapM heach).bind_pure fun _ => .pure _
  rw [Fault.decidedBy_iff, attributeFaults, List.map_flatMap]
  have herrors := hall.mapError RenderError.markup
  rw [List.map_flatMap] at herrors
  have hsame : (fun a : Attribute =>
      (if a.HasText then [] else [Fault.longInteger]).map (Fault.error limit)) =
      fun a => (if a.HasText then [] else [MarkupError.tooManyDigits {}]).map .markup := by
    funext a
    split <;> rfl
  rw [hsame]
  exact herrors

end Config

/-- The size of a tag is missing exactly if its width or its height is at fault. -/
lemma sizeFaults_cases (c : Config) (t : Tag) :
    (sizeFaults c t = [] ∧ ∃ size, c.rootSize? t = .ok size) ∨
      (sizeFaults c t = [.longInteger] ∧ c.rootSize? t = .error {}) := by
  unfold sizeFaults Config.rootSize?
  rw [Tag.size?_eq]
  cases t.attribute? widthAttribute with
  | none => exact .inl ⟨rfl, none, ite_self _⟩
  | some width =>
    cases t.attribute? heightAttribute with
    | none => exact .inl ⟨rfl, none, ite_self _⟩
    | some height =>
      by_cases hroot : t.name = c.rootElement
      · simp only [hroot, true_and, if_true, Option.map_some]
        by_cases hw : width.HasText
        · by_cases hh : height.HasText
          · rw [if_neg (not_not_intro ⟨hw, hh⟩), hw, hh]
            exact .inl ⟨rfl, _, rfl⟩
          · rw [if_pos fun hboth => hh hboth.2, hw, Attribute.not_hasText_iff.mp hh]
            exact .inr ⟨rfl, rfl⟩
        · rw [if_pos fun hboth => hw hboth.1, Attribute.not_hasText_iff.mp hw]
          exact .inr ⟨rfl, rfl⟩
      · simp only [hroot, false_and, if_false]
        exact .inl ⟨trivial, none, rfl⟩

/-- The dimensions of a tag are decided by the texts of its width and its height. -/
lemma Config.decidedBy_ownDimensions (c : Config) (limit : Int) (t : Tag) :
    Fault.DecidedBy limit ((c.ownDimensions t).mapError .markup) (sizeFaults c t) := by
  unfold ownDimensions
  rcases sizeFaults_cases c t with ⟨hfaults, size, hsize⟩ | ⟨hfaults, hsize⟩
  · rw [hfaults, hsize]
    exact ⟨_, rfl⟩
  · rw [hfaults, hsize]
    rfl

namespace Node

section

variable {c : Config} {limit : Int}

/-- A child of none of the six kinds is a fault in a strict pass. -/
lemma decidedBy_renderNode_of_kind?_eq_none {n : Node} (hn : n.kind? = none)
    (above : List String) :
    Fault.DecidedBy limit ((renderNode c n).resultIn (.named limit above))
      (strangerFaults c.strict above n) := by
  rw [resultIn_renderNode_of_kind?_eq_none c _ hn, resultIn_skipChild, strangerFaults]
  by_cases hstrict : c.strict
  · rw [if_pos hstrict, if_pos hstrict]
    rfl
  · rw [if_neg hstrict, if_neg hstrict]
    exact Fault.decidedBy_pure _

mutual

/-- What rendering a node gives is decided by its faults. -/
lemma decidedBy_renderNode (hc : c.ReplacesReserved) (n : Node) (above : List String) :
    Fault.DecidedBy limit ((renderNode c n).resultIn (.named limit above))
      (n.faults c limit above) := by
  cases n with
  | element t children =>
    have hown := c.decidedBy_ownDimensions limit t
    have hattributes := Config.decidedBy_attributesMarkup hc limit t
    rw [faults]
    by_cases hempty : children = []
    · subst hempty
      rw [resultIn_renderNode_empty]
      exact hown.bind fun _ => hattributes.bind_pure fun _ => Fault.decidedBy_pure _
    · have hisEmpty : children.isEmpty = false := List.isEmpty_eq_false_iff.mpr hempty
      rw [resultIn_renderNode_element c _ t hempty, hisEmpty]
      have hbody := Pass.decidedBy_within (decidedBy_renderList hc children (above ++ [t.name]))
      exact hown.bind fun _ => hbody.bind fun _ =>
        hattributes.bind_pure fun _ => Fault.decidedBy_pure _
  | text s =>
    obtain ⟨markup, hmarkup⟩ := Config.exists_textMarkup hc s
    rw [resultIn_renderNode_text, hmarkup]
    exact Fault.decidedBy_pure _
  | comment s =>
    rw [resultIn_renderNode_comment]
    exact Fault.decidedBy_pure _
  | cdata s =>
    rw [resultIn_renderNode_cdata]
    exact Fault.decidedBy_pure _
  | doctype s =>
    rw [resultIn_renderNode_doctype]
    exact Fault.decidedBy_pure _
  | instruction i =>
    rw [resultIn_renderNode_instruction]
    exact Fault.decidedBy_pure _
  | document | bareAttribute | value | «foreign» =>
    exact decidedBy_renderNode_of_kind?_eq_none rfl above

/-- What rendering some nodes gives is decided by their faults. -/
lemma decidedBy_renderList (hc : c.ReplacesReserved) (ns : List Node) (above : List String) :
    Fault.DecidedBy limit ((renderList c ns).resultIn (.named limit above))
      (faultsList c limit above ns) := by
  cases ns with
  | nil =>
    rw [resultIn_renderList_nil]
    exact Fault.decidedBy_pure _
  | cons n ns =>
    rw [resultIn_renderList_cons, faultsList]
    have hfirst := decidedBy_renderNode hc n above
    have hrest := decidedBy_renderList hc ns above
    exact hfirst.bind fun _ => hrest.bind_pure fun _ => Fault.decidedBy_pure _

end

end

/-! ### Complete passes -/

variable {c : Config}

lemma decidedBy_render (hc : c.ReplacesReserved) (limit : Int) (n : Node) :
    Fault.DecidedBy limit ((render c n).resultIn (.named limit []))
      (n.containerFaults c limit) := by
  rw [containerFaults]
  by_cases hempty : n.children = []
  · rw [resultIn_render_of_children_eq_nil _ _ hempty, hempty]
    exact Fault.decidedBy_pure _
  · have hisEmpty : n.children.isEmpty = false := List.isEmpty_eq_false_iff.mpr hempty
    rw [resultIn_render_of_children_ne_nil _ _ hempty, hisEmpty]
    have hbody := @decidedBy_renderList c limit hc n.children [n.label]
    exact Pass.decidedBy_within hbody

/-- A pass with an encoder that never fails succeeds exactly if the tree has no faults, and fails
with the error of the first fault if it has any.  If no attribute value is an integer of too many
digits, no fault is about such an integer; then a pass over a tree whose descendants are all of the
six kinds fails exactly if more containers with children are nested than the call stack and the
configuration allow. -/
theorem serialize_faults (hc : c.ReplacesReserved) (n : Node) (stack : CallStack) :
    ((∃ r, (serialize c n stack).result = .ok r) ↔
      n.containerFaults c (c.grantedDepth stack) = []) ∧
    (∀ f ∈ (n.containerFaults c (c.grantedDepth stack)).head?,
      (serialize c n stack).result = .error (f.error (c.grantedDepth stack)) ∧
        f.ReportedBy (c.grantedDepth stack) (f.error (c.grantedDepth stack)).failure) ∧
    ((∀ m ∈ n.descendants, ∀ t ∈ m.tag?, ∀ a ∈ t.attributes, ∀ i, a.value = .int i →
        Decimal.digitCount i.natAbs ≤ Decimal.maxDigits) →
      .longInteger ∉ n.containerFaults c (c.grantedDepth stack) ∧
      ((∀ m ∈ n.descendants, m.kind? ≠ none) → 0 ≤ c.grantedDepth stack →
        ((∃ e, (serialize c n stack).result = .error e) ↔
          c.grantedDepth stack < n.containerHeight))) := by
  have hstart : (Nesting.start c.maxDepth stack).1 = .named (c.grantedDepth stack) [] := rfl
  have h := decidedBy_render hc (c.grantedDepth stack) n
  rw [← hstart, ← result_serialize] at h
  refine ⟨h.exists_ok_iff, fun f hf => ⟨h.eq_error hf, f.reportedBy_error _⟩, fun hshort => ?_⟩
  have htexts : ∀ m ∈ n.descendants, m.HasTexts := by
    intro m hm t ht a ha
    by_contra hnot
    obtain ⟨i, hi, hlong⟩ := Attribute.not_hasText_iff_exists_int.mp hnot
    exact Nat.not_le.mpr hlong (hshort m hm t ht a ha i hi)
  refine ⟨longInteger_notMem_containerFaults htexts, fun hkinds hlimit => ?_⟩
  have hnil := @containerFaults_eq_nil_iff c _ n (fun m hm => ⟨hkinds m hm, htexts m hm⟩) hlimit
  have hfails : (∃ e, (serialize c n stack).result = .error e) ↔
      ¬ ∃ r, (serialize c n stack).result = .ok r := by
    cases (serialize c n stack).result with
    | error e => simp
    | ok r => simp
  rw [hfails, h.exists_ok_iff, hnil]
  omega

/-- The standard configuration, in which only three containers may be nested. -/
def shallowConfig : Config := { Config.standard with maxDepth := 3, maxDepth_pos := by decide }

/-- Elements nested three deep, with a leaf and a childless element in the innermost. -/
def nestedElements : Node :=
  .element ⟨"svg", [], by decide, List.nodup_nil⟩ [.element ⟨"defs", [], by decide, List.nodup_nil⟩
    [.element ⟨"mask", [], by decide, List.nodup_nil⟩ [.comment "c"],
      .element ⟨"use", [], by decide, List.nodup_nil⟩ []]]

/-- An object of another program that holds nested elements and a number. -/
def crowdedContainer : Node := .foreign "Box" none [nestedElements, .value (.int 1)]

theorem serialize_crowdedContainer :
    shallowConfig.ReplacesReserved ∧
      (serialize shallowConfig crowdedContainer).result =
        .error (.nestingExceeded ⟨3, "svg > defs > mask"⟩) ∧
      ∃ e, (serialize shallowConfig (.document [nestedElements])).result = .error e := by
  have hc : shallowConfig.ReplacesReserved := fun _ _ => rfl
  have hfirst : .tooDeep ["", "svg", "defs", "mask"] ∈
      (crowdedContainer.containerFaults shallowConfig 3).head? := by decide +kernel
  have hkinds : ∀ m ∈ (document [nestedElements]).descendants, m.kind? ≠ none := by decide +kernel
  have hpath : elementPath ["", "svg", "defs", "mask"] = "svg > defs > mask" := by decide +kernel
  -- no element of the tree has an attribute
  have hshort : ∀ m ∈ (document [nestedElements]).descendants, ∀ t ∈ m.tag?,
      ∀ a ∈ t.attributes, ∀ i, a.value = .int i →
        Decimal.digitCount i.natAbs ≤ Decimal.maxDigits := by
    have hnone : ∀ m ∈ (document [nestedElements]).descendants, ∀ t ∈ m.tag?,
        t.attributes.isEmpty := by decide +kernel
    intro m hm t ht a ha
    rw [List.isEmpty_iff.mp (hnone m hm t ht)] at ha
    cases ha
  refine ⟨hc, ?_, ?_⟩
  · have h := ((serialize_faults hc crowdedContainer {}).2.1 _ hfirst).1
    rw [h, Fault.error, hpath]
    rfl
  · exact (((serialize_faults hc (.document [nestedElements]) {}).2.2 hshort).2 hkinds
      (by decide)).mpr (by decide +kernel)

/-- A document whose only attribute value is a natural number. -/
def numberedDocument (i : Nat) : Node :=
  .document [.element
    ⟨"ellipse", [⟨"rx", .int i, by decide⟩], by decide, List.nodup_singleton _⟩ []]

/-- A natural number with too many digits is the only fault of such a document. -/
lemma serialize_numberedDocument {i : Nat} (h : Decimal.maxDigits < Decimal.digitCount i) :
    (∀ f ∈ (numberedDocument i).containerFaults .standard (Config.standard.grantedDepth {}),
        f = .longInteger) ∧
      (serialize .standard (numberedDocument i)).result = .error (.markup (.tooManyDigits {})) := by
  have hentry : entryFaults (Config.standard.grantedDepth {}) [] "" = [] := by decide +kernel
  have hsize (attributes : List Attribute) (hname hdistinct) :
      sizeFaults .standard ⟨"ellipse", attributes, hname, hdistinct⟩ = [] := by
    unfold sizeFaults
    split <;> rfl
  have htext : ¬ Attribute.HasText ⟨"rx", .int i, by decide⟩ :=
    Attribute.not_hasText_iff_exists_int.mpr ⟨i, rfl, by rwa [Int.natAbs_natCast]⟩
  have hfaults : (numberedDocument i).containerFaults .standard
      (Config.standard.grantedDepth {}) = [.longInteger] := by
    simp [numberedDocument, containerFaults, children, label, faultsList, faults, hentry, hsize,
      attributeFaults, htext]
  have hreplaces : Config.standard.ReplacesReserved := fun _ _ => rfl
  have hresult := decidedBy_render hreplaces (Config.standard.grantedDepth {}) (numberedDocument i)
  rw [hfaults] at hresult
  rw [hfaults, result_serialize]
  exact ⟨fun f hf => List.mem_singleton.mp hf, hresult⟩

/-- A tree in which nothing is nested too deeply and all nodes are of the six kinds may still be one
that is not written. -/
theorem not_forall_serialize_ok_iff :
    ¬ ∀ (c : Config) (n : Node) (stack : CallStack), c.ReplacesReserved →
      ((∃ r, (serialize c n stack).result = .ok r) ↔
        ∀ f ∈ n.containerFaults c (c.grantedDepth stack), f = .longInteger) := by
  intro h
  obtain ⟨hfaults, hresult⟩ := serialize_numberedDocument (Decimal.lt_digitCount_pow (by decide))
  obtain ⟨r, hr⟩ := (h .standard _ {} fun _ _ => rfl).mpr hfaults
  rw [hresult] at hr
  cases hr

end Node

end SvgMarkup
