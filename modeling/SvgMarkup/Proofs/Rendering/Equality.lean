import SvgMarkup.Proofs.Tree.AttributeValue
import SvgMarkup.Proofs.Tree.Descendants
import SvgMarkup.Proofs.Tree.Lookup
import SvgMarkup.Rendering.Basic

/-!
# Passes over equal trees

Equal trees have the same shape and the same names, and attribute values that are equal in pairs.  A
pass sees nothing of an attribute value but its text, so passes over equal trees are the same if all
these pairs have the same text.

* `Tag.WritesLike` relates tags with the same name, attribute names and attribute texts.
* `Node.valuePairs` lists the attribute values at corresponding places of two trees.
* `Node.Equals` is the equality of trees as objects; `Node.equals_of_same` compares it with the
  equality of their values.
* `Node.renderList_eq_of_equals`: rendering depends on the texts of attribute values only.
-/

namespace SvgMarkup

/-! ### Tags that write alike -/

/-- Two tags write alike if they have the same name, and attributes with the same names and texts in
the same order. -/
structure Tag.WritesLike (t u : Tag) : Prop where
  name : t.name = u.name
  attributes : t.attributes.map (fun a => (a.name, a.text)) =
    u.attributes.map fun a => (a.name, a.text)

namespace Tag.WritesLike

variable {t u : Tag} (h : t.WritesLike u)

include h

/-- The text of the attribute with a given name is the same in both. -/
lemma text_attribute? (name : String) :
    (t.attribute? name).map Attribute.text = (u.attribute? name).map Attribute.text := by
  have hfind (v : Tag) : (v.attribute? name).map Attribute.text =
      ((v.attributes.map fun a => (a.name, a.text)).find? (·.1 == name)).map (·.2) := by
    rw [attribute?, List.find?_map, Option.map_map]
    rfl
  rw [hfind, hfind, h.attributes]

lemma size? : t.size? = u.size? := by
  rw [Tag.size?_eq, Tag.size?_eq, h.text_attribute?, h.text_attribute?]

variable (c : Config)

lemma attributesMarkup : c.attributesMarkup t = c.attributesMarkup u := by
  have hmarkup (v : Tag) : v.attributes.mapM c.attributeMarkup =
      (v.attributes.map fun a => (a.name, a.text)).mapM fun p => do
        let text ← p.2.mapError .tooManyDigits
        let escaped ← (escape c.attributeEntities c.encoder text).mapError .missingReplacement
        return " " ++ p.1 ++ c.written .attrStart ++ escaped ++ c.written .attrEnd := by
    rw [List.mapM_map]
    rfl
  rw [Config.attributesMarkup, Config.attributesMarkup, hmarkup, hmarkup, h.attributes]

lemma captureSize : Node.captureSize c t = Node.captureSize c u := by
  rw [Node.captureSize, Node.captureSize, Config.rootSize?, Config.rootSize?, h.name, h.size?]

variable (indent attributes : String)

lemma emptyTag : c.emptyTag indent t attributes = c.emptyTag indent u attributes := by
  rw [Config.emptyTag, Config.emptyTag, h.name]

lemma holdsText : c.holdsText t = c.holdsText u := by
  rw [Config.holdsText, Config.holdsText, h.name]

lemma standsInText : c.standsInText t = c.standsInText u := by
  rw [Config.standsInText, Config.standsInText, h.name]

lemma openingTag : c.openingTag indent t attributes = c.openingTag indent u attributes := by
  rw [Config.openingTag, Config.openingTag, h.holdsText, h.standsInText, h.name]

lemma closingTag : c.closingTag indent t = c.closingTag indent u := by
  rw [Config.closingTag, Config.closingTag, h.holdsText, h.standsInText, h.name]

end Tag.WritesLike

namespace Node

/-! ### Corresponding attribute values -/

mutual

/-- The attribute values at corresponding places of two elements and of their contents. -/
def valuePairs : Node → Node → List (AttributeValue × AttributeValue)
  | element t children, element u others =>
    (t.attributes.zip u.attributes).map (fun p => (p.1.value, p.2.value)) ++
      valuePairsAmong children others
  | _, _ => []

/-- The attribute values at corresponding places of two lists of nodes. -/
def valuePairsAmong : List Node → List Node → List (AttributeValue × AttributeValue)
  | n :: ns, m :: ms => valuePairs n m ++ valuePairsAmong ns ms
  | _, _ => []

end

end Node

/-! ### Equal trees -/

/-- Whether two attributes are equal as objects. -/
def Attribute.Equals (a b : Attribute) : Prop := a.name = b.name ∧ a.value.Equals b.value

/-- Whether two tags are equal as objects. -/
def Tag.Equals (t u : Tag) : Prop :=
  t.name = u.name ∧ List.Forall₂ Attribute.Equals t.attributes u.attributes

namespace Node

mutual

/-- Whether two nodes of the library are equal as objects, where an attribute value counts as equal
to itself in any case.  Bare values and objects of other programs are left out. -/
def Equals : Node → Node → Prop
  | element t cs, element u ds => t.Equals u ∧ EqualsList cs ds
  | text s, text t | comment s, comment t | cdata s, cdata t | doctype s, doctype t => s = t
  | instruction i, instruction j => i = j
  | document cs, document ds => EqualsList cs ds
  | bareAttribute a, bareAttribute b => a.Equals b
  | _, _ => False

/-- Whether two lists of nodes of the library are equal as objects, one by one. -/
def EqualsList : List Node → List Node → Prop
  | [], [] => True
  | n :: ns, m :: ms => Equals n m ∧ EqualsList ns ms
  | _, _ => False

end

/-- Whether a node is an object of the library, and neither a bare value nor an object of another
program. -/
def IsOwn : Node → Prop
  | value _ | «foreign» _ _ _ => False
  | element _ _ | text _ | comment _ | cdata _ | doctype _ | instruction _ | document _
  | bareAttribute _ => True

instance : DecidablePred IsOwn
  | value _ | «foreign» _ _ _ => .isFalse id
  | element _ _ | text _ | comment _ | cdata _ | doctype _ | instruction _ | document _
  | bareAttribute _ => .isTrue trivial

end Node

lemma Attribute.equals_of_same {a b : Attribute} (h : a.same b = true) : a.Equals b := by
  rw [same, Bool.and_eq_true, beq_iff_eq] at h
  exact ⟨h.1, .inr h.2⟩

lemma Attribute.forall₂_equals_of_sameList {as bs : List Attribute} (h : sameList as bs = true) :
    List.Forall₂ Attribute.Equals as bs := by
  induction as generalizing bs with
  | nil =>
    cases bs with
    | nil => exact .nil
    | cons => cases h
  | cons a as ih =>
    cases bs with
    | nil => cases h
    | cons b bs =>
      rw [sameList, Bool.and_eq_true] at h
      exact .cons (equals_of_same h.1) (ih h.2)

lemma Tag.equals_of_same {t u : Tag} (h : t.same u = true) : t.Equals u := by
  rw [same, Bool.and_eq_true, beq_iff_eq] at h
  exact ⟨h.1, Attribute.forall₂_equals_of_sameList h.2⟩

/-- Equal tags write alike if corresponding attribute values have the same text. -/
lemma Tag.Equals.writesLike {t u : Tag} (h : t.Equals u)
    (htexts : ∀ p ∈ t.attributes.zip u.attributes, p.1.text = p.2.text) : t.WritesLike u := by
  obtain ⟨hname, hattributes⟩ := h
  obtain ⟨hlength, hequal⟩ := List.forall₂_iff_zip.mp hattributes
  refine ⟨hname, ?_⟩
  rw [← List.forall₂_eq_eq_eq, List.forall₂_map_left_iff, List.forall₂_map_right_iff,
    List.forall₂_iff_zip]
  exact ⟨hlength, fun {a b} hab => Prod.ext (hequal hab).1 (htexts (a, b) hab)⟩

namespace Node

mutual

/-- Nodes of the library that are equal value by value are equal as objects. -/
lemma equals_of_same {n m : Node} (h : n.same m = true) (hown : n.IsOwn)
    (hbelow : ∀ k ∈ n.descendants, k.IsOwn) : n.Equals m := by
  cases n with
  | element t children =>
    cases m with
    | element u others =>
      rw [same, Bool.and_eq_true] at h
      rw [descendants] at hbelow
      exact ⟨Tag.equals_of_same h.1, equalsList_of_sameList h.2 hbelow⟩
    | _ => cases h
  | document children =>
    cases m with
    | document others =>
      rw [same] at h
      rw [descendants] at hbelow
      exact equalsList_of_sameList h hbelow
    | _ => cases h
  | bareAttribute a =>
    cases m with
    | bareAttribute b => exact Attribute.equals_of_same h
    | _ => cases h
  | text | comment | cdata | doctype | instruction =>
    cases m with
    | text | comment | cdata | doctype | instruction => simp_all [same, Equals]
    | _ => cases h
  | value | «foreign» => exact hown.elim

/-- Lists of nodes of the library that are equal value by value are equal as objects. -/
lemma equalsList_of_sameList {ns ms : List Node} (h : sameList ns ms = true)
    (hown : ∀ k ∈ descendantsList ns, k.IsOwn) : EqualsList ns ms := by
  cases ns with
  | nil =>
    cases ms with
    | nil => trivial
    | cons => cases h
  | cons n ns =>
    cases ms with
    | nil => cases h
    | cons m ms =>
      rw [sameList, Bool.and_eq_true] at h
      obtain ⟨hn, hbelow, hns⟩ := forall_mem_descendantsList_cons.mp hown
      exact ⟨equals_of_same h.1 hn hbelow, equalsList_of_sameList h.2 hns⟩

end

lemma isEmpty_eq_of_equalsList {ns ms : List Node} (h : EqualsList ns ms) :
    ns.isEmpty = ms.isEmpty := by
  cases ns with
  | nil =>
    cases ms with
    | nil => rfl
    | cons => cases h
  | cons =>
    cases ms with
    | nil => cases h
    | cons => rfl

/-- Equal nodes have the same label and equal children. -/
lemma Equals.label_and_children {n m : Node} (h : n.Equals m) :
    n.label = m.label ∧ EqualsList n.children m.children := by
  cases n with
  | element t children =>
    cases m with
    | element u others =>
      rw [Equals] at h
      exact ⟨h.1.1, h.2⟩
    | _ => cases h
  | document children =>
    cases m with
    | document others =>
      rw [Equals] at h
      exact ⟨rfl, h⟩
    | _ => cases h
  | value | «foreign» => cases m <;> cases h
  | _ =>
    cases m with
    | element | document | value | «foreign» => cases h
    | _ => exact ⟨rfl, trivial⟩

/-- Equal nodes of the six kinds are the same unless they have attributes. -/
lemma Equals.eq_of_leaf {n m : Node} (h : n.Equals m) (hkind : n.kind? ≠ none)
    (htag : n.tag? = none) : n = m := by
  cases n with
  | text | comment | cdata | doctype | instruction =>
    cases m with
    | text | comment | cdata | doctype | instruction => simp_all [Equals]
    | _ => cases h
  | element => cases htag
  | document | bareAttribute | value | «foreign» => exact absurd rfl hkind

mutual

/-- Corresponding attribute values of equal nodes are equal. -/
lemma equals_of_mem_valuePairs {n m : Node} (h : n.Equals m) :
    ∀ p ∈ valuePairs n m, p.1.Equals p.2 := by
  cases n with
  | element t children =>
    cases m with
    | element u others =>
      rw [Equals] at h
      obtain ⟨⟨-, hattributes⟩, hchildren⟩ := h
      obtain ⟨-, hequal⟩ := List.forall₂_iff_zip.mp hattributes
      rw [valuePairs, List.forall_mem_append, List.forall_mem_map]
      exact ⟨fun p hp => (hequal hp).2, equals_of_mem_valuePairsAmong hchildren⟩
    | _ => cases h
  | _ => exact List.forall_mem_nil _

/-- Corresponding attribute values of equal lists of nodes are equal. -/
lemma equals_of_mem_valuePairsAmong {ns ms : List Node} (h : EqualsList ns ms) :
    ∀ p ∈ valuePairsAmong ns ms, p.1.Equals p.2 := by
  cases ns with
  | nil => exact List.forall_mem_nil _
  | cons n ns =>
    cases ms with
    | nil => cases h
    | cons m ms =>
      rw [EqualsList] at h
      rw [valuePairsAmong, List.forall_mem_append]
      exact ⟨equals_of_mem_valuePairs h.1, equals_of_mem_valuePairsAmong h.2⟩

end

/-! ### Rendering equal nodes -/

variable (c : Config)

mutual

/-- Equal nodes are rendered alike if corresponding attribute values have the same text. -/
lemma renderNode_eq_of_equals {n m : Node} (h : n.Equals m)
    (htexts : ∀ p ∈ valuePairs n m, p.1.render = p.2.render) :
    renderNode c n = renderNode c m := by
  cases n with
  | element t children =>
    cases m with
    | element u others =>
      rw [Equals] at h
      obtain ⟨htag, hchildren⟩ := h
      rw [valuePairs, List.forall_mem_append, List.forall_mem_map] at htexts
      obtain ⟨hattributes, hvalues⟩ := htexts
      have hwrites := htag.writesLike hattributes
      have ih := renderList_eq_of_equals hchildren hvalues
      rw [renderNode, renderNode, hwrites.captureSize, hwrites.attributesMarkup, hwrites.name,
        isEmpty_eq_of_equalsList hchildren, ih]
      simp only [hwrites.emptyTag, hwrites.openingTag, hwrites.closingTag]
    | _ => cases h
  | text | comment | cdata | doctype | instruction => rw [h.eq_of_leaf nofun rfl]
  | document =>
    cases m with
    | document => rfl
    | _ => cases h
  | bareAttribute =>
    cases m with
    | bareAttribute => rfl
    | _ => cases h
  | value | «foreign» => cases m <;> cases h

/-- Equal lists of nodes are rendered alike if corresponding attribute values have the same text. -/
lemma renderList_eq_of_equals {ns ms : List Node} (h : EqualsList ns ms)
    (htexts : ∀ p ∈ valuePairsAmong ns ms, p.1.render = p.2.render) :
    renderList c ns = renderList c ms := by
  cases ns with
  | nil =>
    cases ms with
    | nil => rfl
    | cons => cases h
  | cons n ns =>
    cases ms with
    | nil => cases h
    | cons m ms =>
      rw [EqualsList] at h
      rw [valuePairsAmong, List.forall_mem_append] at htexts
      rw [renderList, renderList, renderNode_eq_of_equals h.1 htexts.1,
        renderList_eq_of_equals h.2 htexts.2]

end

lemma render_eq_of_equals {n m : Node} (h : n.Equals m)
    (htexts : ∀ p ∈ valuePairsAmong n.children m.children, p.1.render = p.2.render) :
    render c n = render c m := by
  obtain ⟨hlabel, hchildren⟩ := h.label_and_children
  rw [render, render, hlabel, isEmpty_eq_of_equalsList hchildren,
    renderList_eq_of_equals c hchildren htexts]

/-- In equal trees of the library's own objects, two attribute values at corresponding places have
the same text exactly if they are of one form, and if all of them are of one form in pairs, passes
over the trees are the same under every configuration. -/
theorem serialize_eq_of_equals {n m : Node} (h : n.Equals m) :
    (∀ p ∈ valuePairsAmong n.children m.children, p.1.OneForm p.2 ↔ p.1.render = p.2.render) ∧
    ((∀ p ∈ valuePairsAmong n.children m.children, p.1.OneForm p.2) →
      ∀ (c : Config) (stack : CallStack), serialize c n stack = serialize c m stack) := by
  have hform (p : AttributeValue × AttributeValue)
      (hp : p ∈ valuePairsAmong n.children m.children) :
      p.1.OneForm p.2 ↔ p.1.render = p.2.render :=
    (AttributeValue.render_eq_iff
      (equals_of_mem_valuePairsAmong h.label_and_children.2 p hp)).symm
  refine ⟨hform, fun hall c stack => ?_⟩
  have htexts : ∀ p ∈ valuePairsAmong n.children m.children, p.1.render = p.2.render :=
    fun p hp => (hform p hp).mp (hall p hp)
  rw [serialize, serialize, render_eq_of_equals c h htexts]

/-- A document with an element whose attributes have the given values. -/
def documentWith (x y : AttributeValue) : Node :=
  document [.comment "c", .element ⟨"circle", [⟨"cx", x, by decide⟩, ⟨"cy", y, by decide⟩],
    by decide, (by decide : ["cx", "cy"].Nodup)⟩ []]

theorem serialize_documentWith :
    (documentWith (.text "last") (.float 0.5)).Equals (documentWith (.policy .last) (.float 0.5)) ∧
    AttributeValue.OneForm (.text "last") (.policy .last) ∧
    AttributeValue.OneForm (.float 0.5) (.float 0.5) ∧
    serialize .standard (documentWith (.text "last") (.float 0.5)) =
      serialize .standard (documentWith (.policy .last) (.float 0.5)) := by
  have hequals : (documentWith (.text "last") (.float 0.5)).Equals
      (documentWith (.policy .last) (.float 0.5)) :=
    equals_of_same (by decide +kernel) trivial (by decide)
  have hpairs : ∀ p ∈ valuePairsAmong (documentWith (.text "last") (.float 0.5)).children
      (documentWith (.policy .last) (.float 0.5)).children, p.1.OneForm p.2 :=
    List.forall_mem_cons.mpr ⟨trivial, List.forall_mem_singleton.mpr rfl⟩
  exact ⟨hequals, trivial, rfl, (serialize_eq_of_equals hequals).2 hpairs .standard {}⟩

/-- Equal numbers of different types show in the output. -/
theorem not_forall_serialize_eq :
    ¬ ∀ (c : Config) (ns ms : List Node) (stack : CallStack),
      (document ns).Equals (document ms) →
      (serialize c (document ns) stack).result = (serialize c (document ms) stack).result := by
  intro h
  have hequals : (documentWith (.int 1) (.int 2)).Equals (documentWith (.flag true) (.float 2)) :=
    equals_of_same (by decide +kernel) trivial (by decide)
  have heq := h .standard _ _ {} hequals
  have hne :
      (serialize .standard (documentWith (.int 1) (.int 2))).result.toOption.map (·.data) ≠
        (serialize .standard (documentWith (.flag true) (.float 2))).result.toOption.map
          (·.data) := by
    decide +kernel
  exact hne (congrArg (fun result => result.toOption.map (·.data)) heq)

end Node

end SvgMarkup
