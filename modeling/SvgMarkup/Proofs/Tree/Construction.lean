import Mathlib.Data.Option.Basic
import SvgMarkup.Proofs.Computations
import SvgMarkup.Proofs.Rendering.Capture
import SvgMarkup.Proofs.Tree.Lookup
import SvgMarkup.Tree.Construction

/-!
# What construction admits

A tag is made of a name and of pairs of names and values.  It exists if the names are texts that
are not empty, the values are texts, numbers or truth values and no attribute name is repeated;
otherwise the first of these conditions that fails is reported.

* `Tag.Refused` lists the ways in which construction fails, each with the conditions that hold
  before.
* `firstRepeated?_eq_some_iff`: the attribute that is reported is the first one with the name of an
  earlier one.
* `Tag.construction_outcome` is the outcome of construction, and what holds of a tag that exists.
-/

namespace SvgMarkup

/-! ### Names and values -/

/-- A value can be a name if it is a text that is not empty. -/
def Value.IsName (v : Value) : Prop := ∃ s, v.text? = some s ∧ s ≠ ""

/-- A value can be that of an attribute if it is a text, a number or a truth value.  A policy is a
text. -/
def Value.IsAttributeValue : Value → Prop
  | .text _ | .policy _ | .int _ | .float _ | .flag _ => True
  | _ => False

lemma AttributeValue.ofValue?_eq_some_iff {v : Value} {a : AttributeValue} :
    ofValue? v = some a ↔ v = a.toValue := by
  constructor
  · intro h
    cases v <;> cases h <;> rfl
  · rintro rfl
    exact ofValue?_toValue a

lemma Value.isAttributeValue_iff {v : Value} :
    v.IsAttributeValue ↔ ∃ a, AttributeValue.ofValue? v = some a := by
  cases v <;> simp [IsAttributeValue, AttributeValue.ofValue?]

namespace NamedPart

variable {part : NamedPart} {v : Value}

lemma name_eq_ok_iff {s : { s : String // s ≠ "" }} :
    part.name v = .ok s ↔ v.text? = some s.1 := by
  obtain ⟨s, hs⟩ := s
  unfold name
  cases v.text? with
  | none => exact ⟨nofun, nofun⟩
  | some s' =>
    by_cases h : s' ≠ ""
    · simp [h]
    · simp only [h, dite_false, Option.some.injEq]
      refine ⟨nofun, ?_⟩
      rintro rfl
      exact absurd hs h

lemma name_eq_error_iff {e : ConstructionError} :
    part.name v = .error e ↔ ¬ v.IsName ∧ e = .emptyName part := by
  unfold name Value.IsName
  cases v.text? with
  | none => simp [eq_comm]
  | some s =>
    by_cases h : s = "" <;> simp [h, eq_comm]

end NamedPart

namespace Attribute

/-- A name and a value that make an attribute. -/
def Fits (p : Value × Value) : Prop := p.1.IsName ∧ p.2.IsAttributeValue

/-- An attribute keeps a name and a value if they are its own. -/
def Keeps (p : Value × Value) (a : Attribute) : Prop :=
  p.1.text? = some a.name ∧ p.2 = a.value.toValue

lemma Keeps.fits {p : Value × Value} {a : Attribute} (h : Keeps p a) : Fits p :=
  ⟨⟨a.name, h.1, a.name_ne⟩, Value.isAttributeValue_iff.mpr
    ⟨a.value, AttributeValue.ofValue?_eq_some_iff.mpr h.2⟩⟩

variable {k v : Value}

lemma ofValues_eq_ok_iff {a : Attribute} : ofValues k v = .ok a ↔ Keeps (k, v) a := by
  constructor
  · intro h
    obtain ⟨⟨name, name_ne⟩, hname, h⟩ := exists_of_bind_eq_ok h
    dsimp only at h
    split at h
    · next value hvalue =>
      obtain rfl := Except.ok.inj h
      exact ⟨NamedPart.name_eq_ok_iff.mp hname, AttributeValue.ofValue?_eq_some_iff.mp hvalue⟩
    · cases h
  · rintro ⟨hname, hvalue⟩
    have hname : NamedPart.attr.name k = .ok ⟨a.name, a.name_ne⟩ :=
      NamedPart.name_eq_ok_iff.mpr hname
    have hvalue : AttributeValue.ofValue? v = some a.value :=
      AttributeValue.ofValue?_eq_some_iff.mpr hvalue
    rw [ofValues, hname, hvalue]
    rfl

/-- An attribute is refused for its name, or else for its value. -/
lemma ofValues_eq_error_iff {e : ConstructionError} :
    ofValues k v = .error e ↔ ¬ k.IsName ∧ e = .emptyName .attr ∨
      ∃ s, k.text? = some s ∧ s ≠ "" ∧ ¬ v.IsAttributeValue ∧
        e = .unsupportedValue s v.typeName := by
  unfold ofValues
  rw [bind_eq_error_iff, NamedPart.name_eq_error_iff]
  refine or_congr_right ?_
  constructor
  · rintro ⟨⟨s, hne⟩, hname, h⟩
    dsimp only at h
    split at h
    · cases h
    · next hvalue =>
      refine ⟨s, NamedPart.name_eq_ok_iff.mp hname, hne, ?_, (Except.error.inj h).symm⟩
      rw [Value.isAttributeValue_iff, hvalue]
      exact nofun
  · rintro ⟨s, hname, hne, hvalue, rfl⟩
    refine ⟨⟨s, hne⟩, NamedPart.name_eq_ok_iff.mpr hname, ?_⟩
    dsimp only
    split
    · next value hv => exact absurd (Value.isAttributeValue_iff.mpr ⟨value, hv⟩) hvalue
    · rfl

lemma exists_ofValues_eq_ok_iff : (∃ a, ofValues k v = .ok a) ↔ Fits (k, v) := by
  constructor
  · rintro ⟨a, ha⟩
    exact (ofValues_eq_ok_iff.mp ha).fits
  · rintro ⟨⟨s, hs, hne⟩, hvalue⟩
    obtain ⟨value, hvalue⟩ := Value.isAttributeValue_iff.mp hvalue
    exact ⟨⟨s, value, hne⟩,
      ofValues_eq_ok_iff.mpr ⟨hs, AttributeValue.ofValue?_eq_some_iff.mp hvalue⟩⟩

lemma listOfValues_eq_ok_iff {pairs : List (Value × Value)} {attributes : List Attribute} :
    listOfValues pairs = .ok attributes ↔ List.Forall₂ Keeps pairs attributes := by
  simp only [listOfValues, mapM_eq_ok_iff, ofValues_eq_ok_iff]

lemma listOfValues_eq_error_iff {pairs : List (Value × Value)} {e : ConstructionError} :
    listOfValues pairs = .error e ↔
      ∃ before k v after, pairs = before ++ (k, v) :: after ∧ (∀ p ∈ before, Fits p) ∧
        ofValues k v = .error e := by
  simp only [listOfValues, mapM_eq_error_iff, exists_ofValues_eq_ok_iff, Prod.exists]

lemma fits_of_forall₂ {pairs : List (Value × Value)} {attributes : List Attribute}
    (h : List.Forall₂ Keeps pairs attributes) : ∀ p ∈ pairs, Fits p := by
  induction h with
  | nil => exact List.forall_mem_nil _
  | cons hkeeps _ ih => exact List.forall_mem_cons.mpr ⟨hkeeps.fits, ih⟩

lemma exists_listOfValues_eq_ok {pairs : List (Value × Value)} (h : ∀ p ∈ pairs, Fits p) :
    ∃ attributes, listOfValues pairs = .ok attributes := by
  cases hresult : listOfValues pairs with
  | ok attributes => exact ⟨attributes, rfl⟩
  | error e =>
    obtain ⟨before, k, v, after, rfl, -, he⟩ := listOfValues_eq_error_iff.mp hresult
    obtain ⟨a, ha⟩ := exists_ofValues_eq_ok_iff.mpr (h (k, v) (by simp))
    cases he.symm.trans ha

/-- Attributes that keep some names have these names, in the same order. -/
lemma map_text?_eq {pairs : List (Value × Value)} {attributes : List Attribute}
    (h : List.Forall₂ Keeps pairs attributes) :
    pairs.map (·.1.text?) = (attributes.map (·.name)).map some := by
  induction h with
  | nil => rfl
  | cons hkeeps _ ih => rw [List.map_cons, List.map_cons, List.map_cons, hkeeps.1, ih]

lemma nodup_map_text?_iff {pairs : List (Value × Value)} {attributes : List Attribute}
    (h : List.Forall₂ Keeps pairs attributes) :
    (pairs.map (·.1.text?)).Nodup ↔ (attributes.map (·.name)).Nodup := by
  rw [map_text?_eq h, List.nodup_map_iff (Option.some_injective _)]

end Attribute

/-! ### Repeated names -/

/-- The member that is found has occurred before, and no member before it has. -/
lemma firstRepeated?_eq_some_iff {seen l : List String} {s : String} :
    firstRepeated? seen l = some s ↔ ∃ before after, l = before ++ s :: after ∧
      before.Nodup ∧ (∀ t ∈ before, t ∉ seen) ∧ (s ∈ seen ∨ s ∈ before) := by
  -- a member that is passed is among those seen from then on
  induction l generalizing seen with
  | nil => simp [firstRepeated?]
  | cons t l ih =>
    rw [firstRepeated?]
    by_cases ht : t ∈ seen
    · rw [if_pos ht]
      constructor
      · intro h
        obtain rfl := Option.some.inj h
        exact ⟨[], l, rfl, List.nodup_nil, List.forall_mem_nil _, .inl ht⟩
      · rintro ⟨_ | ⟨b, before⟩, after, hl, -, hseen, -⟩
        · rw [(List.cons.inj hl).1]
        · obtain ⟨rfl, -⟩ := List.cons.inj hl
          exact absurd ht (hseen t List.mem_cons_self)
    · rw [if_neg ht, ih]
      constructor
      · rintro ⟨before, after, rfl, hnodup, hseen, hs⟩
        have htbefore : t ∉ before := fun h => hseen t h List.mem_cons_self
        refine ⟨t :: before, after, rfl, List.nodup_cons.mpr ⟨htbefore, hnodup⟩,
          List.forall_mem_cons.mpr ⟨ht, fun b hb h => hseen b hb (List.mem_cons_of_mem _ h)⟩, ?_⟩
        rw [List.mem_cons] at hs ⊢
        tauto
      · rintro ⟨_ | ⟨b, before⟩, after, hl, hnodup, hseen, hs⟩
        · obtain ⟨rfl, -⟩ := List.cons.inj hl
          exact absurd (hs.resolve_right List.not_mem_nil) ht
        · obtain ⟨rfl, rfl⟩ := List.cons.inj hl
          obtain ⟨htbefore, hnodup⟩ := List.nodup_cons.mp hnodup
          obtain ⟨-, hseen⟩ := List.forall_mem_cons.mp hseen
          refine ⟨before, after, rfl, hnodup, fun b hb h => ?_, ?_⟩
          · rcases List.mem_cons.mp h with rfl | h
            · exact htbefore hb
            · exact hseen b hb h
          · rw [List.mem_cons] at hs ⊢
            tauto

/-- The first repeated member of a list stands behind members that are all different. -/
lemma firstRepeated?_nil_eq_some_iff {l : List String} {s : String} :
    firstRepeated? [] l = some s ↔
      ∃ before after, l = before ++ s :: after ∧ before.Nodup ∧ s ∈ before := by
  simp [firstRepeated?_eq_some_iff]

lemma firstRepeated?_nil_eq_none_iff {l : List String} :
    firstRepeated? [] l = none ↔ l.Nodup := by
  refine ⟨fun h => (nodup_of_firstRepeated?_eq_none h).1, fun hnodup => ?_⟩
  rw [Option.eq_none_iff_forall_ne_some]
  intro s h
  obtain ⟨before, after, rfl, -, hs⟩ := firstRepeated?_nil_eq_some_iff.mp h
  exact (List.disjoint_of_nodup_append hnodup) hs List.mem_cons_self

/-- The name that attributes repeat first is that of the first pair with an earlier one's name. -/
lemma Attribute.firstRepeated?_eq_some_iff {pairs : List (Value × Value)}
    {attributes : List Attribute} (h : List.Forall₂ Keeps pairs attributes) {r : String} :
    firstRepeated? [] (attributes.map (·.name)) = some r ↔
      ∃ before k v after, pairs = before ++ (k, v) :: after ∧ k.text? = some r ∧
        (before.map (·.1.text?)).Nodup ∧ some r ∈ before.map (·.1.text?) := by
  have hinj : Function.Injective (some : String → Option String) := Option.some_injective _
  have htexts := map_text?_eq h
  rw [firstRepeated?_nil_eq_some_iff]
  constructor
  · rintro ⟨names, later, hnames, hnodup, hr⟩
    rw [hnames, List.map_append, List.map_cons] at htexts
    obtain ⟨before, rest, rfl, hbefore, hrest⟩ := List.map_eq_append_iff.mp htexts
    obtain ⟨⟨k, v⟩, after, rfl, hk, -⟩ := List.map_eq_cons_iff.mp hrest
    rw [← List.nodup_map_iff hinj] at hnodup
    rw [← List.mem_map_of_injective hinj] at hr
    exact ⟨before, k, v, after, rfl, hk, hbefore ▸ hnodup, hbefore ▸ hr⟩
  · rintro ⟨before, k, v, after, rfl, hk, hnodup, hr⟩
    rw [List.map_append, List.map_cons, hk] at htexts
    obtain ⟨names, rest, hnames, hbefore, hrest⟩ := List.map_eq_append_iff.mp htexts.symm
    obtain ⟨r', later, rfl, hr', -⟩ := List.map_eq_cons_iff.mp hrest
    obtain rfl := hinj hr'
    rw [← hbefore] at hnodup hr
    exact ⟨names, later, hnames, (List.nodup_map_iff hinj).mp hnodup,
      (List.mem_map_of_injective hinj).mp hr⟩

namespace Tag

variable {name : Value} {attributes : List Attribute}

/-- A tag with the given attributes exists if it has a name and they have different names. -/
lemma ofAttributes_eq_ok_iff {t : Tag} :
    ofAttributes name attributes = .ok t ↔
      name.text? = some t.name ∧ attributes = t.attributes := by
  constructor
  · intro h
    obtain ⟨⟨s, hne⟩, hname, h⟩ := exists_of_bind_eq_ok h
    dsimp only at h
    split at h
    · cases h
    · obtain rfl := Except.ok.inj h
      exact ⟨NamedPart.name_eq_ok_iff.mp hname, rfl⟩
  · rintro ⟨hname, rfl⟩
    have hname : NamedPart.element.name name = .ok ⟨t.name, t.name_ne⟩ :=
      NamedPart.name_eq_ok_iff.mpr hname
    rw [ofAttributes, hname]
    simp only [bind, Except.bind]
    split
    · next r hr =>
      rw [firstRepeated?_nil_eq_none_iff.mpr t.distinct] at hr
      cases hr
    · rfl

/-- A tag is refused for its name, or else for a name that two attributes have. -/
lemma ofAttributes_eq_error_iff {e : ConstructionError} :
    ofAttributes name attributes = .error e ↔ ¬ name.IsName ∧ e = .emptyName .element ∨
      ∃ s r, name.text? = some s ∧ s ≠ "" ∧
        firstRepeated? [] (attributes.map (·.name)) = some r ∧ e = .duplicateAttribute s r := by
  unfold ofAttributes
  rw [bind_eq_error_iff, NamedPart.name_eq_error_iff]
  refine or_congr_right ?_
  constructor
  · rintro ⟨⟨s, hne⟩, hname, h⟩
    dsimp only at h
    split at h
    · next r hr =>
      exact ⟨s, r, NamedPart.name_eq_ok_iff.mp hname, hne, hr, (Except.error.inj h).symm⟩
    · cases h
  · rintro ⟨s, r, hname, hne, hr, rfl⟩
    refine ⟨⟨s, hne⟩, NamedPart.name_eq_ok_iff.mpr hname, ?_⟩
    dsimp only
    split
    · next r' hr' =>
      obtain rfl := Option.some.inj (hr.symm.trans hr')
      rfl
    · next hr' => cases hr.symm.trans hr'

end Tag

/-! ### Mappings -/

namespace Value

/-- The keys of some entries are different from one another. -/
def DistinctKeys (entries : List (Value × Value)) : Prop :=
  (entries.map (·.1)).Pairwise fun k l => k.same l = false

/-- Putting an entry into a mapping changes its keys only if there is no such key. -/
lemma keys_putEntry (k v : Value) (entries : List (Value × Value)) :
    (putEntry k v entries).map (·.1) =
      if ∃ l ∈ entries.map (·.1), l.same k then entries.map (·.1)
      else entries.map (·.1) ++ [k] := by
  induction entries with
  | nil => simp [putEntry]
  | cons p entries ih =>
    rw [putEntry]
    by_cases h : p.1.same k
    · simp [h]
    · simp only [h, Bool.false_eq_true, if_false, List.map_cons, ih, List.exists_mem_cons_iff,
        false_or]
      split <;> rfl

lemma DistinctKeys.putEntry {entries : List (Value × Value)} (h : DistinctKeys entries)
    (k v : Value) : DistinctKeys (putEntry k v entries) := by
  unfold DistinctKeys
  rw [keys_putEntry]
  split
  · exact h
  · next hk =>
    refine List.pairwise_append.mpr ⟨h, List.pairwise_singleton _ _, fun l hl k' hk' => ?_⟩
    rw [List.mem_singleton.mp hk', Bool.eq_false_iff]
    exact fun hsame => hk ⟨l, hl, hsame⟩

/-- A mapping that is filled with some pairs has different keys. -/
lemma distinctKeys_entriesOf (pairs : List (Value × Value)) : DistinctKeys (entriesOf pairs) := by
  have hfill : ∀ entries, DistinctKeys entries →
      DistinctKeys (pairs.foldl (fun entries p => Value.putEntry p.1 p.2 entries) entries) := by
    induction pairs with
    | nil => exact fun _ h => h
    | cons p pairs ih => exact fun _ h => ih _ (h.putEntry p.1 p.2)
  exact hfill [] List.Pairwise.nil

/-- Values that are the same text are equal. -/
lemma same_of_text? {v w : Value} {s : String} (hv : v.text? = some s) (hw : w.text? = some s) :
    v.same w := by
  cases v <;> simp only [text?, reduceCtorEq] at hv <;>
    cases w <;> simp only [text?, reduceCtorEq] at hw <;>
    simp [same, sameAtom, text?, int?, hv, hw]

end Value

/-! ### The outcome of construction -/

namespace Tag

/-- The ways in which a tag with a name and some attributes is refused.  The attributes are made one
by one, each of a name and then of a value; the tag is named after them, and then their names are
compared. -/
inductive Refused (name : Value) (pairs : List (Value × Value)) : ConstructionError → Prop
  | attributeName {before after : List (Value × Value)} {k v : Value} :
    pairs = before ++ (k, v) :: after → (∀ p ∈ before, Attribute.Fits p) → ¬ k.IsName →
      Refused name pairs (.emptyName .attr)
  | attributeValue {before after : List (Value × Value)} {k v : Value} {s : String} :
    pairs = before ++ (k, v) :: after → (∀ p ∈ before, Attribute.Fits p) → k.text? = some s →
      s ≠ "" → ¬ v.IsAttributeValue → Refused name pairs (.unsupportedValue s v.typeName)
  | elementName : (∀ p ∈ pairs, Attribute.Fits p) → ¬ name.IsName →
      Refused name pairs (.emptyName .element)
  | repeatedName {before after : List (Value × Value)} {k v : Value} {s r : String} :
    (∀ p ∈ pairs, Attribute.Fits p) → name.text? = some s → s ≠ "" →
      pairs = before ++ (k, v) :: after → k.text? = some r → (before.map (·.1.text?)).Nodup →
      some r ∈ before.map (·.1.text?) → Refused name pairs (.duplicateAttribute s r)

variable {name : Value} {pairs : List (Value × Value)}

lemma ofMapping_eq_ok_iff {t : Tag} : ofMapping name pairs = .ok t ↔
    name.text? = some t.name ∧ List.Forall₂ Attribute.Keeps pairs t.attributes := by
  rw [← Attribute.listOfValues_eq_ok_iff]
  unfold ofMapping
  constructor
  · intro h
    obtain ⟨attributes, hattributes, h⟩ := exists_of_bind_eq_ok h
    obtain ⟨hname, rfl⟩ := ofAttributes_eq_ok_iff.mp h
    exact ⟨hname, hattributes⟩
  · rintro ⟨hname, hattributes⟩
    rw [hattributes]
    exact ofAttributes_eq_ok_iff.mpr ⟨hname, rfl⟩

/-- Construction fails with the first of the conditions that does not hold. -/
lemma ofMapping_eq_error_iff {e : ConstructionError} :
    ofMapping name pairs = .error e ↔ Refused name pairs e := by
  rw [ofMapping, bind_eq_error_iff, Attribute.listOfValues_eq_error_iff]
  constructor
  · rintro (⟨before, k, v, after, hpairs, hbefore, h⟩ | ⟨attributes, hattributes, h⟩)
    · rcases Attribute.ofValues_eq_error_iff.mp h with ⟨hk, rfl⟩ | ⟨s, hs, hne, hv, rfl⟩
      · exact .attributeName hpairs hbefore hk
      · exact .attributeValue hpairs hbefore hs hne hv
    · rw [Attribute.listOfValues_eq_ok_iff] at hattributes
      have hfits : ∀ p ∈ pairs, Attribute.Fits p := Attribute.fits_of_forall₂ hattributes
      rcases ofAttributes_eq_error_iff.mp h with ⟨hname, rfl⟩ | ⟨s, r, hs, hne, hr, rfl⟩
      · exact .elementName hfits hname
      · obtain ⟨before, k, v, after, hpairs, hk, hnodup, hmem⟩ :=
          (Attribute.firstRepeated?_eq_some_iff hattributes).mp hr
        exact .repeatedName hfits hs hne hpairs hk hnodup hmem
  · intro h
    cases h with
    | attributeName hpairs hbefore hk =>
      exact .inl ⟨_, _, _, _, hpairs, hbefore,
        Attribute.ofValues_eq_error_iff.mpr (.inl ⟨hk, rfl⟩)⟩
    | attributeValue hpairs hbefore hs hne hv =>
      exact .inl ⟨_, _, _, _, hpairs, hbefore,
        Attribute.ofValues_eq_error_iff.mpr (.inr ⟨_, hs, hne, hv, rfl⟩)⟩
    | elementName hfits hname =>
      obtain ⟨attributes, hattributes⟩ := Attribute.exists_listOfValues_eq_ok hfits
      exact .inr ⟨attributes, hattributes, ofAttributes_eq_error_iff.mpr (.inl ⟨hname, rfl⟩)⟩
    | repeatedName hfits hs hne hpairs hk hnodup hmem =>
      obtain ⟨attributes, hattributes⟩ := Attribute.exists_listOfValues_eq_ok hfits
      have hr := (Attribute.firstRepeated?_eq_some_iff
        (Attribute.listOfValues_eq_ok_iff.mp hattributes)).mpr
        ⟨_, _, _, _, hpairs, hk, hnodup, hmem⟩
      exact .inr ⟨attributes, hattributes,
        ofAttributes_eq_error_iff.mpr (.inr ⟨_, _, hs, hne, hr, rfl⟩)⟩

lemma exists_ofMapping_eq_ok_iff :
    (∃ t, ofMapping name pairs = .ok t) ↔ (∀ p ∈ pairs, Attribute.Fits p) ∧ name.IsName ∧
      (pairs.map (·.1.text?)).Nodup := by
  constructor
  · rintro ⟨t, h⟩
    obtain ⟨hname, hkeeps⟩ := ofMapping_eq_ok_iff.mp h
    exact ⟨Attribute.fits_of_forall₂ hkeeps, ⟨t.name, hname, t.name_ne⟩,
      (Attribute.nodup_map_text?_iff hkeeps).mpr t.distinct⟩
  · rintro ⟨hfits, hname, hnodup⟩
    cases h : ofMapping name pairs with
    | ok t => exact ⟨t, rfl⟩
    | error e =>
      exfalso
      cases ofMapping_eq_error_iff.mp h with
      | @attributeName _ _ k v hpairs _ hk => exact hk (hfits (k, v) (by simp [hpairs])).1
      | @attributeValue _ _ k v _ hpairs _ _ _ hv => exact hv (hfits (k, v) (by simp [hpairs])).2
      | elementName _ hname' => exact hname' hname
      | repeatedName _ _ _ hpairs hk _ hmem =>
        rw [hpairs, List.map_append, List.map_cons, hk] at hnodup
        exact List.disjoint_of_nodup_append hnodup hmem List.mem_cons_self

/-- Attributes that come from a mapping do not repeat a name. -/
lemma ofMapping_ne_duplicateAttribute (h : Value.DistinctKeys pairs) (s r : String) :
    ofMapping name pairs ≠ .error (.duplicateAttribute s r) := by
  rw [Ne, ofMapping_eq_error_iff]
  intro hrefused
  cases hrefused with
  | repeatedName _ _ _ hpairs hk _ hmem =>
    obtain ⟨p, hp, hptext⟩ := List.mem_map.mp hmem
    rw [Value.DistinctKeys, hpairs, List.map_append, List.pairwise_append] at h
    obtain ⟨-, -, hdistinct⟩ := h
    have hsame := hdistinct p.1 (List.mem_map_of_mem hp) _ List.mem_cons_self
    rw [Value.same_of_text? hptext hk] at hsame
    cases hsame

/-- A tag exists exactly if all its attributes have a name and a value, it has a name itself and no
name is repeated among the attributes; otherwise the first of these conditions that fails is
reported.  A tag keeps the names and values that it was made of, in order, and one that is made of a
mapping never fails for a repeated name.

A tag that exists has an attribute of some name exactly if looking the name up finds one, and
exactly if the name occurs once among its attributes.  A size that is captured is that of the
attributes found under the names for the width and the height. -/
theorem construction_outcome (name : Value) (pairs : List (Value × Value)) (t : Tag) (c : Config)
    (ν : Nesting) :
    ((∃ u, ofMapping name pairs = .ok u) ↔
      (∀ p ∈ pairs, p.1.IsName ∧ p.2.IsAttributeValue) ∧ name.IsName ∧
        (pairs.map (·.1.text?)).Nodup) ∧
    (∀ e, ofMapping name pairs = .error e ↔ Refused name pairs e) ∧
    (∀ u, ofMapping name pairs = .ok u → name.text? = some u.name ∧
      List.Forall₂ (fun p a => p.1.text? = some a.name ∧ p.2 = a.value.toValue)
        pairs u.attributes) ∧
    (Value.DistinctKeys pairs → ∀ s r, ofMapping name pairs ≠ .error (.duplicateAttribute s r)) ∧
    Value.DistinctKeys (Value.entriesOf pairs) ∧
    (∀ n, (t.hasAttribute n ↔ (t.attribute? n).isSome) ∧
      ((t.attribute? n).isSome ↔ (t.attributes.map (·.name)).count n = 1) ∧
      ∀ a, t.attribute? n = some a ↔ a ∈ t.attributes ∧ a.name = n) ∧
    ∀ d, (Node.captureSize c t).resultIn ν = .ok d → d.captured →
      ∃ width height widthText heightText, t.attribute? widthAttribute = some width ∧
        t.attribute? heightAttribute = some height ∧ width.text = .ok widthText ∧
        height.text = .ok heightText ∧ d = .ofTexts widthText heightText ∧
        ((Node.captureSize c t).run ν).events = [.sizeCaptured t.name widthText heightText] :=
  ⟨exists_ofMapping_eq_ok_iff, fun _ => ofMapping_eq_error_iff,
    fun _ h => ofMapping_eq_ok_iff.mp h, ofMapping_ne_duplicateAttribute,
    Value.distinctKeys_entriesOf pairs,
    fun _ => ⟨hasAttribute_iff, isSome_attribute?_iff_count, fun _ => attribute?_eq_some_iff⟩,
    fun _ => Node.captureSize_of_captured⟩

/-- The entries of a mapping into which a width is put twice. -/
def resizedEntries : List (Value × Value) :=
  Value.entriesOf [(.text widthAttribute, .int 1), (.text "focusable", .flag true),
    (.text widthAttribute, .text "10"), (.text heightAttribute, .text "20")]

/-- The tag of a root element whose second width took the place of the first one. -/
def resizedTag : Tag where
  name := standardRootElement
  attributes :=
    [⟨widthAttribute, .text "10", widthAttribute_ne⟩, ⟨"focusable", .flag true, by decide⟩,
      ⟨heightAttribute, .text "20", heightAttribute_ne⟩]
  name_ne := Config.standard.rootElement_ne
  distinct := (by decide : [widthAttribute, "focusable", heightAttribute].Nodup)

theorem construction_outcome_resizedEntries :
    (∀ s r, ofMapping (.text standardRootElement) resizedEntries ≠
      .error (.duplicateAttribute s r)) ∧
    List.Forall₂ (fun p a => p.1.text? = some a.name ∧ p.2 = a.value.toValue)
      resizedEntries resizedTag.attributes ∧
    ((Node.captureSize .standard resizedTag).run ⟨1, 0, []⟩).events =
      [.sizeCaptured standardRootElement "10" "20"] := by
  have hmapping : ofMapping (.text standardRootElement) resizedEntries = .ok resizedTag := rfl
  have hcapture : (Node.captureSize .standard resizedTag).resultIn ⟨1, 0, []⟩ =
      .ok (.ofTexts "10" "20") := rfl
  obtain ⟨-, -, hkeeps, hdistinct, -, -, hsize⟩ := construction_outcome (.text standardRootElement)
    resizedEntries resizedTag .standard ⟨1, 0, []⟩
  refine ⟨hdistinct (Value.distinctKeys_entriesOf _), (hkeeps resizedTag hmapping).2, ?_⟩
  obtain ⟨width, height, widthText, heightText, hwidth, hheight, hw, hh, -, hevents⟩ :=
    hsize _ hcapture rfl
  obtain rfl : ⟨widthAttribute, .text "10", widthAttribute_ne⟩ = width := Option.some.inj hwidth
  obtain rfl : ⟨heightAttribute, .text "20", heightAttribute_ne⟩ = height := Option.some.inj hheight
  obtain rfl : "10" = widthText := Except.ok.inj hw
  obtain rfl : "20" = heightText := Except.ok.inj hh
  exact hevents

end Tag

end SvgMarkup
