import Mathlib.Data.List.Nodup
import SvgMarkup.Proofs.Computations
import SvgMarkup.Tree.Basic

/-!
# Looking up attributes

There are three ways to look for an attribute of a tag: to test whether there is one of some name,
to take the first one of that name, and to collect the texts of attributes under their names, where
a later one hides an earlier one.  Since no two attributes of a tag have the same name, the three
agree.

* `Tag.attribute?_eq_some_iff`, `Tag.hasAttribute_iff` and `Tag.lookup_entries` are the three ways.
* `Attribute.not_hasText_iff_exists_int`: the attributes without a text.
* `Tag.size?_eq`: the size that a tag gives is that of its attributes.
-/

namespace SvgMarkup

/-- The text of an attribute's value, or nothing if the value has no text. -/
def Attribute.shown (a : Attribute) : String := a.text.toOption.getD ""

/-- Whether the value of an attribute has a text. -/
def Attribute.HasText (a : Attribute) : Prop := a.text = .ok a.shown

instance Attribute.decidableHasText : DecidablePred Attribute.HasText := fun a =>
  inferInstanceAs (Decidable (a.text = .ok a.shown))

namespace Attribute

variable {a : Attribute}

lemma shown_of_text_eq_ok {s : String} (h : a.text = .ok s) : a.shown = s := by
  rw [shown, h]
  rfl

lemma hasText_iff : a.HasText ↔ ∃ s, a.text = .ok s := by
  constructor
  · intro h
    exact ⟨_, h⟩
  · rintro ⟨s, h⟩
    rw [HasText, h, shown_of_text_eq_ok h]

lemma not_hasText_iff : ¬ a.HasText ↔ a.text = .error {} := by
  rw [hasText_iff]
  cases a.text with
  | error e => simp
  | ok s => simp

/-- The attributes without a text are those whose values are integers with too many digits. -/
lemma not_hasText_iff_exists_int :
    ¬ a.HasText ↔ ∃ i, a.value = .int i ∧ Decimal.maxDigits < Decimal.digitCount i.natAbs := by
  rw [not_hasText_iff, text]
  cases hvalue : a.value with
  | int i => simp [AttributeValue.render, Decimal.integer]
  | text | float | flag | policy => simp [AttributeValue.render]

end Attribute

/-- Where keys are not repeated, each entry is found under its key. -/
lemma lookup_eq_some_of_mem {α β : Type} [BEq α] [LawfulBEq α] {l : List (α × β)} {k : α} {b : β}
    (hdistinct : (l.map Prod.fst).Nodup) (h : (k, b) ∈ l) : l.lookup k = some b := by
  obtain ⟨before, after, rfl⟩ := List.append_of_mem h
  refine List.lookup_eq_some_iff.mpr ⟨before, after, rfl, fun p hp => ?_⟩
  rw [List.map_append, List.nodup_append] at hdistinct
  have hne : p.1 ≠ k := hdistinct.2.2 _ (List.mem_map_of_mem hp) _ List.mem_cons_self
  exact bne_iff_ne.mpr hne.symm

namespace Tag

variable {t : Tag} {name : String}

/-- An attribute is found under its name, since no two attributes of a tag have the same name. -/
lemma attribute?_eq_some_iff {a : Attribute} :
    t.attribute? name = some a ↔ a ∈ t.attributes ∧ a.name = name := by
  unfold attribute?
  constructor
  · intro h
    exact ⟨List.mem_of_find?_eq_some h, by simpa using List.find?_some h⟩
  · rintro ⟨ha, hname⟩
    have hfound : (t.attributes.find? (·.name == name)).isSome :=
      List.find?_isSome.mpr ⟨a, ha, by simpa using hname⟩
    obtain ⟨b, hb⟩ := Option.isSome_iff_exists.mp hfound
    have hbname : b.name = name := by simpa using List.find?_some hb
    have hba : b = a := List.inj_on_of_nodup_map t.distinct (List.mem_of_find?_eq_some hb) ha
      (hbname.trans hname.symm)
    rw [hb, hba]

lemma isSome_attribute?_iff : (t.attribute? name).isSome ↔ name ∈ t.attributes.map (·.name) := by
  rw [Option.isSome_iff_exists, List.mem_map]
  exact exists_congr fun a => attribute?_eq_some_iff

lemma hasAttribute_iff : t.hasAttribute name ↔ (t.attribute? name).isSome := by
  rw [hasAttribute, attribute?, List.find?_isSome, List.any_eq_true]

/-- A name that an attribute has is the name of that attribute only. -/
lemma isSome_attribute?_iff_count :
    (t.attribute? name).isSome ↔ (t.attributes.map (·.name)).count name = 1 := by
  rw [isSome_attribute?_iff]
  exact ⟨List.count_eq_one_of_mem t.distinct, fun h => List.count_pos_iff.mp (by omega)⟩

/-! ### Texts -/

/-- The entries of the attributes with the given names, the last one first. -/
def entries (t : Tag) (names : List String) : List (String × String) :=
  ((t.attributes.filter (·.name ∈ names)).map fun a => (a.name, a.shown)).reverse

/-- If the attributes with the given names have texts, these are found. -/
lemma texts_eq_ok {names : List String} (h : ∀ a ∈ t.attributes, a.name ∈ names → a.HasText) :
    t.texts names = .ok (t.entries names) := by
  have hmapM : ((t.attributes.filter (·.name ∈ names)).mapM fun a =>
      (return (a.name, ← a.text) : Except Decimal.TooManyDigits (String × String))) =
      .ok ((t.attributes.filter (·.name ∈ names)).map fun a => (a.name, a.shown)) := by
    refine mapM_eq_ok_of_forall fun a ha => ?_
    obtain ⟨ha, hname⟩ := List.mem_filter.mp ha
    rw [h a ha (by simpa using hname)]
    rfl
  rw [texts, hmapM]
  rfl

/-- If one of the attributes with the given names has no text, none is found. -/
lemma texts_eq_error {names : List String} {a : Attribute} (ha : a ∈ t.attributes)
    (hname : a.name ∈ names) (h : a.text = .error {}) : t.texts names = .error {} := by
  cases htexts : t.texts names with
  | error e => rfl
  | ok found =>
    obtain ⟨texts, hmapM, -⟩ := exists_of_bind_eq_ok htexts
    obtain ⟨p, hp⟩ := exists_eq_ok_of_mapM_eq_ok hmapM
      (List.mem_filter.mpr ⟨ha, decide_eq_true hname⟩)
    obtain ⟨s, hs, -⟩ := exists_of_bind_eq_ok hp
    cases h.symm.trans hs

/-- The text under a name is that of the attribute with that name. -/
lemma lookup_entries {names : List String} (hname : name ∈ names) :
    (t.entries names).lookup name = (t.attribute? name).map Attribute.shown := by
  have hkeys : (t.entries names).map Prod.fst =
      ((t.attributes.filter (·.name ∈ names)).map (·.name)).reverse := by
    rw [entries, List.map_reverse, List.map_map]
    rfl
  cases h : t.attribute? name with
  | none =>
    refine List.lookup_eq_none_iff.mpr fun p hp => ?_
    have hp' : p.1 ∈ (t.entries names).map Prod.fst := List.mem_map_of_mem hp
    rw [hkeys, List.mem_reverse] at hp'
    obtain ⟨a, ha, hap⟩ := List.mem_map.mp hp'
    have hne : name ≠ p.1 := by
      rintro rfl
      rw [attribute?_eq_some_iff.mpr ⟨List.mem_of_mem_filter ha, hap⟩] at h
      cases h
    exact bne_iff_ne.mpr hne
  | some a =>
    obtain ⟨ha, rfl⟩ := attribute?_eq_some_iff.mp h
    refine lookup_eq_some_of_mem ?_ ?_
    · rw [hkeys, List.nodup_reverse]
      exact t.distinct.sublist (List.filter_sublist.map _)
    · rw [entries, List.mem_reverse, List.mem_map]
      exact ⟨a, List.mem_filter.mpr ⟨ha, decide_eq_true hname⟩, rfl⟩

/-- The texts of the width and the height are found if both have one. -/
lemma texts_size {width height : Attribute} (hwidth : t.attribute? widthAttribute = some width)
    (hheight : t.attribute? heightAttribute = some height) :
    t.texts [widthAttribute, heightAttribute] = do
      let _ ← width.text
      let _ ← height.text
      return t.entries [widthAttribute, heightAttribute] := by
  obtain ⟨hw, hwname⟩ := attribute?_eq_some_iff.mp hwidth
  obtain ⟨hh, hhname⟩ := attribute?_eq_some_iff.mp hheight
  cases hwtext : width.text with
  | error e => exact texts_eq_error hw (by simp [hwname]) hwtext
  | ok w =>
    cases hhtext : height.text with
    | error e => exact texts_eq_error hh (by simp [hhname]) hhtext
    | ok h =>
      refine texts_eq_ok fun a ha hname => ?_
      rcases List.mem_pair.mp hname with hname | hname
      · obtain rfl := Option.some.inj (hwidth.symm.trans (attribute?_eq_some_iff.mpr ⟨ha, hname⟩))
        exact Attribute.hasText_iff.mpr ⟨w, hwtext⟩
      · obtain rfl := Option.some.inj (hheight.symm.trans (attribute?_eq_some_iff.mpr ⟨ha, hname⟩))
        exact Attribute.hasText_iff.mpr ⟨h, hhtext⟩

/-- The size that consists of these texts, if both of them are there. -/
def sizeOf? : Option (Except Decimal.TooManyDigits String) →
    Option (Except Decimal.TooManyDigits String) →
    Except Decimal.TooManyDigits (Option (String × String))
  | some width, some height => return some (← width, ← height)
  | _, _ => return none

lemma sizeOf?_eq_ok_some_iff {x y : Option (Except Decimal.TooManyDigits String)}
    {size : String × String} :
    sizeOf? x y = .ok (some size) ↔ x = some (.ok size.1) ∧ y = some (.ok size.2) := by
  constructor
  · intro h
    cases x with
    | none => cases h
    | some x =>
      cases y with
      | none => cases h
      | some y =>
        obtain ⟨width, hx, hrest⟩ := exists_of_bind_eq_ok h
        obtain ⟨height, hy, hsize⟩ := exists_of_bind_eq_ok hrest
        obtain rfl := Option.some.inj (Except.ok.inj hsize)
        exact ⟨congrArg some hx, congrArg some hy⟩
  · rintro ⟨rfl, rfl⟩
    rfl

/-- The size that a tag gives is that of its attributes for the width and the height. -/
lemma size?_eq : t.size? = sizeOf? ((t.attribute? widthAttribute).map Attribute.text)
    ((t.attribute? heightAttribute).map Attribute.text) := by
  cases hwidth : t.attribute? widthAttribute with
  | none => simp [size?, hasAttribute_iff, hwidth, sizeOf?]
  | some width =>
    cases hheight : t.attribute? heightAttribute with
    | none => simp [size?, hasAttribute_iff, hheight, sizeOf?]
    | some height =>
      have hboth : (t.hasAttribute widthAttribute && t.hasAttribute heightAttribute) = true := by
        simp [hasAttribute_iff, hwidth, hheight]
      have hw : (t.entries [widthAttribute, heightAttribute]).lookup widthAttribute =
          some width.shown := by
        rw [lookup_entries List.mem_cons_self, hwidth, Option.map_some]
      have hh : (t.entries [widthAttribute, heightAttribute]).lookup heightAttribute =
          some height.shown := by
        rw [lookup_entries (List.mem_cons_of_mem _ List.mem_cons_self), hheight, Option.map_some]
      rw [size?, if_pos hboth, texts_size hwidth hheight, Option.map_some, Option.map_some]
      cases hwtext : width.text with
      | error e => rfl
      | ok w =>
        cases hhtext : height.text with
        | error e => rfl
        | ok h =>
          rw [Attribute.shown_of_text_eq_ok hwtext] at hw
          rw [Attribute.shown_of_text_eq_ok hhtext] at hh
          simp only [sizeOf?, bind, Except.bind, pure, Except.pure, hw, hh]

end Tag

end SvgMarkup
