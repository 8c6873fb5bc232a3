import Mathlib.Data.List.Nodup
import Mathlib.Data.List.Pairwise
import SvgMarkup.Config.Overlay

/-!
# The spellings of options

The field name of an option and its spelling with capitals have the same letters, and no two options
have a spelling with the same letters.  So every spelling means one option, and which option an
entry names does not depend on the way in which it is spelled: `Field.ofSpelling?_eq_some_iff`.
-/

namespace SvgMarkup.Field

/-- The characters of a spelling without underscores, as capitals. -/
def letters (spelling : List Char) : List Char :=
  (spelling.filter (· != '_')).map Char.toUpper

/-- Characters behind the last small letter have no capitals. -/
theorem toUpper_of_lt {c : Char} (h : 'z'.toNat < c.toNat) : c.toUpper = c :=
  dif_neg fun hc => Nat.not_le.mpr h (UInt32.le_iff_toNat_le.mp hc.2)

/-- A capital is its own capital, and it is an underscore only if it is that of an underscore. -/
theorem toUpper_toUpper_and_iff (c : Char) :
    c.toUpper.toUpper = c.toUpper ∧ (c.toUpper = '_' ↔ c = '_') := by
  by_cases h : 'z'.toNat < c.toNat
  · simp [toUpper_of_lt h]
  · have all : ∀ n < 'z'.toNat + 1, (Char.ofNat n).toUpper.toUpper = (Char.ofNat n).toUpper ∧
        ((Char.ofNat n).toUpper = '_' ↔ Char.ofNat n = '_') := by
      decide +kernel
    simpa using all c.toNat (by omega)

theorem letters_cons (c : Char) (l : List Char) :
    letters (c :: l) = if c = '_' then letters l else c.toUpper :: letters l := by
  unfold letters
  by_cases h : c = '_' <;> simp [h]

/-- A spelling with capitals has the letters of the spelling with underscores. -/
theorem letters_camelCase (spelling : List Char) :
    letters (camelCase spelling) = letters spelling := by
  fun_induction camelCase spelling with
  | case1 c rest ih =>
    obtain ⟨hcapital, hunderscore⟩ := toUpper_toUpper_and_iff c
    simp only [letters_cons, hunderscore, hcapital, ih, if_true]
  | case2 c rest _ ih => rw [letters_cons, letters_cons, ih]
  | case3 => rfl

/-- The letters of the spellings of an option. -/
def keys (f : Field) : List (List Char) :=
  letters f.name.toList :: f.formerNames.map fun s => letters s.toList

theorem letters_mem_keys {spelling : String} {f : Field} (h : spelling ∈ f.spellings) :
    letters spelling.toList ∈ f.keys := by
  rcases List.mem_cons.mp h with rfl | h
  · exact List.mem_cons_self
  · rcases List.mem_cons.mp h with rfl | h
    · rw [String.toList_ofList, letters_camelCase]
      exact List.mem_cons_self
    · exact List.mem_cons_of_mem _ (List.mem_map_of_mem h)

/-- No two options have a spelling in common. -/
theorem eq_of_mem_spellings {spelling : String} {f g : Field} (hf : spelling ∈ f.spellings)
    (hg : spelling ∈ g.spellings) : f = g := by
  have hnodup : (all.flatMap keys).Nodup := by decide +kernel
  have hdisjoint : all.Pairwise fun f g => List.Disjoint f.keys g.keys :=
    (List.nodup_flatMap.mp hnodup).2
  have : Std.Symm fun f g : Field => List.Disjoint f.keys g.keys :=
    ⟨fun _ _ h _ hg hf => h hf hg⟩
  by_contra hne
  exact hdisjoint.forall f.mem_all g.mem_all hne (letters_mem_keys hf) (letters_mem_keys hg)

/-- A spelling means the option that it spells and no other. -/
theorem ofSpelling?_eq_some_iff {spelling : String} {f : Field} :
    ofSpelling? spelling = some f ↔ spelling ∈ f.spellings := by
  constructor
  · intro h
    simpa using List.find?_some h
  · intro h
    have hfound : (ofSpelling? spelling).isSome :=
      List.find?_isSome.mpr ⟨f, f.mem_all, List.contains_iff_mem.mpr h⟩
    obtain ⟨g, hg⟩ := Option.isSome_iff_exists.mp hfound
    have hspelled : spelling ∈ g.spellings := by simpa using List.find?_some hg
    rw [hg, eq_of_mem_spellings hspelled h]

example : ["tagShortEnd", "regValEntities", "tag_shortEnd"].map ofSpelling? =
    [some (delimiter .tagShortEnd), some attributeEntities, none] := by
  decide +kernel

end SvgMarkup.Field
