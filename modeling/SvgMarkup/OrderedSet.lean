/-!
# Finite sets as ascending lists

A set of characters or names is kept as the strictly ascending list of its elements.  Two sets with
the same elements are therefore equal, and listing a set needs no sorting.
-/

namespace SvgMarkup

/-- A finite set, as the strictly ascending list of its elements. -/
structure OrderedSet (α : Type) [LT α] where
  /-- The elements in ascending order. -/
  toList : List α
  ascending : toList.Pairwise (· < ·)
deriving DecidableEq, Repr

/-- Texts are compared character by character. -/
instance instTransString : Trans (α := String) (· < ·) (· < ·) (· < ·) := ⟨String.lt_trans⟩

namespace OrderedSet

variable {α : Type} [LT α]

theorem toList_injective {s t : OrderedSet α} (h : s.toList = t.toList) : s = t := by
  cases s; cases t; cases h; rfl

instance : Membership α (OrderedSet α) := ⟨fun s a => a ∈ s.toList⟩

theorem mem_iff {s : OrderedSet α} {a : α} : a ∈ s ↔ a ∈ s.toList := Iff.rfl

instance [DecidableEq α] (s : OrderedSet α) (a : α) : Decidable (a ∈ s) :=
  inferInstanceAs (Decidable (a ∈ s.toList))

/-- The set without elements. -/
def empty : OrderedSet α := ⟨[], .nil⟩

/-- The set with one element. -/
def singleton (a : α) : OrderedSet α := ⟨[a], List.pairwise_singleton _ a⟩

@[simp] theorem mem_singleton {a x : α} : x ∈ singleton a ↔ x = a :=
  List.mem_singleton

/-- No element is listed twice. -/
theorem nodup [Std.Irrefl (α := α) (· < ·)] (s : OrderedSet α) : s.toList.Nodup := by
  refine List.Pairwise.imp ?_ s.ascending
  rintro a _ h rfl
  exact Std.Irrefl.irrefl a h

/-- A set without one of its elements. -/
def erase [DecidableEq α] (s : OrderedSet α) (a : α) : OrderedSet α :=
  ⟨s.toList.filter (· ≠ a), s.ascending.filter _⟩

@[simp] theorem mem_erase [DecidableEq α] {s : OrderedSet α} {a x : α} :
    x ∈ s.erase a ↔ x ∈ s ∧ x ≠ a := by
  simp [erase, mem_iff]

variable [DecidableLT α]

/-- Places an element into an ascending list; an element that is neither below nor above it takes
its place already. -/
def place (a : α) : List α → List α
  | [] => [a]
  | b :: l => if a < b then a :: b :: l else if b < a then b :: place a l else b :: l

theorem mem_place_of_mem {a x : α} {l : List α} (h : x ∈ place a l) : x = a ∨ x ∈ l := by
  induction l with
  | nil => simpa [place] using h
  | cons b l ih =>
    simp only [place] at h
    split at h
    · simpa using h
    · split at h
      · rcases List.mem_cons.mp h with rfl | h
        · simp
        · rcases ih h with rfl | h <;> simp [*]
      · exact .inr h

theorem pairwise_place [Trans (α := α) (· < ·) (· < ·) (· < ·)] (a : α) {l : List α}
    (hl : l.Pairwise (· < ·)) : (place a l).Pairwise (· < ·) := by
  induction l with
  | nil => exact List.pairwise_singleton _ a
  | cons b l ih =>
    obtain ⟨hb, hl'⟩ := List.pairwise_cons.mp hl
    simp only [place]
    split
    · next hab =>
      refine List.pairwise_cons.mpr ⟨fun x hx => ?_, hl⟩
      rcases List.mem_cons.mp hx with rfl | hx
      · exact hab
      · exact Trans.trans hab (hb x hx)
    · split
      · next hba =>
        refine List.pairwise_cons.mpr ⟨fun x hx => ?_, ih hl'⟩
        rcases mem_place_of_mem hx with rfl | hx
        · exact hba
        · exact hb x hx
      · exact hl

theorem mem_place [Std.Trichotomous (α := α) (· < ·)] {a x : α} {l : List α} :
    x ∈ place a l ↔ x = a ∨ x ∈ l := by
  refine ⟨mem_place_of_mem, fun h => ?_⟩
  induction l with
  | nil => simpa [place] using h
  | cons b l ih =>
    simp only [place]
    split
    · simpa using h
    · next hab =>
      split
      · rcases h with rfl | h
        · exact List.mem_cons_of_mem _ (ih (.inl rfl))
        · rcases List.mem_cons.mp h with rfl | h
          · exact List.mem_cons_self
          · exact List.mem_cons_of_mem _ (ih (.inr h))
      · next hba =>
        rcases h with rfl | h
        · have : x = b := Std.Trichotomous.trichotomous (r := (· < ·)) x b hab hba
          simp [this]
        · exact h

variable [Trans (α := α) (· < ·) (· < ·) (· < ·)]

/-- Adds an element to a set. -/
def insert (a : α) (s : OrderedSet α) : OrderedSet α :=
  ⟨place a s.toList, pairwise_place a s.ascending⟩

/-- The set of the elements of a list. -/
def ofList (l : List α) : OrderedSet α :=
  l.foldr insert empty

@[simp] theorem mem_insert [Std.Trichotomous (α := α) (· < ·)] {a x : α} {s : OrderedSet α} :
    x ∈ s.insert a ↔ x = a ∨ x ∈ s :=
  mem_place

@[simp] theorem mem_ofList [Std.Trichotomous (α := α) (· < ·)] {x : α} {l : List α} :
    x ∈ ofList l ↔ x ∈ l := by
  induction l with
  | nil => simp [ofList, empty, mem_iff]
  | cons a l ih => simpa [ofList] using or_congr Iff.rfl ih

/-- A set is the set of its own elements. -/
@[simp] theorem ofList_toList (s : OrderedSet α) : ofList s.toList = s := by
  obtain ⟨l, hl⟩ := s
  induction l with
  | nil => rfl
  | cons a l ih =>
    obtain ⟨ha, hl'⟩ := List.pairwise_cons.mp hl
    have : ofList (a :: l) = insert a (ofList l) := rfl
    refine toList_injective ?_
    simp only [this, ih hl', insert]
    cases l with
    | nil => rfl
    | cons b l => simp [place, ha b List.mem_cons_self]

end OrderedSet

end SvgMarkup
