import SvgMarkup.Proofs.Entity.Escaped
import SvgMarkup.Proofs.Reader.Scanner

/-!
# Reading entity references

Reading replaces the entity references of a text by the characters for which they stand and leaves
everything else as it is.  It undoes escaping whenever the ampersand is among the reserved
characters, since no ampersand of the text itself is left then: `decode_escaped`.
-/

namespace SvgMarkup.Reader

/-- Reads an entity reference. -/
def readReference (s : List Char) : Option (Char × List Char) :=
  entityTable.findSome? fun e => (e.2.toList.isPrefixOf? s).map fun rest => (e.1, rest)

/-- Reads one character.  An entity reference stands for a character, any other character for
itself. -/
def readCharacter (s : List Char) : Option (Char × List Char) :=
  (readReference s).or <| match s with
    | [] => none
    | c :: rest => some (c, rest)

/-- A text with its entity references replaced by characters. -/
def decode (s : List Char) : List Char := (readAll readCharacter s).1

lemma readReference_of_mem {c : Char} {s : String} (h : (c, s) ∈ entityTable) (rest : List Char) :
    readReference (s.toList ++ rest) = some (c, rest) := by
  simp only [entityTable, List.mem_cons, Prod.mk.injEq, List.not_mem_nil, or_false] at h
  rcases h with ⟨rfl, rfl⟩ | ⟨rfl, rfl⟩ | ⟨rfl, rfl⟩ | ⟨rfl, rfl⟩ | ⟨rfl, rfl⟩ <;>
    simp [readReference, entityTable, List.isPrefixOf?]

/-- Every entity reference begins with an ampersand. -/
lemma readReference_of_ne {c : Char} (h : c ≠ '&') (rest : List Char) :
    readReference (c :: rest) = none := by
  have h' : ('&' == c) = false := by simpa using h.symm
  simp [readReference, entityTable, List.isPrefixOf?, h']

/-- What is written for a character is read as that character. -/
lemma readCharacter_append {reserved : OrderedSet Char} (hamp : '&' ∈ reserved) (c : Char)
    (rest : List Char) :
    readCharacter ((if c ∈ reserved then reference c else [c]) ++ rest) = some (c, rest) := by
  by_cases hc : c ∈ reserved
  · rw [if_pos hc, reference_eq]
    cases href : entityReference? c with
    | some s =>
      have hread := readReference_of_mem (entityReference?_eq_some_iff.mp href) rest
      simp only [Option.map_some, Option.getD_some, readCharacter, hread, Option.some_or]
    | none =>
      have hne : c ≠ '&' := by
        rintro rfl
        exact absurd href (by decide)
      simp [readCharacter, readReference_of_ne hne]
  · have hne : c ≠ '&' := by
      rintro rfl
      exact hc hamp
    simp [hc, readCharacter, readReference_of_ne hne]

/-- Reading undoes escaping if the ampersand is reserved. -/
lemma decode_escaped {reserved : OrderedSet Char} (hamp : '&' ∈ reserved) (s : List Char) :
    decode (escaped reserved reference s) = s := by
  have hnil : readCharacter [] = none := by
    simp [readCharacter, readReference, entityTable, List.isPrefixOf?]
  have hne : ∀ c ∈ s, (if c ∈ reserved then reference c else [c]) ≠ [] := by
    intro c _ h
    have hread := readCharacter_append hamp c []
    rw [h] at hread
    exact absurd (hnil.symm.trans hread) (by simp)
  have hall := readAll_flatMap (fun c _ tail => readCharacter_append hamp c tail) hne hnil
  rw [List.append_nil, List.map_id'] at hall
  rw [decode, escaped, hall]

end SvgMarkup.Reader
