import Mathlib.Tactic.Common
import SvgMarkup.Entity

/-!
# Escaped text

Escaping fails only for want of a replacement.  Where every reserved character has one, escaping
puts these replacements in their places and leaves all other characters alone; this file states it
on lists of characters, where it is a `flatMap`.

* `escape_eq_ok` is the text that escaping gives.
* `notMem_escaped` and `notMem_reference` say which characters it does not contain.
-/

namespace SvgMarkup

/-- A text, as a list of characters, with the reserved ones replaced by other text. -/
def escaped (reserved : OrderedSet Char) (replacement : Char → List Char) (s : List Char) :
    List Char :=
  s.flatMap fun c => if c ∈ reserved then replacement c else [c]

/-- The reference that stands for a character, or the character itself if it has none. -/
def reference (c : Char) : List Char := (encodeEntity (String.singleton c)).toList

section Escaped

variable {reserved : OrderedSet Char}

lemma escaped_cons (replacement : Char → List Char) (c : Char) (s : List Char) :
    escaped reserved replacement (c :: s) =
      (if c ∈ reserved then replacement c else [c]) ++ escaped reserved replacement s :=
  List.flatMap_cons

/-- What is written for the characters of a text, one by one. -/
lemma mapM_escapeChar {encoder : Encoder} {replacement : Char → String}
    (h : ∀ c ∈ reserved, encoder.replacement? c = some (replacement c)) (s : List Char) :
    s.mapM (escapeChar reserved encoder) =
      .ok (s.map fun c => if c ∈ reserved then (replacement c).toList else [c]) := by
  induction s with
  | nil => rfl
  | cons c s ih =>
    have hc : escapeChar reserved encoder c =
        .ok (if c ∈ reserved then (replacement c).toList else [c]) := by
      unfold escapeChar
      by_cases hr : c ∈ reserved
      · simp only [hr, if_true, h c hr]
      · simp only [hr, if_false]
    rw [List.mapM_cons, hc, ih]
    rfl

/-- Escaping succeeds if every reserved character has a replacement. -/
lemma escape_eq_ok {encoder : Encoder} {replacement : Char → String}
    (h : ∀ c ∈ reserved, encoder.replacement? c = some (replacement c)) (text : String) :
    escape reserved encoder text =
      .ok (String.ofList (escaped reserved (fun c => (replacement c).toList) text.toList)) := by
  rw [escape, mapM_escapeChar h]
  rfl

end Escaped

/-! ### Entity references -/

lemma reference_eq (c : Char) :
    reference c = ((entityReference? c).map String.toList).getD [c] := by
  have h : (String.singleton c).toList = [c] := by simp
  simp only [reference, encodeEntity, h]
  cases entityReference? c with
  | none => exact h
  | some s => rfl

lemma reference_of_eq_some {c : Char} {s : String} (h : entityReference? c = some s) :
    reference c = s.toList := by
  rw [reference_eq, h]
  rfl

/-- The characters that have a reference, with their references. -/
lemma entityReference?_eq_some_iff {c : Char} {s : String} :
    entityReference? c = some s ↔ (c, s) ∈ entityTable := by
  constructor
  · intro h
    obtain ⟨l₁, l₂, hl, -⟩ := List.lookup_eq_some_iff.mp h
    rw [hl]
    exact List.mem_append_right _ List.mem_cons_self
  · intro h
    have hall : ∀ e ∈ entityTable, entityReference? e.1 = some e.2 := by decide
    exact hall (c, s) h

/-- The characters that have a reference are the ampersand and four others. -/
lemma isSome_entityReference?_iff {c : Char} :
    (entityReference? c).isSome ↔ c = '&' ∨ c ∈ ['\'', '"', '<', '>'] := by
  constructor
  · intro h
    obtain ⟨s, hs⟩ := Option.isSome_iff_exists.mp h
    have hmem : c ∈ entityTable.map Prod.fst :=
      List.mem_map_of_mem (entityReference?_eq_some_iff.mp hs)
    have htable : entityTable.map Prod.fst = ['&', '\'', '"', '>', '<'] := rfl
    rw [htable] at hmem
    simp only [List.mem_cons, List.not_mem_nil, or_false] at hmem ⊢
    tauto
  · intro h
    simp only [List.mem_cons, List.not_mem_nil, or_false] at h
    rcases h with rfl | rfl | rfl | rfl | rfl <;> rfl

/-- A reference has one ampersand, in front. -/
lemma exists_toList_eq_cons {c : Char} {s : String} (h : (c, s) ∈ entityTable) :
    ∃ tail, '&' ∉ tail ∧ s.toList = '&' :: tail := by
  have hall : ∀ e ∈ entityTable, '&' ∉ e.2.toList.tail ∧ e.2.toList.head? = some '&' := by decide
  obtain ⟨htail, hhead⟩ := hall (c, s) h
  obtain ⟨tail, heq⟩ := List.head?_eq_some_iff.mp hhead
  rw [heq] at htail
  exact ⟨tail, htail, heq⟩

lemma reference_ne_nil (c : Char) : reference c ≠ [] := by
  cases h : entityReference? c with
  | none =>
    rw [reference_eq, h]
    exact List.cons_ne_nil c []
  | some s =>
    obtain ⟨tail, -, hs⟩ := exists_toList_eq_cons (entityReference?_eq_some_iff.mp h)
    rw [reference_of_eq_some h, hs]
    exact List.cons_ne_nil _ _

/-- The standard encoder escapes by putting references in the places of reserved characters. -/
lemma escape_standard (reserved : OrderedSet Char) (text : String) :
    escape reserved .standard text =
      .ok (String.ofList (escaped reserved reference text.toList)) := by
  have h : ∀ c ∈ reserved,
      Encoder.standard.replacement? c = some (encodeEntity (String.singleton c)) :=
    fun _ _ => rfl
  exact escape_eq_ok h text

/-- If the ampersand is reserved, what is written for a character is without ampersands unless it is
a reference. -/
lemma notMem_or_reference {reserved : OrderedSet Char} (hamp : '&' ∈ reserved) (c : Char) :
    '&' ∉ (if c ∈ reserved then reference c else [c]) ∧
        (c ∈ reserved → entityReference? c = none) ∨
      c ∈ reserved ∧ ∃ s, (c, s) ∈ entityTable ∧
        (if c ∈ reserved then reference c else [c]) = s.toList := by
  by_cases hc : c ∈ reserved
  · rw [if_pos hc]
    cases href : entityReference? c with
    | some s =>
      exact .inr ⟨hc, s, entityReference?_eq_some_iff.mp href, reference_of_eq_some href⟩
    | none =>
      refine .inl ⟨?_, fun _ => rfl⟩
      rw [reference_eq, href, Option.map_none, Option.getD_none, List.mem_singleton]
      rintro rfl
      exact absurd href (by decide)
  · rw [if_neg hc, List.mem_singleton]
    exact .inl ⟨fun h => hc (h ▸ hamp), fun h => absurd h hc⟩

/-- A reserved character that is part of no replacement is not part of the escaped text. -/
lemma notMem_escaped {reserved : OrderedSet Char} {replacement : Char → List Char} {c : Char}
    (hc : c ∈ reserved) (h : ∀ b ∈ reserved, c ∉ replacement b) (s : List Char) :
    c ∉ escaped reserved replacement s := by
  intro hmem
  obtain ⟨b, -, hb⟩ := List.mem_flatMap.mp hmem
  by_cases hr : b ∈ reserved
  · rw [if_pos hr] at hb
    exact h b hr hb
  · rw [if_neg hr, List.mem_singleton] at hb
    exact hr (hb ▸ hc)

/-- No reference contains one of the characters of the table other than the ampersand. -/
lemma notMem_reference {c : Char} (hc : c ∈ ['\'', '"', '<', '>']) (b : Char) :
    c ∉ reference b := by
  simp only [List.mem_cons, List.not_mem_nil, or_false] at hc
  rw [reference_eq]
  cases href : entityReference? b with
  | some s =>
    have hall : ∀ e ∈ entityTable, c ∉ e.2.toList := by
      rcases hc with rfl | rfl | rfl | rfl <;> decide
    exact hall (b, s) (entityReference?_eq_some_iff.mp href)
  | none =>
    have hsome : entityReference? c ≠ none := by
      rcases hc with rfl | rfl | rfl | rfl <;> decide
    rw [Option.map_none, Option.getD_none, List.mem_singleton]
    rintro rfl
    exact hsome href

end SvgMarkup
