import Mathlib.Tactic.Common

/-!
# Texts spread over more lines

Layout is line breaks and copies of a unit of indentation.  A text *spreads* to another one if the
latter is the former with layout added anywhere in it.

* `Spread.append`: what is written piece by piece spreads piece by piece.
* `Spread.sublist`, `Spread.filter_eq` and `Spread.count_eq` say what spreading leaves unchanged,
  `Spread.length_add_le` by how much it lengthens a text at least.
-/

namespace SvgMarkup

/-- A text spreads to another one if that one has some more line breaks, and otherwise only copies
of the unit of indentation in addition to the characters of the text. -/
inductive Spread (unit : List Char) : Nat → List Char → List Char → Prop
  | nil : Spread unit 0 [] []
  | keep {k : Nat} {s p : List Char} (a : Char) :
      Spread unit k s p → Spread unit k (a :: s) (a :: p)
  | lineBreak {k : Nat} {s p : List Char} : Spread unit k s p → Spread unit (k + 1) s ('\n' :: p)
  | indent {k : Nat} {s p : List Char} : Spread unit k s p → Spread unit k s (unit ++ p)

namespace Spread

variable {unit : List Char} {k l : Nat} {s t p q : List Char}

/-! ### Texts that spread -/

lemma refl (s : List Char) : Spread unit 0 s s := by
  induction s with
  | nil => exact .nil
  | cons a s ih => exact ih.keep a

lemma append (h : Spread unit k s p) (h' : Spread unit l t q) :
    Spread unit (k + l) (s ++ t) (p ++ q) := by
  induction h with
  | nil =>
    rw [Nat.zero_add]
    exact h'
  | keep a _ ih => exact ih.keep a
  | lineBreak _ ih =>
    rw [Nat.add_right_comm]
    exact ih.lineBreak
  | indent _ ih =>
    rw [List.append_assoc]
    exact ih.indent

/-- A line break may follow a text. -/
lemma append_lineBreak (s : List Char) : Spread unit 1 s (s ++ ['\n']) := by
  have hbreak : Spread unit 1 [] ['\n'] := nil.lineBreak
  have h := (refl s).append hbreak
  rwa [List.append_nil, Nat.zero_add] at h

/-- Indentation may precede a text. -/
lemma indents_append (n : Nat) (s : List Char) :
    Spread unit 0 s ((List.replicate n unit).flatten ++ s) := by
  induction n with
  | zero => exact refl s
  | succ n ih =>
    rw [List.replicate_succ, List.flatten_cons, List.append_assoc]
    exact ih.indent

/-! ### What spreading leaves unchanged -/

/-- A text grows at least by the line breaks that are added to it. -/
lemma length_add_le (h : Spread unit k s p) : s.length + k ≤ p.length := by
  induction h with
  | nil => exact Nat.le_refl _
  | keep a _ ih =>
    rw [List.length_cons, List.length_cons]
    omega
  | lineBreak _ ih =>
    rw [List.length_cons]
    omega
  | indent _ ih =>
    rw [List.length_append]
    omega

lemma sublist (h : Spread unit k s p) : s.Sublist p := by
  induction h with
  | nil => exact .slnil
  | keep a _ ih => exact ih.cons_cons a
  | lineBreak _ ih => exact ih.cons '\n'
  | indent _ ih => exact ih.trans (List.sublist_append_right unit _)

/-- The characters that may not stand in layout stay the same. -/
lemma filter_eq (h : Spread unit k s p) {kept : Char → Bool} (hbreak : kept '\n' = false)
    (hunit : ∀ a ∈ unit, kept a = false) : p.filter kept = s.filter kept := by
  have hunit' : unit.filter kept = [] := by
    rw [List.filter_eq_nil_iff]
    intro a ha
    simp [hunit a ha]
  induction h with
  | nil => rfl
  | keep a _ ih => rw [List.filter_cons, List.filter_cons, ih]
  | lineBreak _ ih =>
    rw [List.filter_cons_of_neg (by simp [hbreak])]
    exact ih
  | indent _ ih =>
    rw [List.filter_append, hunit', List.nil_append]
    exact ih

/-- If the indentation itself has no line breaks, the number of line breaks that are added is
determined by the texts. -/
lemma count_eq (h : Spread unit k s p) (hunit : '\n' ∉ unit) :
    p.count '\n' = s.count '\n' + k := by
  induction h with
  | nil => rfl
  | keep a _ ih =>
    rw [List.count_cons, List.count_cons, ih]
    omega
  | lineBreak _ ih =>
    rw [List.count_cons_self, ih]
    omega
  | indent _ ih =>
    rw [List.count_append, List.count_eq_zero.mpr hunit, ih]
    omega

end Spread

end SvgMarkup
