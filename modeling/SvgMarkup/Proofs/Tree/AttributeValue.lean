import Mathlib
import SvgMarkup.Tree.Equality

/-!
# The texts of equal attribute values

Attribute values are compared as dynamic values, where numbers of different types are equal if their
values are.  Their texts then differ: the text of a double has a point or an exponent, which that of
an integer has not, and truth values are words.  Two doubles that are equal are the same unless they
are the two zeros.

* `AttributeValue.OneForm` is the relation of values that do not differ in this way.
* `AttributeValue.Equals` is the equality of values as objects, each of which is equal to itself.
* `AttributeValue.render_eq_iff`: of equal values exactly those of one form have the same text.
-/

namespace SvgMarkup

/-! ### The texts of numbers -/

namespace Decimal

/-- Whether some characters are those of a decimal: it has a point, or an exponent and its sign. -/
def IsDecimal (s : List Char) : Prop := '.' ∈ s ∨ 'e' ∈ s ∧ ('+' ∈ s ∨ '-' ∈ s)

lemma isDecimal_positional (digits : List Char) (point : Int) :
    IsDecimal (positional digits point) :=
  .inl (List.mem_append_right _ List.mem_cons_self)

lemma isDecimal_scientific (exponentWidth : Nat) (digits : List Char) (exponent : Int) :
    IsDecimal (scientific exponentWidth digits exponent) := by
  have hmem {a : Char} (ha : a ∈ ['e', if exponent < 0 then '-' else '+']) :
      a ∈ scientific exponentWidth digits exponent :=
    List.mem_append_left _ (List.mem_append_right _ ha)
  refine .inr ⟨hmem List.mem_cons_self, ?_⟩
  by_cases hsign : exponent < 0
  · exact .inr (hmem (by simp [hsign]))
  · exact .inl (hmem (by simp [hsign]))

lemma isDecimal_numeral (l : Layout) (d : Numeral) : IsDecimal (l.numeral d) := by
  rcases hd : d.significant with ⟨digits, point⟩
  rw [Layout.numeral, hd]
  by_cases hpoint : l.leastPoint ≤ point ∧ point ≤ l.greatestPoint
  · simp only [if_pos hpoint]
    exact isDecimal_positional digits point
  · simp only [if_neg hpoint]
    exact isDecimal_scientific l.exponentWidth digits (point - 1)

lemma IsDecimal.cons {s : List Char} (h : IsDecimal s) (a : Char) : IsDecimal (a :: s) := by
  rcases h with hpoint | ⟨hexponent, hsign⟩
  · exact .inl (List.mem_cons_of_mem a hpoint)
  · exact .inr ⟨List.mem_cons_of_mem a hexponent,
      hsign.imp (List.mem_cons_of_mem a) (List.mem_cons_of_mem a)⟩

/-- A double with the value of an integer is written as a decimal. -/
lemma isDecimal_render (l : Layout) {x : Float} {i : Int}
    (h : (Reading.ofFloat x).isInt i = true) : IsDecimal (l.render x).toList := by
  unfold Layout.render
  cases hx : Reading.ofFloat x with
  | nan | infinite =>
    rw [hx] at h
    cases h
  | finite negative m =>
    have hnumeral := isDecimal_numeral l (if m.mantissa = 0 then ⟨0, 0⟩ else m.shortest)
    cases negative with
    | false => simpa using hnumeral
    | true => simpa using hnumeral.cons '-'

/-- The text of an integer consists of digits and a sign. -/
lemma isDigit_of_mem_toString {i : Int} {a : Char} (h : a ∈ (toString i).toList) :
    a.isDigit ∨ a = '-' := by
  have hdigit {n : Nat} (h : a ∈ n.repr.toList) : a.isDigit := by
    rw [Nat.toList_repr] at h
    exact Nat.isDigit_of_mem_toDigits (by omega) (by omega) h
  rw [Int.toString_eq_repr, Int.repr_eq_if] at h
  split at h
  · exact .inl (hdigit h)
  · rw [String.toList_append, List.mem_append] at h
    rcases h with hsign | h
    · exact .inr (List.mem_singleton.mp hsign)
    · exact .inl (hdigit h)

/-- The text of an integer is no decimal. -/
lemma not_isDecimal_of_integer {i : Int} {s : String} (h : integer i = .ok s) :
    ¬ IsDecimal s.toList := by
  obtain rfl : toString i = s := by
    unfold integer at h
    split at h
    · exact Except.ok.inj h
    · cases h
  rintro (hpoint | ⟨hexponent, -⟩)
  · rcases isDigit_of_mem_toString hpoint with h | h <;> cases h
  · rcases isDigit_of_mem_toString hexponent with h | h <;> cases h

end Decimal

/-! ### Equal values of different types -/

namespace Value

/-- Integers and truth values are equal only if they have the same number. -/
lemma eq_of_same_of_int? {v w : Value} {i j : Int} (hv : v.int? = some i) (hw : w.int? = some j)
    (h : v.same w = true) : i = j := by
  cases v with
  | int | flag =>
    cases w with
    | int | flag => simpa [same, sameAtom, text?, hv, hw] using h
    | _ => cases hw
  | _ => cases hv

/-- An integer or a truth value is equal to a double only if the double has its number. -/
lemma isInt_of_same_float {v : Value} {i : Int} {x : Float} (hv : v.int? = some i)
    (h : v.same (float x) = true) : (Decimal.Reading.ofFloat x).isInt i = true := by
  cases v with
  | int | flag => simpa [same, sameAtom, hv] using h
  | _ => cases hv

lemma isInt_of_float_same {w : Value} {i : Int} {x : Float} (hw : w.int? = some i)
    (h : (float x).same w = true) : (Decimal.Reading.ofFloat x).isInt i = true := by
  cases w with
  | int | flag => simpa [same, sameAtom, hw] using h
  | _ => cases hw

end Value

namespace AttributeValue

lemma not_isDecimal_of_flag {b : Bool} {s : String} (h : render (flag b) = .ok s) :
    ¬ Decimal.IsDecimal s.toList := by
  obtain rfl := Except.ok.inj h
  unfold Decimal.IsDecimal
  cases b <;> decide

/-! ### Values of one form -/

/-- The sign of a double, which tells apart the two zeros. -/
def isNegative (x : Float) : Bool := x.toBits.toNat / Nat.pow 2 63 == 1

/-- Whether two values are of one form: both are texts, or both are numbers of the same type, where
doubles have the same sign. -/
def OneForm : AttributeValue → AttributeValue → Prop
  | .text _, .text _ | .text _, .policy _ | .policy _, .text _ | .policy _, .policy _ => True
  | .int _, .int _ | .flag _, .flag _ => True
  | .float x, .float y => isNegative x = isNegative y
  | _, _ => False

/-- Doubles that are equal have the same text if they have the same sign; if not, they are the two
zeros. -/
lemma render_float_eq_iff {x y : Float} (h : (x == y) = true) :
    render (.float x) = render (.float y) ↔ isNegative x = isNegative y := by
  have hzeros : render (.float 0) ≠ render (.float (-0)) ∧ isNegative 0 ≠ isNegative (-0) := by
    decide +kernel
  obtain ⟨-, -, rfl | ⟨rfl, rfl⟩ | ⟨rfl, rfl⟩⟩ := Float.beq_iff_ne_nan_and_eq.mp h
  · exact iff_of_true rfl rfl
  · exact iff_of_false hzeros.1 hzeros.2
  · exact iff_of_false hzeros.1.symm hzeros.2.symm

/-- An integer and a double have different texts, also where they are equal. -/
lemma render_int_ne_float {i : Int} {x : Float}
    (h : (Decimal.Reading.ofFloat x).isInt i = true) : render (.int i) ≠ render (.float x) := by
  intro heq
  exact Decimal.not_isDecimal_of_integer heq (Decimal.isDecimal_render floatLayout h)

/-- A truth value and a double have different texts, also where they are equal. -/
lemma render_flag_ne_float {b : Bool} {i : Int} {x : Float}
    (h : (Decimal.Reading.ofFloat x).isInt i = true) : render (.flag b) ≠ render (.float x) := by
  intro heq
  exact not_isDecimal_of_flag heq (Decimal.isDecimal_render floatLayout h)

/-- A truth value and an integer have different texts, also where they are equal. -/
lemma render_flag_ne_int {b : Bool} {i : Int} (h : i = if b then 1 else 0) :
    render (.flag b) ≠ render (.int i) := by
  subst h
  cases b <;> decide

/-- What is equal to a text is that text, and what is not a text is equal to none. -/
lemma text?_eq_of_same {v w : AttributeValue} (h : v.toValue.same w.toValue = true) :
    v.toValue.text? = w.toValue.text? := by
  cases v <;> cases w <;>
    simp_all [toValue, Value.same, Value.sameAtom, Value.int?, Value.text?]

lemma render_eq_iff_of_same {v w : AttributeValue} (h : v.toValue.same w.toValue = true) :
    v.render = w.render ↔ v.OneForm w := by
  have htext := text?_eq_of_same h
  cases v with
  | text | policy =>
    cases w with
    | text | policy => exact iff_of_true (congrArg Except.ok (Option.some.inj htext)) trivial
    | int | float | flag => cases htext
  | int i =>
    cases w with
    | text | policy => cases htext
    | int j =>
      obtain rfl : i = j := Value.eq_of_same_of_int? rfl rfl h
      exact iff_of_true rfl trivial
    | float x => exact iff_of_false (render_int_ne_float (Value.isInt_of_same_float rfl h)) id
    | flag b =>
      exact iff_of_false (render_flag_ne_int (Value.eq_of_same_of_int? rfl rfl h)).symm id
  | float x =>
    cases w with
    | text | policy => cases htext
    | int j => exact iff_of_false (render_int_ne_float (Value.isInt_of_float_same rfl h)).symm id
    | float y => exact render_float_eq_iff h
    | flag b => exact iff_of_false (render_flag_ne_float (Value.isInt_of_float_same rfl h)).symm id
  | flag a =>
    cases w with
    | text | policy => cases htext
    | int j =>
      exact iff_of_false (render_flag_ne_int (Value.eq_of_same_of_int? rfl rfl h).symm) id
    | float x => exact iff_of_false (render_flag_ne_float (Value.isInt_of_same_float rfl h)) id
    | flag b =>
      have hnumbers : (if a then 1 else 0 : Int) = if b then 1 else 0 :=
        Value.eq_of_same_of_int? rfl rfl h
      obtain rfl : a = b := by
        revert hnumbers
        cases a <;> cases b <;> decide
      exact iff_of_true rfl trivial

/-! ### Equal objects -/

/-- Whether two attribute values are equal as objects.  An object is equal to itself, also if it is
a double that is not a number, which is equal to none as a value. -/
def Equals (v w : AttributeValue) : Prop := v = w ∨ v.toValue.same w.toValue = true

lemma OneForm.refl (v : AttributeValue) : v.OneForm v := by
  cases v with
  | text | int | flag | policy => trivial
  | float x => rfl

/-- Of equal attribute values exactly those of one form have the same text. -/
lemma render_eq_iff {v w : AttributeValue} (h : v.Equals w) :
    v.render = w.render ↔ v.OneForm w := by
  rcases h with rfl | h
  · exact iff_of_true rfl (OneForm.refl v)
  · exact render_eq_iff_of_same h

end AttributeValue

end SvgMarkup
