import Mathlib.Data.Set.Function
import SvgMarkup.Proofs.Reader.Reference

/-!
# Escaping without loss

Escaping loses nothing if texts that differ are never written alike.  That is so if the ampersand is
reserved and every other reserved character is left alone or written as some reference: then an
ampersand in the output always begins a reference, which ends at the next semicolon, and the output
can be split up from its front.

* `PrefixFree` is the property of single characters on which this rests.
* `escaped_injective`: escaping into references loses nothing.
* `escaped_reference_injective_iff`: for which reserved characters the standard encoder loses
  nothing.
-/

namespace SvgMarkup

/-! ### Splitting up a text from its front -/

/-- A way to write characters is prefix-free if what is written for a character can be told from the
front of a text, whatever follows it. -/
def PrefixFree (write : Char → List Char) : Prop :=
  ∀ a b s t, write a ++ s = write b ++ t → a = b ∧ s = t

/-- Texts are not mixed up if their characters are written in a prefix-free way. -/
lemma PrefixFree.flatMap_injective {write : Char → List Char} (h : PrefixFree write)
    (hne : ∀ a, write a ≠ []) : Function.Injective (List.flatMap write) := by
  intro s t heq
  induction s generalizing t with
  | nil =>
    cases t with
    | nil => rfl
    | cons b t => exact absurd (List.append_eq_nil_iff.mp heq.symm).1 (hne b)
  | cons a s ih =>
    cases t with
    | nil => exact absurd (List.append_eq_nil_iff.mp heq).1 (hne a)
    | cons b t =>
      obtain ⟨rfl, hrest⟩ := h a b _ _ heq
      rw [ih hrest]

/-- A text has the form of a reference if it stands between an ampersand and the first semicolon
after it. -/
def IsReference (s : List Char) : Prop := ∃ name, ';' ∉ name ∧ s = '&' :: (name ++ [';'])

/-- A reference ends at its semicolon, whatever follows it. -/
lemma IsReference.append_inj {r₁ r₂ s t : List Char} (h₁ : IsReference r₁) (h₂ : IsReference r₂)
    (h : r₁ ++ s = r₂ ++ t) : r₁ = r₂ ∧ s = t := by
  obtain ⟨name₁, hname₁, rfl⟩ := h₁
  obtain ⟨name₂, hname₂, rfl⟩ := h₂
  have heq : name₁ ++ ';' :: s = name₂ ++ ';' :: t := by simpa using h
  have hlen : name₁.length = name₂.length := by
    refine Nat.le_antisymm ?_ ?_ <;> refine Nat.le_of_not_lt fun hlt => ?_
    · exact hname₁ (Reader.mem_of_append_cons_eq heq hlt)
    · exact hname₂ (Reader.mem_of_append_cons_eq heq.symm hlt)
  obtain ⟨rfl, hrest⟩ := List.append_inj heq hlen
  exact ⟨rfl, (List.cons.inj hrest).2⟩

/-- A single character does not have the form of a reference. -/
lemma not_isReference_singleton (c : Char) : ¬ IsReference [c] := by
  rintro ⟨name, -, h⟩
  simpa using congrArg List.length h

/-- Characters are told apart if each of them is written as itself or as a reference of its own, and
the ampersand not as itself. -/
lemma prefixFree_of_isReference {write : Char → List Char}
    (hform : ∀ c, write c = [c] ∧ c ≠ '&' ∨ IsReference (write c))
    (hown : ∀ a b, IsReference (write a) → write a = write b → a = b) : PrefixFree write := by
  intro a b s t h
  rcases hform a with ⟨ha, hne⟩ | ha <;> rcases hform b with ⟨hb, hne'⟩ | hb
  · rw [ha, hb] at h
    exact List.cons.inj h
  · obtain ⟨name, -, hb⟩ := hb
    rw [ha, hb] at h
    exact absurd (List.cons.inj h).1 hne
  · obtain ⟨name, -, ha⟩ := ha
    rw [ha, hb] at h
    exact absurd (List.cons.inj h).1.symm hne'
  · obtain ⟨hab, hst⟩ := ha.append_inj hb h
    exact ⟨hown a b ha hab, hst⟩

/-! ### Escaping into references -/

section

variable {reserved : OrderedSet Char} {replacement : Char → List Char}

/-- Escaping loses nothing if the ampersand is reserved and the reserved characters are left alone
or written as references, each in its own way. -/
lemma escaped_injective (hamp : '&' ∈ reserved) (hinj : Set.InjOn replacement {c | c ∈ reserved})
    (hform : ∀ c ∈ reserved, replacement c = [c] ∧ c ≠ '&' ∨ IsReference (replacement c)) :
    Function.Injective (escaped reserved replacement) := by
  have hone : ∀ c, (if c ∈ reserved then replacement c else [c]) = [c] ∧ c ≠ '&' ∨
      IsReference (if c ∈ reserved then replacement c else [c]) := by
    intro c
    by_cases hc : c ∈ reserved
    · rw [if_pos hc]
      exact hform c hc
    · rw [if_neg hc]
      exact .inl ⟨rfl, fun h => hc (h ▸ hamp)⟩
  have hmem : ∀ c, IsReference (if c ∈ reserved then replacement c else [c]) → c ∈ reserved := by
    intro c h
    by_contra hc
    rw [if_neg hc] at h
    exact not_isReference_singleton c h
  have hne : ∀ c, (if c ∈ reserved then replacement c else [c]) ≠ [] := by
    intro c h
    rcases hone c with ⟨heq, -⟩ | ⟨name, -, heq⟩ <;> rw [h] at heq <;> cases heq
  refine (prefixFree_of_isReference hone fun a b ha hab => ?_).flatMap_injective hne
  have hb := hmem b (hab ▸ ha)
  have ha := hmem a ha
  rw [if_pos ha, if_pos hb] at hab
  exact hinj ha hb hab

/-- Escaping leaves a text alone if it leaves each of its characters alone. -/
lemma escaped_eq_self {s : List Char} (h : ∀ c ∈ s, c ∈ reserved → replacement c = [c]) :
    escaped reserved replacement s = s := by
  induction s with
  | nil => rfl
  | cons c s ih =>
    obtain ⟨hc, hs⟩ := List.forall_mem_cons.mp h
    have hone : (if c ∈ reserved then replacement c else [c]) = [c] := by
      by_cases hr : c ∈ reserved
      · rw [if_pos hr, hc hr]
      · rw [if_neg hr]
    rw [escaped_cons, hone, ih hs]
    rfl

end

/-! ### The standard encoder -/

/-- A character has a reference only if it is one of the five of the table. -/
lemma reference_of_notMem {c : Char} (hamp : c ≠ '&') (hc : c ∉ ['\'', '"', '<', '>']) :
    reference c = [c] := by
  have hnone : entityReference? c = none := Option.not_isSome_iff_eq_none.mp fun h =>
    (isSome_entityReference?_iff.mp h).elim hamp hc
  rw [reference_eq, hnone]
  rfl

/-- Escaping that leaves ampersands alone leaves references alone. -/
lemma escaped_reference {reserved : OrderedSet Char} (hamp : '&' ∉ reserved) (c : Char) :
    escaped reserved reference (reference c) = reference c := by
  refine escaped_eq_self fun d hd hr => reference_of_notMem ?_ ?_
  · rintro rfl
    exact hamp hr
  · intro hdel
    exact notMem_reference hdel c hd

/-- With the standard encoder nothing is lost if and only if the ampersand is reserved or no
character is reserved that has a reference. -/
lemma escaped_reference_injective_iff {reserved : OrderedSet Char} :
    Function.Injective (escaped reserved reference) ↔
      '&' ∈ reserved ∨ ∀ c ∈ ['\'', '"', '<', '>'], c ∉ reserved := by
  constructor
  · intro hinj
    by_contra! h
    obtain ⟨hamp, c, hc, hr⟩ := h
    have hsingle : escaped reserved reference [c] = reference c := by
      simp [escaped, hr]
    -- the character and its reference are written alike
    have heq : [c] = reference c := hinj (hsingle.trans (escaped_reference hamp c).symm)
    refine notMem_reference hc c ?_
    rw [← heq]
    exact List.mem_singleton_self c
  · rintro (hamp | h)
    · exact Function.LeftInverse.injective (Reader.decode_escaped hamp)
    · by_cases hamp : '&' ∈ reserved
      · exact Function.LeftInverse.injective (Reader.decode_escaped hamp)
      have hself : ∀ s, escaped reserved reference s = s := fun s =>
        escaped_eq_self fun c _ hr =>
          reference_of_notMem (fun heq => hamp (heq ▸ hr)) fun hc => h c hc hr
      intro s t heq
      rwa [hself, hself] at heq

/-! ### Texts -/

/-- An encoder that has a replacement for each reserved character mixes up texts if and only if
these replacements do. -/
lemma escape_injective_iff {reserved : OrderedSet Char} {encoder : Encoder}
    {replacement : Char → String}
    (h : ∀ c ∈ reserved, encoder.replacement? c = some (replacement c)) :
    Function.Injective (escape reserved encoder) ↔
      Function.Injective (escaped reserved fun c => (replacement c).toList) := by
  have heq := escape_eq_ok h
  constructor
  · intro hinj s t hst
    have hlists : String.ofList s = String.ofList t := hinj (by
      rw [heq, heq, String.toList_ofList, String.toList_ofList, hst])
    exact String.ofList_injective hlists
  · intro hinj s t hst
    rw [heq, heq] at hst
    exact String.toList_injective (hinj (String.ofList_injective (Except.ok.inj hst)))

/-- If the ampersand is reserved, an encoder that leaves the other reserved characters alone or
writes them as references, each in its own way, never fails and loses nothing.  The standard encoder
loses nothing if and only if the ampersand is reserved or none of the other characters that have a
reference. -/
theorem escape_lossless (reserved : OrderedSet Char) :
    ('&' ∈ reserved → ∀ encoder : Encoder,
      Set.InjOn encoder.replacement? {c | c ∈ reserved} →
      (∀ c ∈ reserved, ∃ s, encoder.replacement? c = some s ∧
        (s.toList = [c] ∧ c ≠ '&' ∨ IsReference s.toList)) →
      (∀ text, ∃ written, escape reserved encoder text = .ok written) ∧
        Function.Injective (escape reserved encoder)) ∧
    (Function.Injective (escape reserved .standard) ↔
      '&' ∈ reserved ∨ ∀ c ∈ ['\'', '"', '<', '>'], c ∉ reserved) := by
  refine ⟨fun hamp encoder hinj hform => ?_, ?_⟩
  · have hreplacement : ∀ c ∈ reserved,
        encoder.replacement? c = some ((encoder.replacement? c).getD "") := by
      intro c hc
      obtain ⟨s, hs, -⟩ := hform c hc
      rw [hs, Option.getD_some]
    refine ⟨fun text => ⟨_, escape_eq_ok hreplacement text⟩,
      (escape_injective_iff hreplacement).mpr (escaped_injective hamp ?_ ?_)⟩
    · intro b hb c hc heq
      refine hinj hb hc ?_
      rw [hreplacement b hb, hreplacement c hc, String.toList_injective heq]
    · intro c hc
      obtain ⟨s, hs, hs'⟩ := hform c hc
      rw [hs, Option.getD_some]
      exact hs'
  · have hstandard : ∀ c ∈ reserved, Encoder.standard.replacement? c =
        some (encodeEntity (String.singleton c)) := fun _ _ => rfl
    exact (escape_injective_iff hstandard).trans escaped_reference_injective_iff

/-- An encoder that leaves the semicolon alone, refers to the ampersand without a name, and to any
other character by the character. -/
def Encoder.terse : Encoder where
  label := "terse"
  replacement? c :=
    some (if c = '&' then "&;" else if c = ';' then ";" else String.ofList ['&', c, ';'])

/-- Reserved characters that also stand in references. -/
def terseEntities : OrderedSet Char := .ofList ['&', ';', 'a']

theorem escape_terse :
    '&' ∈ terseEntities ∧ Set.InjOn Encoder.terse.replacement? {c | c ∈ terseEntities} ∧
    (∀ c ∈ terseEntities, ∃ s, Encoder.terse.replacement? c = some s ∧
      (s.toList = [c] ∧ c ≠ '&' ∨ IsReference s.toList)) ∧
    Function.Injective (escape terseEntities .terse) := by
  have hamp : '&' ∈ terseEntities := by decide
  have hmem : ∀ c, c ∈ terseEntities → c = '&' ∨ c = ';' ∨ c = 'a' := by
    intro c hc
    simpa [terseEntities] using hc
  have hinj : Set.InjOn Encoder.terse.replacement? {c | c ∈ terseEntities} := by
    intro b hb c hc heq
    rcases hmem b hb with rfl | rfl | rfl <;> rcases hmem c hc with rfl | rfl | rfl <;>
      revert heq <;> decide
  have hform : ∀ c ∈ terseEntities, ∃ s, Encoder.terse.replacement? c = some s ∧
      (s.toList = [c] ∧ c ≠ '&' ∨ IsReference s.toList) := by
    intro c hc
    rcases hmem c hc with rfl | rfl | rfl
    · exact ⟨_, rfl, .inr ⟨[], by decide, rfl⟩⟩
    · exact ⟨_, rfl, .inl ⟨rfl, by decide⟩⟩
    · exact ⟨_, rfl, .inr ⟨['a'], by decide, rfl⟩⟩
  exact ⟨hamp, hinj, hform, ((escape_lossless terseEntities).1 hamp .terse hinj hform).2⟩

end SvgMarkup
