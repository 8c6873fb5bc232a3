import SvgMarkup.Proofs.Reader.Reference

/-!
# Escaping and replacing

Replacing looks for all occurrences of one text in another, from left to right.  Escaping replaces
several characters at once, and this file compares the two.

* `Text.replaceAll` is the replacement of one text by another.
* `escape_eq_replacedInTurn_iff`: replacing the reserved characters one after the other is escaping
  if and only if the ampersand is replaced first.
* `escape_erase`: leaving a character out of the reserved ones is putting it back in the place of
  its references.
-/

namespace SvgMarkup

namespace Text

/-! ### Replacing all occurrences -/

/-- Some characters with every occurrence of `old`, which is not empty, replaced by `new`.  What
has been put in the place of an occurrence is not looked at again. -/
def replaceIn (old new : List Char) : List Char → List Char
  | [] => []
  | c :: s =>
    if old.isPrefixOf (c :: s) then new ++ replaceIn old new (s.drop (old.length - 1))
    else c :: replaceIn old new s
termination_by s => s.length

/-- A text with every occurrence of `old`, which is not empty, replaced by `new`. -/
def replaceAll (old new text : String) : String :=
  String.ofList (replaceIn old.toList new.toList text.toList)

variable {old new : List Char}

/-- An occurrence is replaced. -/
lemma replaceIn_append (hold : old ≠ []) (s : List Char) :
    replaceIn old new (old ++ s) = new ++ replaceIn old new s := by
  cases old with
  | nil => exact absurd rfl hold
  | cons a old =>
    have hprefix : (a :: old).isPrefixOf (a :: (old ++ s)) = true :=
      List.isPrefixOf_iff_prefix.mpr (List.prefix_append (a :: old) s)
    rw [List.cons_append, replaceIn, if_pos hprefix]
    simp

/-- A character at which no occurrence begins stays. -/
lemma replaceIn_cons {c : Char} {s : List Char} (h : ¬ old <+: c :: s) :
    replaceIn old new (c :: s) = c :: replaceIn old new s := by
  rw [replaceIn, if_neg fun hprefix => h (List.isPrefixOf_iff_prefix.mp hprefix)]

-- no occurrence is looked for in what has been put in the place of one
example : replaceAll "aa" "ba" "aaaab" = "babab" := by cbv

/-- Characters other than the first one of an occurrence stay. -/
lemma replaceIn_append_of_notMem {a : Char} {w : List Char} (h : a ∉ w) (s : List Char) :
    replaceIn (a :: old) new (w ++ s) = w ++ replaceIn (a :: old) new s := by
  induction w with
  | nil => rfl
  | cons b w ih =>
    have hprefix : ¬ a :: old <+: b :: (w ++ s) := fun hprefix =>
      List.ne_of_not_mem_cons h (List.cons_prefix_cons.mp hprefix).1
    rw [List.cons_append, replaceIn_cons hprefix, ih (List.not_mem_of_not_mem_cons h)]
    rfl

/-- Occurrences of a single character are replaced one by one. -/
lemma replaceIn_singleton (c : Char) (s : List Char) :
    replaceIn [c] new s = s.flatMap fun d => if d = c then new else [d] := by
  induction s with
  | nil => rw [replaceIn]; rfl
  | cons d s ih =>
    rw [List.flatMap_cons, ← ih]
    by_cases h : d = c
    · rw [if_pos h, ← h]
      exact replaceIn_append (List.cons_ne_nil d []) s
    · rw [if_neg h]
      exact replaceIn_append_of_notMem (w := [d]) (by simpa using Ne.symm h) s

/-- Every occurrence of a single character gives way to a text of the same length as the others. -/
lemma length_replaceIn_singleton (c : Char) (new s : List Char) :
    (replaceIn [c] new s).length + s.count c = s.length + s.count c * new.length := by
  rw [replaceIn_singleton]
  induction s with
  | nil => simp
  | cons d s ih =>
    rw [List.flatMap_cons, List.length_append, List.length_cons]
    by_cases h : d = c
    · rw [h, if_pos rfl, List.count_cons_self, Nat.succ_mul]
      omega
    · rw [if_neg h, List.count_cons_of_ne h, List.length_singleton]
      omega

end Text

/-! ### Replacing one character after the other -/

/-- Some characters are replaced by their references one after the other, each in what the
replacements before it have left. -/
def replaceInTurn (order : List Char) (s : List Char) : List Char :=
  order.foldl (fun t c => Text.replaceIn [c] (reference c) t) s

/-- A text in which some characters are replaced by their references one after the other, each in
what the replacements before it have left. -/
def replacedInTurn (order : List Char) (text : String) : String :=
  order.foldl
    (fun t c => Text.replaceAll (String.singleton c) (encodeEntity (String.singleton c)) t) text

lemma toList_replacedInTurn (order : List Char) (text : String) :
    (replacedInTurn order text).toList = replaceInTurn order text.toList := by
  induction order generalizing text with
  | nil => rfl
  | cons c order ih =>
    have hfirst : (Text.replaceAll (String.singleton c) (encodeEntity (String.singleton c))
        text).toList = Text.replaceIn [c] (reference c) text.toList := by
      rw [Text.replaceAll, String.toList_ofList, String.toList_singleton]
      rfl
    exact (ih _).trans (congrArg (replaceInTurn order) hfirst)

/-- Replacing one more character in an escaped text is escaping it as well, unless it is the
ampersand, which is part of every reference. -/
lemma replaceIn_escaped {c : Char} (hc : c ∈ ['\'', '"', '<', '>']) (reserved : OrderedSet Char)
    (s : List Char) :
    Text.replaceIn [c] (reference c) (escaped reserved reference s) =
      escaped (reserved.insert c) reference s := by
  rw [Text.replaceIn_singleton, escaped, List.flatMap_assoc]
  refine List.flatMap_congr fun b _ => ?_
  by_cases hb : b ∈ reserved
  · rw [if_pos hb, if_pos (OrderedSet.mem_insert.mpr (.inr hb))]
    have hself : ∀ d ∈ reference b, (if d = c then reference c else [d]) = [d] := by
      intro d hd
      refine if_neg ?_
      rintro rfl
      exact notMem_reference hc b hd
    rw [List.flatMap_congr hself, List.flatMap_singleton']
  · rw [if_neg hb, List.flatMap_singleton]
    by_cases hbc : b = c
    · rw [if_pos hbc, if_pos (OrderedSet.mem_insert.mpr (.inl hbc)), hbc]
    · rw [if_neg hbc, if_neg fun h => (OrderedSet.mem_insert.mp h).elim hbc hb]

/-- Characters other than the ampersand can be replaced one after the other in an escaped text. -/
lemma replaceInTurn_escaped {order : List Char} {reserved reserved' : OrderedSet Char}
    (horder : ∀ c ∈ order, c ∈ ['\'', '"', '<', '>'])
    (h : ∀ c, c ∈ reserved' ↔ c ∈ reserved ∨ c ∈ order) (s : List Char) :
    replaceInTurn order (escaped reserved reference s) = escaped reserved' reference s := by
  induction order generalizing reserved with
  | nil =>
    have hsame : ∀ c, c ∈ reserved' ↔ c ∈ reserved := by simpa using h
    simp only [replaceInTurn, List.foldl_nil, escaped, hsame]
  | cons c order ih =>
    obtain ⟨hc, horder⟩ := List.forall_mem_cons.mp horder
    have hinsert : ∀ d, d ∈ reserved' ↔ d ∈ reserved.insert c ∨ d ∈ order := by
      intro d
      rw [h, List.mem_cons, OrderedSet.mem_insert]
      tauto
    exact (congrArg (replaceInTurn order) (replaceIn_escaped hc reserved s)).trans
      (ih horder hinsert)

/-- Once ampersands are replaced, the text is one in which only the ampersand was reserved, and the
other characters can follow. -/
lemma replaceInTurn_of_head {order : List Char} {reserved : OrderedSet Char}
    (horder : ∀ c ∈ order, c ∈ ['\'', '"', '<', '>'])
    (hmem : ∀ c, c ∈ reserved ↔ c ∈ '&' :: order) (s : List Char) :
    replaceInTurn ('&' :: order) s = escaped reserved reference s := by
  have hfirst : Text.replaceIn ['&'] (reference '&') s =
      escaped (OrderedSet.singleton '&') reference s := by
    rw [Text.replaceIn_singleton]
    refine List.flatMap_congr fun c _ => ?_
    by_cases hc : c = '&'
    · rw [hc]
      rfl
    · rw [if_neg hc, if_neg (mt OrderedSet.mem_singleton.mp hc)]
  have hrest : ∀ c, c ∈ reserved ↔ c ∈ OrderedSet.singleton '&' ∨ c ∈ order := by
    intro c
    rw [hmem, List.mem_cons, OrderedSet.mem_singleton]
  exact (congrArg (replaceInTurn order) hfirst).trans (replaceInTurn_escaped horder hrest s)

/-! ### The ampersand comes first -/

/-- Replacing a character by its reference does not make a text shorter. -/
lemma length_le_replaceIn (c : Char) (s : List Char) :
    s.length ≤ (Text.replaceIn [c] (reference c) s).length := by
  have hlen := Text.length_replaceIn_singleton c (reference c) s
  have hcount : s.count c ≤ s.count c * (reference c).length :=
    Nat.le_mul_of_pos_right _ (List.length_pos_of_ne_nil (reference_ne_nil c))
  omega

/-- Replacing ampersands by references makes a text that has some longer. -/
lemma length_lt_replaceIn {s : List Char} (hs : '&' ∈ s) :
    s.length < (Text.replaceIn ['&'] (reference '&') s).length := by
  have hlen := Text.length_replaceIn_singleton '&' (reference '&') s
  have hcount : 0 < s.count '&' := List.count_pos_iff.mpr hs
  have hfive : (reference '&').length = 5 := by decide
  rw [hfive] at hlen
  omega

/-- A text with an ampersand has one when another character, or the ampersand, has been replaced. -/
lemma mem_replaceIn (c : Char) {s : List Char} (hs : '&' ∈ s) :
    '&' ∈ Text.replaceIn [c] (reference c) s := by
  rw [Text.replaceIn_singleton]
  refine List.mem_flatMap.mpr ⟨'&', hs, ?_⟩
  by_cases h : '&' = c
  · rw [if_pos h, ← h]
    decide
  · rw [if_neg h]
    exact List.mem_singleton_self _

lemma length_le_replaceInTurn (order s : List Char) :
    s.length ≤ (replaceInTurn order s).length := by
  induction order generalizing s with
  | nil => exact Nat.le_refl _
  | cons c order ih => exact (length_le_replaceIn c s).trans (ih _)

/-- A text with an ampersand becomes longer when ampersands are replaced at some point. -/
lemma length_lt_replaceInTurn {order s : List Char} (horder : '&' ∈ order) (hs : '&' ∈ s) :
    s.length < (replaceInTurn order s).length := by
  induction order generalizing s with
  | nil => cases horder
  | cons c order ih =>
    by_cases h : c = '&'
    · subst h
      exact (length_lt_replaceIn hs).trans_le (length_le_replaceInTurn order _)
    · have horder : '&' ∈ order := (List.mem_cons.mp horder).resolve_left (Ne.symm h)
      exact (length_le_replaceIn c s).trans_lt (ih horder (mem_replaceIn c hs))

/-- If another character is replaced before the ampersand, the ampersand of its reference is
replaced as well. -/
lemma replaceInTurn_ne_of_head {c : Char} {order : List Char} (hc : (entityReference? c).isSome)
    (horder : '&' ∈ order) : replaceInTurn (c :: order) [c] ≠ reference c := by
  intro h
  have hfirst : Text.replaceIn [c] (reference c) [c] = reference c := by
    rw [Text.replaceIn_singleton, List.flatMap_singleton, if_pos rfl]
  have hamp : '&' ∈ reference c := by
    obtain ⟨s, hs⟩ := Option.isSome_iff_exists.mp hc
    obtain ⟨tail, -, htail⟩ := exists_toList_eq_cons (entityReference?_eq_some_iff.mp hs)
    rw [reference_of_eq_some hs, htail]
    exact List.mem_cons_self
  have hgrows := length_lt_replaceInTurn horder hamp
  have hturn : replaceInTurn (c :: order) [c] = replaceInTurn order (reference c) :=
    congrArg (replaceInTurn order) hfirst
  rw [← hturn, h] at hgrows
  exact Nat.lt_irrefl _ hgrows

/-- For characters that have references, the ampersand among them, replacing one after the other in
some order is escaping if and only if the ampersand comes first. -/
theorem escape_eq_replacedInTurn_iff {reserved : OrderedSet Char} {order : List Char}
    (htable : ∀ c ∈ reserved, (entityReference? c).isSome) (hamp : '&' ∈ reserved)
    (horder : order.Perm reserved.toList) :
    (∀ text, escape reserved .standard text = .ok (replacedInTurn order text)) ↔
      order.head? = some '&' := by
  have hmem : ∀ c, c ∈ reserved ↔ c ∈ order := fun c => horder.mem_iff.symm
  have hlists : (∀ text, escape reserved .standard text = .ok (replacedInTurn order text)) ↔
      ∀ s, replaceInTurn order s = escaped reserved reference s := by
    constructor
    · intro h s
      have hs := h (String.ofList s)
      rw [escape_standard, String.toList_ofList] at hs
      have heq := congrArg String.toList (Except.ok.inj hs)
      rwa [String.toList_ofList, toList_replacedInTurn, String.toList_ofList, eq_comm] at heq
    · intro h text
      rw [escape_standard, ← h, ← toList_replacedInTurn, String.ofList_toList]
  rw [hlists]
  cases order with
  | nil => exact absurd ((hmem '&').mp hamp) List.not_mem_nil
  | cons c order =>
    obtain ⟨hc, -⟩ := List.nodup_cons.mp (horder.nodup_iff.mpr reserved.nodup)
    constructor
    · intro h
      by_contra hhead
      have hne : '&' ≠ c := fun heq => hhead (heq ▸ rfl)
      have hreserved : c ∈ reserved := (hmem c).mpr List.mem_cons_self
      have hlater : '&' ∈ order := (List.mem_cons.mp ((hmem '&').mp hamp)).resolve_left hne
      refine replaceInTurn_ne_of_head (htable c hreserved) hlater ?_
      rw [h, escaped, List.flatMap_singleton, if_pos hreserved]
    · intro hhead
      obtain rfl : c = '&' := Option.some.inj hhead
      refine replaceInTurn_of_head (fun d hd => ?_) hmem
      have hne : d ≠ '&' := fun heq => hc (heq ▸ hd)
      have hreserved : d ∈ reserved := (hmem d).mpr (List.mem_cons_of_mem _ hd)
      exact (isSome_entityReference?_iff.mp (htable d hreserved)).resolve_left hne

/-- The characters reserved in attribute values, with the ampersand in front. -/
def ampersandFirst : List Char := ['&', '>', '"', '<']

/-- The characters reserved in attribute values, with another character before the ampersand. -/
def ampersandSecond : List Char := ['>', '&', '"', '<']

theorem escape_ampersandFirst :
    (∀ text, escape attributeEntities .standard text = .ok (replacedInTurn ampersandFirst text)) ∧
    ¬ ∀ text, escape attributeEntities .standard text =
      .ok (replacedInTurn ampersandSecond text) := by
  have htable : ∀ c ∈ attributeEntities, (entityReference? c).isSome := by
    intro c hc
    have hchars : c ∈ ['&', '"', '<', '>'] := OrderedSet.mem_ofList.mp hc
    simp only [List.mem_cons, List.not_mem_nil, or_false] at hchars
    rcases hchars with rfl | rfl | rfl | rfl <;> rfl
  have hamp : '&' ∈ attributeEntities := by decide
  have hfirst : ampersandFirst.Perm attributeEntities.toList := by decide
  have hsecond : ampersandSecond.Perm attributeEntities.toList := by decide
  refine ⟨(escape_eq_replacedInTurn_iff htable hamp hfirst).mpr rfl, fun h => ?_⟩
  have hhead := (escape_eq_replacedInTurn_iff htable hamp hsecond).mp h
  revert hhead
  decide

/-! ### Leaving a character out of the reserved ones -/

/-- No reference begins where another one stands. -/
lemma eq_of_prefix_append {c d : Char} {r r' : String} (hr : (c, r) ∈ entityTable)
    (hr' : (d, r') ∈ entityTable) {s : List Char} (h : r.toList <+: r'.toList ++ s) : c = d := by
  obtain ⟨t, ht⟩ := h
  have hread := Reader.readReference_of_mem hr t
  rw [ht, Reader.readReference_of_mem hr'] at hread
  exact (Prod.mk.inj (Option.some.inj hread)).1.symm

section Erase

variable {reserved : OrderedSet Char} {c : Char} {r : String}
variable (hamp : '&' ∈ reserved) (hr : (c, r) ∈ entityTable)

include hamp hr

/-- What is written for another character is not touched when a reference is replaced. -/
lemma replaceIn_append_of_ne {d : Char} (hd : d ≠ c) (new s : List Char) :
    Text.replaceIn r.toList new ((if d ∈ reserved then reference d else [d]) ++ s) =
      (if d ∈ reserved then reference d else [d]) ++ Text.replaceIn r.toList new s := by
  obtain ⟨tail, -, htail⟩ := exists_toList_eq_cons hr
  rcases notMem_or_reference hamp d with ⟨hnot, -⟩ | ⟨-, r', hr', hwritten⟩
  · rw [htail]
    exact Text.replaceIn_append_of_notMem hnot s
  · -- an occurrence cannot begin at the ampersand of the reference, and there is no other one
    obtain ⟨tail', htail', hcons⟩ := exists_toList_eq_cons hr'
    have hprefix : ¬ r.toList <+: '&' :: (tail' ++ s) := by
      rw [← List.cons_append, ← hcons]
      exact fun h => hd (eq_of_prefix_append hr hr' h).symm
    rw [hwritten, hcons, List.cons_append, Text.replaceIn_cons hprefix, htail,
      Text.replaceIn_append_of_notMem htail']
    rfl

/-- Putting a character back in the place of its references is leaving it out of the reserved
ones. -/
lemma replaceIn_reference (hc : c ∈ reserved) (s : List Char) :
    Text.replaceIn r.toList [c] (escaped reserved reference s) =
      escaped (reserved.erase c) reference s := by
  induction s with
  | nil => rw [escaped, List.flatMap_nil, Text.replaceIn]; rfl
  | cons d s ih =>
    rw [escaped_cons, escaped_cons, ← ih]
    by_cases hd : d = c
    · obtain ⟨tail, -, htail⟩ := exists_toList_eq_cons hr
      have hne : r.toList ≠ [] := by simp [htail]
      have herased : c ∉ reserved.erase c := fun h => (OrderedSet.mem_erase.mp h).2 rfl
      rw [hd, if_pos hc, if_neg herased,
        reference_of_eq_some (entityReference?_eq_some_iff.mpr hr), Text.replaceIn_append hne]
    · have hsame : d ∈ reserved.erase c ↔ d ∈ reserved :=
        OrderedSet.mem_erase.trans (and_iff_left hd)
      rw [replaceIn_append_of_ne hamp hr hd]
      simp only [hsame]

end Erase

/-- If the ampersand is reserved, leaving a character out of the reserved ones is putting it back in
the place of its references in the escaped text.  So attribute values are escaped like text, with
apostrophes in the place of their references. -/
theorem escape_erase :
    (∀ reserved : OrderedSet Char, '&' ∈ reserved → ∀ c ∈ reserved, ∀ r,
      entityReference? c = some r → ∀ text, ∃ written,
        escape reserved .standard text = .ok written ∧
        escape (reserved.erase c) .standard text =
          .ok (Text.replaceAll r (String.singleton c) written)) ∧
    ∀ text, ∃ written, escape textEntities .standard text = .ok written ∧
      escape attributeEntities .standard text = .ok (Text.replaceAll "&apos;" "'" written) := by
  have hmain : ∀ reserved : OrderedSet Char, '&' ∈ reserved → ∀ c ∈ reserved, ∀ r,
      entityReference? c = some r → ∀ text, ∃ written,
        escape reserved .standard text = .ok written ∧
        escape (reserved.erase c) .standard text =
          .ok (Text.replaceAll r (String.singleton c) written) := by
    intro reserved hamp c hc r hr text
    refine ⟨_, escape_standard reserved text, ?_⟩
    rw [escape_standard, Text.replaceAll, String.toList_ofList, String.toList_singleton,
      replaceIn_reference hamp (entityReference?_eq_some_iff.mp hr) hc]
  refine ⟨hmain, fun text => ?_⟩
  have hattribute : textEntities.erase '\'' = attributeEntities := by decide
  have happly := hmain textEntities (by decide) '\'' (by decide) "&apos;" rfl text
  rwa [hattribute] at happly

/-- Reserved characters of which one also stands in references and another has none. -/
def lettersReserved : OrderedSet Char := .ofList ['&', '<', 'a', 't']

theorem escape_erase_ampersand :
    '&' ∈ lettersReserved ∧ entityReference? '&' = some "&amp;" ∧
    escape lettersReserved .standard "&lt; <a & &amp;" = .ok "&amp;lt; &lt;a &amp; &amp;amp;" ∧
    escape (lettersReserved.erase '&') .standard "&lt; <a & &amp;" =
      .ok (Text.replaceAll "&amp;" "&" "&amp;lt; &lt;a &amp; &amp;amp;") := by
  have hamp : '&' ∈ lettersReserved := by decide
  have hwritten : escape lettersReserved .standard "&lt; <a & &amp;" =
      .ok "&amp;lt; &lt;a &amp; &amp;amp;" := by
    decide
  obtain ⟨written, heq, herased⟩ :=
    escape_erase.1 lettersReserved hamp '&' hamp "&amp;" rfl "&lt; <a & &amp;"
  obtain rfl := Except.ok.inj (hwritten.symm.trans heq)
  exact ⟨hamp, rfl, hwritten, herased⟩

end SvgMarkup
