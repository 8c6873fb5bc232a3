import Mathlib.Data.List.Infix
import SvgMarkup.Text.Blank

/-!
# Scanning

The means by which plain markup is taken apart: names, pieces that end at a fixed text and
sequences of items of one form.

* `readAll_flatMap`: items that are read one by one are read in sequence.
* `dropInfix?_append`: a piece that does not contain the text at which it ends is read up to its
  end, also if it ends with the beginning of that text.
-/

namespace SvgMarkup.Reader

variable {α : Type}

/-! ### Sequences of items -/

/-- Reads as many items as stand at the start of some characters.  The result is the items and the
characters after them. -/
def readAll (read : List Char → Option (α × List Char)) (s : List Char) : List α × List Char :=
  match read s with
  | none => ([], s)
  | some (a, rest) =>
    if rest.length < s.length then
      (a :: (readAll read rest).1, (readAll read rest).2)
    else ([], s)
termination_by s.length

section ReadAll

variable {read : List Char → Option (α × List Char)}

lemma readAll_of_eq_none {s : List Char} (h : read s = none) : readAll read s = ([], s) := by
  rw [readAll, h]

lemma readAll_append {w rest : List Char} {a : α} (h : read (w ++ rest) = some (a, rest))
    (hw : w ≠ []) :
    readAll read (w ++ rest) = (a :: (readAll read rest).1, (readAll read rest).2) := by
  have hlen : rest.length < (w ++ rest).length := by
    have := List.length_pos_of_ne_nil hw
    rw [List.length_append]
    omega
  rw [readAll, h]
  simp only [hlen, if_true]

/-- Items that are read one by one, if what follows them is of a form that all of them have, are
read in sequence. -/
lemma readAll_flatMap_of {β : Type} {item : β → α} {write : β → List Char}
    {P : List Char → Prop} {bs : List β} {rest : List Char}
    (hread : ∀ b ∈ bs, ∀ tail, P tail → read (write b ++ tail) = some (item b, tail))
    (hform : ∀ b ∈ bs, ∀ tail, P (write b ++ tail)) (hne : ∀ b ∈ bs, write b ≠ [])
    (hrest : P rest) (hnone : read rest = none) :
    readAll read (bs.flatMap write ++ rest) = (bs.map item, rest) := by
  induction bs with
  | nil => simpa using readAll_of_eq_none hnone
  | cons b bs ih =>
    have ih' := ih (fun b' hb' => hread b' (List.mem_cons_of_mem _ hb'))
      (fun b' hb' => hform b' (List.mem_cons_of_mem _ hb'))
      (fun b' hb' => hne b' (List.mem_cons_of_mem _ hb'))
    have htail : P (bs.flatMap write ++ rest) := by
      cases bs with
      | nil => exact hrest
      | cons b' bs =>
        rw [List.flatMap_cons, List.append_assoc]
        exact hform b' (by simp) _
    rw [List.flatMap_cons, List.append_assoc,
      readAll_append (hread b List.mem_cons_self _ htail) (hne b List.mem_cons_self), ih',
      List.map_cons]

/-- Items that are read one by one, whatever follows them, are read in sequence. -/
lemma readAll_flatMap {β : Type} {item : β → α} {write : β → List Char} {bs : List β}
    {rest : List Char} (hread : ∀ b ∈ bs, ∀ tail, read (write b ++ tail) = some (item b, tail))
    (hne : ∀ b ∈ bs, write b ≠ []) (hrest : read rest = none) :
    readAll read (bs.flatMap write ++ rest) = (bs.map item, rest) :=
  readAll_flatMap_of (P := fun _ => True) (fun b hb tail _ => hread b hb tail)
    (fun _ _ _ => trivial) hne trivial hrest

end ReadAll

/-! ### Texts between separators -/

/-- Texts between separators are the first one and then the others, each with a separator in front
of it. -/
lemma toList_intercalate_cons (separator t : String) (ts : List String) :
    (separator.intercalate (t :: ts)).toList =
      t.toList ++ ts.flatMap fun u => separator.toList ++ u.toList := by
  induction ts generalizing t with
  | nil => rw [String.intercalate_singleton, List.flatMap_nil, List.append_nil]
  | cons u ts ih =>
    rw [String.intercalate_cons_cons, String.toList_append, String.toList_append, ih,
      List.flatMap_cons, List.append_assoc, List.append_assoc]

/-! ### Names -/

/-- A run of characters of one class ends where no character of that class follows. -/
lemma takeWhile_append_of_head {p : α → Bool} {l rest : List α} (h : ∀ a ∈ l, p a)
    (hrest : ∀ a ∈ rest.head?, p a = false) :
    (l ++ rest).takeWhile p = l ∧ (l ++ rest).dropWhile p = rest := by
  rw [List.takeWhile_append_of_pos h, List.dropWhile_append_of_pos h]
  cases rest with
  | nil => exact ⟨List.append_nil l, rfl⟩
  | cons a rest => simp [hrest a rfl]

/-- Whether a character may stand in a name: it is neither blank nor one of the characters that
structure markup. -/
def isNameChar (c : Char) : Bool :=
  !Text.isBlank c && !(['<', '>', '/', '=', '"', '\'', '&', '?', '!'].contains c)

/-- Reads the longest name at the start of some characters. -/
def readName (s : List Char) : String × List Char :=
  (String.ofList (s.takeWhile isNameChar), s.dropWhile isNameChar)

/-- A name ends where no character follows that could continue it. -/
lemma readName_append {name : String} (h : ∀ c ∈ name.toList, isNameChar c) {rest : List Char}
    (hrest : ∀ c ∈ rest.head?, isNameChar c = false) :
    readName (name.toList ++ rest) = (name, rest) := by
  obtain ⟨htake, hdrop⟩ := takeWhile_append_of_head h hrest
  rw [readName, htake, hdrop, String.ofList_toList]

/-! ### Pieces that end at a fixed text -/

/-- Of two occurrences of a character in one text, the earlier one stands before the later one. -/
lemma mem_of_append_cons_eq {l₁ l₂ r₁ r₂ : List α} {a : α} (h : l₁ ++ a :: r₁ = l₂ ++ a :: r₂)
    (hlen : l₂.length < l₁.length) : a ∈ l₁ := by
  have hget : (l₁ ++ a :: r₁)[l₂.length]? = some a := by
    rw [h]
    simp
  rw [List.getElem?_append_left hlen] at hget
  exact List.mem_of_getElem? hget

/-- A piece ends at the first occurrence of a text whose last character occurs in it only once.  No
earlier occurrence can begin inside the piece and end behind it. -/
lemma dropInfix?_append {init body rest : List Char} {last : Char} (hlast : last ∉ init)
    (hbody : ¬ init ++ [last] <:+: body) :
    (body ++ (init ++ [last]) ++ rest).dropInfix? (init ++ [last]) = some (body, rest) := by
  rw [List.dropInfix?_eq_some_iff]
  refine ⟨⟨init ++ [last], rfl, BEq.rfl⟩, ?_⟩
  intro before stop after heq hstop
  obtain rfl : stop = init ++ [last] := eq_of_beq hstop
  by_contra hlt
  rw [List.append_assoc, List.append_eq_append_iff] at heq
  rcases heq with ⟨mid, hmid, hrest⟩ | ⟨mid, hmid, -⟩
  · rcases List.eq_nil_or_concat mid with rfl | ⟨mid', z, rfl⟩
    · exact hbody ⟨before, [], by simpa using hmid⟩
    · -- the occurrence ends behind the piece, so its last character stands among `init`
      rw [List.concat_eq_append, ← List.append_assoc, ← List.append_assoc] at hmid
      obtain ⟨hinit, hz⟩ := List.append_inj' hmid rfl
      obtain rfl : last = z := by simpa using hz
      have hlen : mid'.length < init.length := by
        have := congrArg List.length hinit
        simp only [List.length_append] at this
        omega
      exact hlast (mem_of_append_cons_eq (by simpa using hrest) hlen)
  · exact hbody ⟨before, mid, hmid.symm⟩

/-- A piece that ends at one character ends at its first occurrence. -/
lemma dropInfix?_singleton {c : Char} {body : List Char} (h : c ∉ body) (rest : List Char) :
    (body ++ c :: rest).dropInfix? [c] = some (body, rest) := by
  have hinf : ¬ [] ++ [c] <:+: body := fun hinf => h (hinf.subset (by simp))
  have hdrop := @dropInfix?_append [] body rest c List.not_mem_nil hinf
  simpa using hdrop

end SvgMarkup.Reader
