import SvgMarkup.Json
import SvgMarkup.Proofs.Reader.Scanner

/-!
# Reading flat JSON objects

A reader of JSON objects whose members are texts and natural numbers, after RFC 8259: blanks may
stand between the parts of an object, a text may hold any of the escapes, numbers have no
superfluous zeros.  The codes of surrogates stand for no character and are refused.

* `readObject?_renderObject`: what is written for the members of an object is read as these members.
* `isPrinted_renderObject`: no control character stands in a written object, so it is one line.
-/

namespace SvgMarkup

/-! ### Hexadecimal numerals -/

namespace Text

/-- The value of a hexadecimal digit. -/
def digitValue? (c : Char) : Option Nat :=
  if '0' ≤ c ∧ c ≤ '9' then some (c.toNat - '0'.toNat)
  else if 'a' ≤ c ∧ c ≤ 'f' then some (c.toNat - 'a'.toNat + 10)
  else if 'A' ≤ c ∧ c ≤ 'F' then some (c.toNat - 'A'.toNat + 10)
  else none

/-- The value of a hexadecimal numeral. -/
def hexValue? (digits : List Char) : Option Nat :=
  digits.foldlM (fun n c => (digitValue? c).map (16 * n + ·)) 0

lemma digitValue?_digitChar {d : Nat} (h : d < 16) : digitValue? (Nat.digitChar d) = some d := by
  have hall : ∀ d < 16, digitValue? (Nat.digitChar d) = some d := by decide
  exact hall d h

/-- A numeral of four digits has the value that it was written for. -/
lemma hexValue?_hexDigits {n : Nat} (h : n < 0x10000) : hexValue? (hexDigits 4 n) = some n := by
  have hdigit (m : Nat) : digitValue? (Nat.digitChar (m % 16)) = some (m % 16) :=
    digitValue?_digitChar (Nat.mod_lt m (by decide))
  simp only [hexDigits, hexValue?, List.nil_append, List.cons_append, List.foldlM_cons,
    List.foldlM_nil, hdigit, Option.map_some, Option.bind_eq_bind, Option.bind_some,
    Option.pure_def, Option.some.injEq]
  omega

end Text

namespace Json

open Reader

/-! ### The reader -/

/-- Whether a character is one of those that may stand between the parts of an object. -/
def isBlank (c : Char) : Bool := [' ', '\t', '\n', '\r'].contains c

/-- Reads a character that structures an object, with the blanks in front of it. -/
def readMark (mark : Char) (s : List Char) : Option (List Char) :=
  [mark].isPrefixOf? (s.dropWhile isBlank)

/-- The letters that stand behind a backslash, each with the character that it stands for. -/
def letterEscapes : List (Char × Char) :=
  [('"', '"'), ('\\', '\\'), ('/', '/'), ('b', '\x08'), ('f', '\x0c'), ('n', '\n'), ('r', '\r'),
    ('t', '\t')]

/-- Reads the code of a character in four hexadecimal digits. -/
def readCode (s : List Char) : Option (Char × List Char) := do
  let n ← Text.hexValue? (s.take 4)
  if 4 ≤ s.length ∧ n.isValidChar then some (Char.ofNat n, s.drop 4) else none

/-- Reads one character of a text.  Quotation marks, backslashes and control characters do not stand
for themselves. -/
def readCharacter : List Char → Option (Char × List Char)
  | [] => none
  | '\\' :: 'u' :: rest => readCode rest
  | '\\' :: c :: rest => (letterEscapes.lookup c).map (·, rest)
  | c :: rest => if c = '"' ∨ c = '\\' ∨ c.toNat < 0x20 then none else some (c, rest)

/-- Reads a text between quotation marks. -/
def readString (s : List Char) : Option (String × List Char) := do
  let s ← readMark '"' s
  let (text, s) := readAll readCharacter s
  let rest ← ['"'].isPrefixOf? s
  some (String.ofList text, rest)

/-- Reads a number. -/
def readNumber (s : List Char) : Option (Nat × List Char) :=
  let digits := (s.dropWhile isBlank).takeWhile Char.isDigit
  let n := Nat.ofDigitChars 10 digits 0
  if Nat.toDigits 10 n = digits then some (n, (s.dropWhile isBlank).dropWhile Char.isDigit)
  else none

/-- Reads the value of a member. -/
def readScalar (s : List Char) : Option (Scalar × List Char) :=
  ((readString s).map fun r => (.text r.1, r.2)).or
    ((readNumber s).map fun r => (.number r.1, r.2))

/-- Reads a member. -/
def readMember (s : List Char) : Option ((String × Scalar) × List Char) := do
  let (key, s) ← readString s
  let s ← readMark ':' s
  let (value, rest) ← readScalar s
  some ((key, value), rest)

/-- Reads a member that follows another one. -/
def readNextMember (s : List Char) : Option ((String × Scalar) × List Char) := do
  let s ← readMark ',' s
  readMember s

/-- Reads members between commas. -/
def readMembers (s : List Char) : List (String × Scalar) × List Char :=
  match readMember s with
  | none => ([], s)
  | some (m, s) => (m :: (readAll readNextMember s).1, (readAll readNextMember s).2)

/-- Reads an object, after which only blanks may follow. -/
def readObject? (s : List Char) : Option (List (String × Scalar)) := do
  let s ← readMark '\x7b' s
  let (members, s) := readMembers s
  let rest ← readMark '\x7d' s
  if rest.all isBlank then some members else none

/-! ### Reading what was written -/

lemma readMark_cons (mark : Char) (h : isBlank mark = false) (rest : List Char) :
    readMark mark (mark :: rest) = some rest := by
  rw [readMark, List.dropWhile_cons_of_neg (by simp [h])]
  simp [List.isPrefixOf?]

lemma readMark_of_ne {mark c : Char} (hc : isBlank c = false) (hne : c ≠ mark)
    (rest : List Char) : readMark mark (c :: rest) = none := by
  rw [readMark, List.dropWhile_cons_of_neg (by simp [hc])]
  simp [List.isPrefixOf?, hne.symm]

/-- A blank in front of a text or a number is passed over. -/
lemma readString_blank (s : List Char) : readString (' ' :: s) = readString s := rfl

lemma readScalar_blank (s : List Char) : readScalar (' ' :: s) = readScalar s := rfl

lemma readMember_blank (s : List Char) : readMember (' ' :: s) = readMember s := by
  rw [readMember, readMember, readString_blank]

/-- What is written for a character is read as that character. -/
lemma readCharacter_escapeChar (c : Char) (rest : List Char) :
    readCharacter (escapeChar c ++ rest) = some (c, rest) := by
  unfold escapeChar
  by_cases hself : c = '"' ∨ c = '\\'
  · rcases hself with rfl | rfl <;> rfl
  by_cases hn : c = '\n'
  · subst hn; rfl
  by_cases hr : c = '\r'
  · subst hr; rfl
  by_cases ht : c = '\t'
  · subst ht; rfl
  by_cases hb : c = '\x08'
  · subst hb; rfl
  by_cases hf : c = '\x0c'
  · subst hf; rfl
  rw [if_neg hself, if_neg hn, if_neg hr, if_neg ht, if_neg hb, if_neg hf]
  by_cases hcontrol : c.toNat < 0x20
  · have hlen := Text.length_hexDigits 4 c.toNat
    have hvalue := Text.hexValue?_hexDigits (Nat.lt_trans hcontrol (by decide))
    have htake : (Text.hexDigits 4 c.toNat ++ rest).take 4 = Text.hexDigits 4 c.toNat :=
      List.take_left' hlen
    have hdrop : (Text.hexDigits 4 c.toNat ++ rest).drop 4 = rest := List.drop_left' hlen
    have hroom : 4 ≤ (Text.hexDigits 4 c.toNat ++ rest).length := by
      rw [List.length_append, hlen]
      omega
    have hvalid : c.toNat.isValidChar := c.valid
    rw [if_pos hcontrol, List.cons_append, List.cons_append, readCharacter, readCode, htake, hdrop,
      hvalue]
    simp only [Option.bind_eq_bind, Option.bind_some, hroom, hvalid, and_self, if_true,
      Char.ofNat_toNat]
  · obtain ⟨hquote, hbackslash⟩ := not_or.mp hself
    rw [if_neg hcontrol, List.singleton_append]
    unfold readCharacter
    split <;> simp_all

lemma toList_literal (s : String) :
    (literal s).toList = ['"'] ++ s.toList.flatMap escapeChar ++ ['"'] := by
  simp [literal]

/-- A text is read back, whatever follows it. -/
lemma readString_literal (s : String) (rest : List Char) :
    readString ((literal s).toList ++ rest) = some (s, rest) := by
  have hne : ∀ c ∈ s.toList, escapeChar c ≠ [] := by
    intro c _ h
    have hread := readCharacter_escapeChar c []
    rw [h] at hread
    cases hread
  have hend : readCharacter ('"' :: rest) = none := rfl
  have hall := readAll_flatMap (fun c _ tail => readCharacter_escapeChar c tail) hne hend
  rw [List.map_id'] at hall
  have hlist : (literal s).toList ++ rest =
      '"' :: (s.toList.flatMap escapeChar ++ '"' :: rest) := by
    rw [toList_literal, List.append_assoc, List.append_assoc]
    rfl
  rw [hlist, readString, readMark_cons '"' rfl]
  simp only [Option.bind_eq_bind, Option.bind_some, hall, String.ofList_toList,
    List.isPrefixOf?, BEq.rfl, if_true]

/-- Whether a number ends in front of some characters. -/
def EndsNumber (s : List Char) : Prop := ∀ c ∈ s.head?, c.isDigit = false

lemma endsNumber_cons {c : Char} (h : c.isDigit = false) (s : List Char) : EndsNumber (c :: s) := by
  intro d hd
  obtain rfl := Option.some.inj hd
  exact h

lemma isBlank_of_isDigit {c : Char} (h : c.isDigit = true) : isBlank c = false := by
  rw [isBlank, ← Bool.not_eq_true, List.contains_iff_mem]
  intro hmem
  simp only [List.mem_cons, List.not_mem_nil, or_false] at hmem
  rcases hmem with rfl | rfl | rfl | rfl <;> exact absurd h (by decide)

lemma toList_toString (n : Nat) : (toString n).toList = Nat.toDigits 10 n := by
  rw [Nat.toString_eq_ofList_toDigits, String.toList_ofList]

lemma isDigit_of_mem_toString {n : Nat} {c : Char} (h : c ∈ (toString n).toList) :
    c.isDigit = true := by
  rw [toList_toString] at h
  exact Nat.isDigit_of_mem_toDigits (by decide) (by decide) h

/-- A number is written as a digit and further ones. -/
lemma exists_toList_toString_eq_cons (n : Nat) :
    ∃ d ds, (toString n).toList = d :: ds ∧ d.isDigit = true := by
  have hne : (toString n).toList ≠ [] := by
    rw [toList_toString]
    exact Nat.toDigits_ne_nil
  obtain ⟨d, ds, hcons⟩ := List.exists_cons_of_ne_nil hne
  exact ⟨d, ds, hcons, isDigit_of_mem_toString (hcons ▸ List.mem_cons_self)⟩

/-- A number is read back if no digit follows. -/
lemma readNumber_toString (n : Nat) {rest : List Char}
    (hrest : EndsNumber rest) :
    readNumber ((toString n).toList ++ rest) = some (n, rest) := by
  obtain ⟨d, ds, hcons, hd⟩ := exists_toList_toString_eq_cons n
  have hblanks : ((toString n).toList ++ rest).dropWhile isBlank = (toString n).toList ++ rest := by
    rw [hcons]
    exact List.dropWhile_cons_of_neg (by simp [isBlank_of_isDigit hd])
  have hdigits : ∀ c ∈ (toString n).toList, c.isDigit = true := fun _ => isDigit_of_mem_toString
  obtain ⟨htake, hdrop⟩ := takeWhile_append_of_head hdigits hrest
  rw [readNumber, hblanks, htake, hdrop, toList_toString]
  simp only [Nat.ofDigitChars_ten_toDigits, if_true]

/-- The value of a member is read back if no digit follows. -/
lemma readScalar_render (value : Scalar) {rest : List Char}
    (hrest : EndsNumber rest) :
    readScalar (value.render.toList ++ rest) = some (value, rest) := by
  cases value with
  | text s =>
    rw [readScalar, Scalar.render, readString_literal]
    rfl
  | number n =>
    obtain ⟨d, ds, hcons, hd⟩ := exists_toList_toString_eq_cons n
    have hne : d ≠ '"' := by
      rintro rfl
      exact absurd hd (by decide)
    have hnone : readString ((toString n).toList ++ rest) = none := by
      rw [hcons, readString, List.cons_append, readMark_of_ne (isBlank_of_isDigit hd) hne]
      rfl
    rw [readScalar, Scalar.render, hnone, readNumber_toString n hrest]
    rfl

/-- A member is read back if no digit follows. -/
lemma readMember_renderMember (m : String × Scalar) {rest : List Char}
    (hrest : EndsNumber rest) :
    readMember ((renderMember m.1 m.2).toList ++ rest) = some (m, rest) := by
  have hlist : (renderMember m.1 m.2).toList ++ rest =
      (literal m.1).toList ++ ':' :: ' ' :: (m.2.render.toList ++ rest) := by
    simp [renderMember]
  rw [hlist, readMember, readString_literal]
  simp only [Option.bind_eq_bind, Option.bind_some, readMark_cons ':' rfl, readScalar_blank,
    readScalar_render m.2 hrest]

/-- What is written for a member that follows another one. -/
def writeNextMember (m : String × Scalar) : List Char :=
  ',' :: ' ' :: (renderMember m.1 m.2).toList

lemma readNextMember_append (m : String × Scalar) {rest : List Char} (hrest : EndsNumber rest) :
    readNextMember (writeNextMember m ++ rest) = some (m, rest) := by
  rw [readNextMember, writeNextMember, List.cons_append, List.cons_append, readMark_cons ',' rfl]
  simp only [Option.bind_eq_bind, Option.bind_some, readMember_blank,
    readMember_renderMember m hrest]

/-- Members between commas are read back. -/
lemma readMembers_intercalate (members : List (String × Scalar)) (rest : List Char) :
    readMembers ((String.intercalate ", " (members.map fun m => renderMember m.1 m.2)).toList ++
      '\x7d' :: rest) = (members, '\x7d' :: rest) := by
  cases members with
  | nil =>
    have hnone : readMember ('\x7d' :: rest) = none := by
      rw [readMember, readString, readMark_of_ne rfl (by decide)]
      rfl
    rw [readMembers, List.map_nil, String.intercalate_nil, String.toList_empty, List.nil_append,
      hnone]
  | cons m ms =>
    have hlist : (String.intercalate ", "
        ((m :: ms).map fun m => renderMember m.1 m.2)).toList ++ '\x7d' :: rest =
        (renderMember m.1 m.2).toList ++ (ms.flatMap writeNextMember ++ '\x7d' :: rest) := by
      rw [List.map_cons, toList_intercalate_cons, List.flatMap_map, List.append_assoc]
      rfl
    have hclose : EndsNumber ('\x7d' :: rest) := endsNumber_cons rfl rest
    have hnext (b : String × Scalar) (tail : List Char) : EndsNumber (writeNextMember b ++ tail) :=
      endsNumber_cons rfl _
    have hend : readNextMember ('\x7d' :: rest) = none := by
      rw [readNextMember, readMark_of_ne rfl (by decide)]
      rfl
    have hall : readAll readNextMember (ms.flatMap writeNextMember ++ '\x7d' :: rest) =
        (ms, '\x7d' :: rest) := by
      have h := readAll_flatMap_of (fun b _ _ htail => readNextMember_append b htail)
        (fun b (_ : b ∈ ms) => hnext b) (fun _ _ => List.cons_ne_nil _ _) hclose hend
      rwa [List.map_id'] at h
    have htail : EndsNumber (ms.flatMap writeNextMember ++ '\x7d' :: rest) := by
      cases ms with
      | nil => exact hclose
      | cons b ms => exact endsNumber_cons rfl _
    rw [hlist, readMembers, readMember_renderMember m htail]
    simp only [hall]

/-- What is written for the members of an object is read as these members. -/
theorem readObject?_renderObject (members : List (String × Scalar)) :
    readObject? (renderObject members).toList = some members := by
  have hlist : (renderObject members).toList = '\x7b' ::
      ((String.intercalate ", " (members.map fun m => renderMember m.1 m.2)).toList ++
        ['\x7d']) := by
    simp [renderObject]
  rw [hlist, readObject?, readMark_cons '\x7b' rfl]
  simp only [Option.bind_eq_bind, Option.bind_some, readMembers_intercalate,
    readMark_cons '\x7d' rfl, List.all_nil, if_true]

-- Blanks and escapes are read that are never written, but no superfluous zeros, no superfluous
-- commas and no halves of surrogate pairs.
example :
    (readObject? " \x7b\"a\\u00E9\\/\" :\t7 , \"b\":\"\"\x7d ".toList,
      readObject? "\x7b\"a\":07\x7d".toList, readObject? "\x7b\"a\":1,\x7d".toList,
      readObject? "\x7b\"\\ud83d\":1\x7d".toList) =
    (some [("aé/", .number 7), ("b", .text "")], none, none, none) := by
  cbv

/-! ### Objects on one line -/

/-- Whether no control character stands among some characters. -/
def IsPrinted (s : List Char) : Prop := ∀ a ∈ s, 0x20 ≤ a.toNat

instance decidableIsPrinted (s : List Char) : Decidable (IsPrinted s) :=
  List.decidableBAll (fun a : Char => 0x20 ≤ a.toNat) s

lemma IsPrinted.append {s t : List Char} (hs : IsPrinted s) (ht : IsPrinted t) :
    IsPrinted (s ++ t) :=
  List.forall_mem_append.mpr ⟨hs, ht⟩

lemma IsPrinted.flatMap {α : Type} {f : α → List Char} (h : ∀ a, IsPrinted (f a)) (l : List α) :
    IsPrinted (l.flatMap f) := by
  intro c hc
  obtain ⟨a, -, hmem⟩ := List.mem_flatMap.mp hc
  exact h a c hmem

lemma isPrinted_hexDigits (width n : Nat) : IsPrinted (Text.hexDigits width n) := by
  have hdigit : ∀ d < 16, 0x20 ≤ (Nat.digitChar d).toNat := by decide
  induction width generalizing n with
  | zero => exact List.forall_mem_nil _
  | succ width ih =>
    refine (ih (n / 16)).append (List.forall_mem_singleton.mpr ?_)
    exact hdigit _ (Nat.mod_lt n (by decide))

lemma isPrinted_escapeChar (c : Char) : IsPrinted (escapeChar c) := by
  unfold escapeChar
  split
  · next hself => rcases hself with rfl | rfl <;> decide
  split
  · decide
  split
  · decide
  split
  · decide
  split
  · decide
  split
  · decide
  split
  · have hmark : IsPrinted ['\\', 'u'] := by decide
    exact hmark.append (isPrinted_hexDigits 4 c.toNat)
  · next hcontrol => exact List.forall_mem_singleton.mpr (Nat.le_of_not_lt hcontrol)

lemma isPrinted_literal (s : String) : IsPrinted (literal s).toList := by
  have hquote : IsPrinted ['"'] := List.forall_mem_singleton.mpr (by decide)
  rw [toList_literal]
  exact (hquote.append (.flatMap isPrinted_escapeChar _)).append hquote

lemma isPrinted_render (value : Scalar) : IsPrinted value.render.toList := by
  cases value with
  | text s => exact isPrinted_literal s
  | number n =>
    intro c hc
    have hdigit : c.isDigit = true := isDigit_of_mem_toString hc
    rw [Char.isDigit, Bool.and_eq_true, decide_eq_true_eq, ge_iff_le, UInt32.le_iff_toNat_le]
      at hdigit
    exact Nat.le_trans (by decide) hdigit.1

lemma isPrinted_renderMember (m : String × Scalar) :
    IsPrinted (renderMember m.1 m.2).toList := by
  have hcolon : IsPrinted ": ".toList := by decide
  rw [renderMember, String.toList_append, String.toList_append]
  exact ((isPrinted_literal m.1).append hcolon).append (isPrinted_render m.2)

/-- No control character stands in a written object. -/
theorem isPrinted_renderObject (members : List (String × Scalar)) :
    IsPrinted (renderObject members).toList := by
  have hmembers : IsPrinted
      (String.intercalate ", " (members.map fun m => renderMember m.1 m.2)).toList := by
    cases members with
    | nil => exact List.forall_mem_nil _
    | cons m ms =>
      have hcomma : IsPrinted ", ".toList := by decide
      rw [List.map_cons, toList_intercalate_cons, List.flatMap_map]
      exact (isPrinted_renderMember m).append
        (.flatMap (fun b => hcomma.append (isPrinted_renderMember b)) ms)
  have hbraces : IsPrinted ['\x7b'] ∧ IsPrinted ['\x7d'] := by decide
  rw [renderObject, String.toList_append, String.toList_append]
  exact (hbraces.1.append hmembers).append hbraces.2

end Json

end SvgMarkup
