import SvgMarkup.Proofs.Reader.Plain
import SvgMarkup.Proofs.Reader.Reference
import SvgMarkup.Rendering.Markup

/-!
# The tokens of plain markup

Plain markup is a sequence of tokens: opening tags, closing tags and nodes that have no children.
This file gives the written form of each token and the function that reads one token from the start
of some markup.

The main result is `readToken_append`: what is written for a token is read as that token, whatever
follows it, except that a text has to end at markup or at the end of the input.
-/

namespace SvgMarkup.Reader

/-- The tokens of plain markup. -/
inductive Token where
  /-- A node without children. -/
  | whole (n : Node)
  | opening (t : Tag)
  | closing (name : String)

namespace Token

/-- A token with the texts of its attribute values in place of the values. -/
def plain : Token → Token
  | whole n => whole n.plain
  | opening t => opening t.plain
  | closing name => closing name

/-- Whether a token is a text. -/
def IsText : Token → Prop
  | whole n => n.IsText
  | _ => False

/-- A token that can be read back. -/
def Readable : Token → Prop
  | whole n => n.Readable ∧ n.children = []
  | opening t => t.Readable
  | closing name => ReadableName name

end Token

/-! ### Writing -/

/-- The written form of an attribute. -/
def writeAttribute (a : Attribute) : List Char :=
  ' ' :: (a.name.toList ++ ['=', '"'] ++
    escaped attributeEntities reference a.shown.toList ++ ['"'])

/-- The written form of what a tag holds. -/
def writeTag (t : Tag) : List Char := t.name.toList ++ t.attributes.flatMap writeAttribute

/-- The written form of a node without children. -/
def writeWhole : Node → List Char
  | .element t _ => '<' :: (writeTag t ++ ['/', '>'])
  | .text s => escaped textEntities reference s.toList
  | .comment s => ['<', '!', '-', '-'] ++ s.toList ++ ['-', '-', '>']
  | .cdata s => ['<', '!', '[', 'C', 'D', 'A', 'T', 'A', '['] ++ s.toList ++ [']', ']', '>']
  | .doctype s =>
    ['<', '!', 'D', 'O', 'C', 'T', 'Y', 'P', 'E'] ++ (Config.separated s).toList ++ ['>']
  | .instruction i => ['<', '?'] ++ i.target.toList ++ [' '] ++ i.body.toList ++ ['?', '>']
  | _ => []

/-- The written form of a token. -/
def Token.write : Token → List Char
  | whole n => writeWhole n
  | opening t => '<' :: (writeTag t ++ ['>'])
  | closing name => '<' :: '/' :: (name.toList ++ ['>'])

/-! ### Reading -/

/-- Reads an attribute, the value of which ends at the first double quote. -/
def readAttribute : List Char → Option (Attribute × List Char)
  | ' ' :: s => do
    let (name, s) := readName s
    let s ← ['=', '"'].isPrefixOf? s
    let (value, rest) ← s.dropInfix? ['"']
    if h : name ≠ "" then some (⟨name, .text (String.ofList (decode value)), h⟩, rest) else none
  | _ => none

/-- The tag with the given name and attributes, unless the name is empty or an attribute is
repeated. -/
def tagOf? (name : String) (attributes : List Attribute) : Option Tag :=
  if h : name ≠ "" ∧ (attributes.map (·.name)).Nodup then some ⟨name, attributes, h.1, h.2⟩
  else none

/-- Reads what a tag holds: a name and attributes. -/
def readTag (s : List Char) : Option (Tag × List Char) := do
  let (name, s) := readName s
  let (attributes, rest) := readAll readAttribute s
  let tag ← tagOf? name attributes
  return (tag, rest)

/-- Reads the first tag of an element.  If it ends in a slash, the element has no children. -/
def readOpeningTag (s : List Char) : Option (Token × List Char) := do
  let (tag, s) ← readTag s
  match s with
  | '>' :: rest => some (.opening tag, rest)
  | '/' :: '>' :: rest => some (.whole (.element tag []), rest)
  | _ => none

/-- Reads a closing tag. -/
def readClosingTag (s : List Char) : Option (Token × List Char) :=
  let (name, s) := readName s
  match s with
  | '>' :: rest => some (.closing name, rest)
  | _ => none

/-- Reads a processing instruction: a name, one space and a body. -/
def readInstruction (s : List Char) : Option (Token × List Char) :=
  let (target, s) := readName s
  match s with
  | ' ' :: s => do
    let (body, rest) ← s.dropInfix? ['?', '>']
    if h : target ≠ "" then some (.whole (.instruction ⟨target, String.ofList body, h⟩), rest)
    else none
  | _ => none

/-- Some characters without the space with which they may begin. -/
def dropSpace : List Char → List Char
  | ' ' :: s => s
  | s => s

/-- Reads a comment, character data or a document type declaration. -/
def readDeclaration : List Char → Option (Token × List Char)
  | '-' :: '-' :: s => do
    let (body, rest) ← s.dropInfix? ['-', '-', '>']
    return (.whole (.comment (String.ofList body)), rest)
  | '[' :: 'C' :: 'D' :: 'A' :: 'T' :: 'A' :: '[' :: s => do
    let (body, rest) ← s.dropInfix? [']', ']', '>']
    return (.whole (.cdata (String.ofList body)), rest)
  | 'D' :: 'O' :: 'C' :: 'T' :: 'Y' :: 'P' :: 'E' :: s => do
    let (body, rest) ← s.dropInfix? ['>']
    return (.whole (.doctype (String.ofList (dropSpace body))), rest)
  | _ => none

/-- Reads what stands behind a `<`. -/
def readMarkup : List Char → Option (Token × List Char)
  | '!' :: s => readDeclaration s
  | '?' :: s => readInstruction s
  | '/' :: s => readClosingTag s
  | s => readOpeningTag s

/-- Reads one token.  A text runs up to the next `<`. -/
def readToken : List Char → Option (Token × List Char)
  | [] => none
  | c :: s =>
    if c = '<' then readMarkup s
    else some (.whole (.text (String.ofList (decode ((c :: s).takeWhile (· ≠ '<'))))),
      (c :: s).dropWhile (· ≠ '<'))

/-! ### What is written is read -/

/-- The input is at its end or markup follows, so that a text ends here. -/
def AtMarkup (rest : List Char) : Prop := ∀ c ∈ rest.head?, c = '<'

/-- A reserved character other than the ampersand does not occur in escaped text. -/
lemma notMem_escaped_reference {reserved : OrderedSet Char} {c : Char} (hc : c ∈ reserved)
    (hspecial : c ∈ ['\'', '"', '<', '>']) (s : List Char) : c ∉ escaped reserved reference s :=
  notMem_escaped hc (fun b _ => notMem_reference hspecial b) s

/-- A value ends at the first double quote, since escaping leaves none in it. -/
lemma readAttribute_append {a : Attribute} (ha : ReadableName a.name) (tail : List Char) :
    readAttribute (writeAttribute a ++ tail) = some (a.plain, tail) := by
  have hname : readName (a.name.toList ++ '=' :: '"' ::
      (escaped attributeEntities reference a.shown.toList ++ '"' :: tail)) =
      (a.name, '=' :: '"' :: (escaped attributeEntities reference a.shown.toList ++ '"' :: tail)) :=
    readName_append ha (by simp [isNameChar])
  have hquote : '"' ∉ escaped attributeEntities reference a.shown.toList :=
    notMem_escaped_reference (by decide) (by decide) _
  have hdecode : decode (escaped attributeEntities reference a.shown.toList) = a.shown.toList :=
    decode_escaped (by decide) _
  simp only [writeAttribute, List.cons_append, List.append_assoc, List.nil_append, readAttribute,
    hname, List.isPrefixOf?, BEq.rfl, if_true, dropInfix?_singleton hquote tail, hdecode,
    Option.bind_eq_bind, Option.bind_some, String.ofList_toList]
  exact dif_pos a.name_ne

lemma tagOf?_plain (t : Tag) : tagOf? t.name (t.attributes.map Attribute.plain) = some t.plain :=
  dif_pos ⟨t.name_ne, t.plain.distinct⟩

/-- The attributes of a tag end where no space follows. -/
lemma readTag_append {t : Tag} (ht : t.Readable) {rest : List Char}
    (hend : ∀ c ∈ rest.head?, isNameChar c = false) (hstop : readAttribute rest = none) :
    readTag (writeTag t ++ rest) = some (t.plain, rest) := by
  have hname : readName (t.name.toList ++ (t.attributes.flatMap writeAttribute ++ rest)) =
      (t.name, t.attributes.flatMap writeAttribute ++ rest) := by
    -- the name ends at the space before the first attribute, or else where the tag ends
    refine readName_append ht.1 ?_
    cases t.attributes with
    | nil => exact hend
    | cons a as =>
      rintro c hc
      obtain rfl : ' ' = c := by simpa [writeAttribute] using hc
      decide
  have hattributes : readAll readAttribute (t.attributes.flatMap writeAttribute ++ rest) =
      (t.attributes.map Attribute.plain, rest) :=
    readAll_flatMap (fun a ha tail => readAttribute_append (ht.2 a ha) tail)
      (fun a _ => by simp [writeAttribute]) hstop
  simp only [readTag, writeTag, List.append_assoc, hname, hattributes, tagOf?_plain]
  rfl

/-- The name of a tag begins with a character that tells the tag from other markup. -/
lemma readMarkup_writeTag {t : Tag} (ht : t.Readable) (rest : List Char) :
    readMarkup (writeTag t ++ rest) = readOpeningTag (writeTag t ++ rest) := by
  cases hname : t.name.toList with
  | nil => exact absurd (String.toList_eq_nil_iff.mp hname) t.name_ne
  | cons c cs =>
    have hc : isNameChar c := ht.1 c (by simp [hname])
    have hne : ∀ d, isNameChar d = false → c ≠ d := by
      rintro d hd rfl
      exact absurd hc (by simp [hd])
    have hhead : writeTag t ++ rest =
        c :: (cs ++ (t.attributes.flatMap writeAttribute ++ rest)) := by
      simp [writeTag, hname]
    rw [hhead, readMarkup]
    · rintro s ⟨⟩
      exact hne '!' (by decide) rfl
    · rintro s ⟨⟩
      exact hne '?' (by decide) rfl
    · rintro s ⟨⟩
      exact hne '/' (by decide) rfl

lemma readToken_lt (s : List Char) : readToken ('<' :: s) = readMarkup s := rfl

lemma readToken_opening {t : Tag} (ht : t.Readable) (rest : List Char) :
    readToken ((Token.opening t).write ++ rest) = some (.opening t.plain, rest) := by
  have htag : readTag (writeTag t ++ '>' :: rest) = some (t.plain, '>' :: rest) :=
    readTag_append ht (by simp [isNameChar]) rfl
  have hwrite : (Token.opening t).write ++ rest = '<' :: (writeTag t ++ '>' :: rest) := by
    simp [Token.write]
  rw [hwrite, readToken_lt, readMarkup_writeTag ht, readOpeningTag, htag]
  rfl

lemma readToken_closing {name : String} (hname : ReadableName name) (rest : List Char) :
    readToken ((Token.closing name).write ++ rest) = some (.closing name, rest) := by
  have hread : readName (name.toList ++ '>' :: rest) = (name, '>' :: rest) :=
    readName_append hname (by simp [isNameChar])
  have hwrite : (Token.closing name).write ++ rest =
      '<' :: '/' :: (name.toList ++ '>' :: rest) := by
    simp [Token.write]
  rw [hwrite, readToken_lt, readMarkup, readClosingTag, hread]
  rfl

lemma readToken_element {t : Tag} (ht : t.Readable) (children : List Node) (rest : List Char) :
    readToken (writeWhole (.element t children) ++ rest) =
      some (.whole (.element t.plain []), rest) := by
  have htag : readTag (writeTag t ++ '/' :: '>' :: rest) = some (t.plain, '/' :: '>' :: rest) :=
    readTag_append ht (by simp [isNameChar]) rfl
  have hwrite : writeWhole (.element t children) ++ rest =
      '<' :: (writeTag t ++ '/' :: '>' :: rest) := by
    simp [writeWhole]
  rw [hwrite, readToken_lt, readMarkup_writeTag ht, readOpeningTag, htag]
  rfl

/-- A text contains no `<`, so it runs exactly up to the markup that follows it. -/
lemma readToken_text {s : String} (hs : s ≠ "") {rest : List Char} (hrest : AtMarkup rest) :
    readToken (writeWhole (.text s) ++ rest) = some (.whole (.text s), rest) := by
  have hlt : '<' ∉ escaped textEntities reference s.toList :=
    notMem_escaped_reference (by decide) (by decide) _
  have hdecode : decode (escaped textEntities reference s.toList) = s.toList :=
    decode_escaped (by decide) _
  rw [writeWhole]
  cases htext : escaped textEntities reference s.toList with
  | nil =>
    -- nothing is escaped to nothing but the empty text
    rw [htext] at hdecode
    have hnil : decode [] = [] := by
      rw [decode, readAll_of_eq_none rfl]
    exact absurd (String.toList_eq_nil_iff.mp (hdecode.symm.trans hnil)) hs
  | cons c cs =>
    rw [htext] at hlt hdecode
    have hne : c ≠ '<' := by
      rintro rfl
      exact hlt List.mem_cons_self
    have hpos : ∀ d ∈ c :: cs, decide (d ≠ '<') = true := by
      intro d hd
      exact decide_eq_true (fun h => hlt (h ▸ hd))
    -- the run of characters other than `<` cannot go on into what follows
    have htake : rest.takeWhile (· ≠ '<') = [] := by
      cases rest with
      | nil => rfl
      | cons d rest => simp [hrest d rfl]
    have hdrop : rest.dropWhile (· ≠ '<') = rest := by
      cases rest with
      | nil => rfl
      | cons d rest => simp [hrest d rfl]
    rw [List.cons_append, readToken, if_neg hne, ← List.cons_append,
      List.takeWhile_append_of_pos hpos, List.dropWhile_append_of_pos hpos, htake, hdrop,
      List.append_nil, hdecode, String.ofList_toList]

lemma readToken_comment {s : String} (hs : ¬ ['-', '-', '>'] <:+: s.toList) (rest : List Char) :
    readToken (writeWhole (.comment s) ++ rest) = some (.whole (.comment s), rest) := by
  have hbody : (s.toList ++ ['-', '-', '>'] ++ rest).dropInfix? ['-', '-', '>'] =
      some (s.toList, rest) :=
    @dropInfix?_append ['-', '-'] s.toList rest '>' (by decide) hs
  have hwrite : writeWhole (.comment s) ++ rest =
      '<' :: '!' :: '-' :: '-' :: (s.toList ++ ['-', '-', '>'] ++ rest) := by
    simp [writeWhole]
  rw [hwrite, readToken_lt, readMarkup, readDeclaration, hbody]
  simp

lemma readToken_cdata {s : String} (hs : ¬ [']', ']', '>'] <:+: s.toList) (rest : List Char) :
    readToken (writeWhole (.cdata s) ++ rest) = some (.whole (.cdata s), rest) := by
  have hbody : (s.toList ++ [']', ']', '>'] ++ rest).dropInfix? [']', ']', '>'] =
      some (s.toList, rest) :=
    @dropInfix?_append [']', ']'] s.toList rest '>' (by decide) hs
  have hwrite : writeWhole (.cdata s) ++ rest =
      '<' :: '!' :: '[' :: 'C' :: 'D' :: 'A' :: 'T' :: 'A' :: '[' ::
        (s.toList ++ [']', ']', '>'] ++ rest) := by
    simp [writeWhole]
  rw [hwrite, readToken_lt, readMarkup, readDeclaration, hbody]
  simp

/-- The space that sets a body apart from its delimiter is the one that reading drops. -/
lemma dropSpace_separated {s : String} (hs : s.toList.head? ≠ some ' ') :
    dropSpace (Config.separated s).toList = s.toList := by
  unfold Config.separated
  cases hhead : s.toList.head? with
  | none => rw [List.head?_eq_none_iff.mp hhead, dropSpace]; simp
  | some c =>
    obtain ⟨cs, hcs⟩ := List.head?_eq_some_iff.mp hhead
    have hne : c ≠ ' ' := by
      rintro rfl
      exact hs hhead
    by_cases hblank : Text.isBlank c
    · simp only [hblank, if_true]
      rw [hcs, dropSpace]
      rintro s ⟨⟩
      exact hne rfl
    · simp only [hblank, Bool.false_eq_true, if_false]
      simp [dropSpace]

lemma notMem_separated {s : String} (hs : '>' ∉ s.toList) : '>' ∉ (Config.separated s).toList := by
  unfold Config.separated
  split
  · exact hs
  · split
    · exact hs
    · simpa using hs

lemma readToken_doctype {s : String} (hs : '>' ∉ s.toList) (hspace : s.toList.head? ≠ some ' ')
    (rest : List Char) :
    readToken (writeWhole (.doctype s) ++ rest) = some (.whole (.doctype s), rest) := by
  have hwrite : writeWhole (.doctype s) ++ rest =
      '<' :: '!' :: 'D' :: 'O' :: 'C' :: 'T' :: 'Y' :: 'P' :: 'E' ::
        ((Config.separated s).toList ++ '>' :: rest) := by
    simp [writeWhole]
  rw [hwrite, readToken_lt, readMarkup, readDeclaration,
    dropInfix?_singleton (notMem_separated hs)]
  simp [dropSpace_separated hspace]

lemma readToken_instruction {i : Instruction} (hname : ReadableName i.target)
    (hbody : ¬ ['?', '>'] <:+: i.body.toList) (rest : List Char) :
    readToken (writeWhole (.instruction i) ++ rest) = some (.whole (.instruction i), rest) := by
  have hread : readName (i.target.toList ++ ' ' :: (i.body.toList ++ ['?', '>'] ++ rest)) =
      (i.target, ' ' :: (i.body.toList ++ ['?', '>'] ++ rest)) := by
    refine readName_append hname ?_
    rintro c ⟨⟩
    decide
  have hstop : (i.body.toList ++ ['?', '>'] ++ rest).dropInfix? ['?', '>'] =
      some (i.body.toList, rest) :=
    @dropInfix?_append ['?'] i.body.toList rest '>' (by decide) hbody
  have hwrite : writeWhole (.instruction i) ++ rest =
      '<' :: '?' :: (i.target.toList ++ ' ' :: (i.body.toList ++ ['?', '>'] ++ rest)) := by
    simp [writeWhole]
  rw [hwrite, readToken_lt, readMarkup, readInstruction, hread]
  simp only [hstop, Option.bind_eq_bind, Option.bind_some, String.ofList_toList]
  exact dif_pos i.target_ne

/-- What is written for a token is read as that token, whatever follows it.  A text has to end at
markup or at the end of the input. -/
lemma readToken_append {t : Token} (ht : t.Readable) {rest : List Char}
    (hrest : t.IsText → AtMarkup rest) : readToken (t.write ++ rest) = some (t.plain, rest) := by
  cases t with
  | opening t => exact readToken_opening ht rest
  | closing name => exact readToken_closing ht rest
  | whole n =>
    obtain ⟨hn, hchildren⟩ := ht
    cases n with
    | element t children =>
      obtain rfl : children = [] := hchildren
      exact readToken_element hn.1 [] rest
    | text s => exact readToken_text hn (hrest trivial)
    | comment s => exact readToken_comment hn rest
    | cdata s => exact readToken_cdata hn rest
    | doctype s => exact readToken_doctype hn.1 hn.2 rest
    | instruction i => exact readToken_instruction hn.1 hn.2 rest
    | document | bareAttribute | value | «foreign» => exact hn.elim

end SvgMarkup.Reader
