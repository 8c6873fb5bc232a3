import SvgMarkup.Proofs.Reader.Token

/-!
# Reading trees

A tree is written as the sequence of its tokens and read by collecting them: an opening tag opens
an element, a closing tag has to bear the name of the innermost open element and closes it.

* `Node.tokens` is the sequence of tokens of a node.
* `read?` reads a document.
* `read?_tokensList`: what is written for the nodes of a document is read as these nodes.
-/

namespace SvgMarkup

open Reader (Token)

namespace Node

mutual

/-- The tokens of a node. -/
def tokens : Node → List Token
  | .element t children =>
    if children.isEmpty then [.whole (.element t [])]
    else .opening t :: (tokensList children ++ [.closing t.name])
  | n => [.whole n]

/-- The tokens of some nodes, one after the other. -/
def tokensList : List Node → List Token
  | [] => []
  | n :: ns => tokens n ++ tokensList ns

end

lemma tokens_element_nil (t : Tag) : (element t []).tokens = [.whole (.element t [])] := by
  rw [tokens]
  rfl

lemma tokens_element (t : Tag) {children : List Node} (h : children ≠ []) :
    (element t children).tokens = .opening t :: (tokensList children ++ [.closing t.name]) := by
  rw [tokens, if_neg (by simpa using h)]

end Node

namespace Reader

/-- A tree of which a part has been read. -/
structure Builder where
  /-- The children of the innermost open element that have been read, the last one first. -/
  done : List Node
  /-- The open elements, the innermost one first, with the nodes that have been read before them. -/
  opened : List (Tag × List Node)

namespace Builder

/-- The tree with one more node in the innermost open element. -/
def add (b : Builder) (n : Node) : Builder := ⟨n :: b.done, b.opened⟩

/-- The tree with one more token. -/
def step (b : Builder) : Token → Option Builder
  | .whole n => some (b.add n)
  | .opening t => some ⟨[], (t, b.done) :: b.opened⟩
  | .closing name =>
    match b.opened with
    | [] => none
    | (t, before) :: opened =>
      if t.name = name then some ⟨.element t b.done.reverse :: before, opened⟩ else none

end Builder

/-- The nodes that some tokens make up, if all elements are closed. -/
def build? (ts : List Token) : Option (List Node) := do
  let b ← ts.foldlM Builder.step ⟨[], []⟩
  if b.opened.isEmpty then some b.done.reverse else none

/-- Reads a document of plain markup. -/
def read? (markup : String) : Option Node :=
  let (tokens, rest) := readAll readToken markup.toList
  if rest.isEmpty then (build? tokens).map .document else none

/-! ### The tokens of a tree make up the tree -/

lemma Builder.step_opening (b : Builder) (t : Tag) :
    b.step (.opening t) = some ⟨[], (t, b.done) :: b.opened⟩ := rfl

lemma Builder.step_closing (t : Tag) (done before : List Node) (opened : List (Tag × List Node)) :
    Builder.step ⟨done, (t, before) :: opened⟩ (.closing t.name) =
      some ⟨.element t done.reverse :: before, opened⟩ := if_pos rfl

mutual

lemma foldlM_tokens (n : Node) (b : Builder) :
    (n.tokens.map Token.plain).foldlM Builder.step b = some (b.add n.plain) := by
  cases n with
  | element t children =>
    by_cases hempty : children = []
    · rw [hempty, Node.tokens_element_nil]
      rfl
    · -- the children are collected above what was read before the opening tag
      have hbody := foldlM_tokensList children ⟨[], (t.plain, b.done) :: b.opened⟩
      have hclosing :=
        Builder.step_closing t.plain (Node.plainList children).reverse b.done b.opened
      rw [List.append_nil] at hbody
      rw [List.reverse_reverse] at hclosing
      rw [Node.tokens_element t hempty, List.map_cons, List.map_append, Token.plain,
        List.foldlM_cons, Builder.step_opening, Option.bind_eq_bind, Option.bind_some,
        List.foldlM_append, hbody, Option.bind_eq_bind, Option.bind_some, List.map_cons,
        List.map_nil, List.foldlM_cons]
      exact congrArg (· >>= fun b => List.foldlM Builder.step b []) hclosing
  | text | comment | cdata | doctype | instruction | document | bareAttribute | value
  | «foreign» => rfl

lemma foldlM_tokensList (ns : List Node) (b : Builder) :
    ((Node.tokensList ns).map Token.plain).foldlM Builder.step b =
      some ⟨(Node.plainList ns).reverse ++ b.done, b.opened⟩ := by
  cases ns with
  | nil => rfl
  | cons n ns =>
    rw [Node.tokensList, List.map_append, List.foldlM_append, foldlM_tokens n b,
      Option.bind_eq_bind, Option.bind_some, foldlM_tokensList ns (b.add n.plain)]
    simp [Builder.add, Node.plainList]

end

lemma build?_tokensList (ns : List Node) :
    build? ((Node.tokensList ns).map Token.plain) = some (Node.plainList ns) := by
  rw [build?, foldlM_tokensList ns ⟨[], []⟩]
  simp

/-! ### The markup of a tree is read as its tokens -/

/-- The markup of a node other than a text begins with a `<`. -/
lemma head?_write_tokens {n : Node} (hn : n.Readable) (htext : ¬ n.IsText) (rest : List Char) :
    AtMarkup (n.tokens.flatMap Token.write ++ rest) := by
  cases n with
  | element t children =>
    by_cases hempty : children = []
    · simp [AtMarkup, hempty, Node.tokens_element_nil, Token.write, writeWhole]
    · simp [AtMarkup, Node.tokens_element t hempty, Token.write]
  | text s => exact absurd trivial htext
  | comment | cdata | doctype | instruction =>
    simp [AtMarkup, Node.tokens, Token.write, writeWhole]
  | document | bareAttribute | value | «foreign» => exact hn.elim

lemma readAll_token {t : Token} (ht : t.Readable) {rest : List Char}
    (hrest : t.IsText → AtMarkup rest) :
    readAll readToken (t.write ++ rest) =
      (t.plain :: (readAll readToken rest).1, (readAll readToken rest).2) := by
  have hend : AtMarkup [] := by simp [AtMarkup]
  have hne : t.write ≠ [] := by
    intro h
    have hread := readToken_append ht (fun _ => hend)
    rw [h] at hread
    cases hread
  exact readAll_append (readToken_append ht hrest) hne

lemma readAll_whole {n : Node} (hn : n.Readable) (hchildren : n.children = []) {rest : List Char}
    (hrest : n.IsText → AtMarkup rest) :
    readAll readToken ([Token.whole n].flatMap Token.write ++ rest) =
      ([Token.whole n].map Token.plain ++ (readAll readToken rest).1,
        (readAll readToken rest).2) := by
  have hwhole : (Token.whole n).Readable := ⟨hn, hchildren⟩
  rw [List.flatMap_cons, List.flatMap_nil, List.append_nil, readAll_token hwhole hrest]
  rfl

mutual

/-- The markup of a node is read as its tokens.  The induction is on the node; what follows its
markup is arbitrary, since for a child that is the markup of its siblings and its parent. -/
lemma readAll_tokens {n : Node} (hn : n.Readable) {rest : List Char}
    (hrest : n.IsText → AtMarkup rest) :
    readAll readToken (n.tokens.flatMap Token.write ++ rest) =
      (n.tokens.map Token.plain ++ (readAll readToken rest).1, (readAll readToken rest).2) := by
  cases n with
  | element t children =>
    obtain ⟨ht, hchildren⟩ := hn
    by_cases hempty : children = []
    · subst hempty
      have hwhole : (Node.element t []).Readable := ⟨ht, trivial⟩
      rw [Node.tokens_element_nil]
      exact readAll_whole hwhole rfl hrest
    · have hopening : (Token.opening t).Readable := ht
      have hclosing : (Token.closing t.name).Readable := ht.1
      have hmarkup : AtMarkup ((Token.closing t.name).write ++ rest) := by
        simp [AtMarkup, Token.write]
      rw [Node.tokens_element t hempty, List.flatMap_cons, List.flatMap_append, List.flatMap_cons,
        List.flatMap_nil, List.append_nil, List.append_assoc, List.append_assoc,
        readAll_token hopening False.elim, readAll_tokensList hchildren hmarkup,
        readAll_token hclosing False.elim]
      simp
  | text | comment | cdata | doctype | instruction =>
    rw [Node.tokens]
    · exact readAll_whole hn rfl hrest
    · simp
  | document | bareAttribute | value | «foreign» => exact hn.elim

lemma readAll_tokensList {ns : List Node} (hns : Node.ReadableList ns) {rest : List Char}
    (hrest : AtMarkup rest) :
    readAll readToken ((Node.tokensList ns).flatMap Token.write ++ rest) =
      ((Node.tokensList ns).map Token.plain ++ (readAll readToken rest).1,
        (readAll readToken rest).2) := by
  cases ns with
  | nil => simp [Node.tokensList]
  | cons n ns =>
    obtain ⟨hn, hadjacent, hns'⟩ := hns
    -- behind a text there is the end of the list or a node that is no text
    have hnext : n.IsText → AtMarkup ((Node.tokensList ns).flatMap Token.write ++ rest) := by
      intro htext
      cases ns with
      | nil => simpa [Node.tokensList] using hrest
      | cons m ms =>
        have hm := head?_write_tokens hns'.1 (hadjacent htext m rfl)
          ((Node.tokensList ms).flatMap Token.write ++ rest)
        simpa [Node.tokensList] using hm
    rw [Node.tokensList, List.flatMap_append, List.append_assoc, readAll_tokens hn hnext,
      readAll_tokensList hns' hrest, List.map_append, List.append_assoc]

end

/-- What is written for the nodes of a document is read as these nodes. -/
lemma read?_tokensList {ns : List Node} (hns : Node.ReadableList ns) :
    read? (String.ofList ((Node.tokensList ns).flatMap Token.write)) =
      some (.document (Node.plainList ns)) := by
  have hend : AtMarkup [] := by simp [AtMarkup]
  have hnil : readToken [] = none := rfl
  have hread := readAll_tokensList hns hend
  rw [List.append_nil, readAll_of_eq_none hnil, List.append_nil] at hread
  rw [read?, String.toList_ofList, hread]
  simp [build?_tokensList]

end Reader

end SvgMarkup
