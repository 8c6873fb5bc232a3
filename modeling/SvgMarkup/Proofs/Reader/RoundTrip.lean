import SvgMarkup.Proofs.Reader.Tree
import SvgMarkup.Proofs.Rendering.Confinement

/-!
# Reading back what was rendered

Under the standard configuration rendering writes the tokens of a tree one after the other.  A
reader of plain markup therefore recovers the tree, with texts in place of attribute values.

* `Node.toList_renderList` says that the tokens of some nodes are written one after the other; what
  is read of them is the subject of `Reader.read?_tokensList`.
-/

namespace SvgMarkup

open Reader

/-! ### What the standard configuration writes -/

lemma written_standard (d : Delimiter) : Config.standard.written d = Delimiter.standard d := rfl

lemma isPlain_standard : Config.standard.IsPlain := ⟨rfl, rfl, rfl, rfl⟩

namespace Node

/-- The tags of an element are written as its opening and closing tokens. -/
lemma toList_tags_standard (t : Tag) (attributes body : String)
    (h : attributes.toList = t.attributes.flatMap writeAttribute) :
    (Config.standard.openingTag "" t attributes ++ body ++
      Config.standard.closingTag "" t).toList =
      (Token.opening t).write ++ body.toList ++ (Token.closing t.name).write := by
  have hcompact : Config.standard.pretty = false := rfl
  have hdelimiter : Config.standard.delimiter = Delimiter.standard := rfl
  rw [Config.openingTag_of_not_pretty hcompact, Config.closingTag_of_not_pretty hcompact,
    hdelimiter]
  simp [Delimiter.standard, Token.write, writeTag, h]

mutual

/-- A node is written as the sequence of its tokens. -/
lemma toList_renderNode {n : Node} {ν : Nesting} {r : Rendering}
    (h : (renderNode .standard n).resultIn ν = .ok r) :
    r.data.toList = n.tokens.flatMap Token.write := by
  cases n with
  | element t children =>
    have hindent : ν.indent Config.standard.indent Config.standard.pretty = "" := rfl
    by_cases hempty : children = []
    · subst hempty
      rw [resultIn_renderNode_empty, hindent] at h
      obtain ⟨own, -, h⟩ := exists_of_bind_eq_ok h
      obtain ⟨attributes, hattributes, h⟩ := exists_of_bind_eq_ok h
      obtain rfl := Except.ok.inj h
      obtain ⟨-, rfl⟩ := isPlain_standard.attributesMarkup (eq_ok_of_mapError_eq_ok hattributes)
      simp [Config.emptyTag, written_standard, Delimiter.standard, tokens_element_nil, Token.write,
        writeWhole, writeTag]
    · rw [resultIn_renderNode_element _ _ _ hempty, hindent] at h
      obtain ⟨own, -, h⟩ := exists_of_bind_eq_ok h
      obtain ⟨body, hbody, h⟩ := exists_of_bind_eq_ok h
      obtain ⟨attributes, hattributes, h⟩ := exists_of_bind_eq_ok h
      obtain ⟨-, rfl⟩ := isPlain_standard.attributesMarkup (eq_ok_of_mapError_eq_ok hattributes)
      rw [Pass.resultIn_within] at hbody
      split at hbody
      · cases hbody
      · -- the body was written inside one more container, but its markup does not depend on that
        have ih := toList_renderList hbody
        obtain rfl := Except.ok.inj h
        rw [toList_tags_standard t _ _ (String.toList_ofList), ih, tokens_element t hempty]
        simp
  | text s =>
    rw [resultIn_renderNode_text_of_isPlain isPlain_standard] at h
    obtain rfl := Except.ok.inj h
    simp [Rendering.ofMarkup, tokens, Token.write, writeWhole]
  | comment s =>
    rw [resultIn_renderNode_comment] at h
    obtain rfl := Except.ok.inj h
    simp [Rendering.ofMarkup, Config.commentMarkup, written_standard, Delimiter.standard, tokens,
      Token.write, writeWhole]
  | cdata s =>
    rw [resultIn_renderNode_cdata] at h
    obtain rfl := Except.ok.inj h
    simp [Rendering.ofMarkup, Config.cdataMarkup, written_standard, Delimiter.standard, tokens,
      Token.write, writeWhole]
  | doctype s =>
    rw [resultIn_renderNode_doctype] at h
    obtain rfl := Except.ok.inj h
    simp [Rendering.ofMarkup, Config.doctypeMarkup, written_standard, Delimiter.standard, tokens,
      Token.write, writeWhole]
  | instruction i =>
    rw [resultIn_renderNode_instruction] at h
    obtain rfl := Except.ok.inj h
    simp [Rendering.ofMarkup, Config.instructionMarkup, written_standard, Delimiter.standard,
      tokens, Token.write, writeWhole]
  | document | bareAttribute | value | «foreign» =>
    -- a strict pass refuses such nodes, so there is nothing to compare
    have hstrict : Config.standard.strict = true := rfl
    rw [resultIn_renderNode_of_kind?_eq_none _ _ rfl, resultIn_skipChild, if_pos hstrict] at h
    cases h

/-- Some nodes are written as the sequence of their tokens. -/
lemma toList_renderList {ns : List Node} {ν : Nesting} {r : Rendering}
    (h : (renderList .standard ns).resultIn ν = .ok r) :
    r.data.toList = (tokensList ns).flatMap Token.write := by
  cases ns with
  | nil =>
    rw [resultIn_renderList_nil] at h
    obtain rfl := Except.ok.inj h
    simp [Rendering.ofMarkup, tokensList]
  | cons n ns =>
    rw [resultIn_renderList_cons] at h
    obtain ⟨first, hfirst, h⟩ := exists_of_bind_eq_ok h
    obtain ⟨rest, hrest, h⟩ := exists_of_bind_eq_ok h
    obtain rfl := Except.ok.inj h
    rw [Rendering.append, String.toList_append, toList_renderNode hfirst, toList_renderList hrest,
      tokensList, List.flatMap_append]

end

/-! ### The round trip -/

/-- If a document whose descendants can be read back is written in the standard configuration, what
is written can be read back, whatever call stack the pass had.  The tree that is read is the one
that was written, with texts in place of attribute values. -/
theorem read?_serialize {children : List Node} {stack : CallStack} {r : Rendering}
    (hreadable : ReadableList children)
    (h : (serialize .standard (.document children) stack).result = .ok r) :
    read? r.data = some (plain (.document children)) := by
  have hdata : r.data.toList = (tokensList children).flatMap Token.write := by
    rw [result_serialize] at h
    by_cases hempty : children = []
    · subst hempty
      rw [resultIn_render_of_children_eq_nil _ _ rfl] at h
      obtain rfl := Except.ok.inj h
      rfl
    · have hchildren : (document children).children ≠ [] := hempty
      rw [resultIn_render_of_children_ne_nil _ _ hchildren, Pass.resultIn_within] at h
      split at h
      · cases h
      · exact toList_renderList h
  rw [← String.ofList_toList (s := r.data), hdata, read?_tokensList hreadable, plain]

/-- The children of a document, with a body of every kind that runs into the delimiter after it. -/
def delicateNodes : List Node :=
  [.doctype "svg\"-", .instruction ⟨"xml", " a=1??", by decide⟩, .comment "--a-",
    .element ⟨"a", [⟨"id", .text "\"<&'/>", by decide⟩], by decide, List.pairwise_singleton _ _⟩
      [.text "a & <b> &amp; ]]>", .cdata "&<]]", .element ⟨"a", [], by decide, List.nodup_nil⟩
        [.element ⟨"a", [⟨"x", .int (-1), by decide⟩], by decide, List.pairwise_singleton _ _⟩ [],
          .text "</a>"]]]

/-- What is written for `delicateNodes`. -/
def delicateMarkup : String :=
  "<!DOCTYPE svg\"-><?xml  a=1???><!----a---><a id=\"&quot;&lt;&amp;'/&gt;\">" ++
    "a &amp; &lt;b&gt; &amp;amp; ]]&gt;<![CDATA[&<]]]]><a><a x=\"-1\"/>&lt;/a&gt;</a></a>"

theorem read?_delicateMarkup :
    ReadableList delicateNodes ∧
      (serialize .standard (.document delicateNodes)).result = .ok ⟨delicateMarkup, .unknown⟩ ∧
      read? delicateMarkup = some (plain (.document delicateNodes)) := by
  have hreadable : ReadableList delicateNodes := by decide +kernel
  have hwritten : (serialize .standard (.document delicateNodes)).result =
      .ok ⟨delicateMarkup, .unknown⟩ := by
    decide +kernel
  have hread := read?_serialize hreadable hwritten
  exact ⟨hreadable, hwritten, hread⟩

end Node

end SvgMarkup
