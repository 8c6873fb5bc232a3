import SvgMarkup.Proofs.Layout.TextBody
import SvgMarkup.Proofs.Rendering.Markup

/-!
# The lines of pretty output

Pretty output of elements outside the groups that have to do with text consists of lines.  An
element without children takes one line and an element with children takes two, one for either tag;
a line is indented by one unit for each element between the tag and the container.  What is written
further inside, under more containers, is the same text with one more unit in front of each line.

* `Lines.shifted` puts a unit in front of every line of a text.
* `Node.tagLinesList` lists the lines that some nodes call for, with their depths.
* `Node.toList_renderList_of_isLinewise` says that these are the lines that are written.
-/

namespace SvgMarkup

/-! ### The lines of a text -/

namespace Lines

/-- Some lines, each with a line break behind it. -/
def joined (ls : List (List Char)) : List Char := ls.flatMap (· ++ ['\n'])

/-- A text with a unit in front of the first character of every line.  The first character of the
text starts a line or not; any other one does if a line break is before it. -/
def shifted (unit : List Char) (start : Bool) : List Char → List Char
  | [] => []
  | a :: s => (if start then unit else []) ++ a :: shifted unit (a == '\n') s

variable {unit : List Char}

lemma joined_cons (l : List Char) (ls : List (List Char)) :
    joined (l :: ls) = l ++ '\n' :: joined ls := by
  rw [joined, List.flatMap_cons, List.append_assoc]
  rfl

lemma joined_append (ls ls' : List (List Char)) :
    joined (ls ++ ls') = joined ls ++ joined ls' :=
  List.flatMap_append

/-- Nothing is put inside a line. -/
lemma shifted_false_append {l : List Char} (h : '\n' ∉ l) (s : List Char) :
    shifted unit false (l ++ '\n' :: s) = l ++ '\n' :: shifted unit true s := by
  induction l with
  | nil => rfl
  | cons a l ih =>
    rw [List.mem_cons, not_or] at h
    obtain ⟨ha, hl⟩ := h
    have hbreak : (a == '\n') = false := beq_false_of_ne (Ne.symm ha)
    rw [List.cons_append, shifted, hbreak, ih hl]
    rfl

/-- One unit is put in front of a line. -/
lemma shifted_true_append {l : List Char} (h : '\n' ∉ l) (s : List Char) :
    shifted unit true (l ++ '\n' :: s) = unit ++ l ++ '\n' :: shifted unit true s := by
  cases l with
  | nil =>
    rw [List.append_nil]
    rfl
  | cons a l =>
    rw [List.mem_cons, not_or] at h
    obtain ⟨ha, hl⟩ := h
    have hbreak : (a == '\n') = false := beq_false_of_ne (Ne.symm ha)
    rw [List.cons_append, shifted, hbreak, shifted_false_append hl, if_pos rfl, List.append_assoc,
      List.cons_append]

/-- Shifting some lines puts a unit in front of each of them. -/
lemma shifted_joined {ls : List (List Char)} (h : ∀ l ∈ ls, '\n' ∉ l) :
    shifted unit true (joined ls) = joined (ls.map (unit ++ ·)) := by
  induction ls with
  | nil => rfl
  | cons l ls ih =>
    obtain ⟨hl, hls⟩ := List.forall_mem_cons.mp h
    rw [List.map_cons, joined_cons, joined_cons, shifted_true_append hl, ih hls]

/-- The lines of a text are found again between its line breaks, with nothing behind the last
one. -/
lemma splitOn_joined {ls : List (List Char)} (h : ∀ l ∈ ls, '\n' ∉ l) :
    (joined ls).splitOn '\n' = ls ++ [[]] := by
  induction ls with
  | nil => rfl
  | cons l ls ih =>
    obtain ⟨hl, hls⟩ := List.forall_mem_cons.mp h
    rw [joined_cons, List.splitOn_append_cons_self_of_not_mem hl, ih hls, List.cons_append]

end Lines

/-! ### Lines with a tag -/

/-- A line with a tag. -/
structure TagLine where
  /-- The number of elements between the container that is written and the element of the tag. -/
  depth : Nat
  tag : String
deriving DecidableEq

namespace TagLine

variable (unit : String) (above : Nat)

/-- The line of a tag inside so many containers around the one that is written. -/
def text (l : TagLine) : List Char :=
  (List.replicate (above + l.depth) unit.toList).flatten ++ l.tag.toList

/-- Inside one more container a line has one more unit in front of it. -/
lemma text_succ (l : TagLine) : l.text unit (above + 1) = unit.toList ++ l.text unit above := by
  rw [text, text, Nat.add_right_comm, List.replicate_succ, List.flatten_cons, List.append_assoc]

lemma notMem_text {l : TagLine} (hunit : '\n' ∉ unit.toList) (htag : '\n' ∉ l.tag.toList) :
    '\n' ∉ l.text unit above := by
  have hindent : '\n' ∉ (List.replicate (above + l.depth) unit.toList).flatten := by
    rw [List.mem_flatten]
    rintro ⟨u, hu, hbreak⟩
    rw [List.eq_of_mem_replicate hu] at hbreak
    exact hunit hbreak
  rw [text, List.mem_append]
  exact not_or_intro hindent htag

end TagLine

namespace Config

/-- Whether no delimiter and no indentation goes over the end of a line. -/
structure IsLinewise (c : Config) : Prop where
  delimiter (d : Delimiter) : '\n' ∉ (c.delimiter d).toList
  indent : '\n' ∉ c.indent.toList

/-- Whether a node is an element that has its tags on lines of their own: it is in none of the
groups that have to do with text, and neither its name nor the markup of its attributes has line
breaks. -/
def TakesLines (c : Config) : Node → Prop
  | .element t _ => c.holdsText t = false ∧ c.standsInText t = false ∧
      '\n' ∉ t.name.toList ∧ '\n' ∉ (c.inlineAttributes t).toList
  | .text _ | .comment _ | .cdata _ | .doctype _ | .instruction _ | .document _ | .bareAttribute _
  | .value _ | .foreign _ _ _ => False

instance (c : Config) : DecidablePred c.TakesLines
  | .element t _ => inferInstanceAs (Decidable (c.holdsText t = false ∧ c.standsInText t = false ∧
      '\n' ∉ t.name.toList ∧ '\n' ∉ (c.inlineAttributes t).toList))
  | .text _ | .comment _ | .cdata _ | .doctype _ | .instruction _ | .document _ | .bareAttribute _
  | .value _ | .foreign _ _ _ => .isFalse id

variable {c : Config}

/-! ### The tags of such elements -/

lemma notMem_tags (hc : c.IsLinewise) {t : Tag} {attributes : String} (hname : '\n' ∉ t.name.toList)
    (hattributes : '\n' ∉ attributes.toList) :
    '\n' ∉ (c.compact.emptyTag "" t attributes).toList ∧
      '\n' ∉ (c.compact.openingTag "" t attributes).toList ∧
      '\n' ∉ (c.compact.closingTag "" t).toList := by
  have hdelimiter (d : Delimiter) : '\n' ∉ (c.compact.delimiter d).toList := hc.delimiter d
  have hpretty : c.compact.pretty = false := rfl
  rw [emptyTag, written_of_not_pretty hpretty, written_of_not_pretty hpretty,
    openingTag_of_not_pretty hpretty, closingTag_of_not_pretty hpretty]
  simp [String.toList_append, hdelimiter, hname, hattributes]

end Config

namespace Node

/-! ### The lines of elements -/

section TagLines

variable (c : Config)

mutual

/-- The lines of the tags in a node that is inside so many elements. -/
def tagLines (depth : Nat) : Node → List TagLine
  | element t children =>
    if children.isEmpty then [⟨depth, c.compact.emptyTag "" t (c.inlineAttributes t)⟩]
    else ⟨depth, c.compact.openingTag "" t (c.inlineAttributes t)⟩ ::
      (tagLinesList (depth + 1) children ++ [⟨depth, c.compact.closingTag "" t⟩])
  | text _ | comment _ | cdata _ | doctype _ | instruction _ | document _ | bareAttribute _
  | value _ | «foreign» _ _ _ => []

/-- The lines of the tags in some nodes that are inside so many elements. -/
def tagLinesList (depth : Nat) : List Node → List TagLine
  | [] => []
  | n :: ns => tagLines depth n ++ tagLinesList depth ns

end

/-- The text of some lines inside so many containers around the one that is written. -/
def linesText (above : Nat) (ls : List TagLine) : List Char :=
  Lines.joined (ls.map (TagLine.text c.indent above))

end TagLines

variable {c : Config}

lemma linesText_append (above : Nat) (ls ls' : List TagLine) :
    linesText c above (ls ++ ls') = linesText c above ls ++ linesText c above ls' := by
  rw [linesText, List.map_append, Lines.joined_append]
  rfl

/-- What is written for one tag inside so many containers and elements. -/
lemma toList_line {ν : Nesting} {above depth : Nat} (hν : ν.depth = above + depth + 1)
    (tag : String) :
    (ν.indent c.indent true ++ tag ++ "\n").toList = linesText c above [⟨depth, tag⟩] := by
  have hdepth : ν.depth - 1 = above + depth := by omega
  rw [linesText, List.map_singleton, Lines.joined_cons, TagLine.text, String.toList_append,
    String.toList_append, Nesting.toList_indent, hdepth]
  rfl

mutual

/-- An element that has its tags on lines of their own is written as the lines it calls for. -/
lemma toList_renderNode_of_takesLines {n : Node} {ν : Nesting} {above depth : Nat} {r : Rendering}
    (hn : c.TakesLines n) (hbelow : ∀ m ∈ n.descendants, c.TakesLines m)
    (hν : ν.depth = above + depth + 1) (h : (renderNode c.spacious n).resultIn ν = .ok r) :
    r.data.toList = linesText c above (tagLines c depth n) := by
  cases n with
  | element t children =>
    obtain ⟨hholds, hstands, -, -⟩ := hn
    by_cases hempty : children = []
    · subst hempty
      rw [resultIn_renderNode_empty] at h
      obtain ⟨own, -, h⟩ := exists_of_bind_eq_ok h
      obtain ⟨attributes, hattributes, h⟩ := exists_of_bind_eq_ok h
      obtain rfl := Except.ok.inj h
      have htext := c.inlineAttributes_of_eq_ok true (eq_ok_of_mapError_eq_ok hattributes)
      rw [tagLines, htext, List.isEmpty_nil, if_pos rfl, ← toList_line hν]
      exact congrArg String.toList (c.emptyTag_spacious _ t attributes)
    · rw [resultIn_renderNode_element _ _ _ hempty, Pass.resultIn_within] at h
      obtain ⟨own, -, h⟩ := exists_of_bind_eq_ok h
      obtain ⟨body, hbody, h⟩ := exists_of_bind_eq_ok h
      obtain ⟨attributes, hattributes, h⟩ := exists_of_bind_eq_ok h
      obtain rfl := Except.ok.inj h
      split at hbody
      · cases hbody
      · have htext := c.inlineAttributes_of_eq_ok true (eq_ok_of_mapError_eq_ok hattributes)
        have hisEmpty : children.isEmpty = false := List.isEmpty_eq_false_iff.mpr hempty
        have hν' : (ν.inside t.name).depth = above + (depth + 1) + 1 :=
          congrArg Nat.succ hν
        rw [descendants] at hbelow
        have ih := toList_renderList_of_takesLines hbelow hν' hbody
        -- both tags are written at the depth of the element, the body one deeper
        have hopening : (c.spacious.openingTag (ν.indent c.indent true) t attributes).toList =
            linesText c above [⟨depth, c.compact.openingTag "" t attributes⟩] := by
          rw [Config.openingTag_spacious, hholds, hstands, ← toList_line hν]
          rfl
        have hclosing : (c.spacious.closingTag (ν.indent c.indent true) t).toList =
            linesText c above [⟨depth, c.compact.closingTag "" t⟩] := by
          rw [Config.closingTag_spacious, hholds, hstands, ← toList_line hν]
          rfl
        rw [tagLines, htext, hisEmpty, if_neg Bool.false_ne_true, ← List.singleton_append,
          linesText_append, linesText_append, ← hopening, ← hclosing, ← ih]
        simp only [String.toList_append, List.append_assoc]
        rfl
  | text | comment | cdata | doctype | instruction | document | bareAttribute | value
  | «foreign» => exact hn.elim

/-- Elements that have their tags on lines of their own are written as the lines they call for. -/
lemma toList_renderList_of_takesLines {ns : List Node} {ν : Nesting} {above depth : Nat}
    {r : Rendering} (hns : ∀ m ∈ descendantsList ns, c.TakesLines m)
    (hν : ν.depth = above + depth + 1) (h : (renderList c.spacious ns).resultIn ν = .ok r) :
    r.data.toList = linesText c above (tagLinesList c depth ns) := by
  cases ns with
  | nil =>
    rw [resultIn_renderList_nil] at h
    obtain rfl := Except.ok.inj h
    rfl
  | cons n ns =>
    rw [resultIn_renderList_cons] at h
    obtain ⟨first, hfirst, h⟩ := exists_of_bind_eq_ok h
    obtain ⟨rest, hrest, h⟩ := exists_of_bind_eq_ok h
    obtain rfl := Except.ok.inj h
    obtain ⟨hn, hbelow, hns⟩ := forall_mem_descendantsList_cons.mp hns
    rw [Rendering.append, String.toList_append, toList_renderNode_of_takesLines hn hbelow hν hfirst,
      toList_renderList_of_takesLines hns hν hrest, tagLinesList, linesText_append]

end

mutual

/-- The tag of an element that has its tags on lines of their own has no line breaks. -/
lemma notMem_tagLines (hc : c.IsLinewise) {n : Node} (hn : c.TakesLines n)
    (hbelow : ∀ m ∈ n.descendants, c.TakesLines m) (depth : Nat) :
    ∀ l ∈ tagLines c depth n, '\n' ∉ l.tag.toList := by
  cases n with
  | element t children =>
    obtain ⟨-, -, hname, hattributes⟩ := hn
    obtain ⟨hshort, hopening, hclosing⟩ := Config.notMem_tags hc hname hattributes
    rw [descendants] at hbelow
    have ih := notMem_tagLinesList hc hbelow (depth + 1)
    rw [tagLines]
    split
    · exact List.forall_mem_singleton.mpr hshort
    · rw [List.forall_mem_cons, List.forall_mem_append, List.forall_mem_singleton]
      exact ⟨hopening, ih, hclosing⟩
  | text | comment | cdata | doctype | instruction | document | bareAttribute | value
  | «foreign» => exact hn.elim

/-- The tags of elements that have their tags on lines of their own have no line breaks. -/
lemma notMem_tagLinesList (hc : c.IsLinewise) {ns : List Node}
    (hns : ∀ m ∈ descendantsList ns, c.TakesLines m) (depth : Nat) :
    ∀ l ∈ tagLinesList c depth ns, '\n' ∉ l.tag.toList := by
  cases ns with
  | nil => exact List.forall_mem_nil _
  | cons n ns =>
    obtain ⟨hn, hbelow, hns⟩ := forall_mem_descendantsList_cons.mp hns
    rw [tagLinesList, List.forall_mem_append]
    exact ⟨notMem_tagLines hc hn hbelow depth, notMem_tagLinesList hc hns depth⟩

end

mutual

/-- An element calls for one line for each childless element in it and for two for each other
one. -/
lemma length_tagLines {n : Node} (hn : c.TakesLines n)
    (hbelow : ∀ m ∈ n.descendants, c.TakesLines m) (depth : Nat) :
    (tagLines c depth n).length = (n :: n.descendants).countP (·.children.isEmpty) +
      2 * (n :: n.descendants).countP (!·.children.isEmpty) := by
  cases n with
  | element t children =>
    rw [descendants] at hbelow ⊢
    have ih := length_tagLinesList hbelow (depth + 1)
    rw [tagLines]
    by_cases hempty : children = []
    · subst hempty
      rfl
    · have hisEmpty : children.isEmpty = false := List.isEmpty_eq_false_iff.mpr hempty
      have hchildless : (element t children :: descendantsList children).countP
          (·.children.isEmpty) = (descendantsList children).countP (·.children.isEmpty) :=
        List.countP_cons_of_neg (Bool.eq_false_iff.mp hisEmpty)
      have hparents : (element t children :: descendantsList children).countP
          (!·.children.isEmpty) = (descendantsList children).countP (!·.children.isEmpty) + 1 :=
        List.countP_cons_of_pos (congrArg not hisEmpty)
      rw [hisEmpty, if_neg Bool.false_ne_true, List.length_cons, List.length_append, ih,
        List.length_singleton, hchildless, hparents]
      omega
  | text | comment | cdata | doctype | instruction | document | bareAttribute | value
  | «foreign» => exact hn.elim

/-- Elements call for one line for each childless element among them and in them and for two for
each other one. -/
lemma length_tagLinesList {ns : List Node} (hns : ∀ m ∈ descendantsList ns, c.TakesLines m)
    (depth : Nat) :
    (tagLinesList c depth ns).length = (descendantsList ns).countP (·.children.isEmpty) +
      2 * (descendantsList ns).countP (!·.children.isEmpty) := by
  cases ns with
  | nil => rfl
  | cons n ns =>
    obtain ⟨hn, hbelow, hns⟩ := forall_mem_descendantsList_cons.mp hns
    have hfirst := length_tagLines hn hbelow depth
    have hrest := length_tagLinesList hns depth
    rw [tagLinesList, List.length_append, hfirst, hrest, descendantsList, ← List.cons_append,
      List.countP_append, List.countP_append]
    omega

end

/-- A container whose descendants have their tags on lines of their own is written as the lines they
call for. -/
lemma toList_render_of_takesLines {n : Node} (hn : ∀ m ∈ n.descendants, c.TakesLines m)
    {ν : Nesting} {r : Rendering} (h : (render c.spacious n).resultIn ν = .ok r) :
    r.data.toList = linesText c ν.depth (tagLinesList c 0 n.children) := by
  rw [descendants_eq] at hn
  by_cases hempty : n.children = []
  · rw [resultIn_render_of_children_eq_nil _ _ hempty] at h
    obtain rfl := Except.ok.inj h
    rw [hempty]
    rfl
  · rw [resultIn_render_of_children_ne_nil _ _ hempty, Pass.resultIn_within] at h
    split at h
    · cases h
    · exact toList_renderList_of_takesLines hn rfl h

/-- If neither delimiters nor the indentation have line breaks, and all descendants of a container
are elements outside the groups that have to do with text, without line breaks in names and
attributes, then indentation shifts lines: what is written one container further inside has one more
unit in front of every line.  Outside all containers the lines are those of the tags, one for a
childless element and two for any other, each with as many units in front of its tag as there are
elements between the container and the element of the tag. -/
theorem render_linewise (hc : c.IsLinewise) {n : Node}
    (hn : ∀ m ∈ n.descendants, c.TakesLines m) :
    (∀ (ν ν' : Nesting) (r r' : Rendering), ν'.depth = ν.depth + 1 →
      (render c.spacious n).resultIn ν = .ok r → (render c.spacious n).resultIn ν' = .ok r' →
      r'.data.toList = Lines.shifted c.indent.toList true r.data.toList) ∧
    ∀ (ν : Nesting) (r : Rendering), ν.depth = 0 → (render c.spacious n).resultIn ν = .ok r →
      r.data.toList.splitOn '\n' = (tagLinesList c 0 n.children).map (fun l =>
        (List.replicate l.depth c.indent.toList).flatten ++ l.tag.toList) ++ [[]] ∧
      (tagLinesList c 0 n.children).length = n.descendants.countP (·.children.isEmpty) +
        2 * n.descendants.countP (!·.children.isEmpty) := by
  have hchildren := descendants_eq n ▸ hn
  have hlines (above : Nat) :
      ∀ l ∈ (tagLinesList c 0 n.children).map (TagLine.text c.indent above), '\n' ∉ l := by
    rw [List.forall_mem_map]
    intro l hl
    exact l.notMem_text c.indent above hc.indent (notMem_tagLinesList hc hchildren 0 l hl)
  constructor
  · intro ν ν' r r' hdepth hr hr'
    rw [toList_render_of_takesLines hn hr, toList_render_of_takesLines hn hr', hdepth, linesText,
      linesText, Lines.shifted_joined (hlines ν.depth), List.map_map]
    congr 2
    funext l
    exact l.text_succ c.indent ν.depth
  · intro ν r hdepth hr
    have houtside : TagLine.text c.indent 0 = fun l =>
        (List.replicate l.depth c.indent.toList).flatten ++ l.tag.toList := by
      funext l
      rw [TagLine.text, Nat.zero_add]
    rw [toList_render_of_takesLines hn hr, hdepth, linesText, Lines.splitOn_joined (hlines 0),
      houtside, descendants_eq]
    exact ⟨rfl, length_tagLinesList hchildren 0⟩

/-- The tag of an element with an attribute whose line break is escaped. -/
def patternTag : Tag :=
  ⟨"pattern", [⟨"label", .text "a\nb", by decide⟩], by decide, List.pairwise_singleton _ _⟩

/-- The tag of an element without attributes outside the groups that have to do with text. -/
def stopTag : Tag := ⟨"stop", [], by decide, List.nodup_nil⟩

/-- A configuration that escapes line breaks in attributes and indents by one blank. -/
def blankConfig : Config :=
  { Config.standard with
    indent := " ", attributeEntities := .ofList ['\n']
    encoder := ⟨"bracket", fun a => some ("[" ++ toString a.toNat ++ "]")⟩ }

/-- A container with elements at three depths. -/
def steppedContainer : Node :=
  .element titleTag [.element patternTag [.element stopTag [],
    .element stopTag [.element stopTag []]], .element stopTag []]

theorem render_steppedContainer :
    blankConfig.IsLinewise ∧ (∀ m ∈ steppedContainer.descendants, blankConfig.TakesLines m) ∧
    ∃ r r', (render blankConfig.spacious steppedContainer).resultIn ⟨9, 0, []⟩ = .ok r ∧
      (render blankConfig.spacious steppedContainer).resultIn ⟨9, 1, ["g"]⟩ = .ok r' ∧
      r'.data.toList = Lines.shifted blankConfig.indent.toList true r.data.toList ∧
      r.data.toList.splitOn '\n' = ["<pattern label=\"a[10]b\">", " <stop/>", " <stop>",
        "  <stop/>", " </stop>", "</pattern>", "<stop/>", ""].map String.toList := by
  have hlinewise : blankConfig.IsLinewise := by
    constructor
    · intro d
      cases d <;> decide
    · decide
  have htakes : (∀ m ∈ steppedContainer.descendants, blankConfig.TakesLines m) ∧
      ((render blankConfig.spacious steppedContainer).resultIn ⟨9, 0, []⟩).isOk ∧
      ((render blankConfig.spacious steppedContainer).resultIn ⟨9, 1, ["g"]⟩).isOk := by
    decide +kernel
  obtain ⟨htakes, hok, hok'⟩ := htakes
  obtain ⟨r, hr⟩ := exists_eq_ok_of_isOk hok
  obtain ⟨r', hr'⟩ := exists_eq_ok_of_isOk hok'
  obtain ⟨hshift, hlines⟩ := render_linewise hlinewise htakes
  refine ⟨hlinewise, htakes, r, r', hr, hr', hshift _ _ r r' rfl hr hr', ?_⟩
  rw [(hlines _ r rfl hr).1]
  decide +kernel

end Node

end SvgMarkup
