import SvgMarkup.Config.Settings
import SvgMarkup.Proofs.Computations

/-!
# Normal values

Many values may be given for one option, and reading them brings them into one form: the name of a
policy becomes the policy, a bare name the set of this name, a list of characters the set of them.
That form is the normal value.  It is its own normal value, so a configuration can be written as
settings and read again.

* `Field.normalize` is the normal value of an option for a given one.
* `Config.normalize_settings`: a configuration is described by normal values.
* `Config.ofSettings_eq_ok_iff`: settings describe the configuration that has their normal values.
-/

namespace SvgMarkup

namespace Value

/-- A set of characters as a value: its members are texts of one character. -/
def ofCharacters (characters : OrderedSet Char) : Value :=
  .frozenSet (characters.toList.map fun a => .text (String.singleton a))

/-- A set of names as a value. -/
def ofNames (names : OrderedSet String) : Value := .frozenSet (names.toList.map .text)

/-! ### Values that are read back -/

lemma readText_text (s : String) : (text s).readText = .ok s := rfl

lemma readFlag_flag (b : Bool) : (flag b).readFlag = .ok b := rfl

/-- Texts can be members of sets. -/
lemma unhashableIn?_map_text (l : List String) : unhashableIn? (l.map .text) = none := by
  induction l with
  | nil => rfl
  | cons s l ih =>
    rw [List.map_cons, unhashableIn?, ih]
    rfl

lemma texts?_map_text (l : List String) : texts? (l.map .text) = some l := by
  have htext : ∀ s, text? (text s) = some s := fun _ => rfl
  exact mapM_map_eq_some htext l

lemma readTexts_frozenSet (l : List String) : (frozenSet (l.map .text)).readTexts = .ok l := by
  unfold readTexts
  simp only [items?, unhashableIn?_map_text, texts?_map_text]

lemma readCharacters_ofCharacters (s : OrderedSet Char) :
    (ofCharacters s).readCharacters = .ok s := by
  have hmembers : ofCharacters s = frozenSet ((s.toList.map String.singleton).map .text) := by
    rw [ofCharacters, List.map_map]
    rfl
  have hread : (ofCharacters s).readTexts = pure (s.toList.map String.singleton) := by
    rw [hmembers]
    exact readTexts_frozenSet _
  unfold readCharacters
  rw [hread, pure_bind, mapM_map_eq_some]
  · exact congrArg Except.ok (OrderedSet.ofList_toList s)
  · intro a
    rw [String.toList_singleton]

lemma readNames_ofNames (s : OrderedSet String) : (ofNames s).readNames = .ok s := by
  have hread : (ofNames s).readTexts = .ok s.toList := readTexts_frozenSet _
  have hnames : (ofNames s).readNames = .ok (.ofList s.toList) := by
    unfold readNames
    rw [hread]
    rfl
  rw [hnames, OrderedSet.ofList_toList]

lemma readEncoder_encoder (e : Encoder) : (encoder e).readEncoder = .ok e := rfl

lemma readNonEmptyText_text (s : { s : String // s ≠ "" }) :
    (text s.1).readNonEmptyText = .ok s := dif_pos s.2

lemma readPositive_int (n : { n : Nat // 0 < n }) : (int n.1).readPositive = .ok n := dif_pos n.2

lemma readPolicy_policy (p : CapturePolicy) : (policy p).readPolicy = .ok p := by
  unfold readPolicy
  simp only [text?, Option.bind_some, CapturePolicy.ofLabel?_label]

end Value

/-- The normal value of an option for a given one. -/
def Field.normalize : Field → Value → Except ReadError Value
  | .delimiter _, v | .indent, v => v.readText.map .text
  | .pretty, v | .strict, v => v.readFlag.map .flag
  | .textEntities, v | .attributeEntities, v => v.readCharacters.map .ofCharacters
  | .textElements, v | .textChildElements, v => v.readNames.map .ofNames
  | .encodeEntity, v => v.readEncoder.map .encoder
  | .rootElement, v => v.readNonEmptyText.map fun s => .text s.1
  | .maxDepth, v => v.readPositive.map fun n => .int n.1
  | .dimensionCapture, v => v.readPolicy.map .policy

/-- The values that describe a configuration are normal. -/
lemma Config.normalize_settings (c : Config) (f : Field) :
    f.normalize (c.settings f) = .ok (c.settings f) := by
  cases f with
  | delimiter | indent => exact congrArg (Except.map _) (Value.readText_text _)
  | pretty | strict => exact congrArg (Except.map _) (Value.readFlag_flag _)
  | textEntities | attributeEntities =>
    exact congrArg (Except.map _) (Value.readCharacters_ofCharacters _)
  | textElements | textChildElements =>
    exact congrArg (Except.map _) (Value.readNames_ofNames _)
  | encodeEntity => exact congrArg (Except.map _) (Value.readEncoder_encoder _)
  | rootElement => exact congrArg (Except.map _) (Value.readNonEmptyText_text ⟨_, c.rootElement_ne⟩)
  | maxDepth => exact congrArg (Except.map _) (Value.readPositive_int ⟨_, c.maxDepth_pos⟩)
  | dimensionCapture => exact congrArg (Except.map _) (Value.readPolicy_policy _)

/-! ### Reading settings -/

namespace Settings

/-- If written values are read back, the value of an option is read as what is written in the form
of its normal value. -/
lemma read_eq_ok_iff {α : Type} {s : Settings} {field : Field} {reader : Value → Except ReadError α}
    {write : α → Value} (hback : ∀ a, reader (write a) = .ok a) {a : α} :
    s.read field reader = .ok a ↔ (reader (s field)).map write = .ok (write a) := by
  unfold read
  cases hread : reader (s field) with
  | error e => cases e <;> exact ⟨nofun, nofun⟩
  | ok b =>
    constructor
    · intro h
      obtain rfl := Except.ok.inj h
      rfl
    · intro h
      have hsame : reader (write b) = reader (write a) := congrArg reader (Except.ok.inj h)
      rw [hback, hback] at hsame
      obtain rfl := Except.ok.inj hsame
      rfl

/-- The delimiters of settings are read one by one. -/
lemma readDelimiters_eq_ok_iff {s : Settings} {delimiter : Delimiter → String} :
    s.readDelimiters = .ok delimiter ↔
      ∀ d, s.read (.delimiter d) Value.readText = .ok (delimiter d) := by
  have htext : ∀ d t, s.read (.delimiter d) Value.readText = .ok t →
      (s (.delimiter d)).text?.getD "" = t := by
    intro d t h
    unfold read Value.readText at h
    cases ht : (s (.delimiter d)).text? with
    | none =>
      rw [ht] at h
      cases h
    | some t' =>
      rw [ht] at h
      exact Except.ok.inj h
  constructor
  · intro h d
    obtain ⟨_, hall, h⟩ := exists_of_bind_eq_ok h
    obtain rfl := Except.ok.inj h
    obtain ⟨t, ht⟩ := discard_eq_ok_iff.mp (forM_eq_ok_iff.mp hall d d.mem_all)
    exact ht.trans (congrArg Except.ok (htext d t ht).symm)
  · intro h
    have hall : Delimiter.all.forM (fun d => discard (s.read (.delimiter d) Value.readText)) =
        .ok () :=
      forM_eq_ok_iff.mpr fun d _ => discard_eq_ok_iff.mpr ⟨_, h d⟩
    unfold readDelimiters
    rw [hall]
    exact congrArg Except.ok (funext fun d => htext d _ (h d))

end Settings

namespace Config

/-- Settings describe a configuration if and only if the normal value of every option is its value
in the configuration. -/
lemma ofSettings_eq_ok_iff {s : Settings} {c : Config} :
    ofSettings s = .ok c ↔ ∀ f : Field, f.normalize (s f) = .ok (c.settings f) := by
  constructor
  · intro h
    unfold ofSettings at h
    obtain ⟨delimiter, hdelimiter, h⟩ := exists_of_bind_eq_ok h
    obtain ⟨indent, hindent, h⟩ := exists_of_bind_eq_ok h
    obtain ⟨pretty, hpretty, h⟩ := exists_of_bind_eq_ok h
    obtain ⟨strict, hstrict, h⟩ := exists_of_bind_eq_ok h
    obtain ⟨textEntities, htext, h⟩ := exists_of_bind_eq_ok h
    obtain ⟨attributeEntities, hattribute, h⟩ := exists_of_bind_eq_ok h
    obtain ⟨textElements, hholds, h⟩ := exists_of_bind_eq_ok h
    obtain ⟨textChildElements, hstands, h⟩ := exists_of_bind_eq_ok h
    obtain ⟨encoder, hencoder, h⟩ := exists_of_bind_eq_ok h
    obtain ⟨⟨rootElement, hne⟩, hroot, h⟩ := exists_of_bind_eq_ok h
    obtain ⟨⟨maxDepth, hpos⟩, hdepth, h⟩ := exists_of_bind_eq_ok h
    obtain ⟨capture, hcapture, h⟩ := exists_of_bind_eq_ok h
    obtain rfl := Except.ok.inj h
    intro f
    cases f with
    | delimiter d =>
      exact (Settings.read_eq_ok_iff Value.readText_text).mp
        (Settings.readDelimiters_eq_ok_iff.mp hdelimiter d)
    | indent => exact (Settings.read_eq_ok_iff Value.readText_text).mp hindent
    | pretty => exact (Settings.read_eq_ok_iff Value.readFlag_flag).mp hpretty
    | strict => exact (Settings.read_eq_ok_iff Value.readFlag_flag).mp hstrict
    | textEntities => exact (Settings.read_eq_ok_iff Value.readCharacters_ofCharacters).mp htext
    | attributeEntities =>
      exact (Settings.read_eq_ok_iff Value.readCharacters_ofCharacters).mp hattribute
    | textElements => exact (Settings.read_eq_ok_iff Value.readNames_ofNames).mp hholds
    | textChildElements => exact (Settings.read_eq_ok_iff Value.readNames_ofNames).mp hstands
    | encodeEntity => exact (Settings.read_eq_ok_iff Value.readEncoder_encoder).mp hencoder
    | rootElement => exact (Settings.read_eq_ok_iff Value.readNonEmptyText_text).mp hroot
    | maxDepth => exact (Settings.read_eq_ok_iff Value.readPositive_int).mp hdepth
    | dimensionCapture => exact (Settings.read_eq_ok_iff Value.readPolicy_policy).mp hcapture
  · intro h
    have hdelimiter : s.readDelimiters = .ok c.delimiter :=
      Settings.readDelimiters_eq_ok_iff.mpr fun d =>
        (Settings.read_eq_ok_iff Value.readText_text).mpr (h (.delimiter d))
    have hroot : s.read .rootElement Value.readNonEmptyText = .ok ⟨_, c.rootElement_ne⟩ :=
      (Settings.read_eq_ok_iff Value.readNonEmptyText_text).mpr (h .rootElement)
    have hdepth : s.read .maxDepth Value.readPositive = .ok ⟨_, c.maxDepth_pos⟩ :=
      (Settings.read_eq_ok_iff Value.readPositive_int).mpr (h .maxDepth)
    rw [ofSettings, hdelimiter,
      (Settings.read_eq_ok_iff Value.readText_text).mpr (h .indent),
      (Settings.read_eq_ok_iff Value.readFlag_flag).mpr (h .pretty),
      (Settings.read_eq_ok_iff Value.readFlag_flag).mpr (h .strict),
      (Settings.read_eq_ok_iff Value.readCharacters_ofCharacters).mpr (h .textEntities),
      (Settings.read_eq_ok_iff Value.readCharacters_ofCharacters).mpr (h .attributeEntities),
      (Settings.read_eq_ok_iff Value.readNames_ofNames).mpr (h .textElements),
      (Settings.read_eq_ok_iff Value.readNames_ofNames).mpr (h .textChildElements),
      (Settings.read_eq_ok_iff Value.readEncoder_encoder).mpr (h .encodeEntity), hroot, hdepth,
      (Settings.read_eq_ok_iff Value.readPolicy_policy).mpr (h .dimensionCapture)]
    rfl

end Config

end SvgMarkup
