import SvgMarkup.Config.Overlay
import SvgMarkup.Proofs.Config.Normal

/-!
# Values that options admit

Every option asks for values of a form.  Settings describe a configuration if the value of every
option has its form; otherwise the first option whose value has not is reported, whatever the values
of the options after it.  There is one flaw: a collection from which a set is to be made may have a
member that cannot be in a set, and then the failure is that of making the set, which does not say
for which option it was made.

* `Field.Admits` is the form of values that an option asks for, `Field.fault?` what is reported of a
  value that does not have it.
* `Settings.decidedBy_ofSettings`: the first fault of settings is reported.
* `Config.ofChanges_outcome` describes what new values for some options lead to.
-/

namespace SvgMarkup

/-! ### Forms -/

/-- The options that take a set. -/
def Field.collections : List Field :=
  [.textEntities, .attributeEntities, .textElements, .textChildElements]

/-- Whether a value has the form that an option asks for.  A text is a collection of texts of one
character. -/
def Field.Admits : Field → Value → Prop
  | .delimiter _, v | .indent, v => ∃ s, v.text? = some s
  | .pretty, v | .strict, v => ∃ b, v = .flag b
  | .textEntities, v | .attributeEntities, v =>
    ∃ members, v.items? = some members ∧ ∀ m ∈ members, ∃ s, m.text? = some s ∧ s.length = 1
  | .textElements, v | .textChildElements, v =>
    ∃ members, v.items? = some members ∧ ∀ m ∈ members, ∃ s, m.text? = some s
  | .encodeEntity, v => ∃ e, v = .encoder e
  | .rootElement, v => ∃ s, s ≠ "" ∧ v.text? = some s
  | .maxDepth, v => ∃ n : Nat, 0 < n ∧ v = .int n
  | .dimensionCapture, v => ∃ p : CapturePolicy, v.text? = some p.label

namespace Value

/-- The type of the first member of a collection that cannot be a member of a set. -/
def unhashableMember? (v : Value) : Option String := v.items?.bind unhashableIn?

/-! ### What readers read -/

variable {v : Value}

lemma exists_readText_iff : (∃ s, v.readText = .ok s) ↔ ∃ s, v.text? = some s := by
  unfold readText
  cases v.text? with
  | none => exact ⟨nofun, nofun⟩
  | some s => exact ⟨fun _ => ⟨s, rfl⟩, fun _ => ⟨s, rfl⟩⟩

lemma exists_readFlag_iff : (∃ b, v.readFlag = .ok b) ↔ ∃ b, v = .flag b := by
  cases v with
  | flag b => exact ⟨fun _ => ⟨b, rfl⟩, fun _ => ⟨b, rfl⟩⟩
  | _ => exact ⟨nofun, nofun⟩

lemma exists_readEncoder_iff : (∃ e, v.readEncoder = .ok e) ↔ ∃ e, v = .encoder e := by
  cases v with
  | encoder e => exact ⟨fun _ => ⟨e, rfl⟩, fun _ => ⟨e, rfl⟩⟩
  | _ => exact ⟨nofun, nofun⟩

lemma exists_readNonEmptyText_iff :
    (∃ s, v.readNonEmptyText = .ok s) ↔ ∃ s, s ≠ "" ∧ v.text? = some s := by
  unfold readNonEmptyText
  cases v.text? with
  | none => exact ⟨nofun, nofun⟩
  | some s => by_cases h : s = "" <;> simp [h]

lemma exists_readPositive_iff :
    (∃ n, v.readPositive = .ok n) ↔ ∃ n : Nat, 0 < n ∧ v = .int n := by
  cases v with
  | int i =>
    constructor
    · rintro ⟨n, h⟩
      have hi : 0 < i.toNat := by
        by_contra hi
        have hfails : (int i).readPositive = .error (.expected .positiveInt) := dif_neg hi
        rw [hfails] at h
        cases h
      exact ⟨i.toNat, hi, by rw [Int.toNat_of_nonneg (by omega)]⟩
    · rintro ⟨n, hn, h⟩
      exact ⟨⟨n, hn⟩, h ▸ readPositive_int ⟨n, hn⟩⟩
  | _ => exact ⟨nofun, nofun⟩

lemma exists_readPolicy_iff :
    (∃ p, v.readPolicy = .ok p) ↔ ∃ p : CapturePolicy, v.text? = some p.label := by
  unfold readPolicy
  constructor
  · rintro ⟨p, h⟩
    split at h
    · next q hq =>
      obtain ⟨s, hs, hlabel⟩ := Option.bind_eq_some_iff.mp hq
      have hname := List.find?_some hlabel
      exact ⟨q, by rw [hs, eq_of_beq hname]⟩
    · cases h
  · rintro ⟨p, h⟩
    simp only [h, Option.bind_some, CapturePolicy.ofLabel?_label]
    exact ⟨p, rfl⟩

/-! ### Collections -/

/-- A text can be a member of a set. -/
lemma unhashable?_of_text? {s : String} (h : v.text? = some s) : v.unhashable? = none := by
  cases v with
  | text | policy => rfl
  | _ => cases h

lemma unhashableIn?_of_forall {members : List Value}
    (h : ∀ m ∈ members, ∃ s, m.text? = some s) : unhashableIn? members = none := by
  induction members with
  | nil => rfl
  | cons m members ih =>
    obtain ⟨⟨s, hs⟩, hmembers⟩ := List.forall_mem_cons.mp h
    rw [unhashableIn?, unhashable?_of_text? hs, ih hmembers]
    rfl

/-- A collection of texts is read as the list of its members. -/
lemma readTexts_eq_ok_iff {l : List String} :
    v.readTexts = .ok l ↔ ∃ members, v.items? = some members ∧ texts? members = some l := by
  unfold readTexts
  cases v.items? with
  | none => exact ⟨nofun, nofun⟩
  | some members =>
    simp only [Option.some.injEq, exists_eq_left']
    constructor
    · intro h
      split at h
      · cases h
      · split at h
        · next texts htexts => exact htexts.trans (congrArg some (Except.ok.inj h))
        · cases h
    · intro h
      -- texts can be in a set, so the check for members that cannot is passed
      have hmembers := exists_mapM_eq_some_iff.mp ⟨l, h⟩
      simp only [unhashableIn?_of_forall hmembers, h]

lemma exists_readTexts_iff : (∃ l, v.readTexts = .ok l) ↔
    ∃ members, v.items? = some members ∧ ∀ m ∈ members, ∃ s, m.text? = some s := by
  simp only [readTexts_eq_ok_iff, ← exists_mapM_eq_some_iff]
  exact ⟨fun ⟨l, members, hitems, h⟩ => ⟨members, hitems, l, h⟩,
    fun ⟨members, hitems, l, h⟩ => ⟨l, members, hitems, h⟩⟩

lemma readTexts_eq_unhashable_iff {t : String} :
    v.readTexts = .error (.unhashable t) ↔ v.unhashableMember? = some t := by
  unfold readTexts unhashableMember?
  cases v.items? with
  | none => exact ⟨nofun, nofun⟩
  | some members =>
    rw [Option.bind_some]
    cases hmember : unhashableIn? members with
    | some t' => simp only [hmember, Except.error.injEq, ReadError.unhashable.injEq,
        Option.some.injEq]
    | none => cases htexts : texts? members <;> simp [hmember, htexts]

/-- A text is read as a character if it has length one. -/
lemma exists_character_iff {s : String} :
    (∃ c, (match s.toList with | [c] => some c | _ => none) = some c) ↔ s.length = 1 := by
  rw [← String.length_toList, List.length_eq_one_iff]
  constructor
  · rintro ⟨c, h⟩
    split at h
    · next d hd => exact ⟨d, hd⟩
    · cases h
  · rintro ⟨c, h⟩
    exact ⟨c, by rw [h]⟩

/-- A collection of texts is read as characters if each text is read as one. -/
lemma exists_readCharacters_iff_forall : (∃ s, v.readCharacters = .ok s) ↔
    ∃ texts, v.readTexts = .ok texts ∧ ∀ s ∈ texts, s.length = 1 := by
  simp only [← exists_character_iff, ← exists_mapM_eq_some_iff]
  unfold readCharacters
  constructor
  · rintro ⟨s, h⟩
    obtain ⟨texts, htexts, h⟩ := exists_of_bind_eq_ok h
    split at h
    · next characters hcharacters => exact ⟨texts, htexts, characters, hcharacters⟩
    · cases h
  · rintro ⟨texts, htexts, characters, hcharacters⟩
    simp only [htexts, bind, Except.bind]
    split
    · exact ⟨_, rfl⟩
    · next hnone => cases hnone.symm.trans hcharacters

lemma exists_readCharacters_iff : (∃ s, v.readCharacters = .ok s) ↔
    ∃ members, v.items? = some members ∧
      ∀ m ∈ members, ∃ s, m.text? = some s ∧ s.length = 1 := by
  rw [exists_readCharacters_iff_forall]
  constructor
  · rintro ⟨texts, htexts, hlength⟩
    obtain ⟨members, hitems, hmembers⟩ := readTexts_eq_ok_iff.mp htexts
    refine ⟨members, hitems, fun m hm => ?_⟩
    obtain ⟨s, hs⟩ := exists_mapM_eq_some_iff.mp ⟨texts, hmembers⟩ m hm
    exact ⟨s, hs, hlength s ((mem_iff_of_mapM_eq_some hmembers).mpr ⟨m, hm, hs⟩)⟩
  · rintro ⟨members, hitems, hall⟩
    have htext : ∀ m ∈ members, ∃ s, m.text? = some s := fun m hm =>
      let ⟨s, hs, _⟩ := hall m hm
      ⟨s, hs⟩
    obtain ⟨texts, hmembers⟩ := exists_mapM_eq_some_iff.mpr htext
    refine ⟨texts, readTexts_eq_ok_iff.mpr ⟨members, hitems, hmembers⟩, fun s hs => ?_⟩
    obtain ⟨m, hm, hms⟩ := (mem_iff_of_mapM_eq_some hmembers).mp hs
    obtain ⟨s', hms', hlength⟩ := hall m hm
    obtain rfl := Option.some.inj (hms.symm.trans hms')
    exact hlength

lemma readCharacters_eq_unhashable_iff {t : String} :
    v.readCharacters = .error (.unhashable t) ↔ v.unhashableMember? = some t := by
  rw [← readTexts_eq_unhashable_iff]
  unfold readCharacters
  cases v.readTexts with
  | error e => exact ⟨fun h => congrArg _ (Except.error.inj h), fun h => congrArg _
      (Except.error.inj h)⟩
  | ok texts =>
    refine ⟨fun h => ?_, nofun⟩
    simp only [bind, Except.bind] at h
    split at h <;> cases h

/-- A text has members, each of them a text. -/
lemma exists_items?_of_text? {s : String} (h : v.text? = some s) :
    ∃ members, v.items? = some members ∧ ∀ m ∈ members, ∃ s, m.text? = some s := by
  cases v with
  | text | policy =>
    refine ⟨_, rfl, fun m hm => ?_⟩
    obtain ⟨c, -, rfl⟩ := List.mem_map.mp hm
    exact ⟨_, rfl⟩
  | _ => cases h

lemma exists_readNames_iff : (∃ s, v.readNames = .ok s) ↔
    ∃ members, v.items? = some members ∧ ∀ m ∈ members, ∃ s, m.text? = some s := by
  unfold readNames
  cases h : v.text? with
  | some s => exact ⟨fun _ => exists_items?_of_text? h, fun _ => ⟨_, rfl⟩⟩
  | none => exact exists_map_eq_ok_iff.trans exists_readTexts_iff

lemma readNames_eq_unhashable_iff {t : String} :
    v.readNames = .error (.unhashable t) ↔ v.unhashableMember? = some t := by
  unfold readNames
  cases h : v.text? with
  | some s =>
    obtain ⟨members, hitems, hmembers⟩ := exists_items?_of_text? h
    rw [unhashableMember?, hitems, Option.bind_some, unhashableIn?_of_forall hmembers]
    exact ⟨nofun, nofun⟩
  | none => exact map_eq_error_iff.trans readTexts_eq_unhashable_iff

end Value

/-- Whether a failure is one of the configuration and its description names an option. -/
def Failure.NamesOption (x : Failure) (f : Field) : Prop :=
  ∃ d : Diagnostic, x = .of .configuration d ∧ d.optionName = some f.name

/-! ### Faults of values -/

namespace Field

variable {f : Field} {v : Value}

/-- An option admits the values that can be read for it. -/
lemma exists_normalize_iff : (∃ w, f.normalize v = .ok w) ↔ f.Admits v := by
  cases f with
  | delimiter | indent => exact exists_map_eq_ok_iff.trans Value.exists_readText_iff
  | pretty | strict => exact exists_map_eq_ok_iff.trans Value.exists_readFlag_iff
  | textEntities | attributeEntities =>
    exact exists_map_eq_ok_iff.trans Value.exists_readCharacters_iff
  | textElements | textChildElements =>
    exact exists_map_eq_ok_iff.trans Value.exists_readNames_iff
  | encodeEntity => exact exists_map_eq_ok_iff.trans Value.exists_readEncoder_iff
  | rootElement => exact exists_map_eq_ok_iff.trans Value.exists_readNonEmptyText_iff
  | maxDepth => exact exists_map_eq_ok_iff.trans Value.exists_readPositive_iff
  | dimensionCapture => exact exists_map_eq_ok_iff.trans Value.exists_readPolicy_iff

/-- The type of the member that keeps a value of an option from being made a set. -/
def unhashableMember? (f : Field) (v : Value) : Option String :=
  if f ∈ collections then v.unhashableMember? else none

/-- Only options that take a set fail to make one. -/
lemma normalize_eq_unhashable_iff {t : String} :
    f.normalize v = .error (.unhashable t) ↔ f.unhashableMember? v = some t := by
  cases f with
  | textEntities | attributeEntities =>
    exact map_eq_error_iff.trans Value.readCharacters_eq_unhashable_iff
  | textElements | textChildElements =>
    exact map_eq_error_iff.trans Value.readNames_eq_unhashable_iff
  -- the other readers make no set: their only error is that another form was expected
  | delimiter | indent =>
    refine map_eq_error_iff.trans ⟨fun h => ?_, nofun⟩
    unfold Value.readText at h
    split at h <;> cases h
  | pretty | strict =>
    refine map_eq_error_iff.trans ⟨fun h => ?_, nofun⟩
    unfold Value.readFlag at h
    split at h <;> cases h
  | encodeEntity =>
    refine map_eq_error_iff.trans ⟨fun h => ?_, nofun⟩
    unfold Value.readEncoder at h
    split at h <;> cases h
  | rootElement =>
    refine map_eq_error_iff.trans ⟨fun h => ?_, nofun⟩
    unfold Value.readNonEmptyText at h
    split at h
    · split at h <;> cases h
    · cases h
  | maxDepth =>
    refine map_eq_error_iff.trans ⟨fun h => ?_, nofun⟩
    unfold Value.readPositive at h
    split at h
    · split at h <;> cases h
    · cases h
  | dimensionCapture =>
    refine map_eq_error_iff.trans ⟨fun h => ?_, nofun⟩
    unfold Value.readPolicy at h
    split at h <;> cases h

/-- What is reported of a value of an option. -/
def fault? (f : Field) (v : Value) : Option ConfigError :=
  match f.normalize v with
  | .ok _ => none
  | .error (.expected e) => some (.invalidValue f e v.typeName)
  | .error (.unhashable t) => some (.unhashable t)

lemma fault?_eq_none_iff : f.fault? v = none ↔ f.Admits v := by
  rw [← exists_normalize_iff]
  unfold fault?
  cases f.normalize v with
  | ok w => exact ⟨fun _ => ⟨w, rfl⟩, fun _ => rfl⟩
  | error e => cases e <;> exact ⟨nofun, nofun⟩

instance : Decidable (f.Admits v) := decidable_of_iff _ fault?_eq_none_iff

lemma fault?_of_unhashableMember? {t : String} (h : f.unhashableMember? v = some t) :
    f.fault? v = some (.unhashable t) := by
  unfold fault?
  rw [normalize_eq_unhashable_iff.mpr h]

/-- Of a value that is not admitted the form that was expected is reported, unless a set could not
be made. -/
lemma exists_fault?_eq_invalidValue (hv : ¬ f.Admits v) (h : f.unhashableMember? v = none) :
    ∃ e, f.fault? v = some (.invalidValue f e v.typeName) := by
  rw [← exists_normalize_iff] at hv
  unfold fault?
  cases hread : f.normalize v with
  | ok w => exact absurd ⟨w, hread⟩ hv
  | error e =>
    cases e with
    | expected e => exact ⟨e, rfl⟩
    | unhashable t => cases h.symm.trans (normalize_eq_unhashable_iff.mp hread)

end Field

/-! ### Faults of settings -/

namespace Settings

/-- What is reported of the values of settings, in the order in which options are checked. -/
def faults (s : Settings) : List ConfigError :=
  Field.all.flatMap fun f => (f.fault? (s f)).toList

/-- The first option, in the order in which options are checked, that does not admit its value. -/
def firstUnfit? (s : Settings) : Option Field := Field.all.find? fun f => ¬ f.Admits (s f)

variable {s : Settings}

lemma decidedBy_read {α : Type} {f : Field} {reader : Value → Except ReadError α}
    {write : α → Value} (h : f.normalize (s f) = (reader (s f)).map write) :
    DecidedBy (s.read f reader) (f.fault? (s f)).toList := by
  unfold read Field.fault?
  rw [h]
  cases reader (s f) with
  | ok a => exact ⟨a, rfl⟩
  | error e => cases e <;> rfl

lemma decidedBy_readDelimiters : DecidedBy s.readDelimiters
    (Delimiter.all.flatMap fun d => ((Field.delimiter d).fault? (s (.delimiter d))).toList) :=
  (DecidedBy.forM fun _ => (decidedBy_read rfl).discard).bind_pure fun _ => .pure _

/-- Whether settings describe a configuration is decided by the faults of their values. -/
lemma decidedBy_ofSettings : DecidedBy (Config.ofSettings s) s.faults := by
  have hdelimiters :
      (Delimiter.all.map Field.delimiter).flatMap (fun f => (f.fault? (s f)).toList) =
        Delimiter.all.flatMap fun d => ((Field.delimiter d).fault? (s (.delimiter d))).toList :=
    List.flatMap_map ..
  unfold Config.ofSettings faults Field.all
  rw [List.flatMap_append, hdelimiters]
  -- the delimiters are read together, each of the other options in a step of its own
  refine decidedBy_readDelimiters.bind fun _ => ?_
  refine (decidedBy_read rfl).bind fun _ => ?_
  refine (decidedBy_read rfl).bind fun _ => ?_
  refine (decidedBy_read rfl).bind fun _ => ?_
  refine (decidedBy_read rfl).bind fun _ => ?_
  refine (decidedBy_read rfl).bind fun _ => ?_
  refine (decidedBy_read rfl).bind fun _ => ?_
  refine (decidedBy_read rfl).bind fun _ => ?_
  refine (decidedBy_read rfl).bind fun _ => ?_
  refine (decidedBy_read rfl).bind fun _ => ?_
  refine (decidedBy_read rfl).bind fun _ => ?_
  exact (decidedBy_read rfl).bind fun _ => .pure _

/-- Settings describe a configuration if every option admits its value. -/
lemma exists_ofSettings_eq_ok_iff :
    (∃ c, Config.ofSettings s = .ok c) ↔ ∀ f : Field, f.Admits (s f) := by
  rw [decidedBy_ofSettings.exists_ok_iff, faults, List.flatMap_eq_nil_iff]
  simp only [Option.toList_eq_nil_iff, Field.fault?_eq_none_iff]
  exact ⟨fun h f => h f f.mem_all, fun h f _ => h f⟩

lemma firstUnfit?_eq_none_iff : s.firstUnfit? = none ↔ ∀ f : Field, f.Admits (s f) := by
  simp only [firstUnfit?, List.find?_eq_none, decide_eq_true_eq, not_not]
  exact ⟨fun h f => h f f.mem_all, fun h f _ => h f⟩

lemma not_admits_of_firstUnfit? {f : Field} (h : s.firstUnfit? = some f) : ¬ f.Admits (s f) := by
  simpa using List.find?_some h

/-- The first fault of settings is that of the first option that does not admit its value. -/
lemma head?_faults {f : Field} (h : s.firstUnfit? = some f) :
    s.faults.head? = f.fault? (s f) := by
  obtain ⟨-, before, after, hall, hbefore⟩ := List.find?_eq_some_iff_append.mp h
  -- the options before the first unfit one are without fault
  have hadmitted : ∀ g ∈ before, g.fault? (s g) = none := fun g hg =>
    Field.fault?_eq_none_iff.mpr (by simpa using hbefore g hg)
  have hnone : before.findSome? (fun g => g.fault? (s g)) = none :=
    List.findSome?_eq_none_iff.mpr hadmitted
  have hfault : f.fault? (s f) ≠ none :=
    mt Field.fault?_eq_none_iff.mp (not_admits_of_firstUnfit? h)
  obtain ⟨e, he⟩ := Option.ne_none_iff_exists'.mp hfault
  simp only [faults, List.head?_flatMap, Option.head?_toList, hall, List.findSome?_append, hnone,
    Option.none_or, List.findSome?_cons, he]

end Settings

namespace Config

variable {s : Settings} {f : Field}

/-- A set that cannot be made is reported as such. -/
lemma ofSettings_eq_unhashable {t : String} (h : s.firstUnfit? = some f)
    (ht : f.unhashableMember? (s f) = some t) : ofSettings s = .error (.unhashable t) :=
  Settings.decidedBy_ofSettings.eq_error
    ((Settings.head?_faults h).trans (Field.fault?_of_unhashableMember? ht))

/-- Otherwise the first option that does not admit its value is reported. -/
lemma exists_ofSettings_eq_invalidValue (h : s.firstUnfit? = some f)
    (ht : f.unhashableMember? (s f) = none) :
    ∃ e, ofSettings s = .error (.invalidValue f e (s f).typeName) := by
  obtain ⟨e, he⟩ := Field.exists_fault?_eq_invalidValue (Settings.not_admits_of_firstUnfit? h) ht
  exact ⟨e, Settings.decidedBy_ofSettings.eq_error ((Settings.head?_faults h).trans he)⟩

/-- New values for options give a configuration if every option admits its value, and the values in
the configuration are the normal ones, which are admitted as well.  Otherwise a failure of the
configuration names the first option that does not admit its value, unless this option takes a set
and has a value with a member that cannot be in one: the failure then names the type of the member
only. -/
theorem ofChanges_outcome (changes : List (Field × Value)) :
    let s := standard.settings.assign changes
    (∃ c, ofChanges changes = .ok c ∧ ∀ f : Field,
      f.Admits (s f) ∧ f.normalize (s f) = .ok (c.settings f) ∧ f.Admits (c.settings f)) ∨
    (∃ f e, s.firstUnfit? = some f ∧ f.unhashableMember? (s f) = none ∧
      ofChanges changes = .error e ∧ e.failure.NamesOption f) ∨
    ∃ f t, s.firstUnfit? = some f ∧ f.unhashableMember? (s f) = some t ∧
      ofChanges changes = .error (.unhashable t) := by
  intro s
  cases hfirst : s.firstUnfit? with
  | none =>
    have hadmits := Settings.firstUnfit?_eq_none_iff.mp hfirst
    obtain ⟨c, hc⟩ := Settings.exists_ofSettings_eq_ok_iff.mpr hadmits
    refine .inl ⟨c, hc, fun f => ⟨hadmits f, ofSettings_eq_ok_iff.mp hc f, ?_⟩⟩
    exact Field.exists_normalize_iff.mp ⟨_, c.normalize_settings f⟩
  | some f =>
    cases hmember : f.unhashableMember? (s f) with
    | none =>
      obtain ⟨e, he⟩ := exists_ofSettings_eq_invalidValue hfirst hmember
      exact .inr (.inl ⟨f, _, rfl, hmember, he, _, rfl, rfl⟩)
    | some t => exact .inr (.inr ⟨f, t, rfl, hmember, ofSettings_eq_unhashable hfirst hmember⟩)

/-- A failure does not always name an option whose value is not admitted: of a list within a list it
is said only that it cannot be made a set. -/
theorem not_forall_ofChanges_error : ¬ ∀ changes,
    (∃ c, ofChanges changes = .ok c) ∨
    ∃ f e, ¬ f.Admits (standard.settings.assign changes f) ∧
      ofChanges changes = .error e ∧ e.failure.NamesOption f := by
  intro h
  have hfails : ofChanges [(.textEntities, .list [.list [.text "a"]])] =
      .error (.unhashable "list") := rfl
  rcases h [(.textEntities, .list [.list [.text "a"]])] with ⟨c, hc⟩ | ⟨f, e, -, he, d, hd, -⟩
  · cases hfails.symm.trans hc
  · obtain rfl := Except.error.inj (hfails.symm.trans he)
    cases hd

end Config

end SvgMarkup
