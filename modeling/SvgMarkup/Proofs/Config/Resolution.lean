import SvgMarkup.Proofs.Config.Overlays
import SvgMarkup.Proofs.Config.Validity

/-!
# What an overlay depends on

All names are looked up before any value is read, so the first entry that names no option decides if
there is one.  Otherwise only the last value for each option counts, and if these values do not fit,
the first option that does not admit its value is reported, in the order in which options are
checked and not in that of the entries.  A value of which no set can be made is an error of its own,
which does not say of which option it is.  It does not matter how options are spelled, nor in which
order entries stand that name different options.

* `Config.requested` are the values that are read.
* `Config.overlay_of_firstUnknown?`, `Config.overlay_of_forall_known`: an overlay depends on the
  first unknown name and on the requested values only.
* `Entry.Rearranged` relates entries that differ in spelling and order, `Entry.Rearranged.of_perm`
  gives the case of entries that all name different options.
* `Config.resolve_outcome` describes resolution.
-/

namespace SvgMarkup

namespace Entry

/-! ### Unknown names -/

/-- The first name under which some entries name no option. -/
def firstUnknown? (entries : List Entry) : Option String :=
  (entries.find? fun e => ¬ Known e).map (·.1)

lemma firstUnknown?_cons (e : Entry) (entries : List Entry) :
    firstUnknown? (e :: entries) = if Known e then firstUnknown? entries else some e.1 := by
  unfold firstUnknown?
  by_cases h : Known e <;> simp [h]

lemma firstUnknown?_append (entries later : List Entry) :
    firstUnknown? (entries ++ later) = (firstUnknown? entries).or (firstUnknown? later) := by
  rw [firstUnknown?, List.find?_append, Option.map_or]
  rfl

lemma firstUnknown?_eq_none_iff {entries : List Entry} :
    firstUnknown? entries = none ↔ ∀ e ∈ entries, Known e := by
  simp [firstUnknown?]

/-- The first unknown name is reported. -/
lemma changes_of_firstUnknown? {entries : List Entry} {name : String}
    (h : firstUnknown? entries = some name) :
    Entry.changes entries = .error (.unknownOption name) := by
  induction entries with
  | nil => cases h
  | cons e entries ih =>
    unfold Entry.changes at ih ⊢
    rw [List.mapM_cons]
    rw [firstUnknown?_cons] at h
    by_cases he : Known e
    · rw [if_pos he] at h
      obtain ⟨f, hf⟩ := he
      rw [Field.ofSpelling?_eq_some_iff.mpr hf, ih h]
      rfl
    · rw [if_neg he] at h
      have hnone : Field.ofSpelling? e.1 = none :=
        Option.eq_none_iff_forall_ne_some.mpr fun f hf =>
          he ⟨f, Field.ofSpelling?_eq_some_iff.mp hf⟩
      rw [hnone, ← Option.some.inj h]
      rfl

/-! ### Rearranged entries -/

/-- Two entries are apart if they do not name the same option. -/
def Apart (d e : Entry) : Prop := ∀ f : Field, d.1 ∈ f.spellings → e.1 ∉ f.spellings

instance : DecidableRel Apart := fun d e =>
  decidable_of_iff (∀ f ∈ Field.all, d.1 ∈ f.spellings → e.1 ∉ f.spellings)
    ⟨fun h f => h f f.mem_all, fun h f _ => h f⟩

lemma Apart.symm {d e : Entry} (h : Apart d e) : Apart e d := fun f he hd => h f hd he

/-- Entries are rearranged by giving other spellings to options and by moving entries that name an
option past entries that do not name the same one. -/
inductive Rearranged : List Entry → List Entry → Prop
  | nil : Rearranged [] []
  | cons (e : Entry) {l l' : List Entry} : Rearranged l l' → Rearranged (e :: l) (e :: l')
  | respell {f : Field} {name name' : String} (hname : name ∈ f.spellings)
      (hname' : name' ∈ f.spellings) (v : Value) (l : List Entry) :
      Rearranged ((name, v) :: l) ((name', v) :: l)
  | swap {d e : Entry} (hknown : Known d ∨ Known e) (hapart : Apart d e) (l : List Entry) :
      Rearranged (d :: e :: l) (e :: d :: l)
  | trans {l l' l'' : List Entry} : Rearranged l l' → Rearranged l' l'' → Rearranged l l''

namespace Rearranged

variable {l l' : List Entry}

/-- The first unknown name stays the same, since entries with unknown names are not moved past each
other. -/
lemma firstUnknown?_eq (h : Rearranged l l') : firstUnknown? l = firstUnknown? l' := by
  induction h with
  | nil => rfl
  | cons e _ ih => rw [firstUnknown?_cons, firstUnknown?_cons, ih]
  | respell hname hname' v l =>
    rw [firstUnknown?_cons, firstUnknown?_cons, if_pos ⟨_, hname⟩, if_pos ⟨_, hname'⟩]
  | swap hknown _ l =>
    simp only [firstUnknown?_cons]
    -- the entry that is known is passed over in either place
    rcases hknown with h | h <;> simp only [if_pos h]
  | trans _ _ ih ih' => exact ih.trans ih'

/-- The last value for every option stays the same, since entries for the same option are not moved
past each other. -/
lemma lastValue?_eq (h : Rearranged l l') (f : Field) : lastValue? l f = lastValue? l' f := by
  induction h with
  | nil => rfl
  | cons e _ ih => rw [lastValue?_cons, lastValue?_cons, ih]
  | @respell g name name' hname hname' v l =>
    have hsame : name ∈ f.spellings ↔ name' ∈ f.spellings := by
      rw [← Field.ofSpelling?_eq_some_iff, ← Field.ofSpelling?_eq_some_iff,
        Field.ofSpelling?_eq_some_iff.mpr hname, Field.ofSpelling?_eq_some_iff.mpr hname']
    simp only [lastValue?_cons, hsame]
  | @swap d e _ hapart l =>
    simp only [lastValue?_cons, Option.or_assoc]
    -- at most one of the two entries gives a value
    by_cases hd : d.1 ∈ f.spellings
    · rw [if_pos hd, if_neg (hapart f hd), Option.none_or, Option.or_none]
    · rw [if_neg hd, Option.none_or, Option.or_none]
  | trans _ _ ih ih' => exact ih.trans ih'

/-- Entries that all name different options may be permuted. -/
lemma of_perm (h : l.Perm l') (hknown : ∀ e ∈ l, Known e) (hapart : l.Pairwise Apart) :
    Rearranged l l' := by
  induction h with
  | nil => exact .nil
  | cons e _ ih =>
    obtain ⟨-, hknown⟩ := List.forall_mem_cons.mp hknown
    exact .cons e (ih hknown (List.pairwise_cons.mp hapart).2)
  | swap d e l =>
    have hde : Apart e d := (List.pairwise_cons.mp hapart).1 d List.mem_cons_self
    exact .swap (.inl (hknown e List.mem_cons_self)) hde l
  | trans h _ ih ih' =>
    refine (ih hknown hapart).trans (ih' (fun e he => hknown e (h.mem_iff.mpr he)) ?_)
    exact (h.pairwise_iff Apart.symm).mp hapart

end Rearranged

end Entry

/-- An error is about the value of an option if it names the option and the type of the value. -/
def ConfigError.IsAbout (f : Field) (v : Value) (x : ConfigError) : Prop :=
  ∃ e, x = .invalidValue f e v.typeName

namespace Config

/-! ### Overlays -/

variable {base : Config} {entries : List Entry}

/-- The values for the options of an overlay: the last ones that the entries give, and those of the
base for the options that no entry names. -/
def requested (base : Config) (entries : List Entry) : Settings :=
  fun f => (Entry.lastValue? entries f).getD (base.settings f)

/-- Unknown names are reported before any value is read. -/
lemma overlay_of_firstUnknown? {name : String} (h : Entry.firstUnknown? entries = some name) :
    base.overlay entries = .error (.unknownOption name) := by
  rw [overlay, Entry.changes_of_firstUnknown? h]
  rfl

/-- If all names are known, the requested values are read. -/
lemma overlay_of_forall_known (h : ∀ e ∈ entries, Entry.Known e) :
    base.overlay entries = ofSettings (base.requested entries) := by
  obtain ⟨changes, hchanges⟩ := Entry.exists_changes_iff.mpr h
  have hvalues : base.settings.assign changes = base.requested entries :=
    funext fun f => Entry.assign_changes hchanges _ f
  rw [overlay, hchanges, ← hvalues]
  rfl

/-- Rearranged entries give the same configuration or the same error. -/
lemma overlay_rearranged {entries' : List Entry} (h : Entry.Rearranged entries entries') :
    base.overlay entries = base.overlay entries' := by
  have hname := h.firstUnknown?_eq
  cases hfirst : Entry.firstUnknown? entries with
  | some name =>
    rw [overlay_of_firstUnknown? hfirst, overlay_of_firstUnknown? (hname.symm.trans hfirst)]
  | none =>
    have hvalues : base.requested entries = base.requested entries' :=
      funext fun f => congrArg (Option.getD · _) (h.lastValue?_eq f)
    rw [overlay_of_forall_known (Entry.firstUnknown?_eq_none_iff.mp hfirst), hvalues,
      overlay_of_forall_known (Entry.firstUnknown?_eq_none_iff.mp (hname.symm.trans hfirst))]

/-- What comes of two groups of options that are laid over a configuration, the second one last. -/
structure Resolves (base : Config) (overrides options : List Entry)
    (result : Except ConfigError Config) : Prop where
  /-- The first unknown name of the first group is reported. -/
  unknownOverride : ∀ name, Entry.firstUnknown? overrides = some name →
    result = .error (.unknownOption name)
  /-- If there is none, the first unknown name of the second group is reported. -/
  unknownOption : (∀ e ∈ overrides, Entry.Known e) → ∀ name,
    Entry.firstUnknown? options = some name → result = .error (.unknownOption name)
  /-- If all names are known, the first option that does not admit its value is reported. -/
  invalid : (∀ e ∈ overrides ++ options, Entry.Known e) → ∀ f,
    (base.requested (overrides ++ options)).firstUnfit? = some f →
    f.unhashableMember? (base.requested (overrides ++ options) f) = none →
    ∃ e, result = .error e ∧ e.IsAbout f (base.requested (overrides ++ options) f)
  /-- If that option takes a set and its value has a member that cannot be in one, only the type of
  the member is reported. -/
  unhashable : (∀ e ∈ overrides ++ options, Entry.Known e) → ∀ f t,
    (base.requested (overrides ++ options)).firstUnfit? = some f →
    f.unhashableMember? (base.requested (overrides ++ options) f) = some t →
    result = .error (.unhashable t)
  /-- If all names are known and all values admitted, every option takes its value, and an option
  that no entry names keeps that of the base. -/
  valid : (∀ e ∈ overrides ++ options, Entry.Known e) →
    (∀ f : Field, f.Admits (base.requested (overrides ++ options) f)) →
    ∃ c, result = .ok c ∧
      (∀ f : Field, f.normalize (base.requested (overrides ++ options) f) = .ok (c.settings f)) ∧
      ∀ f, (∀ e ∈ overrides ++ options, e.1 ∉ f.spellings) → c.settings f = base.settings f

lemma resolves_overlay (base : Config) (overrides options : List Entry) :
    base.Resolves overrides options (base.overlay (overrides ++ options)) where
  unknownOverride name h := by
    refine overlay_of_firstUnknown? ?_
    rw [Entry.firstUnknown?_append, h, Option.some_or]
  unknownOption hknown name h := by
    refine overlay_of_firstUnknown? ?_
    rw [Entry.firstUnknown?_append, Entry.firstUnknown?_eq_none_iff.mpr hknown, Option.none_or, h]
  invalid hknown f hf hnone := by
    rw [overlay_of_forall_known hknown]
    obtain ⟨e, he⟩ := exists_ofSettings_eq_invalidValue hf hnone
    exact ⟨_, he, e, rfl⟩
  unhashable hknown f t hf hmember := by
    rw [overlay_of_forall_known hknown]
    exact ofSettings_eq_unhashable hf hmember
  valid hknown hadmits := by
    rw [overlay_of_forall_known hknown]
    obtain ⟨c, hc⟩ := Settings.exists_ofSettings_eq_ok_iff.mpr hadmits
    have hvalues := ofSettings_eq_ok_iff.mp hc
    refine ⟨c, hc, hvalues, fun f hnone => ?_⟩
    have hf := hvalues f
    rw [requested, Entry.lastValue?_eq_none_of_forall hnone, Option.getD_none,
      base.normalize_settings f] at hf
    exact (Except.ok.inj hf).symm

/-- Two groups of options over the standard configuration, and one over any other, are looked up,
merged and checked as `Resolves` says, and nothing depends on the spellings of options or on the
order of entries that name different ones. -/
theorem resolve_outcome (base : Config) (overrides options overrides' options' : List Entry) :
    standard.Resolves overrides options (resolve overrides options) ∧
    base.Resolves [] options (base.overlay options) ∧
    (Entry.Rearranged (overrides ++ options) (overrides' ++ options') →
      resolve overrides options = resolve overrides' options') ∧
    (Entry.Rearranged options options' → base.overlay options = base.overlay options') :=
  ⟨standard.resolves_overlay overrides options, base.resolves_overlay [] options,
    overlay_rearranged, overlay_rearranged⟩

/-- Options of which the first and the last one have numbers that they do not admit. -/
def numberedOptions : List Entry :=
  [("indent", .int 1), ("tagShortEnd", .text " />"), ("pretty", .int 1)]

/-- An option that does not admit its value and stands before those of `numberedOptions` in the
order in which options are checked. -/
def emptyOptions : List Entry := [("tag_short_end", .null)]

/-- Options one of which does not exist. -/
def glossyOptions : List Entry := [("tagOpenEnd", .null), ("gloss", .flag true)]

/-- One option under an older name. -/
def formerOptions : List Entry := [("regEntities", .text "&")]

/-- The option of `formerOptions` under its field name. -/
def laterOptions : List Entry := [("text_entities", .list [.text "<", .text "&"])]

theorem resolve_spelledOptions :
    resolve glossyOptions [("shine", .null)] = .error (.unknownOption "gloss") ∧
    resolve numberedOptions glossyOptions = .error (.unknownOption "gloss") ∧
    (∃ e, resolve numberedOptions emptyOptions = .error e ∧
      e.IsAbout (.delimiter .tagShortEnd) .null) ∧
    (∃ c, resolve formerOptions laterOptions = .ok c ∧
      c.settings .textEntities = .frozenSet [.text "&", .text "<"] ∧
      c.settings .attributeEntities = standard.settings .attributeEntities) ∧
    resolve numberedOptions emptyOptions =
      resolve [("tag_short_end", .text " />"), ("indent", .int 1)]
        [("pretty", .int 1), ("tag_short_end", .null)] ∧
    standard.overlay numberedOptions = standard.overlay numberedOptions.reverse := by
  have hresolve (overrides options : List Entry) :=
    (resolve_outcome standard overrides options [] []).1
  have hmoved (overrides options overrides' options' : List Entry) :=
    (resolve_outcome standard overrides options overrides' options').2.2.1
  have hpermuted (options options' : List Entry) :=
    (resolve_outcome standard [] options [] options').2.2.2
  have hgloss : Entry.firstUnknown? glossyOptions = some "gloss" := by decide +kernel
  have hnumbered : ∀ e ∈ numberedOptions, Entry.Known e := by decide +kernel
  have hempty : ∀ e ∈ emptyOptions, Entry.Known e :=
    List.forall_mem_singleton.mpr ⟨.delimiter .tagShortEnd, List.mem_cons_self⟩
  have hformer : ∀ e ∈ formerOptions, Entry.Known e :=
    List.forall_mem_singleton.mpr ⟨.textEntities, by decide +kernel⟩
  have hlater : ∀ e ∈ laterOptions, Entry.Known e :=
    List.forall_mem_singleton.mpr ⟨.textEntities, List.mem_cons_self⟩
  have hfits : (standard.requested (formerOptions ++ laterOptions)).firstUnfit? = none := by
    decide +kernel
  refine ⟨(hresolve _ _).unknownOverride _ hgloss,
    (hresolve _ _).unknownOption hnumbered _ hgloss, ?_, ?_, hmoved _ _ _ _ ?_,
    hpermuted _ _ ?_⟩
  · exact (hresolve numberedOptions emptyOptions).invalid
      (List.forall_mem_append.mpr ⟨hnumbered, hempty⟩) (.delimiter .tagShortEnd)
      (by decide +kernel) rfl
  · obtain ⟨c, hc, hvalues, hkept⟩ := (hresolve formerOptions laterOptions).valid
      (List.forall_mem_append.mpr ⟨hformer, hlater⟩) (Settings.firstUnfit?_eq_none_iff.mp hfits)
    exact ⟨c, hc, (Except.ok.inj (hvalues .textEntities)).symm,
      hkept .attributeEntities (by decide +kernel)⟩
  · have hindent : Entry.Known ("indent", .int 1) := ⟨.indent, List.mem_cons_self⟩
    refine .trans (.swap (.inl hindent) (by decide +kernel) _) ?_
    exact .respell (f := .delimiter .tagShortEnd) (by decide +kernel) List.mem_cons_self _ _
  · exact .of_perm (List.reverse_perm _).symm hnumbered (by decide +kernel)

/-- A value that is not admitted is not always reported with the name of its option. -/
theorem not_forall_resolve_isAbout : ¬ ∀ overrides options : List Entry,
    (∀ e ∈ overrides ++ options, Entry.Known e) → ∀ f,
    (standard.requested (overrides ++ options)).firstUnfit? = some f →
    ∃ e, resolve overrides options = .error e ∧
      e.IsAbout f (standard.requested (overrides ++ options) f) := by
  intro h
  have hknown : Entry.Known ("text_entities", .list [.list [.text "a"]]) :=
    ⟨.textEntities, List.mem_cons_self⟩
  have hfails : resolve [] [("text_entities", .list [.list [.text "a"]])] =
      .error (.unhashable "list") := by
    rfl
  obtain ⟨e, he, e', rfl⟩ := h [] [("text_entities", .list [.list [.text "a"]])]
    (List.forall_mem_singleton.mpr hknown) .textEntities (by decide +kernel)
  cases hfails.symm.trans he

end Config

end SvgMarkup
