import SvgMarkup.Config.Lemmas
import SvgMarkup.Proofs.Config.Normal

/-!
# Runs of overlays

Groups of options are laid over a configuration one after the other, and a group that does not fit
leaves the configuration as it was.  A run like that can be collapsed: the options of all groups
that did fit, laid over the first configuration at once, give the same.  This is so because a group
acts on a configuration through the last value that it gives to each option, and because what is
left of earlier values is normal, so that reading it again changes nothing.

* `Entry.lastValue?` is the last value that some entries give to an option.
* `Config.overlay_eq_ok_iff` describes overlays by these values.
* `Config.overlay_append`: two overlays in sequence are one.
* `Config.overlay_accepted`: a run of overlays is one.
-/

namespace SvgMarkup

namespace Entry

/-- Whether an entry names an option, under any of its spellings. -/
def Known (e : Entry) : Prop := ∃ f : Field, e.1 ∈ f.spellings

instance : DecidablePred Known := fun e =>
  decidable_of_iff (∃ f ∈ Field.all, e.1 ∈ f.spellings)
    ⟨fun ⟨f, _, h⟩ => ⟨f, h⟩, fun ⟨f, h⟩ => ⟨f, f.mem_all, h⟩⟩

/-- The last value that some entries give to an option, under whichever spellings. -/
def lastValue? (entries : List Entry) (f : Field) : Option Value :=
  (entries.filter fun e => decide (e.1 ∈ f.spellings)).getLast?.map (·.2)

/-- Of entries in sequence, the later ones decide on the options that they name. -/
lemma lastValue?_append (entries later : List Entry) (f : Field) :
    lastValue? (entries ++ later) f = (lastValue? later f).or (lastValue? entries f) := by
  rw [lastValue?, List.filter_append, List.getLast?_append, Option.map_or]
  rfl

lemma lastValue?_singleton (e : Entry) (f : Field) :
    lastValue? [e] f = if e.1 ∈ f.spellings then some e.2 else none := by
  unfold lastValue?
  by_cases h : e.1 ∈ f.spellings <;> simp [h]

lemma lastValue?_cons (e : Entry) (entries : List Entry) (f : Field) :
    lastValue? (e :: entries) f =
      (lastValue? entries f).or (if e.1 ∈ f.spellings then some e.2 else none) := by
  rw [← lastValue?_singleton]
  exact lastValue?_append [e] entries f

lemma lastValue?_eq_none_of_forall {entries : List Entry} {f : Field}
    (h : ∀ e ∈ entries, e.1 ∉ f.spellings) : lastValue? entries f = none := by
  have hfilter : entries.filter (fun e => decide (e.1 ∈ f.spellings)) = [] :=
    List.filter_eq_nil_iff.mpr fun e he => by simpa using h e he
  rw [lastValue?, hfilter]
  rfl

/-- The value that some entries give to an option is that of one of them. -/
lemma exists_of_lastValue?_eq_some {entries : List Entry} {f : Field} {v : Value}
    (h : lastValue? entries f = some v) : ∃ e ∈ entries, e.1 ∈ f.spellings ∧ e.2 = v := by
  obtain ⟨e, hlast, hvalue⟩ := Option.map_eq_some_iff.mp h
  obtain ⟨he, hspelling⟩ := List.mem_filter.mp (List.mem_of_getLast? hlast)
  exact ⟨e, he, of_decide_eq_true hspelling, hvalue⟩

/-! ### Entries as changes -/

/-- An entry comes before others as a change of the option that it names. -/
lemma changes_cons_eq_ok_iff {e : Entry} {entries : List Entry} {changes : List (Field × Value)} :
    Entry.changes (e :: entries) = .ok changes ↔
      ∃ f rest, e.1 ∈ f.spellings ∧ Entry.changes entries = .ok rest ∧
        changes = (f, e.2) :: rest := by
  unfold Entry.changes
  rw [List.mapM_cons]
  constructor
  · intro h
    obtain ⟨change, hchange, h⟩ := exists_of_bind_eq_ok h
    obtain ⟨rest, hrest, h⟩ := exists_of_bind_eq_ok h
    split at hchange
    · next f hf =>
      obtain rfl := Except.ok.inj hchange
      exact ⟨f, rest, Field.ofSpelling?_eq_some_iff.mp hf, hrest, (Except.ok.inj h).symm⟩
    · cases hchange
  · rintro ⟨f, rest, hspelling, hrest, rfl⟩
    rw [Field.ofSpelling?_eq_some_iff.mpr hspelling, hrest]
    rfl

/-- Entries can be looked up if each of them names an option. -/
lemma exists_changes_iff {entries : List Entry} :
    (∃ changes, Entry.changes entries = .ok changes) ↔ ∀ e ∈ entries, Known e := by
  induction entries with
  | nil => exact ⟨fun _ => List.forall_mem_nil _, fun _ => ⟨[], rfl⟩⟩
  | cons e entries ih =>
    rw [List.forall_mem_cons, ← ih]
    constructor
    · rintro ⟨changes, h⟩
      obtain ⟨f, rest, hspelling, hrest, -⟩ := changes_cons_eq_ok_iff.mp h
      exact ⟨⟨f, hspelling⟩, rest, hrest⟩
    · rintro ⟨⟨f, hspelling⟩, rest, hrest⟩
      exact ⟨_, changes_cons_eq_ok_iff.mpr ⟨f, rest, hspelling, hrest, rfl⟩⟩

/-- An entry gives its value to the option that it names. -/
lemma set_apply_of_mem {e : Entry} {g : Field} (h : e.1 ∈ g.spellings) (s : Settings) (f : Field) :
    s.set g e.2 f = (lastValue? [e] f).getD (s f) := by
  have hnamed : e.1 ∈ f.spellings ↔ f = g := by
    rw [← Field.ofSpelling?_eq_some_iff, Field.ofSpelling?_eq_some_iff.mpr h]
    exact ⟨fun hgf => (Option.some.inj hgf).symm, fun hfg => congrArg some hfg.symm⟩
  rw [lastValue?_singleton, Settings.set]
  by_cases hfg : f = g
  · rw [if_pos hfg, if_pos (hnamed.mpr hfg), Option.getD_some]
  · rw [if_neg hfg, if_neg (mt hnamed.mp hfg), Option.getD_none]

/-- Settings take on the last value that entries give to an option, and keep their own value of the
other options. -/
lemma assign_changes {entries : List Entry} {changes : List (Field × Value)}
    (h : Entry.changes entries = .ok changes) (s : Settings) (f : Field) :
    s.assign changes f = (lastValue? entries f).getD (s f) := by
  induction entries generalizing changes s with
  | nil =>
    obtain rfl := Except.ok.inj h
    rfl
  | cons e entries ih =>
    obtain ⟨g, rest, hspelling, hrest, rfl⟩ := changes_cons_eq_ok_iff.mp h
    have hassign : s.assign ((g, e.2) :: rest) f = (s.set g e.2).assign rest f := rfl
    have hlast : lastValue? (e :: entries) f = (lastValue? entries f).or (lastValue? [e] f) :=
      lastValue?_append [e] entries f
    rw [hassign, ih hrest, set_apply_of_mem hspelling, hlast, Option.getD_or]

end Entry

/-- Settings take on the new values of some options. -/
lemma Settings.assign_map (s values : Settings) (fields : List Field) (f : Field) :
    s.assign (fields.map fun g => (g, values g)) f = if f ∈ fields then values f else s f := by
  induction fields generalizing s with
  | nil => rfl
  | cons g fields ih =>
    have hassign : s.assign ((g :: fields).map fun g => (g, values g)) f =
        (s.set g (values g)).assign (fields.map fun g => (g, values g)) f := rfl
    rw [hassign, ih, Settings.set]
    by_cases hmem : f ∈ fields
    · rw [if_pos hmem, if_pos (List.mem_cons_of_mem _ hmem)]
    · by_cases hfg : f = g
      · rw [if_neg hmem, if_pos hfg, hfg, if_pos List.mem_cons_self]
      · rw [if_neg hmem, if_neg hfg, if_neg (by simp [hfg, hmem])]

namespace Config

/-! ### Single overlays -/

/-- An overlay succeeds with a configuration if every entry names an option and the configuration
has the normal values of the last values that the entries give, and of the values of the base where
they give none. -/
lemma overlay_eq_ok_iff {base c : Config} {entries : List Entry} :
    base.overlay entries = .ok c ↔ (∀ e ∈ entries, Entry.Known e) ∧
      ∀ f : Field, f.normalize ((Entry.lastValue? entries f).getD (base.settings f)) =
        .ok (c.settings f) := by
  rw [← Entry.exists_changes_iff]
  constructor
  · intro h
    obtain ⟨changes, hchanges, h⟩ := exists_of_bind_eq_ok h
    refine ⟨⟨changes, hchanges⟩, fun f => ?_⟩
    rw [← Entry.assign_changes hchanges]
    exact ofSettings_eq_ok_iff.mp h f
  · rintro ⟨⟨changes, hchanges⟩, h⟩
    rw [overlay, hchanges]
    refine ofSettings_eq_ok_iff.mpr fun f => ?_
    rw [Entry.assign_changes hchanges]
    exact h f

/-- A configuration does not change if its own values are laid over it. -/
lemma overlay_own {c : Config} {entries : List Entry}
    (h : ∀ e ∈ entries, ∃ f : Field, e.1 ∈ f.spellings ∧ e.2 = c.settings f) :
    c.overlay entries = .ok c := by
  refine overlay_eq_ok_iff.mpr ⟨fun e he => ?_, fun f => ?_⟩
  · obtain ⟨f, hspelling, -⟩ := h e he
    exact ⟨f, hspelling⟩
  · have hvalue : (Entry.lastValue? entries f).getD (c.settings f) = c.settings f := by
      cases hlast : Entry.lastValue? entries f with
      | none => rfl
      | some v =>
        obtain ⟨e, he, hspelling, rfl⟩ := Entry.exists_of_lastValue?_eq_some hlast
        obtain ⟨g, hg, hown⟩ := h e he
        -- the entry spells both options, so they are the same
        have hfg : some f = some g := by
          rw [← Field.ofSpelling?_eq_some_iff.mpr hspelling, Field.ofSpelling?_eq_some_iff.mpr hg]
        rw [Option.getD_some, hown, Option.some.inj hfg]
    rw [hvalue]
    exact c.normalize_settings f

/-- A configuration is made again from its own values. -/
lemma ofChanges_own (c : Config) :
    ofChanges (Field.all.map fun f => (f, c.settings f)) = .ok c := by
  refine ofSettings_eq_ok_iff.mpr fun f => ?_
  rw [Settings.assign_map, if_pos f.mem_all]
  exact c.normalize_settings f

/-- Two overlays in sequence are one overlay. -/
lemma overlay_append {base c d : Config} {entries later : List Entry}
    (hc : base.overlay entries = .ok c) (hd : c.overlay later = .ok d) :
    base.overlay (entries ++ later) = .ok d := by
  obtain ⟨hknown, hc⟩ := overlay_eq_ok_iff.mp hc
  obtain ⟨hlater, hd⟩ := overlay_eq_ok_iff.mp hd
  refine overlay_eq_ok_iff.mpr ⟨List.forall_mem_append.mpr ⟨hknown, hlater⟩, fun f => ?_⟩
  have hf := hd f
  rw [Entry.lastValue?_append]
  cases hlast : Entry.lastValue? later f with
  | some v =>
    rw [hlast] at hf
    exact hf
  | none =>
    -- the value of the first overlay is kept, and it is normal
    rw [hlast, Option.getD_none, c.normalize_settings f] at hf
    rw [Option.none_or, hc f, Except.ok.inj hf]

/-! ### Runs -/

/-- A configuration after a group of entries was tried on it: an overlay that fails leaves it as it
is. -/
def overlaid (c : Config) (group : List Entry) : Config :=
  match c.overlay group with
  | .ok d => d
  | .error _ => c

/-- The configuration that is reached when groups of entries are tried one after the other. -/
def reached (c : Config) (groups : List (List Entry)) : Config := groups.foldl overlaid c

/-- Of groups that are tried one after the other, those that can be laid over the configuration that
has been reached by then. -/
def accepted (c : Config) : List (List Entry) → List (List Entry)
  | [] => []
  | group :: groups =>
    (if (c.overlay group).isOk then [group] else []) ++ accepted (c.overlaid group) groups

section

variable {c d : Config} {group : List Entry} (groups : List (List Entry))

lemma overlaid_of_eq_ok (h : c.overlay group = .ok d) : c.overlaid group = d := by
  rw [overlaid, h]

lemma overlaid_of_eq_error {e : ConfigError} (h : c.overlay group = .error e) :
    c.overlaid group = c := by
  rw [overlaid, h]

lemma accepted_cons_of_eq_ok (h : c.overlay group = .ok d) :
    c.accepted (group :: groups) = group :: d.accepted groups := by
  rw [accepted, overlaid_of_eq_ok h, h]
  rfl

lemma accepted_cons_of_eq_error {e : ConfigError} (h : c.overlay group = .error e) :
    c.accepted (group :: groups) = c.accepted groups := by
  rw [accepted, overlaid_of_eq_error h, h]
  rfl

end

/-- A run of overlays is one overlay with all groups that were accepted. -/
lemma overlay_accepted {base c : Config} {entries : List Entry}
    (h : base.overlay entries = .ok c) (groups : List (List Entry)) :
    base.overlay (entries ++ (c.accepted groups).flatten) = .ok (c.reached groups) := by
  induction groups generalizing c entries with
  | nil =>
    rw [accepted, List.flatten_nil, List.append_nil]
    exact h
  | cons group groups ih =>
    have hreached : c.reached (group :: groups) = (c.overlaid group).reached groups := rfl
    rw [hreached]
    cases hgroup : c.overlay group with
    | error e =>
      rw [accepted_cons_of_eq_error groups hgroup, overlaid_of_eq_error hgroup]
      exact ih h
    | ok d =>
      rw [accepted_cons_of_eq_ok groups hgroup, overlaid_of_eq_ok hgroup, List.flatten_cons,
        ← List.append_assoc]
      exact ih (overlay_append h hgroup)

/-- Groups of options are tried on the standard configuration one after the other.  What is reached
is given at once by the options of all groups that were accepted, and by any options, under
whichever spellings, that give the same last value to every option; each option that is named has
the normal value of its last value, and each of the others its standard value.  What is reached is
made again from its own values, and does not change if any of its own values are laid over it. -/
theorem resolve_accepted (groups : List (List Entry)) :
    let c := standard.reached groups
    let options := (standard.accepted groups).flatten
    resolve [] options = .ok c ∧
    (∀ overrides more : List Entry, (∀ e ∈ overrides ++ more, Entry.Known e) →
      (∀ f, Entry.lastValue? (overrides ++ more) f = Entry.lastValue? options f) →
      resolve overrides more = .ok c) ∧
    (∀ f v, Entry.lastValue? options f = some v → f.normalize v = .ok (c.settings f)) ∧
    (∀ f, (∀ e ∈ options, e.1 ∉ f.spellings) → c.settings f = standard.settings f) ∧
    ofChanges (Field.all.map fun f => (f, c.settings f)) = .ok c ∧
    ∀ entries : List Entry,
      (∀ e ∈ entries, ∃ f : Field, e.1 ∈ f.spellings ∧ e.2 = c.settings f) →
      c.overlay entries = .ok c := by
  intro c options
  have hstart : standard.overlay [] = .ok standard := overlay_own (List.forall_mem_nil _)
  have hall : standard.overlay options = .ok c := overlay_accepted hstart groups
  obtain ⟨hknown, hvalues⟩ := overlay_eq_ok_iff.mp hall
  refine ⟨hall, fun overrides more hmore hsame => ?_, fun f v hlast => ?_, fun f hnone => ?_,
    c.ofChanges_own, fun entries hown => overlay_own hown⟩
  · refine overlay_eq_ok_iff.mpr ⟨hmore, fun f => ?_⟩
    rw [hsame f]
    exact hvalues f
  · have hf := hvalues f
    rwa [hlast] at hf
  · have hf := hvalues f
    rw [Entry.lastValue?_eq_none_of_forall hnone, Option.getD_none,
      standard.normalize_settings f] at hf
    exact (Except.ok.inj hf).symm

/-- Options that fit. -/
def fittingGroup : List Entry := [("doctypeStart", .text "<!doctype"), ("doctype_end", .text "]>")]

/-- Options one of which has a number for a text. -/
def unfitGroup : List Entry := [("procInstStart", .text "<%"), ("doctypeEnd", .int 0)]

/-- Options that fit and give a new value to one of `fittingGroup` under another name. -/
def laterGroup : List Entry := [("doctype_start", .text "<!Doctype")]

theorem resolve_triedGroups :
    let c := standard.reached [fittingGroup, unfitGroup, laterGroup]
    resolve [] (fittingGroup ++ laterGroup) = .ok c ∧
    resolve fittingGroup laterGroup = .ok c ∧
    c.settings (.delimiter .doctypeStart) = .text "<!Doctype" ∧
    c.settings (.delimiter .procInstStart) = standard.settings (.delimiter .procInstStart) ∧
    c.overlay [("doctypeEnd", c.settings (.delimiter .doctypeEnd))] = .ok c := by
  intro c
  have hgroups : standard.accepted [fittingGroup, unfitGroup, laterGroup] =
      [fittingGroup, laterGroup] := by
    have hfitting : (standard.overlay fittingGroup).isOk := by decide +kernel
    have hunfit : ¬ ((standard.overlaid fittingGroup).overlay unfitGroup).isOk := by
      decide +kernel
    have hlater : (((standard.overlaid fittingGroup).overlaid unfitGroup).overlay
        laterGroup).isOk := by
      decide +kernel
    rw [accepted, if_pos hfitting, accepted, if_neg hunfit, accepted, if_pos hlater, accepted]
    rfl
  obtain ⟨hall, hany, hvalue, hdefault, -, hown⟩ :=
    resolve_accepted [fittingGroup, unfitGroup, laterGroup]
  rw [hgroups] at hall hany hvalue hdefault
  have hknown : ∀ e ∈ fittingGroup ++ laterGroup, Entry.Known e := by
    decide +kernel
  have hspelling : "doctype_start" ∈ (Field.delimiter .doctypeStart).spellings :=
    List.mem_cons_self
  have hlast : Entry.lastValue? (fittingGroup ++ laterGroup) (.delimiter .doctypeStart) =
      some (.text "<!Doctype") := by
    rw [Entry.lastValue?_append, laterGroup, Entry.lastValue?_singleton, if_pos hspelling]
    rfl
  have hother : ∀ e ∈ fittingGroup ++ laterGroup,
      e.1 ∉ (Field.delimiter .procInstStart).spellings := by
    decide +kernel
  refine ⟨hall, hany _ _ hknown fun _ => rfl, (Except.ok.inj (hvalue _ _ hlast)).symm,
    hdefault _ hother, hown _ ?_⟩
  exact List.forall_mem_singleton.mpr ⟨.delimiter .doctypeEnd, by decide +kernel, rfl⟩

end Config

end SvgMarkup
