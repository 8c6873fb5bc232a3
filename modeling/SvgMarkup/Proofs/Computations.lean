import Mathlib.Data.List.Forall2
import Mathlib.Tactic.Common

/-!
# Computations that may fail

What is known of the parts of a computation that succeeds, which of several errors a computation
fails with, and how two computations compare that succeed or fail together.

* `exists_of_bind_eq_ok` takes a computation that succeeds apart.
* `DecidedBy` says that a list of errors decides the outcome of a computation.
* `Together` and `Agree` relate two computations that both succeed or both fail.
-/

namespace SvgMarkup

/-- Of two computations in sequence that succeed, both do. -/
lemma exists_of_bind_eq_ok {ε α β : Type} {x : Except ε α} {f : α → Except ε β} {b : β}
    (h : x >>= f = .ok b) : ∃ a, x = .ok a ∧ f a = .ok b := by
  cases x with
  | error e => cases h
  | ok a => exact ⟨a, rfl, h⟩

/-- A computation that succeeds has a result. -/
lemma exists_eq_ok_of_isOk {ε α : Type} {x : Except ε α} (h : x.isOk) : ∃ a, x = .ok a := by
  cases x with
  | error e => cases h
  | ok a => exact ⟨a, rfl⟩

/-- A computation succeeds under another name for its errors only if it succeeds. -/
lemma eq_ok_of_mapError_eq_ok {ε ε' α : Type} {x : Except ε α} {f : ε → ε'} {a : α}
    (h : x.mapError f = .ok a) : x = .ok a := by
  cases x with
  | error e => cases h
  | ok b =>
    obtain rfl := Except.ok.inj h
    rfl

/-- Two computations in sequence fail if the first one does, or the second one after it. -/
lemma bind_eq_error_iff {ε α β : Type} {x : Except ε α} {f : α → Except ε β} {e : ε} :
    x >>= f = .error e ↔ x = .error e ∨ ∃ a, x = .ok a ∧ f a = .error e := by
  cases x with
  | error e' =>
    constructor
    · intro h
      exact .inl (congrArg _ (Except.error.inj h))
    · rintro (h | ⟨a, h, -⟩)
      · exact congrArg _ (Except.error.inj h)
      · cases h
  | ok a =>
    constructor
    · intro h
      exact .inr ⟨a, rfl, h⟩
    · rintro (h | ⟨b, h, hf⟩)
      · cases h
      · obtain rfl := Except.ok.inj h
        exact hf

/-- Two computations in sequence fail if the second one always does. -/
lemma exists_bind_eq_error {ε α β : Type} (x : Except ε α) {f : α → Except ε β}
    (h : ∀ a, ∃ e, f a = .error e) : ∃ e, x >>= f = .error e := by
  cases x with
  | error e => exact ⟨e, rfl⟩
  | ok a => exact h a

/-- A computation succeeds in giving something in another form if it succeeds. -/
lemma exists_map_eq_ok_iff {ε α β : Type} {x : Except ε α} {f : α → β} :
    (∃ b, x.map f = .ok b) ↔ ∃ a, x = .ok a := by
  cases x with
  | error e => exact ⟨nofun, nofun⟩
  | ok a => exact ⟨fun _ => ⟨a, rfl⟩, fun _ => ⟨f a, rfl⟩⟩

/-- A computation fails with the same error if its result is wanted in another form. -/
lemma map_eq_error_iff {ε α β : Type} {x : Except ε α} {f : α → β} {e : ε} :
    x.map f = .error e ↔ x = .error e := by
  cases x with
  | error e' => exact ⟨fun h => congrArg _ (Except.error.inj h), fun h => congrArg _ h⟩
  | ok a => exact ⟨nofun, nofun⟩

/-- A step for each member of a list succeeds if it does for every one of them. -/
lemma forM_eq_ok_iff {ε α : Type} {l : List α} {f : α → Except ε Unit} :
    l.forM f = .ok () ↔ ∀ a ∈ l, f a = .ok () := by
  induction l with
  | nil => exact ⟨fun _ => List.forall_mem_nil _, fun _ => rfl⟩
  | cons a l ih =>
    rw [List.forM, List.forall_mem_cons, ← ih]
    constructor
    · intro h
      obtain ⟨_, ha, hl⟩ := exists_of_bind_eq_ok h
      exact ⟨ha, hl⟩
    · rintro ⟨ha, hl⟩
      rw [ha]
      exact hl

/-- If a partial function undoes another one, it does so member by member of a list. -/
lemma mapM_map_eq_some {α β : Type} {f : β → Option α} {g : α → β} (h : ∀ a, f (g a) = some a)
    (l : List α) : (l.map g).mapM f = some l := by
  induction l with
  | nil => rfl
  | cons a l ih =>
    rw [List.map_cons, List.mapM_cons, h, ih]
    rfl

/-- A partial function can be applied to every member of a list if it is defined for each of
them. -/
lemma exists_mapM_eq_some_iff {α β : Type} {f : α → Option β} {l : List α} :
    (∃ l', l.mapM f = some l') ↔ ∀ a ∈ l, ∃ b, f a = some b := by
  induction l with
  | nil => exact ⟨fun _ => List.forall_mem_nil _, fun _ => ⟨[], rfl⟩⟩
  | cons a l ih =>
    rw [List.forall_mem_cons, ← ih]
    simp only [List.mapM_cons, Option.bind_eq_bind, Option.bind_eq_some_iff]
    constructor
    · rintro ⟨_, b, hb, bs, hbs, -⟩
      exact ⟨⟨b, hb⟩, bs, hbs⟩
    · rintro ⟨⟨b, hb⟩, bs, hbs⟩
      exact ⟨_, b, hb, bs, hbs, rfl⟩

/-- A partial function that is applied to every member of a list gives the images of these. -/
lemma mem_iff_of_mapM_eq_some {α β : Type} {f : α → Option β} {l : List α} {l' : List β}
    (h : l.mapM f = some l') {b : β} : b ∈ l' ↔ ∃ a ∈ l, f a = some b := by
  induction l generalizing l' with
  | nil =>
    obtain rfl := Option.some.inj h
    simp
  | cons a l ih =>
    simp only [List.mapM_cons, Option.bind_eq_bind, Option.bind_eq_some_iff] at h
    obtain ⟨c, hc, cs, hcs, h⟩ := h
    obtain rfl := Option.some.inj h
    rw [List.mem_cons, ih hcs]
    constructor
    · rintro (rfl | ⟨d, hd, hb⟩)
      · exact ⟨a, List.mem_cons_self, hc⟩
      · exact ⟨d, List.mem_cons_of_mem _ hd, hb⟩
    · rintro ⟨d, hd, hb⟩
      rcases List.mem_cons.mp hd with rfl | hd
      · exact .inl (Option.some.inj (hb.symm.trans hc))
      · exact .inr ⟨d, hd, hb⟩

/-- A computation for every member of a list gives the results for the members. -/
lemma mapM_eq_ok_iff {ε α β : Type} {f : α → Except ε β} {l : List α} {l' : List β} :
    l.mapM f = .ok l' ↔ List.Forall₂ (fun a b => f a = .ok b) l l' := by
  induction l generalizing l' with
  | nil =>
    rw [List.mapM_nil, List.forall₂_nil_left_iff]
    exact ⟨fun h => (Except.ok.inj h).symm, fun h => congrArg Except.ok h.symm⟩
  | cons a l ih =>
    rw [List.mapM_cons, List.forall₂_cons_left_iff]
    constructor
    · intro h
      obtain ⟨b, hb, h⟩ := exists_of_bind_eq_ok h
      obtain ⟨bs, hbs, h⟩ := exists_of_bind_eq_ok h
      exact ⟨b, bs, hb, ih.mp hbs, (Except.ok.inj h).symm⟩
    · rintro ⟨b, bs, hb, hbs, rfl⟩
      rw [hb, ih.mpr hbs]
      rfl

/-- A computation that gives known results for the members of a list gives these for the list. -/
lemma mapM_eq_ok_of_forall {ε α β : Type} {f : α → Except ε β} {g : α → β} {l : List α}
    (h : ∀ a ∈ l, f a = .ok (g a)) : l.mapM f = .ok (l.map g) := by
  rw [mapM_eq_ok_iff, List.forall₂_map_right_iff, List.forall₂_same]
  exact h

/-- A computation that succeeds for a list succeeds for each member. -/
lemma exists_eq_ok_of_mapM_eq_ok {ε α β : Type} {f : α → Except ε β} {l : List α} {l' : List β}
    (h : l.mapM f = .ok l') {a : α} (ha : a ∈ l) : ∃ b, f a = .ok b := by
  obtain ⟨i, hi, rfl⟩ := List.getElem_of_mem ha
  obtain ⟨hlength, hget⟩ := List.forall₂_iff_get.mp (mapM_eq_ok_iff.mp h)
  exact ⟨_, hget i hi (hlength ▸ hi)⟩

/-- A computation for every member of a list fails at the first member for which it does. -/
lemma mapM_eq_error_iff {ε α β : Type} {f : α → Except ε β} {l : List α} {e : ε} :
    l.mapM f = .error e ↔ ∃ before a after, l = before ++ a :: after ∧
      (∀ b ∈ before, ∃ c, f b = .ok c) ∧ f a = .error e := by
  induction l with
  | nil => simp [pure, Except.pure]
  | cons a l ih =>
    rw [List.mapM_cons]
    cases ha : f a with
    | error e' =>
      constructor
      · intro h
        obtain rfl : e' = e := Except.error.inj h
        exact ⟨[], a, l, rfl, List.forall_mem_nil _, ha⟩
      · rintro ⟨_ | ⟨b, before⟩, c, after, hl, hbefore, hc⟩
        · obtain ⟨rfl, -⟩ := List.cons.inj hl
          obtain rfl : e' = e := Except.error.inj (ha.symm.trans hc)
          rfl
        · obtain ⟨rfl, -⟩ := List.cons.inj hl
          obtain ⟨d, hd⟩ := hbefore a List.mem_cons_self
          cases ha.symm.trans hd
    | ok d =>
      have hrest : (Except.ok d >>= fun b => l.mapM f >>= fun bs => pure (b :: bs)) = .error e ↔
          l.mapM f = .error e := by
        cases l.mapM f with
        | error e' => exact Iff.rfl
        | ok bs => exact ⟨nofun, nofun⟩
      rw [hrest, ih]
      constructor
      · rintro ⟨before, c, after, rfl, hbefore, hc⟩
        exact ⟨a :: before, c, after, rfl, List.forall_mem_cons.mpr ⟨⟨d, ha⟩, hbefore⟩, hc⟩
      · rintro ⟨_ | ⟨b, before⟩, c, after, hl, hbefore, hc⟩
        · obtain ⟨rfl, -⟩ := List.cons.inj hl
          cases ha.symm.trans hc
        · obtain ⟨-, hl⟩ := List.cons.inj hl
          exact ⟨before, c, after, hl, (List.forall_mem_cons.mp hbefore).2, hc⟩

/-- A computation whose result is not wanted succeeds if it has one. -/
lemma discard_eq_ok_iff {ε α : Type} {x : Except ε α} :
    discard x = .ok () ↔ ∃ a, x = .ok a := by
  cases x with
  | error e => exact ⟨nofun, nofun⟩
  | ok a => exact ⟨fun _ => ⟨a, rfl⟩, fun _ => rfl⟩

/-! ### Computations that errors decide -/

/-- A computation is decided by some errors if it succeeds in case there are none, and otherwise
fails with the first of them. -/
def DecidedBy {ε α : Type} (x : Except ε α) : List ε → Prop
  | [] => ∃ a, x = .ok a
  | e :: _ => x = .error e

namespace DecidedBy

variable {ε α β : Type} {x : Except ε α} {es es' : List ε}

lemma pure (a : α) : DecidedBy (Pure.pure a : Except ε α) [] := ⟨a, rfl⟩

/-- Computations in sequence are decided by their errors in sequence. -/
lemma bind {f : α → Except ε β} (hx : DecidedBy x es) (hf : ∀ a, DecidedBy (f a) es') :
    DecidedBy (x >>= f) (es ++ es') := by
  cases es with
  | nil =>
    obtain ⟨a, rfl⟩ := hx
    exact hf a
  | cons e es =>
    obtain rfl : x = .error e := hx
    rfl

/-- A computation that cannot fail adds no errors to those of the one before it. -/
lemma bind_pure {f : α → Except ε β} (hx : DecidedBy x es) (hf : ∀ a, DecidedBy (f a) []) :
    DecidedBy (x >>= f) es := by
  have h := hx.bind hf
  rwa [List.append_nil] at h

/-- Computations for the members of a list are decided by the errors of all of them. -/
lemma forM {l : List α} {f : α → Except ε Unit} {errors : α → List ε}
    (h : ∀ a, DecidedBy (f a) (errors a)) : DecidedBy (l.forM f) (l.flatMap errors) := by
  induction l with
  | nil => exact pure ()
  | cons a l ih => exact (h a).bind fun _ => ih

/-- Computations that give results for the members of a list are decided by the errors of all of
them. -/
lemma mapM {l : List α} {f : α → Except ε β} {errors : α → List ε}
    (h : ∀ a, DecidedBy (f a) (errors a)) : DecidedBy (l.mapM f) (l.flatMap errors) := by
  induction l with
  | nil =>
    rw [List.mapM_nil]
    exact pure []
  | cons a l ih =>
    rw [List.mapM_cons]
    exact (h a).bind fun _ => ih.bind_pure fun _ => pure _

/-- A computation is decided by its errors under other names. -/
lemma mapError {ε' : Type} (h : DecidedBy x es) (f : ε → ε') :
    DecidedBy (x.mapError f) (es.map f) := by
  cases es with
  | nil =>
    obtain ⟨a, rfl⟩ := h
    exact pure a
  | cons e es =>
    obtain rfl : x = .error e := h
    rfl

lemma discard (h : DecidedBy x es) : DecidedBy (Functor.discard x) es := by
  cases es with
  | nil =>
    obtain ⟨a, rfl⟩ := h
    exact pure ()
  | cons e es =>
    obtain rfl : x = .error e := h
    rfl

lemma exists_ok_iff (h : DecidedBy x es) : (∃ a, x = .ok a) ↔ es = [] := by
  cases es with
  | nil => exact ⟨fun _ => rfl, fun _ => h⟩
  | cons e es =>
    obtain rfl : x = .error e := h
    exact ⟨nofun, nofun⟩

lemma eq_error (h : DecidedBy x es) {e : ε} (he : es.head? = some e) : x = .error e := by
  cases es with
  | nil => cases he
  | cons e' es =>
    obtain rfl := Option.some.inj he
    exact h

end DecidedBy

/-! ### Computations that go together -/

/-- Two computations go together if they fail with errors that are related or give results that are
related. -/
inductive Together {ε α β : Type} (E : ε → ε → Prop) (R : α → β → Prop) :
    Except ε α → Except ε β → Prop
  | error {e e' : ε} : E e e' → Together E R (.error e) (.error e')
  | ok {a : α} {b : β} : R a b → Together E R (.ok a) (.ok b)

namespace Together

variable {ε α β γ δ : Type} {E : ε → ε → Prop} {R : α → β → Prop} {S : γ → δ → Prop}
variable {x : Except ε α} {y : Except ε β}

lemma pure {a : α} {b : β} (h : R a b) :
    Together E R (Pure.pure a : Except ε α) (Pure.pure b) := .ok h

/-- Computations in sequence go together if each part does. -/
lemma bind {f : α → Except ε γ} {g : β → Except ε δ} (hx : Together E R x y)
    (hf : ∀ a b, R a b → Together E S (f a) (g b)) : Together E S (x >>= f) (y >>= g) := by
  cases hx with
  | error h => exact .error h
  | ok h => exact hf _ _ h

/-- Computations that begin alike go together if what follows does. -/
lemma bind_self (hE : ∀ e, E e e) (x : Except ε α) {f : α → Except ε γ} {g : α → Except ε δ}
    (hf : ∀ a, Together E S (f a) (g a)) : Together E S (x >>= f) (x >>= g) := by
  cases x with
  | error e => exact .error (hE e)
  | ok a => exact hf a

lemma cases (h : Together E R x y) :
    (∃ e e', x = .error e ∧ y = .error e' ∧ E e e') ∨ ∃ a b, x = .ok a ∧ y = .ok b ∧ R a b := by
  cases h with
  | error h => exact .inl ⟨_, _, rfl, rfl, h⟩
  | ok h => exact .inr ⟨_, _, rfl, rfl, h⟩

end Together

/-- Two computations agree if they fail with the same error or give results that are related. -/
abbrev Agree {ε α β : Type} (R : α → β → Prop) : Except ε α → Except ε β → Prop :=
  Together (· = ·) R

namespace Agree

variable {ε α β γ δ : Type} {R : α → β → Prop} {S : γ → δ → Prop}
variable {x : Except ε α} {y : Except ε β}

lemma error (e : ε) : Agree R (.error e : Except ε α) (.error e : Except ε β) := Together.error rfl

lemma bind_self (x : Except ε α) {f : α → Except ε γ} {g : α → Except ε δ}
    (hf : ∀ a, Agree S (f a) (g a)) : Agree S (x >>= f) (x >>= g) :=
  Together.bind_self (fun _ => rfl) x hf

lemma cases (h : Agree R x y) :
    (∃ e, x = .error e ∧ y = .error e) ∨ ∃ a b, x = .ok a ∧ y = .ok b ∧ R a b := by
  rcases Together.cases h with ⟨e, e', hx, hy, rfl⟩ | h
  · exact .inl ⟨e, hx, hy⟩
  · exact .inr h

/-- What two computations that agree give is the same in a respect in which related results are. -/
lemma map_eq {f : α → γ} {g : β → γ} (h : Agree (fun a b => f a = g b) x y) :
    x.map f = y.map g := by
  rcases h.cases with ⟨e, rfl, rfl⟩ | ⟨a, b, rfl, rfl, hab⟩
  · rfl
  · exact congrArg Except.ok hab

end Agree

end SvgMarkup
