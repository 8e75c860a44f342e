import Mathlib.Data.List.Forall2

/-!
# Computations that may fail

Two ways to speak about a computation that returns a value or an error: what
its value and its error satisfy, and how it compares with one that makes
additional tests.  Both go through sequencing.
-/

namespace Fallible

universe u v

variable {ε : Type u} {α β : Type v} {value : α} {next next' f : α → Except ε β}
  {first second rest : Except ε α} {R : α → β → Prop} {c : Prop}
  {values : List α} {results : List β}

@[simp] theorem ok_bind : (Except.ok value >>= next) = next value := rfl

/-- A sequence that returns did so in both of its parts. -/
theorem bind_eq_ok {value : β} :
    (first >>= next) = .ok value ↔
      ∃ middle, first = .ok middle ∧ next middle = .ok value := by
  cases first with
  | _ => simp [Bind.bind, Except.bind]

/-- What follows a computation matters for the values it returns. -/
theorem bind_congr_ok
    (h : ∀ value, first = .ok value → next value = next' value) :
    (first >>= next) = (first >>= next') := by
  cases first with
  | error error => rfl
  | ok value => exact h value rfl

/-- Computations with one image return or fail alike. -/
theorem map_eq_map {f : α → β} (h : first.map f = second.map f) :
    (∃ error, first = .error error ∧ second = .error error) ∨
      ∃ a b, first = .ok a ∧ second = .ok b ∧ f a = f b := by
  cases first <;> cases second <;> simp_all [Except.map]

theorem rel_cases {first : Option α} {second : Option β}
    (h : Option.Rel R first second) : (first = none ∧ second = none) ∨
      ∃ a b, first = some a ∧ second = some b ∧ R a b := by
  cases h with
  | none => exact .inl ⟨rfl, rfl⟩
  | some h => exact .inr ⟨_, _, rfl, rfl, h⟩

/-- A computation behind a test that fails. -/
theorem guard_eq_ok [Decidable c] {error : ε} :
    (if c then .error error else rest) = .ok value ↔ ¬c ∧ rest = .ok value := by
  by_cases hc : c <;> simp [hc]

/-- A computation behind a test that must hold. -/
theorem require_eq_ok [Decidable c] {error : ε} :
    (if c then rest else .error error) = .ok value ↔ c ∧ rest = .ok value := by
  by_cases hc : c <;> simp [hc]

/-- A traversal that returns did so at every element. -/
theorem mapM_eq_ok :
    values.mapM f = .ok results ↔
      List.Forall₂ (fun value result => f value = .ok result) values
        results := by
  induction values generalizing results with
  | nil =>
    rw [List.mapM_nil, List.forall₂_nil_left_iff]
    exact ⟨fun h => (Except.ok.inj h).symm, fun h => h ▸ rfl⟩
  | cons value rest ih =>
    rw [List.mapM_cons, bind_eq_ok, List.forall₂_cons_left_iff]
    constructor
    · rintro ⟨result, hvalue, hrest⟩
      obtain ⟨results', hrest', heq⟩ := bind_eq_ok.mp hrest
      cases heq
      exact ⟨result, results', hvalue, ih.mp hrest', rfl⟩
    · rintro ⟨result, results', hvalue, hrest, rfl⟩
      refine ⟨result, hvalue, ?_⟩
      rw [ih.mpr hrest]
      rfl

/-- A traversal that fails nowhere returns. -/
theorem exists_mapM_ok (h : ∀ value ∈ values, ∃ result, f value = .ok result) :
    ∃ results, values.mapM f = .ok results := by
  induction values with
  | nil => exact ⟨[], rfl⟩
  | cons value rest ih =>
    obtain ⟨result, hvalue⟩ := h value List.mem_cons_self
    obtain ⟨results, hrest⟩ := ih fun other hother =>
      h other (List.mem_cons_of_mem _ hother)
    refine ⟨result :: results, ?_⟩
    rw [mapM_eq_ok] at hrest ⊢
    exact .cons hvalue hrest

/-- Where an element of the second of two related lists comes from. -/
theorem exists_of_forall₂ {xs : List α} {ys : List β}
    (h : List.Forall₂ R xs ys) {y : β} (hy : y ∈ ys) : ∃ x ∈ xs, R x y := by
  induction h with
  | nil => cases hy
  | cons hR _ ih =>
    rcases List.mem_cons.mp hy with rfl | hy
    · exact ⟨_, List.mem_cons_self, hR⟩
    · obtain ⟨x, hx, hxy⟩ := ih hy
      exact ⟨x, List.mem_cons_of_mem _ hx, hxy⟩

/-- A function of the results of a traversal that only depends on the
elements. -/
theorem map_of_mapM_eq_ok {γ : Type*} {g : β → γ} {h : α → γ}
    (hok : values.mapM f = .ok results)
    (hgh : ∀ value result, f value = .ok result → g result = h value) :
    results.map g = values.map h := by
  have hall := mapM_eq_ok.mp hok
  clear hok
  induction hall with
  | nil => rfl
  | cons hvalue _ ih => rw [List.map_cons, List.map_cons, ih, hgh _ _ hvalue]

/-- Returned values satisfy `P`, and errors satisfy `E`. -/
def Within (E : ε → Prop) (P : α → Prop) : Except ε α → Prop
  | .ok value => P value
  | .error error => E error

/-- Errors satisfy `E`, and any value may be returned. -/
abbrev FailsIn (E : ε → Prop) (computation : Except ε α) : Prop :=
  Within E (fun _ => True) computation

section

variable {E : ε → Prop} {P : α → Prop} {Q : β → Prop}

theorem Within.error {computation : Except ε α} {error : ε}
    (h : Within E P computation) (herror : computation = .error error) :
    E error := by
  subst herror
  exact h

theorem Within.bind (h : Within E P first)
    (hnext : ∀ value, P value → Within E Q (next value)) :
    Within E Q (first >>= next) := by
  cases first with
  | error error => exact h
  | ok value => exact hnext value h

theorem Within.seq {last : Except ε β} (h : Within E P first)
    (hlast : Within E Q last) : Within E Q (first >>= fun _ => last) :=
  h.bind fun _ _ => hlast

theorem Within.weaken {F : ε → Prop} {computation : Except ε α}
    (h : Within E P computation) (himp : ∀ error, E error → F error) :
    Within F P computation := by
  cases computation with
  | error error => exact himp error h
  | ok value => exact h

end

/-- `second` makes the tests of `first` and one more, for `needs`: an error of
`E` comes from that test only, and where `first` returns, `second` returns the
same or fails with such an error. -/
structure Narrows (E : ε → Prop) (needs : Prop) (first second : Except ε α) :
    Prop where
  quiet : needs → ∀ error, second = .error error → ¬E error
  kept : ∀ value, first = .ok value → needs → second = .ok value
  lost : ∀ value, first = .ok value → ¬needs →
    ∃ error, second = .error error ∧ E error

section

variable {E : ε → Prop} {needs needs' : Prop} {computation : Except ε α}

theorem Narrows.refl (h : ∀ error, computation = .error error → ¬E error) :
    Narrows E True computation computation :=
  ⟨fun _ => h, fun _ hok _ => hok, fun _ _ hnot => absurd trivial hnot⟩

theorem Narrows.ok (value : α) : Narrows E True (.ok value) (.ok value) :=
  Narrows.refl fun _ herror => by cases herror

theorem Narrows.error {error : ε} (h : ¬E error) :
    Narrows (α := α) E needs (.error error) (.error error) := by
  refine ⟨fun _ other hother => ?_, (fun _ hok => by cases hok),
    (fun _ hok => by cases hok)⟩
  cases hother
  exact h

theorem Narrows.congr (h : Narrows E needs first second) (hiff : needs ↔ needs') :
    Narrows E needs' first second := by
  rw [← hiff]
  exact h

theorem Narrows.bind (h : Narrows E needs first second)
    (hnext : ∀ value, Narrows E needs' (next value) (next' value)) :
    Narrows E (needs ∧ needs') (first >>= next) (second >>= next') := by
  have hsplit : ∀ value, (first >>= next) = .ok value →
      ∃ middle, first = .ok middle ∧ next middle = .ok value := by
    intro value hvalue
    cases hfirst : first with
    | error error =>
      rw [hfirst] at hvalue
      cases hvalue
    | ok middle =>
      rw [hfirst] at hvalue
      exact ⟨middle, rfl, hvalue⟩
  refine ⟨fun hneeds error herror => ?_, fun value hvalue hneeds => ?_,
    fun value hvalue hnot => ?_⟩
  · cases hsecond : second with
    | error other =>
      rw [hsecond] at herror
      cases herror
      exact h.quiet hneeds.1 error hsecond
    | ok middle =>
      rw [hsecond] at herror
      exact (hnext middle).quiet hneeds.2 error herror
  · obtain ⟨middle, hfirst, hrest⟩ := hsplit value hvalue
    rw [h.kept middle hfirst hneeds.1]
    exact (hnext middle).kept value hrest hneeds.2
  · obtain ⟨middle, hfirst, hrest⟩ := hsplit value hvalue
    by_cases hneeds : needs
    · rw [h.kept middle hfirst hneeds]
      exact (hnext middle).lost value hrest fun hneeds' => hnot ⟨hneeds, hneeds'⟩
    · obtain ⟨error, hsecond, herror⟩ := h.lost middle hfirst hneeds
      refine ⟨error, ?_, herror⟩
      rw [hsecond]
      rfl

/-- Sequencing after a computation that both make. -/
theorem Narrows.after (h : ∀ error, computation = .error error → ¬E error)
    (hnext : ∀ value, Narrows E needs' (next value) (next' value)) :
    Narrows E needs' (computation >>= next) (computation >>= next') :=
  ((Narrows.refl h).bind hnext).congr (iff_of_eq (true_and _))

/-- Sequencing before a computation that both make. -/
theorem Narrows.before (h : Narrows E needs first second)
    (hnext : ∀ value error, next value = .error error → ¬E error) :
    Narrows E needs (first >>= next) (second >>= next) :=
  (h.bind fun value => Narrows.refl (hnext value)).congr
    (iff_of_eq (and_true _))

end

end Fallible
