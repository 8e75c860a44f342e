import Mathlib.Data.List.Infix

/-!
# Labelled runs

Runs of a labelled transition relation, with the two induction rules the
developments above this file use: an invariant of every step is an invariant
of every run, and a relation kept by every step relates the two ends of a run.
Runs are built at the right end, so that the last step of a run is available
by cases.
-/

namespace Transition

variable {σ ι : Type*}

/-- `Run step s ls t`: the labels `ls` lead from `s` to `t`. -/
inductive Run (step : σ → ι → σ → Prop) : σ → List ι → σ → Prop
  | nil (s : σ) : Run step s [] s
  | snoc {s t u : σ} {ls : List ι} {l : ι} :
      Run step s ls t → step t l u → Run step s (ls ++ [l]) u

/-- `t` is reached from `s` by some run. -/
def Reachable (step : σ → ι → σ → Prop) (s t : σ) : Prop :=
  ∃ ls, Run step s ls t

/-- The steps of `step` taken in a state where `guard` allows the label. -/
def Guarded (guard : σ → ι → Prop) (step : σ → ι → σ → Prop) :
    σ → ι → σ → Prop :=
  fun s l t => guard s l ∧ step s l t

/-- Run a schedule through an executable step. -/
def exec (step : σ → ι → Option σ) : σ → List ι → Option σ
  | s, [] => some s
  | s, l :: ls =>
    match step s l with
    | some t => exec step t ls
    | none => none

/-- What holds at the end of a run can be decided by running it. -/
instance decidableExistsSome {p : σ → Prop} [DecidablePred p]
    (s? : Option σ) : Decidable (∃ s, s? = some s ∧ p s) :=
  Option.decidableExistsMem s?

section

variable {step : σ → ι → σ → Prop} {s t u : σ} {l : ι} {ls : List ι}
  {I : σ → Prop} {R : σ → σ → Prop} {guard : σ → ι → Prop}
  {execute : σ → ι → Option σ}

theorem Run.single (h : step s l t) : Run step s [l] t := by
  simpa using Run.snoc (Run.nil s) h

theorem Run.trans {ms : List ι} (hst : Run step s ls t) (htu : Run step t ms u) :
    Run step s (ls ++ ms) u := by
  induction htu with
  | nil => simpa using hst
  | snoc _ hstep ih =>
    rw [← List.append_assoc]
    exact ih.snoc hstep

theorem Run.cons (h : step s l t) (hrun : Run step t ls u) :
    Run step s (l :: ls) u := by
  simpa using (Run.single h).trans hrun

/-- A property kept by every step is kept by every run. -/
theorem Run.invariant (hstep : ∀ s l t, I s → step s l t → I t)
    (hrun : Run step s ls t) (hs : I s) : I t := by
  induction hrun with
  | nil => exact hs
  | snoc _ hlast ih => exact hstep _ _ _ ih hlast

/-- A relation that contains every step taken from an invariant state, and is
reflexive and transitive there, contains every run from such a state. -/
theorem Run.relation (hrefl : ∀ s, R s s)
    (htrans : ∀ s t u, I s → R s t → R t u → R s u)
    (hstep : ∀ s l t, I s → step s l t → I t ∧ R s t) (hrun : Run step s ls t)
    (hs : I s) : R s t := by
  suffices h : I t ∧ R s t from h.2
  induction hrun with
  | nil => exact ⟨hs, hrefl _⟩
  | snoc _ hlast ih =>
    obtain ⟨hI, hR⟩ := ih
    obtain ⟨hI', hR'⟩ := hstep _ _ _ hI hlast
    exact ⟨hI', htrans _ _ _ hs hR hR'⟩

theorem Reachable.refl (s : σ) : Reachable step s s := ⟨[], Run.nil s⟩

theorem Reachable.tail (h : Reachable step s t) (hstep : step t l u) :
    Reachable step s u := by
  obtain ⟨ls, hrun⟩ := h
  exact ⟨ls ++ [l], hrun.snoc hstep⟩

/-- A property of the initial state that every step keeps holds of every
reachable state. -/
theorem Reachable.invariant (hinit : I s)
    (hstep : ∀ s l t, I s → step s l t → I t) (h : Reachable step s t) :
    I t := by
  obtain ⟨ls, hrun⟩ := h
  exact hrun.invariant hstep hinit

/-- A run of guarded steps is a run. -/
theorem Run.of_guarded (h : Run (Guarded guard step) s ls t) :
    Run step s ls t := by
  induction h with
  | nil => exact Run.nil _
  | snoc _ hlast ih => exact ih.snoc hlast.2

/-- A run whose labels all pass a test is a guarded run. -/
theorem Run.guarded {g : ι → Prop} (hrun : Run step s ls t)
    (hall : ∀ l ∈ ls, g l) : Run (Guarded (fun _ l => g l) step) s ls t := by
  induction hrun with
  | nil => exact Run.nil _
  | snoc _ hstep ih =>
    refine Run.snoc (ih fun l hl => hall l (List.mem_append_left _ hl))
      ⟨hall _ ?_, hstep⟩
    exact List.mem_append_right _ (List.mem_singleton_self _)

theorem Run.nil_eq (h : Run step s [] t) : t = s := by
  generalize hls : ([] : List ι) = ls at h
  cases h with
  | nil => rfl
  | snoc _ _ => simp at hls

theorem Run.cons_cases (h : Run step s (l :: ls) t) :
    ∃ u, step s l u ∧ Run step u ls t := by
  generalize hms : l :: ls = ms at h
  induction h generalizing ls with
  | nil => cases hms
  | @snoc t u ks k hrun hstep ih =>
    cases ks with
    | nil =>
      cases hms
      have hst := hrun.nil_eq
      subst hst
      exact ⟨u, hstep, Run.nil u⟩
    | cons k' ks =>
      cases hms
      obtain ⟨v, hfirst, hrest⟩ := ih rfl
      exact ⟨v, hfirst, hrest.snoc hstep⟩

/-- Labels determine a run when they determine its steps. -/
theorem Run.unique (hstep : ∀ s l t u, step s l t → step s l u → t = u)
    (ht : Run step s ls t) (hu : Run step s ls u) : t = u := by
  induction ls generalizing s with
  | nil => rw [ht.nil_eq, hu.nil_eq]
  | cons l ls ih =>
    obtain ⟨t₁, hfirst, hrest⟩ := ht.cons_cases
    obtain ⟨u₁, hfirst', hrest'⟩ := hu.cons_cases
    have heq := hstep s l t₁ u₁ hfirst hfirst'
    subst heq
    exact ih hrest hrest'

/-- Lock-step simulation: related labels lead from related states to related
states, so that every run has a related one. -/
theorem Run.lockstep {T : ι → ι → Prop}
    (hstep : ∀ s s' l l' t, R s s' → T l l' → step s l t →
      ∃ t', step s' l' t' ∧ R t t') {s' : σ} {ls' : List ι}
    (hlabels : List.Forall₂ T ls ls') (hrun : Run step s ls t) (hs : R s s') :
    ∃ t', Run step s' ls' t' ∧ R t t' := by
  induction hlabels generalizing s s' with
  | nil =>
    have hst := hrun.nil_eq
    subst hst
    exact ⟨s', Run.nil s', hs⟩
  | cons hl _ ih =>
    obtain ⟨u, hfirst, hrest⟩ := hrun.cons_cases
    obtain ⟨u', hfirst', hu⟩ := hstep _ _ _ _ _ hs hl hfirst
    obtain ⟨t', hrest', ht⟩ := ih hrest hu
    exact ⟨t', Run.cons hfirst' hrest', ht⟩

/-- A schedule that executes is a run. -/
theorem run_of_exec (hsound : ∀ s l t, execute s l = some t → step s l t)
    (h : exec execute s ls = some t) : Run step s ls t := by
  induction ls generalizing s with
  | nil =>
    cases h
    exact Run.nil _
  | cons l ls ih =>
    unfold exec at h
    split at h
    next u hexecute => exact Run.cons (hsound s l u hexecute) (ih h)
    next => cases h

/-- A schedule that executes with a guard tested before every step is a guarded
run. -/
theorem run_of_guarded_exec {tested : σ → ι → Prop}
    [∀ s l, Decidable (tested s l)] (hguard : ∀ s l, tested s l → guard s l)
    (hsound : ∀ s l t, execute s l = some t → step s l t)
    (h : exec (fun s l => if tested s l then execute s l else none) s ls =
      some t) : Run (Guarded guard step) s ls t := by
  refine run_of_exec (fun s l t hstep => ?_) h
  obtain ⟨htested, hstep⟩ := Option.ite_none_right_eq_some.mp hstep
  exact ⟨hguard s l htested, hsound s l t hstep⟩

/-- The end of a run, of which one part is computed and another proved. -/
theorem exists_some_and {s? : Option σ} {p q : σ → Prop}
    (hp : ∃ s, s? = some s ∧ p s) (hq : ∀ s, s? = some s → q s) :
    ∃ s, s? = some s ∧ p s ∧ q s := by
  obtain ⟨s, hs, hcomputed⟩ := hp
  exact ⟨s, hs, hcomputed, hq s hs⟩

end

end Transition
