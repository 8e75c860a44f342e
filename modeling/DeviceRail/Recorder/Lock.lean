import DeviceRail.Support.Transition

/-!
# The recorder's checkpoint lock

`acquireLock` and `releaseLock` of the recorder, for any number of calls of any
number of processes on one checkpoint path.  Every filesystem step of a call is
one step here, and a process may die between any two of them.  The removal of a
stale lock is decided on a record that was read earlier: the lock is exclusive
as long as no other record took its place in between.
-/

namespace DeviceRail.Recorder

open Transition

/-- What a lock file holds.  The fresh UUID of an attempt is named by the call
and the attempt that drew it. -/
structure CheckpointLockRecord where
  pid : ℕ
  token : ℕ × ℕ
  deriving DecidableEq

/-- The steps of a call whose link succeeded. -/
inductive Stage
  | unlinkingTemporary
  | syncingParent
  | withdrawing
  | holding
  | releasing
  deriving DecidableEq

/-- The next filesystem step of a call, with the number of its attempt. -/
inductive Phase
  | idle
  | linking (attempt : ℕ)
  | reading (attempt : ℕ)
  | checking (attempt : ℕ) (owner : CheckpointLockRecord)
  | removing (attempt : ℕ) (owner : CheckpointLockRecord)
  | owning (stage : Stage) (attempt : ℕ)
  | returned
  deriving DecidableEq

/-- The lock file, the processes the system reports alive, and every call with
the process that makes it. -/
structure Locks where
  pid : ℕ → ℕ
  lock : Option CheckpointLockRecord
  alive : ℕ → Bool
  phase : ℕ → Phase

def Locks.new (pid : ℕ → ℕ) : Locks :=
  ⟨pid, none, fun _ => true, fun _ => .idle⟩

def Locks.record (s : Locks) (call attempt : ℕ) : CheckpointLockRecord :=
  ⟨s.pid call, call, attempt⟩

/-- The call goes on to another phase, and leaves the lock file as given. -/
def Locks.goto (s : Locks) (call : ℕ) (phase : Phase)
    (lock : Option CheckpointLockRecord) : Locks :=
  { s with lock := lock, phase := Function.update s.phase call phase }

def maxAttempts : ℕ := 3

/-- The phase and the lock file after the next step of a call.  A `fault` is an
error of the filesystem or a cancellation at that step. -/
def Locks.outcome (s : Locks) (call : ℕ) (fault : Bool) :
    Phase × Option CheckpointLockRecord :=
  match s.phase call, fault with
  | .idle, false => (.linking 0, s.lock)
  | .linking attempt, false =>
    match s.lock with
    | none =>
      (.owning .unlinkingTemporary attempt, some (s.record call attempt))
    | some _ => (.reading attempt, s.lock)
  | .reading attempt, false =>
    match s.lock with
    | none => (.returned, s.lock)
    | some owner => (.checking attempt owner, s.lock)
  | .checking attempt owner, false =>
    if s.alive owner.pid then (.returned, s.lock)
    else (.removing attempt owner, s.lock)
  | .removing attempt _, false =>
    match s.lock with
    | none => (.returned, none)
    | some _ =>
      if attempt + 1 < maxAttempts then (.linking (attempt + 1), none)
      else (.returned, none)
  | .owning .unlinkingTemporary attempt, false =>
    (.owning .syncingParent attempt, s.lock)
  | .owning .syncingParent attempt, false => (.owning .holding attempt, s.lock)
  | .owning .syncingParent attempt, true =>
    (.owning .withdrawing attempt, s.lock)
  | .owning .holding attempt, false =>
    if s.lock = some (s.record call attempt) then
      (.owning .releasing attempt, s.lock)
    else (.returned, s.lock)
  | .owning .withdrawing _, false => (.returned, none)
  | .owning .releasing _, false => (.returned, none)
  | _, _ => (.returned, s.lock)

inductive LockStep
  | act (call : ℕ) (fault : Bool)
  | die (pid : ℕ)

def Locks.next (s : Locks) : LockStep → Option Locks
  | .act call fault =>
    if s.alive (s.pid call) then
      let outcome := s.outcome call fault
      some (s.goto call outcome.1 outcome.2)
    else none
  | .die pid => some { s with alive := Function.update s.alive pid false }

def LockedStep (s : Locks) (l : LockStep) (t : Locks) : Prop :=
  s.next l = some t

/-- A live process holds the lock from the link of a call to its unlink. -/
def Locks.Holds (s : Locks) (call : ℕ) : Prop :=
  s.alive (s.pid call) = true ∧
    ∃ stage attempt, s.phase call = .owning stage attempt

/-- The record a call has read and found stale. -/
def Phase.removed? : Phase → Option CheckpointLockRecord
  | .removing _ owner => some owner
  | _ => none

/-- A stale lock is removed only while the lock file is the one that was read:
no other call took its place between the read and the unlink. -/
def Locks.undisturbed (s : Locks) : LockStep → Bool
  | .act call _ => (s.phase call).removed?.all fun owner =>
    s.lock.all (· = owner)
  | .die _ => true

def Undisturbed (s : Locks) (l : LockStep) : Prop := s.undisturbed l = true

/-- The lock file names every live holder, and a call that removes a lock has
seen that its owner is dead. -/
structure Locks.Exclusive (s : Locks) : Prop where
  named : ∀ call stage attempt, s.alive (s.pid call) = true →
    s.phase call = .owning stage attempt → s.lock = some (s.record call attempt)
  stale : ∀ call attempt owner, s.phase call = .removing attempt owner →
    s.alive owner.pid = false

variable {s : Locks} {call call' : ℕ} {fault : Bool}

section

variable (h : s.Exclusive)
include h

theorem Locks.Exclusive.holder_unique (hcall : s.Holds call)
    (hcall' : s.Holds call') : call = call' := by
  obtain ⟨halive, stage, attempt, hphase⟩ := hcall
  obtain ⟨halive', stage', attempt', hphase'⟩ := hcall'
  have hlock := h.named call stage attempt halive hphase
  rw [h.named call' stage' attempt' halive' hphase'] at hlock
  simp only [Locks.record, Option.some.injEq,
    CheckpointLockRecord.mk.injEq, Prod.mk.injEq] at hlock
  exact hlock.2.1.symm

/-- A step keeps the lock file, creates it where there was none, or removes it;
and it removes only a lock whose owner is dead or the call's own. -/
theorem Locks.Exclusive.outcome_lock (hguard : Undisturbed s (.act call fault))
    (halive : s.alive (s.pid call) = true) :
    (s.outcome call fault).2 = s.lock ∨ s.lock = none ∨
      ∃ owner, s.lock = some owner ∧
        (s.alive owner.pid = false ∨ ∃ n, owner = s.record call n) := by
  have hnamed := h.named call
  have hstale := h.stale call
  have hsame : ∀ n owner current, s.phase call = .removing n owner →
      s.lock = some current → current = owner := by
    intro n owner current hphase hlock
    simpa [Undisturbed, undisturbed, hphase, hlock, Phase.removed?] using hguard
  unfold outcome
  split <;> grind

/-- What a call knows when it starts to own or to remove the lock. -/
theorem Locks.Exclusive.outcome_phase (halive : s.alive (s.pid call) = true) :
    (∀ stage n, (s.outcome call fault).1 = .owning stage n →
      (s.outcome call fault).2 = some (s.record call n)) ∧
    ∀ n owner, (s.outcome call fault).1 = .removing n owner →
      s.alive owner.pid = false := by
  have hnamed := h.named call
  unfold outcome
  split <;> grind

theorem Locks.Exclusive.act {call : ℕ} {fault : Bool}
    (hguard : Undisturbed s (.act call fault))
    (halive : s.alive (s.pid call) = true) :
    (s.goto call (s.outcome call fault).1
      (s.outcome call fault).2).Exclusive := by
  obtain ⟨hown, hremove⟩ := h.outcome_phase halive
  constructor
  · intro other stage n hother hphase
    by_cases heq : other = call
    · subst heq
      simp only [goto, Function.update_self] at hphase
      exact hown stage n hphase
    · simp only [goto, Function.update_of_ne heq] at hphase
      have hlock := h.named other stage n hother hphase
      rcases h.outcome_lock hguard halive with
        hkept | habsent | ⟨owner, howner, hdead | ⟨m, hmine⟩⟩
      · exact hkept.trans hlock
      · cases habsent.symm.trans hlock
      · cases howner.symm.trans hlock
        rw [Bool.eq_false_iff] at hdead
        exact absurd hother hdead
      · rw [howner, hmine] at hlock
        simp only [record, Option.some.injEq, CheckpointLockRecord.mk.injEq,
          Prod.mk.injEq] at hlock
        exact absurd hlock.2.1.symm heq
  · intro other n owner hphase
    by_cases heq : other = call
    · subst heq
      simp only [goto, Function.update_self] at hphase
      exact hremove n owner hphase
    · simp only [goto, Function.update_of_ne heq] at hphase
      exact h.stale other n owner hphase

theorem Locks.Exclusive.die (pid : ℕ) :
    Locks.Exclusive { s with alive := Function.update s.alive pid false } := by
  have hlive : ∀ p, Function.update s.alive pid false p = true →
      s.alive p = true := by
    intro p hp
    by_cases heq : p = pid <;> simp_all
  constructor
  · intro call stage n halive hphase
    exact h.named call stage n (hlive _ halive) hphase
  · intro call n owner hphase
    have hdead := h.stale call n owner hphase
    rw [Bool.eq_false_iff] at hdead ⊢
    exact fun halive => hdead (hlive _ halive)

theorem Locks.Exclusive.step {t : Locks} {l : LockStep}
    (hstep : Guarded Undisturbed LockedStep s l t) : t.Exclusive := by
  obtain ⟨hguard, hnext⟩ := hstep
  cases l with
  | act call fault =>
    obtain ⟨halive, heq⟩ := Option.ite_none_right_eq_some.mp hnext
    cases heq
    exact h.act hguard halive
  | die pid =>
    cases hnext
    exact h.die pid

end

/-- While no stale lock is replaced between its read and its removal, at most
one call of one live process holds the checkpoint lock. -/
theorem lock_excludes {pid : ℕ → ℕ} {s : Locks} {ls : List LockStep}
    (hrun : Run (Guarded Undisturbed LockedStep) (Locks.new pid) ls s)
    {call : ℕ} (hcall : s.Holds call) (hcall' : s.Holds call') :
    call = call' := by
  have hinit : (Locks.new pid).Exclusive := by
    constructor
    · rintro call stage n - ⟨⟩
    · rintro call n owner ⟨⟩
  exact (hrun.invariant (fun _ _ _ h => h.step) hinit).holder_unique
    hcall hcall'

/-- Process 0 dies with the lock, and process 1 removes and takes it. -/
def takenOver : List LockStep :=
  .act 0 false :: .act 0 false :: .die 0 :: List.replicate 8 (.act 1 false)

theorem lock_excludes_after_recovery : ∃ s,
    Run (Guarded Undisturbed LockedStep) (Locks.new id) takenOver s ∧
      s.Holds 1 ∧ ∀ call, s.Holds call → call = 1 := by
  obtain ⟨s, hexec, halive, hphase⟩ : ∃ s,
      exec (fun s l => if s.undisturbed l then s.next l else none)
        (Locks.new id) takenOver = some s ∧ s.alive (s.pid 1) = true ∧
        s.phase 1 = .owning .holding 1 := by
    decide +kernel
  have hrun : Run (Guarded Undisturbed LockedStep) (Locks.new id) takenOver s :=
    run_of_guarded_exec (fun s l (h : Locks.undisturbed s l = true) => h)
      (fun _ _ _ h => h) hexec
  have hholds : s.Holds 1 := ⟨halive, _, _, hphase⟩
  exact ⟨s, hrun, hholds, fun call h => lock_excludes hrun h hholds⟩

/-- Processes 1 and 2 both read the lock of the dead process 0; process 1
removes and takes it, and process 2 removes the lock of process 1. -/
def takenTwice : List LockStep :=
  .act 0 false :: .act 0 false :: .die 0 ::
    List.replicate 4 (.act 2 false) ++ List.replicate 8 (.act 1 false) ++
      List.replicate 4 (.act 2 false)

theorem two_processes_hold : ∃ s, Run LockedStep (Locks.new id) takenTwice s ∧
    s.phase 1 = .owning .holding 1 ∧ s.phase 2 = .owning .holding 1 ∧
      s.Holds 1 ∧ s.Holds 2 := by
  exact ⟨_, run_of_exec (fun _ _ _ h => h) rfl, rfl, rfl,
    ⟨rfl, _, _, rfl⟩, rfl, _, _, rfl⟩

end DeviceRail.Recorder
