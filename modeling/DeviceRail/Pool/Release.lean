import DeviceRail.Pool.Leases

/-!
# Releasing the leases of an owner

`releaseOwner` looks its targets up once and then visits them one by one.  As
long as the owner acquires nothing meanwhile, every lease of the owner is at a
target that is still to be visited, so that none is left when the sweep
returns.  The chapter closes with the safety of leases as a whole.
-/

namespace DeviceRail

open Transition

namespace PoolRecord

theorem releaseOwner_lease {record : PoolRecord} {ownerId : LeaseOwnerId}
    {now : ℕ} {lease : LeaseRecord}
    (h : (record.releaseOwner ownerId now).2.lease = some lease) :
    lease.value.ownerId ≠ ownerId := by
  unfold releaseOwner at h
  cases hbefore : record.lease with
  | none =>
    simp only [hbefore] at h
    cases h
  | some before =>
    by_cases howner : before.value.ownerId = ownerId
    · simp only [hbefore, if_pos howner] at h
      cases h
    · simp only [hbefore, if_neg howner] at h
      cases h
      exact howner

end PoolRecord

namespace PoolSystem

variable {sys sys' : System} {label : Label}

/-- The call has neither returned nor been dropped. -/
def Phase.active : Phase → Bool
  | .finished _ | .dropped | .panicked => false
  | _ => true

/-- No acquisition of the owner is under way. -/
def NoAcquire (ownerId : LeaseOwnerId) (sys : System) : Prop :=
  ∀ tid task deviceId nowMs, sys.tasks.lookup tid = some task →
    task.request = .acquire deviceId ownerId nowMs → task.phase.active = false

variable {ownerId : LeaseOwnerId} {deviceId : DeviceId} {nowMs : ℕ}
  {tid : TaskId} {lease : LeaseRecord} {phase : Phase}

/-- Without an acquisition of the owner, a lease of the owner was there before,
at the same registration. -/
theorem Sound.owned_before (h : Sound sys) (hmove : Move sys label sys')
    (hno : NoAcquire ownerId sys) {record' : PoolRecord} {lease' : LeaseRecord}
    (hlookup' : sys'.state.devices.lookup deviceId = some record')
    (hlease' : record'.lease = some lease')
    (howner' : lease'.value.ownerId = ownerId) :
    ∃ record lease, sys.state.devices.lookup deviceId = some record ∧
      record.gate = record'.gate ∧ record.lease = some lease ∧
      lease.value.ownerId = ownerId := by
  obtain ⟨record, hlookup, hgate, ⟨lease, hlease, -, howner⟩ |
    ⟨tid, nowMs, _, _, _, -, htask, -⟩⟩ :=
    h.lease_before hmove hlookup' hlease'
  · exact ⟨record, lease, hlookup, hgate, hlease, howner.symm.trans howner'⟩
  · rw [howner'] at htask
    cases hno tid _ deviceId nowMs htask rfl

/-- Every lease of the owner is at a target the sweep has still to visit. -/
def Covered (sys : System) (ownerId : LeaseOwnerId) (phase : Phase) : Prop :=
  ∀ deviceId record lease, sys.state.devices.lookup deviceId = some record →
    record.lease = some lease → lease.value.ownerId = ownerId →
    (deviceId, record.gate) ∈ phase.targets

/-- A sweep that has looked its targets up covers the leases of its owner. -/
def Sweeps (sys : System) (tid : TaskId) (ownerId : LeaseOwnerId)
    (nowMs : ℕ) : Prop :=
  ∃ phase, sys.tasks.lookup tid = some ⟨.releaseOwner ownerId nowMs, phase⟩ ∧
    (phase = .ready ∨ phase = .dropped ∨ Covered sys ownerId phase)

theorem Covered.move (h : Covered sys ownerId phase) (hsound : Sound sys)
    (hno : NoAcquire ownerId sys) (hmove : Move sys label sys') :
    Covered sys' ownerId phase := by
  intro deviceId record' lease' hlookup' hlease' howner'
  obtain ⟨record, lease, hlookup, hgate, hlease, howner⟩ :=
    hsound.owned_before hmove hno hlookup' hlease' howner'
  rw [← hgate]
  exact h deviceId record lease hlookup hlease howner

theorem Sound.covered_list (h : Sound sys)
    {order : List LeaseId} (horder : order.toFinset = sys.state.leasesOf ownerId)
    (taken : List DeviceLease) :
    Covered sys ownerId (resume (sys.state.leaseTargets order) taken) := by
  intro deviceId record lease hlookup hlease howner
  have hof : sys.state.leaseOf deviceId = some lease :=
    (PoolState.leaseOf_of_lookup hlookup).trans hlease
  have hmem : lease.value.id ∈ order := by
    rw [← List.mem_toFinset, horder]
    exact (h.indexed.grouped.mem ownerId lease.value.id).mpr
      ⟨deviceId, lease, hof, howner, rfl⟩
  have htarget : (deviceId, record.gate) ∈ sys.state.leaseTargets order := by
    refine mem_leaseTargets.mpr ⟨lease.value.id, hmem, ?_, record, hlookup, rfl⟩
    exact (h.indexed.located lease.value.id deviceId).mpr ⟨lease, hof, rfl⟩
  cases htargets : sys.state.leaseTargets order with
  | nil =>
    rw [htargets] at htarget
    cases htarget
  | cons target rest => rwa [htargets] at htarget

theorem Sound.sweeps_quiet (h : Sound sys) {phase' : Phase}
    (hquiet : Quiet sys ⟨.releaseOwner ownerId nowMs, phase⟩ phase')
    (hcovers : phase = .ready ∨ phase = .dropped ∨ Covered sys ownerId phase) :
    phase' = .ready ∨ phase' = .dropped ∨ Covered sys ownerId phase' := by
  have hlocated : ∀ deviceId, phase = .located deviceId →
      Covered sys ownerId phase' := by
    rintro deviceId rfl other record lease hrecord hlease howner
    have hcovered := (hcovers.resolve_left (by simp)).resolve_left (by simp)
    cases hcovered other record lease hrecord hlease howner
  cases hquiet.turn with
  | failed _ hcause =>
    obtain hsweeps | ⟨deviceId, hphase⟩ := hcause
    · cases hsweeps
    · exact .inr (.inr (hlocated deviceId hphase))
  | located _ _ hrequest => cases hrequest
  | waits hbefore =>
    obtain ⟨-, hdevice⟩ | hphase := hbefore
    · cases hdevice
    · exact .inr (.inr (hlocated _ hphase))
  | lists hswept horder =>
    cases phase with
    | ready =>
      cases hswept
      exact .inr (.inr (h.covered_list horder []))
    | _ => cases hswept
  | clocked hready hclock =>
    obtain rfl : phase = _ := hready
    cases hclock
  | reads hphase =>
    obtain rfl : phase = _ := hphase
    exact .inr (.inr ((hcovers.resolve_left (by simp)).resolve_left (by simp)))
  | dropped => exact .inr (.inl rfl)

theorem resume_targets (rest : List (DeviceId × GateId))
    (taken : List DeviceLease) : (resume rest taken).targets = rest := by
  cases rest <;> rfl

theorem Sound.sweeps_work (h : Sound sys) {candidate : LeaseId}
    {target : DeviceId × GateId} {rest : List (DeviceId × GateId)}
    {taken : List DeviceLease} {reading : Option ℕ}
    (htask : sys.tasks.lookup tid = some ⟨.releaseOwner ownerId nowMs,
      .locked target rest taken reading⟩) (hno : NoAcquire ownerId sys)
    (hcovered : Covered sys ownerId (.locked target rest taken reading))
    (hmove : Move sys (.commit tid candidate) sys') :
    Sweeps sys' tid ownerId nowMs := by
  obtain ⟨now, reply, hnow, htasks, hwork⟩ := h.commit_locked hmove htask rfl
  have hremaining : ∀ taken', (∀ record' lease',
      sys'.state.devices.lookup target.1 = some record' →
      record'.gate = target.2 → record'.lease = some lease' →
      lease'.value.ownerId ≠ ownerId) →
      Covered sys' ownerId (resume rest taken') := by
    intro taken' hgone deviceId record' lease' hlookup' hlease' howner'
    rw [resume_targets]
    have hmem := hcovered.move h hno hmove deviceId record' lease' hlookup'
      hlease' howner'
    rcases List.mem_cons.mp hmem with htarget | hrest
    · obtain rfl := htarget
      exact absurd howner' (hgone record' lease' hlookup' rfl hlease')
    · exact hrest
  rcases hwork with ⟨error, hstale, rfl, hstate⟩ |
    ⟨record, hlookup, hgate, hreply, hbecomes⟩
  · refine ⟨resume rest (taken ++ []), ?_, .inr (.inr (hremaining _ ?_))⟩
    · exact (htasks tid).trans (if_pos rfl)
    · intro record' lease' hlookup' hgate' _ _
      rw [hstate] at hlookup'
      rw [PoolState.ensureCurrentGate_of_lookup hlookup' hgate'] at hstale
      cases hstale
  · rw [PoolRecord.atGate_releaseOwner] at hreply hbecomes
    subst hreply
    refine ⟨resume rest (taken ++ (record.releaseOwner ownerId now).1.toList),
      ?_, .inr (.inr (hremaining _ ?_))⟩
    · exact (htasks tid).trans (if_pos rfl)
    · intro record' lease' hlookup' _ hlease'
      cases hbecomes.lookup_self.symm.trans hlookup'
      exact PoolRecord.releaseOwner_lease hlease'

theorem Sweeps.move (h : Sweeps sys tid ownerId nowMs) (hsound : Sound sys)
    (hno : NoAcquire ownerId sys) (hmove : Move sys label sys') :
    Sweeps sys' tid ownerId nowMs := by
  obtain ⟨phase, htask, hcovers⟩ := h
  have hmoved : ∀ {phase}, phase = .ready ∨ phase = .dropped ∨
      Covered sys ownerId phase →
      phase = .ready ∨ phase = .dropped ∨ Covered sys' ownerId phase :=
    .imp_right (.imp_right fun hcovered => hcovered.move hsound hno hmove)
  obtain ⟨task', htask', rfl | hgoes⟩ := hsound.goes hmove htask
  · exact ⟨phase, htask', hmoved hcovers⟩
  cases hgoes with
  | quiet hquiet => exact ⟨_, htask', hmoved (hsound.sweeps_quiet hquiet hcovers)⟩
  | lock hphase =>
    obtain rfl : phase = .waiting _ _ _ := hphase
    exact ⟨_, htask', .inr (.inr
      (((hmoved hcovers).resolve_left (by simp)).resolve_left (by simp)))⟩
  | work hlabel hphase _ _ =>
    subst hlabel
    obtain rfl : phase = .locked _ _ _ _ := hphase
    exact hsound.sweeps_work htask hno
      ((hcovers.resolve_left (by simp)).resolve_left (by simp)) hmove

/-- The task a label is about. -/
def Label.task? : Label → Option TaskId
  | .tick _ => none
  | .call tid _ | .lookup tid | .list tid _ | .lock tid | .clock tid
  | .commit tid _ | .drop tid => some tid

/-- A step of `releaseOwner` leaves the leases of other owners as they are. -/
theorem Sound.releaseOwner_spares (h : Sound sys) (hmove : Move sys label sys')
    {task : Task} (hlabel : label.task? = some tid)
    (htask : sys.tasks.lookup tid = some task)
    (hrequest : task.request = .releaseOwner ownerId nowMs)
    (hlease : sys.state.leaseOf deviceId = some lease)
    (hne : lease.value.ownerId ≠ ownerId) :
    sys'.state.leaseOf deviceId = some lease := by
  obtain ⟨record, hlookup, hrecord⟩ := PoolState.leaseOf_eq_some.mp hlease
  cases h.touch hmove hlookup with
  | same hsame => exact (PoolState.leaseOf_of_lookup hsame).trans hrecord
  | health _ _ hafter =>
    exact (PoolState.leaseOf_of_lookup hafter).trans hrecord
  | work hcommit htask' _ _ hafter _ _ =>
    rw [hcommit] at hlabel
    cases hlabel
    rw [htask] at htask'
    cases htask'
    rw [hrequest, PoolRecord.atGate_releaseOwner] at hafter
    simp only [PoolRecord.releaseOwner, hrecord, if_neg hne] at hafter
    exact (PoolState.leaseOf_of_lookup hafter).trans hrecord

variable {labels : List Label}

/-- A sweep of an owner that returns, with no acquisition of the owner under
way since its call, leaves no lease of the owner. -/
theorem Sound.releaseOwner_returns (h : Sound sys) {sys₁ sys₂ : System}
    {reply : PoolReply}
    (hcall : Step sys (.call tid (.releaseOwner ownerId nowMs)) sys₁)
    (hrun : Run (Guarded
      (fun sys _ => NoAcquire ownerId sys) Step) sys₁ labels sys₂)
    (hreturn : sys₂.tasks.lookup tid =
      some ⟨.releaseOwner ownerId nowMs, .finished reply⟩)
    (hlease : sys₂.state.leaseOf deviceId = some lease) :
    lease.value.ownerId ≠ ownerId := by
  have hmove := move_of_step hcall
  have hstart : Sweeps sys₁ tid ownerId nowMs := by
    simp only [Step, System.step] at hcall
    split at hcall
    next =>
      obtain rfl := Option.some.inj hcall
      exact ⟨.ready, (lookup_setTask ..).trans (if_pos rfl), .inl rfl⟩
    next => cases hcall
  have hend : Sound sys₂ ∧ Sweeps sys₂ tid ownerId nowMs := by
    refine hrun.invariant (I := fun sys => Sound sys ∧
      Sweeps sys tid ownerId nowMs) ?_ ⟨h.move hmove, hstart⟩
    rintro before label after ⟨hsound, hsweeps⟩ ⟨hno, hstep⟩
    have hnext := move_of_step hstep
    exact ⟨hsound.move hnext, hsweeps.move hsound hno hnext⟩
  obtain ⟨-, phase, htask, hcovers⟩ := hend
  cases hreturn.symm.trans htask
  obtain ⟨record, hlookup, hrecord⟩ := PoolState.leaseOf_eq_some.mp hlease
  have hcovered := (hcovers.resolve_left (by simp)).resolve_left (by simp)
  intro howner
  cases hcovered deviceId record lease hlookup hrecord howner

/-! ## The safety of leases -/

/-- What holds of the leases in a state and of the steps that leave it. -/
structure LeasesSafe (sys : System) : Prop where
  /-- Before its deadline a lease is taken away only by the release of its id
  and owner, by the sweep of its owner, or by the sweep of all leases. -/
  kept : ∀ label sys', Step sys label sys' → ∀ deviceId lease,
    sys.state.leaseOf deviceId = some lease → sys.clock < lease.deadline →
    (∃ lease', sys'.state.leaseOf deviceId = some lease' ∧
        lease'.value.id = lease.value.id ∧
        lease'.value.ownerId = lease.value.ownerId) ∨
      ∃ tid candidate task, label = .commit tid candidate ∧
        sys.tasks.lookup tid = some task ∧
        task.request.Revokes lease.value.id lease.value.ownerId
  /-- Meanwhile an acquisition of another owner fails, and as in use when it
  holds the gate of the registration and the health of the device allows. -/
  refused : ∀ sys' tid candidate task deviceId ownerId nowMs lease,
    Step sys (.commit tid candidate) sys' →
    sys.tasks.lookup tid = some task →
    task.request = .acquire deviceId ownerId nowMs →
    sys.state.leaseOf deviceId = some lease → sys.clock < lease.deadline →
    lease.value.ownerId ≠ ownerId →
    ∃ error, sys'.tasks.lookup tid =
        some ⟨task.request, .finished (.error error)⟩ ∧
      ∀ record rest taken now,
        sys.state.devices.lookup deviceId = some record →
        task.phase = .locked (deviceId, record.gate) rest taken (some now) →
        ensureHealthy record now sys.config.healthValidity = .ok () →
        error = .deviceInUse deviceId
  /-- A guard was granted for the device and owner its lease id was issued
  for. -/
  access : ∀ tid leaseId deviceId ownerId nowMs requireFreshHealth device gate,
    sys.tasks.lookup tid = some ⟨.accessWithLease leaseId deviceId ownerId nowMs
      requireFreshHealth, .holding device gate⟩ →
    device = deviceId ∧ Issued sys leaseId deviceId ownerId ∧
      ∀ device' owner', Issued sys leaseId device' owner' →
        device' = deviceId ∧ owner' = ownerId
  /-- A lease was released by the owner, and from the device, its id was
  issued for. -/
  release : ∀ tid leaseId ownerId nowMs value,
    sys.tasks.lookup tid =
      some ⟨.release leaseId ownerId nowMs, .finished (.lease value)⟩ →
    value.id = leaseId ∧ Issued sys leaseId value.deviceId ownerId ∧
      ∀ device' owner', Issued sys leaseId device' owner' →
        device' = value.deviceId ∧ owner' = ownerId
  /-- A sweep of an owner that is called here and returns, with no acquisition
  of the owner overlapping it, leaves no lease of the owner. -/
  swept : ∀ tid ownerId nowMs sys₁ labels sys₂ reply,
    Step sys (.call tid (.releaseOwner ownerId nowMs)) sys₁ →
    Run (Guarded (fun sys _ => NoAcquire ownerId sys) Step) sys₁ labels sys₂ →
    sys₂.tasks.lookup tid =
      some ⟨.releaseOwner ownerId nowMs, .finished reply⟩ →
    ∀ deviceId lease, sys₂.state.leaseOf deviceId = some lease →
      lease.value.ownerId ≠ ownerId
  /-- No step of such a sweep touches the lease of another owner. -/
  spared : ∀ label sys' tid task ownerId nowMs, Step sys label sys' →
    label.task? = some tid → sys.tasks.lookup tid = some task →
    task.request = .releaseOwner ownerId nowMs → ∀ deviceId lease,
    sys.state.leaseOf deviceId = some lease → lease.value.ownerId ≠ ownerId →
    sys'.state.leaseOf deviceId = some lease

theorem accounted_new (config : DevicePoolConfig) :
    Accounted (System.new config) := by
  constructor <;> simp [Issued, System.new, PoolState.empty, PoolState.leaseOf]

/-- The leases of every run are safe, when lease ids are drawn once. -/
theorem leases_safe {config : DevicePoolConfig} {labels : List Label}
    (hrun : Run (Guarded FreshIds Step)
      (System.new config) labels sys) : LeasesSafe sys := by
  have hall : Sound sys ∧ Accounted sys ∧ Accepted sys := by
    refine hrun.invariant (I := fun sys => Sound sys ∧ Accounted sys ∧
      Accepted sys) ?_ ⟨sound_new config, accounted_new config, ?_⟩
    · rintro before label after ⟨hsound, haccounted, haccepted⟩ ⟨hfresh, hstep⟩
      have hmove := move_of_step hstep
      exact ⟨hsound.move hmove, haccounted.move hsound hfresh hmove,
        haccepted.move haccounted hsound hmove⟩
    · constructor <;> simp [System.new]
  obtain ⟨hsound, haccounted, haccepted⟩ := hall
  refine ⟨?_, ?_, ?_, ?_, ?_, ?_⟩
  · intro label sys' hstep deviceId lease hlease hlive
    exact hsound.lease_lasts (move_of_step hstep) hlease hlive
  · intro sys' tid candidate task deviceId ownerId nowMs lease hstep htask hrequest
      hlease hlive hne
    exact hsound.acquire_refused (move_of_step hstep) htask hrequest hlease hlive
      hne
  · intro tid leaseId deviceId ownerId nowMs fresh device gate htask
    obtain ⟨hdevice, hissued⟩ := haccepted.access _ _ _ _ _ _ _ _ htask
    exact ⟨hdevice, hissued, fun device' owner' hissued' =>
      haccounted.unique _ _ _ _ _ hissued' hissued⟩
  · intro tid leaseId ownerId nowMs value htask
    obtain ⟨hid, -, hissued⟩ := haccepted.release _ _ _ _ _ htask
    exact ⟨hid, hissued, fun device' owner' hissued' =>
      haccounted.unique _ _ _ _ _ hissued' hissued⟩
  · intro tid ownerId nowMs sys₁ labels sys₂ reply hcall hsweep hreturn deviceId
      lease hlease
    exact hsound.releaseOwner_returns hcall hsweep hreturn hlease
  · intro label sys' tid task ownerId nowMs hstep hlabel htask hrequest deviceId
      lease hlease hne
    exact hsound.releaseOwner_spares (move_of_step hstep) hlabel htask hrequest
      hlease hne

/-! ## Sample runs -/

/-- The drawn id is on no lease that was answered. -/
def drawsFresh (sys : System) : Label → Bool
  | .commit _ candidate =>
    sys.tasks.values.all (fun task =>
      match task.phase with
      | .finished (.lease value) => decide (value.id ≠ candidate)
      | _ => true)
  | _ => true

theorem freshIds_of_drawsFresh (h : drawsFresh sys label = true) :
    FreshIds sys label := by
  rintro tid candidate task deviceId ownerId nowMs rfl - - device owner
    ⟨other, nowMs', value, htask, hid⟩
  have hall := List.all_eq_true.mp h _ (KeyedMap.mem_values_of_lookup htask)
  exact absurd hid (of_decide_eq_true hall)

/-- Run labels that draw fresh lease ids. -/
def System.runFresh (sys : System) (labels : List Label) : Option System :=
  exec (fun sys label =>
    if drawsFresh sys label then sys.step label else none) sys labels

theorem run_of_runFresh (h : sys.runFresh labels = some sys') :
    Run (Guarded FreshIds Step) sys labels sys' :=
  run_of_guarded_exec (fun _ _ => freshIds_of_drawsFresh)
    (fun _ _ _ hstep => hstep) h

theorem leases_safe_after_acquire :
    ∃ sys, (System.new .default).runFresh leasedSchedule = some sys ∧
      (sys.state.leaseOf phone).map LeaseRecord.ownerId = some alice ∧
      LeasesSafe sys := by
  exact exists_some_and (by decide +kernel)
    fun _ hsys => leases_safe (run_of_runFresh hsys)

/-- After a while another owner asks for a leased device. -/
def contendedSchedule (elapsed : ℕ) : List Label :=
  leasedSchedule ++
    [.tick elapsed, .call 3 (.acquire phone bob 7), .lookup 3, .lock 3, .clock 3,
      .commit 3 firstLease]

/-- The health of a device is checked before its lease: while a lease lasts,
another owner's acquisition may fail for stale health. -/
theorem acquire_stale_before_in_use :
    ∃ sys lease, (System.new .default).runLabels
        (contendedSchedule (fromMillis 30001)) = some sys ∧
      sys.state.leaseOf phone = some lease ∧ lease.value.ownerId = alice ∧
      sys.clock < lease.deadline ∧
      sys.tasks.lookup 3 = some ⟨.acquire phone bob 7,
        .finished (.error (.healthStale phone))⟩ := by
  simp only [exists_and_left]
  decide +kernel

end PoolSystem

end DeviceRail
