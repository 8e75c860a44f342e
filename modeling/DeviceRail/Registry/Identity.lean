import DeviceRail.Registry.Inventory

/-!
# Registrations are kept apart

A device may be unregistered and registered again any number of times.  What a
caller still has of an earlier registration, a handle, a token or a call that
waits, does nothing to a later one.
-/

namespace DeviceRail.RegistrySystem

variable {sys sys' : System} {label : Label} {deviceId : DeviceId}
  {handle : EntryId} {request : RegistryRequest} {entry : Entry}

/-- The registry keeps its inventories in step and registrations apart. -/
structure KeptApart (sys : System) : Prop where
  /-- Every entry has the token of the current registration. -/
  entries : ∀ deviceId handle, sys.entries.lookup deviceId = some handle →
    ∃ record, sys.pool.state.devices.lookup deviceId = some record ∧
      sys.heap.lookup handle = some ⟨deviceId, ⟨deviceId, record.gate⟩⟩
  /-- Every device of the pool has an entry. -/
  devices : ∀ deviceId record,
    sys.pool.state.devices.lookup deviceId = some record →
    ∃ handle, sys.entries.lookup deviceId = some handle
  consistent : ∀ tid task deviceId, sys.tasks.lookup tid = some task →
    task.phase ≠ .finished (.error (.inventoryInconsistent deviceId))
  /-- A step of `register` or `unregister` that is not its success changes
  neither inventory. -/
  unchanged : ∀ label sys' tid task, Step sys label sys' →
    label.task? = some tid → sys.tasks.lookup tid = some task →
    task.request.writes = true →
    (∀ handle, sys'.tasks.lookup tid ≠
      some ⟨task.request, .finished (.handle handle)⟩) →
    sys'.tasks.lookup tid ≠ some ⟨task.request, .finished .unregistered⟩ →
    sys'.entries = sys.entries ∧ ∀ deviceId,
      sys'.pool.state.devices.lookup deviceId =
        sys.pool.state.devices.lookup deviceId
  /-- A call with the handle of an earlier registration changes nothing in the
  pool and fails. -/
  stale : ∀ label sys' tid task handle entry, Step sys label sys' →
    label.task? = some tid → sys.tasks.lookup tid = some task →
    task.request.handle? = some handle → sys.heap.lookup handle = some entry →
    sys.entries.lookup entry.deviceId ≠ some handle →
    sys'.pool.state = sys.pool.state ∧ ∃ phase,
      sys'.tasks.lookup tid = some ⟨task.request, phase⟩ ∧
        (phase = .dropped ∨ ∃ error, phase = .finished (.pool (.error error)))
  /-- While a call is inside, no other call changes a registration. -/
  locked : ∀ label sys' tid task, Step sys label sys' →
    sys.tasks.lookup tid = some task → task.phase = .inside →
    label.task? ≠ some tid →
    sys'.entries = sys.entries ∧ ∀ deviceId,
      sys'.pool.state.gateOf deviceId = sys.pool.state.gateOf deviceId

theorem Sound.entry_current (h : Sound sys)
    (hentry : sys.entries.lookup deviceId = some handle) :
    ∃ record, sys.pool.state.devices.lookup deviceId = some record ∧
      sys.heap.lookup handle = some ⟨deviceId, ⟨deviceId, record.gate⟩⟩ := by
  obtain ⟨gate, hplace⟩ := h.placed deviceId handle hentry
  have hgate : sys.pool.state.gateOf deviceId = some gate := by
    rw [h.synced, System.gateOf, hentry]
    simp [hplace]
  obtain ⟨record, hlookup, rfl⟩ := PoolState.gateOf_eq_some.mp hgate
  exact ⟨record, hlookup, hplace⟩

theorem Sound.device_entry (h : Sound sys) {record : PoolRecord}
    (hlookup : sys.pool.state.devices.lookup deviceId = some record) :
    ∃ handle, sys.entries.lookup deviceId = some handle := by
  have hgate : sys.gateOf deviceId = some record.gate := by
    rw [← h.synced]
    exact congrArg _ hlookup
  obtain ⟨handle, hentry, -⟩ := Option.bind_eq_some_iff.mp hgate
  exact ⟨handle, hentry⟩

/-- A call with a handle that is not current is refused under the lock. -/
theorem begin_stale (hhandle : request.handle? = some handle)
    (hentry : sys.heap.lookup handle = some entry)
    (hstale : sys.entries.lookup entry.deviceId ≠ some handle) :
    ∃ error, sys.begin request = some (.inl (.pool (.error error))) := by
  have hrefused : ∃ error, ∀ make : Entry → PoolRequest,
      sys.withCurrent handle make = some (.inl (.pool (.error error))) := by
    simp only [System.withCurrent, hentry, Option.map_some,
      System.ensureCurrentEntry]
    cases hcurrent : sys.entries.lookup entry.deviceId with
    | none => exact ⟨.deviceNotFound entry.deviceId, fun _ => rfl⟩
    | some current =>
      have hne : current ≠ handle := by
        rintro rfl
        exact hstale hcurrent
      exact ⟨.deviceRegistrationChanged entry.deviceId, fun make => by
        simp only [if_neg hne]⟩
  obtain ⟨error, hrefused⟩ := hrefused
  refine ⟨error, ?_⟩
  cases request with
  | recordHealth _ _ _ | acquireLease _ _ _ | accessWithLease _ _ _ _
  | accessAvailableTo _ _ _ | cleanupAccessWithLease _ _ _ _ =>
    cases hhandle
    exact hrefused _
  | _ => cases hhandle

theorem validate_of_handle (h : request.handle? = some handle) :
    request.validate = .ok () := by
  cases request with
  | register _ _ => cases h
  | _ => rfl

section

variable {tid : TaskId} {task : Task}

section

variable (h : Sound sys) (hmove : Move sys label sys')
  (hlabel : label.task? = some tid) (htask : sys.tasks.lookup tid = some task)
include h hmove hlabel htask

theorem Sound.stale_step (hhandle : task.request.handle? = some handle)
    (hentry : sys.heap.lookup handle = some entry)
    (hstale : sys.entries.lookup entry.deviceId ≠ some handle) :
    sys'.pool.state = sys.pool.state ∧ ∃ phase,
      sys'.tasks.lookup tid = some ⟨task.request, phase⟩ ∧
        (phase = .dropped ∨
          ∃ error, phase = .finished (.pool (.error error))) := by
  obtain ⟨error, hbegun⟩ := begin_stale hhandle hentry hstale
  cases hmove with
  | tick hpool => cases hlabel
  | call request hnew =>
    cases hlabel
    cases htask.symm.trans hnew
  | invalid hfound hready herror =>
    cases hlabel
    cases htask.symm.trans hfound
    cases (validate_of_handle hhandle).symm.trans herror
  | answer hfound hready hbegin =>
    cases hlabel
    cases htask.symm.trans hfound
    cases hbegun.symm.trans hbegin
    exact ⟨rfl, _, (lookup_setPhase ..).trans (if_pos rfl), .inr ⟨error, rfl⟩⟩
  | enter hfound hready hvalid hfree hbegin hpool =>
    cases hlabel
    cases htask.symm.trans hfound
    cases hbegun.symm.trans hbegin
  | work hfound hinside hworks hpool hpoolTask =>
    cases hlabel
    cases htask.symm.trans hfound
    obtain ⟨poolTask, -, hin⟩ := h.inside tid task htask hinside
    cases hin.begun.symm.trans hbegun
  | giveUp hfound hready =>
    cases hlabel
    cases htask.symm.trans hfound
    exact ⟨rfl, _, (lookup_setPhase ..).trans (if_pos rfl), .inl rfl⟩
  | drop hfound hphase hpool =>
    cases hlabel
    cases htask.symm.trans hfound
    exact ⟨(pool_drop hpool).1, _, (lookup_setPhase ..).trans (if_pos rfl),
      .inl rfl⟩

theorem Sound.unchanged_step (hwrites : task.request.writes = true)
    (hregistered : ∀ handle, sys'.tasks.lookup tid ≠
      some ⟨task.request, .finished (.handle handle)⟩)
    (hunregistered : sys'.tasks.lookup tid ≠
      some ⟨task.request, .finished .unregistered⟩) :
    sys'.entries = sys.entries ∧ ∀ deviceId,
      sys'.pool.state.devices.lookup deviceId =
        sys.pool.state.devices.lookup deviceId := by
  cases hmove with
  | tick hpool => cases hlabel
  | enter hfound hready hvalid hfree hbegin hpool =>
    exact ⟨rfl, fun deviceId => by simp only [(pool_call hpool).1]⟩
  | work hfound hinside hworks hpool hpoolTask =>
    cases hlabel
    rw [htask] at hfound
    cases hfound
    cases hrequest : task.request with
    | register driverId info =>
      obtain ⟨registration, -, -, hsettle, -⟩ :=
        h.register_work htask hinside hworks hpool hpoolTask hrequest
      rw [hsettle] at hregistered
      exact absurd ((lookup_setPhase ..).trans (if_pos rfl)) (hregistered _)
    | unregister deviceId nowMs =>
      rcases h.unregister_work htask hinside hworks hpool hpoolTask
          hrequest with
        ⟨hsettle, hsame⟩ | ⟨hsettle, -⟩ | ⟨hsettle, hsame⟩
      · rw [hsettle]
        exact ⟨rfl, hsame⟩
      · rw [hsettle] at hunregistered
        exact absurd ((lookup_setPhase ..).trans (if_pos rfl)) hunregistered
      · rw [hsettle]
        exact ⟨rfl, hsame⟩
    | _ =>
      rw [hrequest] at hwrites
      cases hwrites
  | drop hfound hphase hpool =>
    exact ⟨rfl, fun deviceId => by simp only [(pool_drop hpool).1]⟩
  | _ => exact ⟨rfl, fun _ => rfl⟩

end

theorem Sound.locked_step (h : Sound sys) (hmove : Move sys label sys')
    (htask : sys.tasks.lookup tid = some task) (hinside : task.phase = .inside)
    (hlabel : label.task? ≠ some tid) :
    sys'.entries = sys.entries ∧ ∀ deviceId,
      sys'.pool.state.gateOf deviceId = sys.pool.state.gateOf deviceId := by
  cases hmove with
  | tick hpool =>
    cases hpool
    exact ⟨rfl, fun _ => rfl⟩
  | enter hfound hready hvalid hfree hbegin hpool =>
    exact ⟨rfl, fun deviceId => by simp only [(pool_call hpool).1]⟩
  | @work other found label pool poolTask hfound hinside' hworks hpool
      hpoolTask =>
      have hne : tid ≠ other := fun heq => hlabel (congrArg some heq.symm)
      have hreads := h.exclusive other tid found task hfound htask hne.symm
        hinside' hinside
      have hgates := h.read_gates hfound hinside' hreads hworks hpool
      rcases settle_reads { sys with pool := pool } other poolTask.phase
        hreads with hgoes | ⟨after, hleaves, -⟩
      · rw [hgoes]
        exact ⟨rfl, hgates⟩
      · rw [hleaves]
        exact ⟨rfl, hgates⟩
  | drop hfound hphase hpool =>
    exact ⟨rfl, fun deviceId => by simp only [(pool_drop hpool).1]⟩
  | _ => exact ⟨rfl, fun _ => rfl⟩

end

/-- In every run of a registry and of a pool, what belongs to an earlier
registration of a device does nothing to a later one, and the inventories of
the registry and its pool agree. -/
theorem registrations_kept_apart {pool : PoolSystem.System}
    (config : DevicePoolConfig) (hreached : Reached sys)
    (hpool : PoolSystem.Reached pool) :
    KeptApart sys ∧ PoolSystem.KeptApart pool ∧
      PoolSystem.ReleaseKeptApart config := by
  have h := hreached.sound
  refine ⟨⟨?_, ?_, h.consistent, ?_, ?_, ?_⟩, hpool.sound.keptApart,
    PoolSystem.releaseKeptApart config⟩
  · exact fun deviceId handle hentry => h.entry_current hentry
  · exact fun deviceId record hlookup => h.device_entry hlookup
  · intro label sys' tid task hstep hlabel htask hwrites hregistered
      hunregistered
    exact h.unchanged_step (move_of_step hstep) hlabel htask hwrites hregistered
      hunregistered
  · intro label sys' tid task handle entry hstep hlabel htask hhandle hentry
      hstale
    exact h.stale_step (move_of_step hstep) hlabel htask hhandle hentry hstale
  · intro label sys' tid task hstep htask hinside hlabel
    exact h.locked_step (move_of_step hstep) htask hinside hlabel

open PoolSystem in
/-- A device is registered, unregistered and registered again. -/
def reregisteredSchedule : List Label :=
  [.call 0 (.register phone ⟨phone, "Phone"⟩), .enter 0,
    .work 0 (.commit 0 firstLease),
    .call 1 (.unregister phone 5), .enter 1, .work 1 (.lookup 1),
    .work 1 (.lock 1), .work 1 (.clock 1), .work 1 (.commit 1 firstLease),
    .call 2 (.register phone ⟨phone, "Phone"⟩), .enter 2,
    .work 2 (.commit 2 firstLease)]

theorem registrations_kept_apart_reregistered :
    ∃ sys, (System.new .default).runLabels reregisteredSchedule = some sys ∧
      sys.entries.lookup PoolSystem.phone = some 1 ∧
      KeptApart sys ∧ PoolSystem.KeptApart sys.pool ∧
      PoolSystem.ReleaseKeptApart .default := by
  refine Transition.exists_some_and (by decide +kernel) fun sys hsys => ?_
  have hreached := reached_of_runLabels hsys
  exact registrations_kept_apart .default hreached hreached.sound.pool

end DeviceRail.RegistrySystem
