import DeviceRail.Pool.System

/-!
# The moves of the pool

What a step of the pool can do, said once: time passes, a task is called, a
task changes its phase and nothing else, or a task does its work on the state.
Four facts that hold in every run are derived here for the modules that
follow: phases fit the requests, clock readings lie in the past, gates belong
to one device each, and a gate held in exclusive mode is held once.
-/

namespace DeviceRail.PoolSystem

open Phase

/-- A change of phase that leaves the state alone and takes no gate. -/
inductive Quiet (sys : System) (task : Task) : Phase → Prop
  | lookup {phase} (h : lookupPhase sys.state task = some phase) :
      Quiet sys task phase
  | list {phase order} (h : listPhase sys.state task order = some phase) :
      Quiet sys task phase
  | clock {phase} (h : clockPhase sys.config sys.clock task = some phase) :
      Quiet sys task phase
  | drop (h : System.droppable task = true) : Quiet sys task .dropped

/-- The quiet changes of phase, one by one. -/
inductive Turn (sys : System) (task : Task) : Phase → Prop
  | failed (error : DevicePoolError) (hcause : task.request.sweeps = false ∨
        ∃ deviceId, task.phase = .located deviceId) :
      Turn sys task (.finished (.error error))
  | located {leaseId ownerId nowMs} (deviceId : DeviceId)
      (hready : task.phase = .ready)
      (hrequest : task.request = .release leaseId ownerId nowMs) :
      Turn sys task (.located deviceId)
  | waits {deviceId record}
      (hbefore : task.phase = .ready ∧ task.request.device? = some deviceId ∨
        task.phase = .located deviceId)
      (hlookup : sys.state.devices.lookup deviceId = some record) :
      Turn sys task (.waiting (deviceId, record.gate) [] [])
  | lists {order leases} (hswept : swept sys.state task = some leases)
      (horder : order.toFinset = leases) :
      Turn sys task (resume (sys.state.leaseTargets order) [])
  | clocked (hready : task.phase = .ready)
      (hclock : clockPhase sys.config sys.clock task = some (.clocked sys.clock)) :
      Turn sys task (.clocked sys.clock)
  | reads {target rest taken}
      (hphase : task.phase = .locked target rest taken none) :
      Turn sys task (.locked target rest taken (some sys.clock))
  | dropped : Turn sys task .dropped

/-- What a task that holds a gate has read from the clock. -/
def Reads (sys : System) (task : Task) : Option ℕ → ℕ → Prop
  | some now, now' => now' = now
  | none, now' => task.request.readsClock = false ∧ now' = sys.clock

/-- The moves of the pool. -/
inductive Move (sys : System) : Label → System → Prop
  | tick (elapsed : ℕ) :
      Move sys (.tick elapsed) { sys with clock := sys.clock + elapsed }
  | call {tid} (request : PoolRequest) (hnew : sys.tasks.lookup tid = none) :
      Move sys (.call tid request) (sys.setTask tid ⟨request, .ready⟩)
  | quiet {label tid task phase} (htask : sys.tasks.lookup tid = some task)
      (hquiet : Quiet sys task phase)
      (hlabel : ∀ other candidate, label ≠ .commit other candidate) :
      Move sys label (sys.setPhase tid task phase)
  | lock {tid task target rest taken}
      (htask : sys.tasks.lookup tid = some task)
      (hphase : task.phase = .waiting target rest taken)
      (hfree : sys.blocked target.2 task.request.exclusive = false) :
      Move sys (.lock tid)
        (sys.setPhase tid task (.locked target rest taken none))
  | register {tid deviceId} (candidate : LeaseId)
      (htask : sys.tasks.lookup tid = some ⟨.register deviceId, .ready⟩) :
      Move sys (.commit tid candidate)
        { sys.setTask tid ⟨.register deviceId, .finished (.of .registered
            (sys.state.register deviceId sys.nextGate).1)⟩ with
          state := (sys.state.register deviceId sys.nextGate).2
          nextGate := sys.nextGate + 1 }
  | health {tid registration health nowMs now} (candidate : LeaseId)
      (htask : sys.tasks.lookup tid =
        some ⟨.recordHealth registration health nowMs, .clocked now⟩) :
      Move sys (.commit tid candidate)
        { sys.setTask tid ⟨.recordHealth registration health nowMs,
            .finished (.of .health
              (sys.state.recordHealth registration health now nowMs).1)⟩ with
          state := (sys.state.recordHealth registration health now nowMs).2 }
  | entries {tid nowMs now} (candidate : LeaseId)
      (htask : sys.tasks.lookup tid = some ⟨.entries nowMs, .clocked now⟩) :
      Move sys (.commit tid candidate)
        { sys.setTask tid ⟨.entries nowMs,
            .finished (.entries (sys.state.entries now nowMs).1)⟩ with
          state := (sys.state.entries now nowMs).2 }
  | panic {tid task target rest taken reading now candidate}
      (htask : sys.tasks.lookup tid = some task)
      (hphase : task.phase = .locked target rest taken reading)
      (hnow : Reads sys task reading now)
      (hrun : sys.state.atGate sys.config task.request target.1 target.2 now
        candidate = some none) :
      Move sys (.commit tid candidate) (sys.setPhase tid task .panicked)
  | work {tid task target rest taken reading now candidate reply state}
      (htask : sys.tasks.lookup tid = some task)
      (hphase : task.phase = .locked target rest taken reading)
      (hnow : Reads sys task reading now)
      (hrun : sys.state.atGate sys.config task.request target.1 target.2 now
        candidate = some (some (reply, state))) :
      Move sys (.commit tid candidate)
        { sys.setPhase tid task
            (answered task.request target rest taken reply) with
          state := state }

variable {sys sys' : System} {label : Label} {tid : TaskId} {task : Task}
  {target : DeviceId × GateId} {rest : List (DeviceId × GateId)}
  {taken : List DeviceLease} {candidate : LeaseId} {deviceId : DeviceId}
  {request : PoolRequest} {phase : Phase} {now : ℕ} {record : PoolRecord}
  {state : PoolState} {reply : PoolReply}

theorem turn_lookupGate
    (hbefore : task.phase = .ready ∧ task.request.device? = some deviceId ∨
      task.phase = .located deviceId) :
    Turn sys task (lookupGate sys.state deviceId) := by
  unfold lookupGate
  split
  next =>
    refine .failed _ (hbefore.imp (fun hdevice => ?_) fun hphase => ⟨_, hphase⟩)
    cases hrequest : task.request with
    | _ => simp_all [PoolRequest.device?]
  next record hlookup => exact .waits hbefore hlookup

theorem Quiet.turn (h : Quiet sys task phase) : Turn sys task phase := by
  cases h with
  | lookup hlookup =>
    unfold lookupPhase at hlookup
    repeat' split at hlookup
    all_goals try cases hlookup
    next hrequest _ _ => exact .failed _ (.inl (by rw [hrequest]; rfl))
    next => exact .located _ ‹_› ‹_›
    next hready _ _ =>
      obtain ⟨deviceId, hdevice, rfl⟩ := Option.map_eq_some_iff.mp hlookup
      exact turn_lookupGate (.inl ⟨hready, hdevice⟩)
    next hlocated => exact turn_lookupGate (.inr hlocated)
  | list hlist =>
    obtain ⟨leases, hswept, horder⟩ := Option.bind_eq_some_iff.mp hlist
    obtain ⟨⟨-, henum⟩, hphase⟩ := Option.ite_none_right_eq_some.mp horder
    cases hphase
    exact .lists hswept henum
  | clock hclock =>
    have hread := hclock
    unfold clockPhase at hclock
    repeat' split at hclock
    all_goals cases hclock
    next hrequest _ _ _ => exact .failed _ (.inl (by rw [hrequest]; rfl))
    iterate 3 next => exact .clocked ‹_› hread
    next hphase _ _ =>
      refine .failed _ (.inl ?_)
      cases hrequest : task.request with
      | _ => simp_all [PoolRequest.setsDeadline]
    next hphase _ _ => exact .reads hphase
  | drop => exact .dropped

theorem swept_cases {leases : Finset LeaseId}
    (h : swept sys.state task = some leases) :
    task.request.device? = none ∧
      (task.phase = .ready ∨ ∃ now, task.phase = .clocked now) := by
  unfold swept at h
  split at h <;> simp_all [PoolRequest.device?]

theorem move_of_commitAt {reading : Option ℕ}
    (htask : sys.tasks.lookup tid = some task)
    (hphase : task.phase = .locked target rest taken reading)
    (hnow : Reads sys task reading now)
    (h : sys.commitAt tid task target rest taken now candidate = some sys') :
    Move sys (.commit tid candidate) sys' := by
  unfold System.commitAt at h
  split at h
  next => cases h
  next hrun =>
    cases h
    exact .panic htask hphase hnow hrun
  next reply state hrun =>
    cases h
    exact .work htask hphase hnow hrun

theorem move_of_commit (htask : sys.tasks.lookup tid = some task)
    (h : sys.commit tid task candidate = some sys') :
    Move sys (.commit tid candidate) sys' := by
  obtain ⟨request, phase⟩ := task
  unfold System.commit at h
  split at h
  next deviceId hrequest hphase =>
    cases hrequest
    cases hphase
    cases h
    exact .register candidate htask
  next registration health nowMs now hrequest hphase =>
    cases hrequest
    cases hphase
    cases h
    exact .health candidate htask
  next nowMs now hrequest hphase =>
    cases hrequest
    cases hphase
    cases h
    exact .entries candidate htask
  next request' target rest taken hrequest hphase =>
    cases hphase
    split at h
    next => cases h
    next hreads =>
      have hsilent : request.readsClock = false := by simpa using hreads
      exact move_of_commitAt htask rfl ⟨hsilent, rfl⟩ h
  next request' target rest taken now hrequest hphase =>
    cases hphase
    exact move_of_commitAt htask rfl rfl h
  next => cases h

theorem move_of_step (h : Step sys label sys') : Move sys label sys' := by
  unfold Step at h
  cases label with
  | tick elapsed =>
    cases h
    exact .tick elapsed
  | call tid request =>
    simp only [System.step] at h
    split at h
    next hnew =>
      cases h
      exact .call request hnew
    next => cases h
  | lookup tid | list tid order | clock tid =>
    obtain ⟨task, htask, hstep⟩ := Option.bind_eq_some_iff.mp h
    obtain ⟨phase, hphase, rfl⟩ := Option.map_eq_some_iff.mp hstep
    refine .quiet htask ?_ (by simp)
    first | exact .lookup hphase | exact .list hphase | exact .clock hphase
  | lock tid =>
    obtain ⟨task, htask, hstep⟩ := Option.bind_eq_some_iff.mp h
    repeat' split at hstep
    all_goals cases hstep
    next target rest taken hphase hfree =>
      exact .lock htask hphase (by simpa using hfree)
  | commit tid candidate =>
    obtain ⟨task, htask, hstep⟩ := Option.bind_eq_some_iff.mp h
    exact move_of_commit htask hstep
  | drop tid =>
    obtain ⟨task, htask, hstep⟩ := Option.bind_eq_some_iff.mp h
    split at hstep
    next hdrop =>
      cases hstep
      exact .quiet htask (.drop hdrop) (by simp)
    next => cases hstep

/-! ## Facts of every run -/

/-- The registrations a task goes for or holds. -/
def Phase.targets : Phase → List (DeviceId × GateId)
  | .waiting target rest _ => target :: rest
  | .locked target rest _ _ => target :: rest
  | .holding deviceId gate => [(deviceId, gate)]
  | _ => []

/-- The clock reading a task has kept. -/
def Phase.now? : Phase → Option ℕ
  | .clocked now => some now
  | .locked _ _ _ now => now
  | _ => none

/-- A task that fits the state: its registrations have existed, its clock
reading is past, and its phase is one of its request. -/
structure Task.Fits (sys : System) (task : Task) : Prop where
  target_lt : ∀ target ∈ task.phase.targets, target.2 < sys.nextGate
  target_device : ∀ target ∈ task.phase.targets, ∀ deviceId record,
    sys.state.devices.lookup deviceId = some record →
      record.gate = target.2 → deviceId = target.1
  now_le : ∀ now, task.phase.now? = some now → now ≤ sys.clock
  device : ∀ deviceId, task.request.device? = some deviceId →
    ∀ target ∈ task.phase.targets, target.1 = deviceId
  located : ∀ deviceId, task.phase = .located deviceId →
    task.request.device? = none
  shared : ∀ deviceId gate, task.phase = .holding deviceId gate →
    task.request.exclusive = false

/-- The facts that hold in every state of a run. -/
structure Sound (sys : System) : Prop where
  indexed : sys.state.Indexed
  gate_lt : ∀ deviceId record, sys.state.devices.lookup deviceId = some record →
    record.gate < sys.nextGate
  gate_unique : ∀ deviceId other record record',
    sys.state.devices.lookup deviceId = some record →
    sys.state.devices.lookup other = some record' →
    record.gate = record'.gate → deviceId = other
  fits : ∀ tid task, sys.tasks.lookup tid = some task → task.Fits sys
  exclusive : ∀ tid other task task' gate,
    sys.tasks.lookup tid = some task → sys.tasks.lookup other = some task' →
    tid ≠ other → task.phase.gate? = some gate →
    task'.phase.gate? = some gate → task.request.exclusive = false

@[simp] theorem lookup_setTask (tid other : TaskId) (task : Task) :
    (sys.setTask tid task).tasks.lookup other =
      if other = tid then some task else sys.tasks.lookup other :=
  KeyedMap.lookup_insert_ite _ _ _ _

/-- Registrations of `sys'` are registrations of `sys` or new. -/
def Registered (sys sys' : System) : Prop :=
  ∀ deviceId record', sys'.state.devices.lookup deviceId = some record' →
    (∃ record, sys.state.devices.lookup deviceId = some record ∧
      record.gate = record'.gate) ∨
    (record'.gate = sys.nextGate ∧ sys.nextGate < sys'.nextGate)

theorem Task.Fits.mono (h : task.Fits sys)
    (hclock : sys.clock ≤ sys'.clock) (hgates : sys.nextGate ≤ sys'.nextGate)
    (hregistered : Registered sys sys') : task.Fits sys' := by
  refine ⟨fun target htarget => ?_, fun target htarget deviceId record' hlookup
    hgate => ?_, fun now hnow => (h.now_le now hnow).trans hclock, h.device,
    h.located, h.shared⟩
  · exact (h.target_lt target htarget).trans_le hgates
  · rcases hregistered deviceId record' hlookup with
      ⟨record, hrecord, hsame⟩ | ⟨hnew, -⟩
    · exact h.target_device target htarget deviceId record hrecord
        (hsame.trans hgate)
    · exact absurd (hgate.symm.trans hnew) (h.target_lt target htarget).ne

theorem Registered.of_same (h : sys'.state.devices = sys.state.devices) :
    Registered sys sys' := by
  intro deviceId record' hlookup
  rw [h] at hlookup
  exact .inl ⟨record', hlookup, rfl⟩

theorem Registered.of_becomes {after : Option PoolRecord}
    (hlookup : sys.state.devices.lookup deviceId = some record)
    (hgate : ∀ record', after = some record' → record'.gate = record.gate)
    (hbecomes : sys.state.Becomes deviceId after sys'.state) :
    Registered sys sys' := by
  intro other record' hother
  rw [hbecomes.lookup] at hother
  split at hother
  next heq =>
    subst heq
    exact .inl ⟨record, hlookup, (hgate record' hother).symm⟩
  next => exact .inl ⟨record', hother, rfl⟩

theorem Sound.registered (h : Sound sys) (hgates : sys.nextGate ≤ sys'.nextGate)
    (hregistered : Registered sys sys') {fresh : Option DeviceId}
    (hfresh : ∀ deviceId record,
      sys'.state.devices.lookup deviceId = some record →
      record.gate = sys.nextGate → some deviceId = fresh) :
    (∀ deviceId record, sys'.state.devices.lookup deviceId = some record →
      record.gate < sys'.nextGate) ∧
    ∀ deviceId other record record',
      sys'.state.devices.lookup deviceId = some record →
      sys'.state.devices.lookup other = some record' →
      record.gate = record'.gate → deviceId = other := by
  have hlt : ∀ deviceId record, sys'.state.devices.lookup deviceId =
      some record → record.gate < sys'.nextGate := by
    intro deviceId record hlookup
    rcases hregistered deviceId record hlookup with
      ⟨before, hbefore, hsame⟩ | ⟨hgate, hmore⟩
    · rw [← hsame]
      exact (h.gate_lt deviceId before hbefore).trans_le hgates
    · rwa [hgate]
  refine ⟨hlt, fun deviceId other record record' hlookup hlookup' hgate => ?_⟩
  rcases hregistered deviceId record hlookup with
      ⟨before, hbefore, hsame⟩ | ⟨hnew, hmore⟩
  · rcases hregistered other record' hlookup' with
        ⟨before', hbefore', hsame'⟩ | ⟨hnew', -⟩
    · exact h.gate_unique deviceId other before before' hbefore hbefore'
        (hsame.trans (hgate.trans hsame'.symm))
    · exact absurd (hsame.trans (hgate.trans hnew'))
        (h.gate_lt deviceId before hbefore).ne
  · exact Option.some.inj ((hfresh deviceId record hlookup hnew).trans
      (hfresh other record' hlookup' (hgate.symm.trans hnew)).symm)

/-! ## The facts are kept -/

theorem Task.fits_of_idle
    (htargets : phase.targets = []) (hnow : phase.now? = none)
    (hlocated : ∀ deviceId, phase = .located deviceId →
      request.device? = none) : Task.Fits sys ⟨request, phase⟩ := by
  refine ⟨by simp [htargets], by simp [htargets], by simp [hnow],
    by simp [htargets], hlocated, ?_⟩
  rintro deviceId gate rfl
  simp [targets] at htargets

theorem Task.Fits.of_subset (h : task.Fits sys)
    (htargets : phase.targets ⊆ task.phase.targets)
    (hnow : ∀ now, phase.now? = some now → now ≤ sys.clock)
    (hlocated : ∀ deviceId, phase ≠ .located deviceId)
    (hshared : ∀ deviceId gate, phase = .holding deviceId gate →
      task.request.exclusive = false) : Task.Fits sys ⟨task.request, phase⟩ :=
  ⟨fun target htarget => h.target_lt target (htargets htarget),
    fun target htarget => h.target_device target (htargets htarget), hnow,
    fun deviceId hdevice target htarget =>
      h.device deviceId hdevice target (htargets htarget),
    fun deviceId hphase => absurd hphase (hlocated deviceId), hshared⟩

theorem Sound.fits_of_current (h : Sound sys)
    (hcurrent : ∀ target' ∈ target :: rest, ∃ record,
      sys.state.devices.lookup target'.1 = some record ∧
        record.gate = target'.2)
    (hdevice : ∀ deviceId, request.device? = some deviceId →
      ∀ target' ∈ target :: rest, target'.1 = deviceId) :
    Task.Fits sys ⟨request, .waiting target rest taken⟩ := by
  refine ⟨fun target' htarget => ?_, fun target' htarget deviceId record'
    hlookup hgate => ?_, by simp [now?], hdevice, by simp, by simp⟩
  · obtain ⟨record, hrecord, hgate⟩ := hcurrent target' htarget
    rw [← hgate]
    exact h.gate_lt _ record hrecord
  · obtain ⟨record, hrecord, hsame⟩ := hcurrent target' htarget
    exact h.gate_unique _ _ record' record hlookup hrecord
      (hgate.trans hsame.symm)

theorem mem_leaseTargets {order : List LeaseId} :
    target ∈ state.leaseTargets order ↔ ∃ leaseId ∈ order,
      state.leaseDevices.lookup leaseId = some target.1 ∧
      ∃ record, state.devices.lookup target.1 = some record ∧
        record.gate = target.2 := by
  simp only [PoolState.leaseTargets, List.mem_filterMap,
    Option.bind_eq_some_iff, Option.map_eq_some_iff]
  constructor
  · rintro ⟨leaseId, hmem, deviceId, hdevice, record, hrecord, rfl⟩
    exact ⟨leaseId, hmem, hdevice, record, hrecord, rfl⟩
  · rintro ⟨leaseId, hmem, hdevice, record, hrecord, hgate⟩
    exact ⟨leaseId, hmem, target.1, hdevice, record, hrecord,
      Prod.ext rfl hgate⟩

theorem Sound.fits_quiet (h : Sound sys)
    (htask : sys.tasks.lookup tid = some task)
    (hquiet : Quiet sys task phase) : Task.Fits sys ⟨task.request, phase⟩ := by
  have hfits := h.fits tid task htask
  cases hquiet.turn with
  | failed | dropped => exact Task.fits_of_idle rfl rfl (by simp)
  | located deviceId _ hrequest =>
    refine Task.fits_of_idle rfl rfl fun _ _ => ?_
    rw [hrequest]
    rfl
  | @waits deviceId record hbefore hlookup =>
    refine h.fits_of_current ?_ ?_
    · intro target' htarget
      obtain rfl := List.mem_singleton.mp htarget
      exact ⟨record, hlookup, rfl⟩
    · intro other hother target' htarget
      obtain rfl := List.mem_singleton.mp htarget
      rcases hbefore with ⟨-, hdevice⟩ | hlocated
      · rw [hdevice] at hother
        exact Option.some.inj hother
      · cases (hfits.located deviceId hlocated).symm.trans hother
  | @lists order leases hswept _ =>
    cases htargets : sys.state.leaseTargets order with
    | nil => exact Task.fits_of_idle rfl rfl (by simp [resume])
    | cons target rest =>
      refine h.fits_of_current ?_ (by simp [(swept_cases hswept).1])
      intro target' htarget
      rw [← htargets, mem_leaseTargets] at htarget
      obtain ⟨-, -, -, hcurrent⟩ := htarget
      exact hcurrent
  | clocked =>
    refine ⟨by simp [targets], by simp [targets], ?_,
      by simp [targets], by simp, by simp⟩
    rintro now hnow
    cases hnow
    exact le_rfl
  | reads hphase =>
    refine hfits.of_subset ?_ ?_ (by simp) (by simp)
    · rw [hphase]
      exact List.Subset.refl _
    · rintro now hnow
      cases hnow
      exact le_rfl

/-- The phases a task can be in while it holds no gate and has not
panicked. -/
inductive Phase.Idle : Phase → Prop
  | located (deviceId : DeviceId) : Idle (.located deviceId)
  | clocked (now : ℕ) : Idle (.clocked now)
  | waiting (target : DeviceId × GateId) (rest : List (DeviceId × GateId))
      (taken : List DeviceLease) : Idle (.waiting target rest taken)
  | finished (reply : PoolReply) : Idle (.finished reply)
  | dropped : Idle .dropped

theorem Phase.Idle.gate (h : phase.Idle) : phase.gate? = none := by
  cases h <;> rfl

theorem Phase.Idle.ne_panicked (h : phase.Idle) : phase ≠ .panicked := by
  cases h <;> simp

theorem resume_idle (rest : List (DeviceId × GateId))
    (taken : List DeviceLease) : (resume rest taken).Idle := by
  unfold resume
  split
  next => exact .finished _
  next => exact .waiting _ _ _

theorem Quiet.cases (h : Quiet sys task phase) :
    phase.Idle ∨ ∃ target rest taken,
      task.phase = .locked target rest taken none ∧
        phase = .locked target rest taken (some sys.clock) := by
  cases h.turn with
  | failed => exact .inl (.finished _)
  | located => exact .inl (.located _)
  | waits => exact .inl (.waiting _ _ _)
  | lists => exact .inl (resume_idle _ _)
  | clocked => exact .inl (.clocked _)
  | reads hphase => exact .inr ⟨_, _, _, hphase, rfl⟩
  | dropped => exact .inl .dropped

theorem Quiet.gate (h : Quiet sys task phase) (gate : GateId)
    (hgate : phase.gate? = some gate) : task.phase.gate? = some gate := by
  rcases h.cases with hidle | ⟨target, rest, taken, hbefore, rfl⟩
  · cases hidle.gate.symm.trans hgate
  · rwa [hbefore]

section

variable (target rest taken request) (reply : PoolReply)

theorem answered_cases : (answered request target rest taken reply).Idle ∨
      (reply = .access ∧ answered request target rest taken reply =
        .holding target.1 target.2) := by
  unfold answered
  split
  next =>
    split
    next => exact .inl (resume_idle _ _)
    next => exact .inl (.finished _)
  next => exact .inr ⟨rfl, rfl⟩
  next => exact .inl (.finished _)

theorem answered_gate {gate : GateId}
    (h : (answered request target rest taken reply).gate? = some gate) :
    some target.2 = some gate := by
  rcases answered_cases target rest taken request reply with hidle | ⟨-, hholds⟩
  · cases hidle.gate.symm.trans h
  · rwa [hholds] at h

theorem answered_targets :
    (answered request target rest taken reply).targets ⊆ target :: rest ∧
      (answered request target rest taken reply).now? = none ∧
      ∀ deviceId,
        answered request target rest taken reply ≠ .located deviceId := by
  unfold answered
  split
  next =>
    split
    next => cases rest <;> simp [resume, targets, now?]
    next => simp [targets, now?]
  next => simp [targets, now?]
  next => simp [targets, now?]

end

theorem answered_eq_holding {gate : GateId} :
    answered request target rest taken reply = .holding deviceId gate ↔
      reply = .access ∧ target = (deviceId, gate) := by
  unfold answered resume
  split
  next =>
    split
    next => cases rest <;> simp
    next => simp
  next => simp [Prod.ext_iff]
  next _ haccess => exact iff_of_false (by simp) fun hboth => haccess hboth.1

/-- Other tasks at a gate share it. -/
def Shares (sys : System) (tid : TaskId) (task : Task) : Prop :=
  ∀ gate, task.phase.gate? = some gate → ∀ other task', other ≠ tid →
    sys.tasks.lookup other = some task' → task'.phase.gate? = some gate →
    task.request.exclusive = false ∧ task'.request.exclusive = false

theorem Shares.of_none (h : phase.gate? = none) :
    Shares sys tid ⟨request, phase⟩ := by
  intro gate hgate
  cases h.symm.trans hgate

theorem Sound.shares (h : Sound sys) (htask : sys.tasks.lookup tid = some task)
    (hgate : ∀ gate, phase.gate? = some gate → task.phase.gate? = some gate) :
    Shares sys tid ⟨task.request, phase⟩ := by
  intro gate hphase other task' hne htask' hgate'
  have hheld := hgate gate hphase
  exact ⟨h.exclusive tid other task task' gate htask htask' hne.symm hheld hgate',
    h.exclusive other tid task' task gate htask' htask hne hgate' hheld⟩

/-- The facts are kept when one task changes and the records keep their
gates, except for a new one. -/
theorem Sound.update (h : Sound sys)
    (hclock : sys.clock = sys'.clock) (hgates : sys.nextGate ≤ sys'.nextGate)
    (htasks : ∀ other, sys'.tasks.lookup other =
      if other = tid then some task else sys.tasks.lookup other)
    (hindexed : sys'.state.Indexed) (hregistered : Registered sys sys')
    (fresh : Option DeviceId) (hfresh : ∀ deviceId record,
      sys'.state.devices.lookup deviceId = some record →
      record.gate = sys.nextGate → some deviceId = fresh)
    (hfits : task.Fits sys) (hshares : Shares sys tid task) : Sound sys' := by
  obtain ⟨hlt, hunique⟩ := h.registered hgates hregistered hfresh
  refine ⟨hindexed, hlt, hunique, KeyedMap.forall_update htasks
    (hfits.mono hclock.le hgates hregistered) fun other task' _ htask' => ?_,
    fun first second task₁ task₂ gate hfirst hsecond hne hgate₁ hgate₂ => ?_⟩
  · exact (h.fits other task' htask').mono hclock.le hgates hregistered
  · rw [htasks] at hfirst hsecond
    split at hfirst
    next heq =>
      subst heq
      cases hfirst
      rw [if_neg hne.symm] at hsecond
      exact (hshares gate hgate₁ second task₂ hne.symm hsecond hgate₂).1
    next hne₁ =>
      split at hsecond
      next heq =>
        cases hsecond
        exact (hshares gate hgate₂ first task₁ hne₁ hfirst hgate₁).2
      next =>
        exact h.exclusive first second task₁ task₂ gate hfirst hsecond hne hgate₁
          hgate₂

theorem Registered.no_new (hregistered : Registered sys sys') (h : Sound sys)
    (hgates : sys'.nextGate = sys.nextGate)
    (hlookup : sys'.state.devices.lookup deviceId = some record) :
    record.gate ≠ sys.nextGate := by
  intro hgate
  rcases hregistered deviceId record hlookup with
    ⟨before, hbefore, hsame⟩ | ⟨-, hmore⟩
  · exact (h.gate_lt deviceId before hbefore).ne (hsame.trans hgate)
  · exact hmore.ne' hgates

/-- The facts are kept when one task changes and no device is registered. -/
theorem Sound.update_same (h : Sound sys)
    (hclock : sys.clock = sys'.clock) (hgates : sys'.nextGate = sys.nextGate)
    (htasks : ∀ other, sys'.tasks.lookup other =
      if other = tid then some task else sys.tasks.lookup other)
    (hindexed : sys'.state.Indexed) (hregistered : Registered sys sys')
    (hfits : task.Fits sys) (hshares : Shares sys tid task) : Sound sys' :=
  h.update hclock hgates.ge htasks hindexed hregistered none
    (fun _ _ hlookup hgate =>
      absurd hgate (hregistered.no_new h hgates hlookup)) hfits hshares

theorem not_blocked {gate : GateId} {exclusive : Bool}
    (h : sys.blocked gate exclusive = false)
    (htask : sys.tasks.lookup tid = some task)
    (hgate : task.phase.gate? = some gate) :
    exclusive = false ∧ task.request.exclusive = false := by
  have hall := List.any_eq_false.mp h task (KeyedMap.mem_values_of_lookup htask)
  simpa [hgate] using hall

theorem access_shared (h : (∃ leaseId deviceId ownerId nowMs requireFreshHealth,
        request = .accessWithLease leaseId deviceId ownerId nowMs
          requireFreshHealth) ∨
      ∃ deviceId ownerId nowMs,
        request = .accessAvailableTo deviceId ownerId nowMs) :
    request.exclusive = false := by
  rcases h with ⟨_, _, _, _, _, rfl⟩ | ⟨_, _, _, rfl⟩ <;> rfl

theorem refused_ne_access (request : PoolRequest) (error : DevicePoolError) :
    request.refused error ≠ .access := by
  unfold PoolRequest.refused
  split <;> simp

theorem Sound.work (h : Sound sys)
    (hrun : sys.state.atGate sys.config request target.1 target.2 now
      candidate = some (some (reply, state))) (hstate : sys'.state = state) :
    state.Indexed ∧ Registered sys sys' ∧
      (reply = .access → request.exclusive = false) := by
  rcases h.indexed.atGate_cases hrun with
    ⟨error, -, houtcome⟩ | ⟨record, after, hlookup, hgate, houtcome, hbecomes⟩
  · cases houtcome
    exact ⟨h.indexed, .of_same (by rw [hstate]),
      fun haccess => absurd haccess (refused_ne_access request error)⟩
  · cases houtcome
    refine ⟨PoolState.indexed_of_edits hbecomes.edits h.indexed, ?_,
      fun haccess => access_shared (PoolRecord.atGate_access haccess)⟩
    refine Registered.of_becomes hlookup ?_ (hstate ▸ hbecomes)
    intro record' hrecord'
    obtain ⟨lease, rfl⟩ := PoolRecord.atGate_eq_withLease hrecord'
    rfl

theorem Sound.move (h : Sound sys) (hmove : Move sys label sys') :
    Sound sys' := by
  cases hmove with
  | tick elapsed =>
    refine ⟨h.indexed, h.gate_lt, h.gate_unique, fun tid task htask => ?_,
      h.exclusive⟩
    exact (h.fits tid task htask).mono (Nat.le_add_right _ _) le_rfl
      (.of_same rfl)
  | @quiet _ tid task phase htask hquiet _ =>
    exact h.update_same rfl rfl (lookup_setTask _ · _) h.indexed
      (.of_same rfl) (h.fits_quiet htask hquiet) (h.shares htask hquiet.gate)
  | @lock tid task target rest taken htask hphase hfree =>
    refine h.update_same rfl rfl (lookup_setTask _ · _) h.indexed
      (.of_same rfl) ?_ ?_
    · refine (h.fits tid task htask).of_subset ?_ (by simp [now?])
        (by simp) (by simp)
      rw [hphase]
      exact List.Subset.refl _
    · intro gate hgate other task' hne htask' hgate'
      cases hgate
      exact not_blocked hfree htask' hgate'
  | @register tid deviceId candidate htask =>
    refine h.update rfl (Nat.le_succ _) (lookup_setTask _ · _) ?_ ?_
      (some deviceId) ?_ (Task.fits_of_idle rfl rfl (by simp)) (.of_none rfl)
    · rcases sys.state.register_cases deviceId sys.nextGate with
        ⟨error, herror⟩ | ⟨-, -, hbecomes⟩
      · simp only [herror]
        exact h.indexed
      · exact PoolState.indexed_of_edits hbecomes.edits h.indexed
    · intro other record hlookup
      rcases PoolState.lookup_register hlookup with hold | ⟨-, hgate⟩
      · exact .inl ⟨record, hold, rfl⟩
      · exact .inr ⟨hgate, Nat.lt_succ_self _⟩
    · intro other record hlookup hgate
      rcases PoolState.lookup_register hlookup with hold | ⟨rfl, -⟩
      · exact absurd hgate (h.gate_lt other record hold).ne
      · rfl
  | @health tid registration health nowMs now candidate htask =>
    rcases sys.state.recordHealth_cases registration health now nowMs with
      ⟨error, herror⟩ | ⟨record, hlookup, -, -, hbecomes⟩
    · have hsame : (sys.state.recordHealth registration health now nowMs).2 =
          sys.state := by
        rw [herror]
      exact h.update_same rfl rfl (lookup_setTask _ · _)
        (hsame.symm ▸ h.indexed)
        (.of_same (congrArg PoolState.devices hsame))
        (Task.fits_of_idle rfl rfl (by simp)) (.of_none rfl)
    · refine h.update_same rfl rfl (lookup_setTask _ · _)
        (PoolState.indexed_of_edits hbecomes.edits h.indexed)
        (.of_becomes hlookup ?_ hbecomes) (Task.fits_of_idle rfl rfl (by simp))
        (.of_none rfl)
      intro record' hrecord'
      cases hrecord'
      rfl
  | @entries tid nowMs now candidate htask =>
    exact h.update_same rfl rfl (lookup_setTask _ · _)
      ((PoolState.Edit.wallClock nowMs).indexed h.indexed) (.of_same rfl)
      (Task.fits_of_idle rfl rfl (by simp)) (.of_none rfl)
  | @work tid task target rest taken reading now candidate reply state htask
      hphase hnow hrun =>
      have hstate : System.state { sys.setPhase tid task
          (answered task.request target rest taken reply) with
          state := state } = state := rfl
      obtain ⟨hindexed, hregistered, haccess⟩ := h.work hrun hstate
      refine h.update_same rfl rfl (lookup_setTask _ · _) hindexed hregistered
        ?_ (h.shares htask ?_)
      · obtain ⟨htargets, hnow', hlocated⟩ :=
          answered_targets target rest taken task.request reply
        refine (h.fits tid task htask).of_subset ?_ (by simp [hnow']) hlocated ?_
        · rwa [hphase]
        · intro deviceId gate hholding
          exact haccess (answered_eq_holding.mp hholding).1
      · rw [hphase]
        exact fun _ => answered_gate target rest taken task.request reply
  | _ =>
    exact h.update_same rfl rfl (lookup_setTask _ · _) h.indexed
      (.of_same rfl) (Task.fits_of_idle rfl rfl (by simp)) (.of_none rfl)

theorem sound_new (config : DevicePoolConfig) : Sound (System.new config) := by
  refine ⟨PoolState.indexed_empty, ?_, ?_, ?_, ?_⟩ <;>
    simp [System.new, PoolState.empty]

/-- The facts hold in every run. -/
theorem Reached.sound (h : Reached sys) : Sound sys := by
  obtain ⟨config, hreachable⟩ := h
  exact hreachable.invariant (sound_new config)
    fun _ _ _ hsound hstep => hsound.move (move_of_step hstep)

end DeviceRail.PoolSystem
