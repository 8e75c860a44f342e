import DeviceRail.Registry.System

/-!
# Two inventories in step

The entries of the registry and the devices of the pool have the same ids, and
every entry has the token of the current registration.  The lock of the map
keeps it so: registrations change only inside a call that holds it alone.
-/

namespace DeviceRail

open Option

variable {deviceId : DeviceId}

namespace PoolState

/-- The gate of the current registration of a device. -/
def gateOf (state : PoolState) (deviceId : DeviceId) : Option GateId :=
  (state.devices.lookup deviceId).map PoolRecord.gate

variable {state : PoolState}

theorem gateOf_eq_some {gate : GateId} : state.gateOf deviceId = some gate ↔
      ∃ record, state.devices.lookup deviceId = some record ∧
        record.gate = gate :=
  map_eq_some_iff

theorem gateOf_eq_none :
    state.gateOf deviceId = none ↔ state.devices.lookup deviceId = none :=
  map_eq_none_iff

theorem gateOf_congr {after : PoolState}
    (h : after.devices.lookup deviceId = state.devices.lookup deviceId) :
    after.gateOf deviceId = state.gateOf deviceId :=
  congrArg _ h

end PoolState

/-- A removal fails while a lease lasts, and then leaves the record as it
is. -/
theorem PoolRecord.remove_cases (record : PoolRecord) (now : ℕ) :
    record.remove now = (.error (.deviceLeased record.deviceId), some record) ∨
      record.remove now = (.ok (), none) := by
  unfold remove
  split
  next hleased =>
    obtain ⟨lease, hlease⟩ := isSome_iff_exists.mp hleased
    obtain ⟨hbefore, hlive⟩ := expire_lease_eq_some.mp hlease
    rw [expire_of_live hbefore hlive]
    exact .inl rfl
  next => exact .inr rfl

/-- The call registers or removes a device. -/
def PoolRequest.registers : PoolRequest → Bool
  | .register _ | .remove _ _ => true
  | _ => false

variable {sys sys' : System}

namespace PoolSystem

/-! ## The steps of one call of the pool -/

section

variable {label : Label} {tid : TaskId} {task : Task}

theorem task?_of_works (h : RegistrySystem.works tid label = true) :
    label.task? = some tid := by
  cases label <;> simp_all [RegistrySystem.works, Label.task?]

/-- A call looks something up or reads the clock. -/
inductive Proceeds (sys : System) (task : Task) (phase : Phase) : Prop
  | lookup (h : lookupPhase sys.state task = some phase)
  | list {order : List LeaseId} (h : listPhase sys.state task order = some phase)
  | clock (h : clockPhase sys.config sys.clock task = some phase)

variable {phase : Phase} {candidate : LeaseId} {other : TaskId}

section

variable (hworks : RegistrySystem.works tid label = true)
  (hstep : Step sys label sys')
include hworks hstep

theorem own_step :
    ∃ task, sys.tasks.lookup tid = some task ∧
      ((∃ phase, Proceeds sys task phase ∧ sys' = sys.setPhase tid task phase) ∨
        (∃ target rest taken, task.phase = .waiting target rest taken ∧
          sys' = sys.setPhase tid task (.locked target rest taken none)) ∨
        ∃ candidate, label = .commit tid candidate) := by
  have htid := task?_of_works hworks
  cases label with
  | lookup other | list other order | clock other =>
    cases htid
    obtain ⟨task, htask, hmap⟩ := bind_eq_some_iff.mp hstep
    obtain ⟨phase, hphase, rfl⟩ := map_eq_some_iff.mp hmap
    refine ⟨task, htask, .inl ⟨phase, ?_, rfl⟩⟩
    first | exact .lookup hphase | exact .list hphase | exact .clock hphase
  | lock other =>
    cases htid
    obtain ⟨task, htask, hlock⟩ := bind_eq_some_iff.mp hstep
    repeat' split at hlock
    all_goals cases hlock
    next target rest taken hphase _ =>
      exact ⟨task, htask, .inr (.inl ⟨target, rest, taken, hphase, rfl⟩)⟩
  | commit other candidate =>
    cases htid
    obtain ⟨task, htask, -⟩ := bind_eq_some_iff.mp hstep
    exact ⟨task, htask, .inr (.inr ⟨candidate, rfl⟩)⟩
  | _ => cases hworks

theorem tasks_other (hne : other ≠ tid) :
    sys'.tasks.lookup other = sys.tasks.lookup other := by
  obtain ⟨task, htask, ⟨phase, -, rfl⟩ | ⟨target, rest, taken, -, rfl⟩ |
    ⟨candidate, rfl⟩⟩ := own_step hworks hstep
  · exact (lookup_setTask ..).trans (if_neg hne)
  · exact (lookup_setTask ..).trans (if_neg hne)
  · cases move_of_step hstep with
    | quiet _ _ hlabel => exact absurd rfl (hlabel tid candidate)
    | _ => exact (lookup_setTask ..).trans (if_neg hne)

end

theorem atGate_keeps_gate {config : DevicePoolConfig} {request : PoolRequest}
    (record : PoolRecord) {now wallNow : ℕ} (h : request.registers = false) :
    ((record.atGate config request now wallNow candidate).2).map
      PoolRecord.gate = some record.gate := by
  cases hafter : (record.atGate config request now wallNow candidate).2 with
  | none =>
    cases request with
    | register _ => cases h
    | remove _ _ => cases h
    | _ => cases hafter
  | some record' =>
    obtain ⟨lease, rfl⟩ := PoolRecord.atGate_eq_withLease hafter
    rfl

/-- Registrations change through the calls that register and remove. -/
theorem Sound.gates_kept (h : Sound sys) (hmove : Move sys label sys')
    (hother : ∀ tid candidate task, label = .commit tid candidate →
      sys.tasks.lookup tid = some task → task.request.registers = false)
    (deviceId : DeviceId) :
    sys'.state.gateOf deviceId = sys.state.gateOf deviceId := by
  cases hlookup : sys.state.devices.lookup deviceId with
  | none =>
    rw [PoolState.gateOf_eq_none.mpr hlookup, PoolState.gateOf_eq_none]
    cases hlookup' : sys'.state.devices.lookup deviceId with
    | none => rfl
    | some record' =>
      obtain ⟨-, tid, candidate, hlabel, htask⟩ :=
        h.touch_absent hmove hlookup hlookup'
      cases hother tid candidate _ hlabel htask
  | some record =>
    have hbefore : sys.state.gateOf deviceId = some record.gate :=
      congrArg _ hlookup
    rw [hbefore]
    cases h.touch hmove hlookup with
    | same hsame => exact congrArg _ hsame
    | health hlabel htask hafter => exact congrArg _ hafter
    | work hlabel htask hphase hnow hafter _ _ =>
      unfold PoolState.gateOf
      rw [hafter]
      exact atGate_keeps_gate record (hother _ _ _ hlabel htask)

theorem Quiet.current (h : Quiet sys task phase) :
    ∀ target ∈ phase.targets, target ∈ task.phase.targets ∨
      sys.state.gateOf target.1 = some target.2 := by
  intro target hmem
  cases h.turn with
  | waits _ hlookup =>
    obtain rfl := List.mem_singleton.mp hmem
    exact .inr (congrArg _ hlookup)
  | lists =>
    rw [resume_targets] at hmem
    obtain ⟨-, -, -, record, hlookup, hgate⟩ := mem_leaseTargets.mp hmem
    exact .inr (PoolState.gateOf_eq_some.mpr ⟨record, hlookup, hgate⟩)
  | reads hphase =>
    rw [hphase]
    exact .inl hmem
  | _ => cases hmem

theorem Sound.targets_current (h : Sound sys) (hmove : Move sys label sys')
    {task' : Task} (htask : sys.tasks.lookup tid = some task)
    (htask' : sys'.tasks.lookup tid = some task') :
    ∀ target ∈ task'.phase.targets, target ∈ task.phase.targets ∨
      sys.state.gateOf target.1 = some target.2 := by
  intro target hmem
  obtain ⟨after, hafter, hgoes⟩ := h.goes hmove htask
  cases htask'.symm.trans hafter
  rcases hgoes with rfl | hgoes
  · exact .inl hmem
  cases hgoes with
  | quiet hquiet => exact hquiet.current target hmem
  | lock hphase =>
    rw [hphase]
    exact .inl hmem
  | work _ hphase _ _ =>
    rw [hphase]
    exact .inl ((answered_targets _ _ _ _ _).1 hmem)
  | _ => cases hmem

theorem Reached.step (h : Reached sys) (hstep : Step sys label sys') :
    Reached sys' := by
  obtain ⟨config, hreachable⟩ := h
  exact ⟨config, hreachable.tail hstep⟩

theorem register_step (hworks : RegistrySystem.works tid label = true)
    (hstep : Step sys label sys')
    (htask : sys.tasks.lookup tid = some ⟨.register deviceId, .ready⟩)
    (hnamed : deviceId.text.toList.all isWhitespace = false)
    (habsent : sys.state.devices.lookup deviceId = none) :
    sys'.tasks.lookup tid = some ⟨.register deviceId,
        .finished (.registered ⟨deviceId, sys.nextGate⟩)⟩ ∧
      ∀ other, sys'.state.devices.lookup other =
        if other = deviceId then
          some ⟨deviceId, .unknown, none, none, sys.nextGate⟩
        else sys.state.devices.lookup other := by
  obtain ⟨task, hfound, hcases⟩ := own_step hworks hstep
  cases htask.symm.trans hfound
  rcases hcases with ⟨phase, hquiet, -⟩ | ⟨target, rest, taken, hphase, -⟩ |
    ⟨candidate, rfl⟩
  · cases hquiet with
    | lookup h => cases h
    | list h =>
      obtain ⟨leases, hswept, -⟩ := bind_eq_some_iff.mp h
      cases hswept
    | clock h => cases h
  · cases hphase
  · obtain ⟨found, hfound, hcommit⟩ := bind_eq_some_iff.mp hstep
    cases htask.symm.trans hfound
    have hregister : sys.state.register deviceId sys.nextGate =
        (.ok ⟨deviceId, sys.nextGate⟩,
          { sys.state with
            devices := sys.state.devices.insert deviceId
              ⟨deviceId, .unknown, none, none, sys.nextGate⟩ }) := by
      unfold PoolState.register
      rw [hnamed, habsent]
      rfl
    simp only [System.commit, hregister, Option.some.injEq] at hcommit
    subst hcommit
    exact ⟨(lookup_setTask ..).trans (if_pos rfl),
      fun other => KeyedMap.lookup_insert_ite _ _ _ _⟩

/-- A removal under a lock that keeps registrations fails only for a lease,
and then changes nothing. -/
theorem Sound.remove_step {nowMs : ℕ} (h : Sound sys)
    (hworks : RegistrySystem.works tid label = true)
    (hstep : Step sys label sys')
    (htask : sys.tasks.lookup tid = some ⟨.remove deviceId nowMs, phase⟩)
    (hpresent : sys.state.devices.lookup deviceId ≠ none)
    (hcurrent : ∀ target ∈ phase.targets,
      sys.state.gateOf target.1 = some target.2) :
    ∃ phase', sys'.tasks.lookup tid = some ⟨.remove deviceId nowMs, phase'⟩ ∧
      ((RegistrySystem.outcome? phase' = none ∧ phase' ≠ .panicked ∧
          ∀ other, sys'.state.devices.lookup other =
            sys.state.devices.lookup other) ∨
        (phase' = .finished .removed ∧
          ∀ other, sys'.state.devices.lookup other =
            if other = deviceId then none
            else sys.state.devices.lookup other) ∨
        (phase' = .finished (.error (.deviceLeased deviceId)) ∧
          ∀ other, sys'.state.devices.lookup other =
            sys.state.devices.lookup other)) := by
  obtain ⟨task, hfound, hcases⟩ := own_step hworks hstep
  cases htask.symm.trans hfound
  rcases hcases with ⟨after, hproceeds, rfl⟩ |
    ⟨target, rest, taken, hphase, rfl⟩ | ⟨candidate, rfl⟩
  · refine ⟨after, (lookup_setTask ..).trans (if_pos rfl), .inl ?_⟩
    suffices hpending : RegistrySystem.outcome? after = none ∧
        after ≠ .panicked from ⟨hpending.1, hpending.2, fun _ => rfl⟩
    have hgate : RegistrySystem.outcome? (lookupGate sys.state deviceId) = none ∧
        lookupGate sys.state deviceId ≠ .panicked := by
      unfold lookupGate
      split
      next habsent => exact absurd habsent hpresent
      next => exact ⟨rfl, by simp⟩
    cases hproceeds with
    | lookup hlookup =>
      cases phase with
      | ready =>
        cases hlookup
        exact hgate
      | located other => cases (h.fits tid _ htask).located other rfl
      | _ => cases hlookup
    | list hlist =>
      obtain ⟨leases, hswept, -⟩ := bind_eq_some_iff.mp hlist
      cases hswept
    | clock hclock =>
      unfold clockPhase at hclock
      split at hclock
      next => cases hclock
      next =>
        cases hclock
        exact ⟨rfl, by simp⟩
      next => cases hclock
  · exact ⟨_, (lookup_setTask ..).trans (if_pos rfl),
      .inl ⟨rfl, by simp, fun _ => rfl⟩⟩
  · have hmove := move_of_step hstep
    obtain ⟨gate, rest, taken, reading, hphase⟩ :=
      h.commit_device hmove htask rfl
    obtain ⟨now, reply, -, htasks, hwork⟩ := h.commit_locked hmove htask hphase
    cases hphase
    have hafter : sys'.tasks.lookup tid = some ⟨.remove deviceId nowMs,
        answered (.remove deviceId nowMs) (deviceId, gate) rest taken reply⟩ :=
      (htasks tid).trans (if_pos rfl)
    have hgate := hcurrent (deviceId, gate) (List.mem_cons_self ..)
    rcases hwork with ⟨error, hstale, -⟩ | ⟨record, hlookup, -, hreply, hbecomes⟩
    · have hok := PoolState.ensureCurrentGate_eq_ok.mpr
        (PoolState.gateOf_eq_some.mp hgate)
      cases hok.symm.trans hstale
    · have hkeyed := h.indexed.keyed deviceId record hlookup
      refine ⟨_, hafter, .inr ?_⟩
      rw [PoolRecord.atGate_remove] at hreply hbecomes
      rcases record.remove_cases now with hleased | hfree
      · rw [hleased] at hreply hbecomes
        rw [hreply, hkeyed]
        refine .inr ⟨rfl, fun other => (hbecomes.lookup other).trans ?_⟩
        split
        next heq => rw [heq, hlookup]
        next => rfl
      · rw [hfree] at hreply hbecomes
        rw [hreply]
        exact .inl ⟨rfl, hbecomes.lookup⟩

end

end PoolSystem

namespace RegistrySystem

variable {label : Label}

/-! ## The moves of the registry -/

/-- What a step of the registry can do. -/
inductive Move (sys : System) : Label → System → Prop
  | tick {elapsed pool}
      (hpool : PoolSystem.Step sys.pool (.tick elapsed) pool) :
      Move sys (.tick elapsed) { sys with pool := pool }
  | call {tid} (request : RegistryRequest)
      (hnew : sys.tasks.lookup tid = none) :
      Move sys (.call tid request)
        { sys with tasks := sys.tasks.insert tid ⟨request, .ready⟩ }
  | invalid {tid task error} (htask : sys.tasks.lookup tid = some task)
      (hready : task.phase = .ready)
      (herror : task.request.validate = .error error) :
      Move sys (.enter tid) (sys.setPhase tid task (.finished (.error error)))
  | answer {tid task reply} (htask : sys.tasks.lookup tid = some task)
      (hready : task.phase = .ready)
      (hbegin : sys.begin task.request = some (.inl reply)) :
      Move sys (.enter tid) (sys.setPhase tid task (.finished reply))
  | enter {tid task request pool} (htask : sys.tasks.lookup tid = some task)
      (hready : task.phase = .ready) (hvalid : task.request.validate = .ok ())
      (hfree : sys.blocked task.request.writes = false)
      (hbegin : sys.begin task.request = some (.inr request))
      (hpool : PoolSystem.Step sys.pool (.call tid request) pool) :
      Move sys (.enter tid) { sys.setPhase tid task .inside with pool := pool }
  | work {tid task label pool poolTask}
      (htask : sys.tasks.lookup tid = some task)
      (hinside : task.phase = .inside) (hworks : works tid label = true)
      (hpool : PoolSystem.Step sys.pool label pool)
      (hpoolTask : pool.tasks.lookup tid = some poolTask) :
      Move sys (.work tid label)
        (System.settle { sys with pool := pool } tid task poolTask.phase)
  | giveUp {tid task} (htask : sys.tasks.lookup tid = some task)
      (hready : task.phase = .ready) :
      Move sys (.drop tid) (sys.setPhase tid task .dropped)
  | drop {tid task pool} (htask : sys.tasks.lookup tid = some task)
      (hphase : task.phase ≠ .ready)
      (hpool : PoolSystem.Step sys.pool (.drop tid) pool) :
      Move sys (.drop tid) { sys.setPhase tid task .dropped with pool := pool }

theorem move_of_step (h : Step sys label sys') : Move sys label sys' := by
  unfold Step at h
  cases label with
  | tick elapsed =>
    cases h
    exact .tick rfl
  | call tid request =>
    simp only [System.step] at h
    split at h
    next hnew =>
      cases h
      exact .call request hnew
    next => cases h
  | enter tid =>
    obtain ⟨task, htask, henter⟩ := bind_eq_some_iff.mp h
    unfold System.enter at henter
    split at henter
    next error hready herror =>
      cases henter
      exact .invalid htask hready herror
    next hready hvalid =>
      obtain ⟨hfree, henter⟩ := ite_none_left_eq_some.mp henter
      obtain ⟨outcome, hbegin, houtcome⟩ := bind_eq_some_iff.mp henter
      cases outcome with
      | inl reply =>
        cases houtcome
        exact .answer htask hready hbegin
      | inr request =>
        obtain ⟨pool, hpool, rfl⟩ := map_eq_some_iff.mp houtcome
        exact .enter htask hready hvalid (by simpa using hfree) hbegin hpool
    next => cases henter
  | work tid label =>
    obtain ⟨task, htask, hwork⟩ := bind_eq_some_iff.mp h
    obtain ⟨⟨hinside, hworks⟩, hsteps⟩ := ite_none_right_eq_some.mp hwork
    obtain ⟨pool, hpool, hmap⟩ := bind_eq_some_iff.mp hsteps
    obtain ⟨poolTask, hpoolTask, rfl⟩ := map_eq_some_iff.mp hmap
    exact .work htask hinside hworks hpool hpoolTask
  | drop tid =>
    obtain ⟨task, htask, hdrop⟩ := bind_eq_some_iff.mp h
    unfold System.drop at hdrop
    split at hdrop
    next hready =>
      cases hdrop
      exact .giveUp htask hready
    iterate 2
      next hphase =>
        obtain ⟨pool, hpool, rfl⟩ := map_eq_some_iff.mp hdrop
        exact .drop htask (by simp [hphase]) hpool
    next => cases hdrop

/-! ## What holds in every run -/

/-- The gate of the registration whose token the entry of a device has. -/
def System.gateOf (sys : System) (deviceId : DeviceId) : Option GateId :=
  (sys.entries.lookup deviceId).bind (fun handle =>
    (sys.heap.lookup handle).map (fun entry => entry.registration.gate))

/-- A call that is inside: what it found under the lock still holds, and so do
the registrations its call of the pool has taken up. -/
structure Inside (sys : System) (request : RegistryRequest)
    (task : PoolSystem.Task) : Prop where
  begun : sys.begin request = some (.inr task.request)
  valid : request.validate = .ok ()
  unstarted : ∀ deviceId, task.request = .register deviceId →
    task.phase = .ready
  current : ∀ target ∈ task.phase.targets,
    sys.pool.state.gateOf target.1 = some target.2

/-- The facts that hold in every state of a run. -/
structure Sound (sys : System) : Prop where
  pool : PoolSystem.Reached sys.pool
  synced : ∀ deviceId, sys.pool.state.gateOf deviceId = sys.gateOf deviceId
  placed : ∀ deviceId handle, sys.entries.lookup deviceId = some handle →
    ∃ gate, sys.heap.lookup handle = some ⟨deviceId, ⟨deviceId, gate⟩⟩
  heap_lt : ∀ handle entry, sys.heap.lookup handle = some entry →
    handle < sys.nextEntry
  inside : ∀ tid task, sys.tasks.lookup tid = some task →
    task.phase = .inside → ∃ poolTask,
      sys.pool.tasks.lookup tid = some poolTask ∧
        Inside sys task.request poolTask
  exclusive : ∀ tid other task task', sys.tasks.lookup tid = some task →
    sys.tasks.lookup other = some task' → tid ≠ other →
    task.phase = .inside → task'.phase = .inside → task.request.writes = false
  consistent : ∀ tid task deviceId, sys.tasks.lookup tid = some task →
    task.phase ≠ .finished (.error (.inventoryInconsistent deviceId))

theorem begin_congr (hentries : sys'.entries = sys.entries)
    (hheap : sys'.heap = sys.heap) (request : RegistryRequest) :
    sys'.begin request = sys.begin request := by
  cases request <;>
    simp only [System.begin, System.withCurrent, System.ensureCurrentEntry,
      hentries, hheap]

theorem gateOf_congr (hentries : sys'.entries = sys.entries)
    (hheap : sys'.heap = sys.heap) (deviceId : DeviceId) :
    sys'.gateOf deviceId = sys.gateOf deviceId := by
  simp only [System.gateOf, hentries, hheap]

@[simp] theorem lookup_setPhase (tid other : TaskId) (task : Task)
    (phase : Phase) :
    (sys.setPhase tid task phase).tasks.lookup other =
      if other = tid then some { task with phase := phase }
      else sys.tasks.lookup other :=
  KeyedMap.lookup_insert_ite _ _ _ _

variable {request : RegistryRequest} {tid : TaskId} {task : Task}
  {pool pool' : PoolSystem.System}

/-- A call that is inside stays so while the map and the registrations stay
the same. -/
theorem Inside.mono {task : PoolSystem.Task} (h : Inside sys request task)
    (hentries : sys'.entries = sys.entries) (hheap : sys'.heap = sys.heap)
    (hgates : ∀ deviceId, sys'.pool.state.gateOf deviceId =
      sys.pool.state.gateOf deviceId) : Inside sys' request task := by
  refine ⟨(begin_congr hentries hheap request).trans h.begun, h.valid,
    h.unstarted, fun target hmem => ?_⟩
  rw [hgates]
  exact h.current target hmem

theorem Sound.consistent_update (h : Sound sys)
    (htasks : ∀ other, sys'.tasks.lookup other =
      if other = tid then some task else sys.tasks.lookup other)
    (hphase : ∀ deviceId,
      task.phase ≠ .finished (.error (.inventoryInconsistent deviceId))) :
    ∀ other task' deviceId, sys'.tasks.lookup other = some task' →
      task'.phase ≠ .finished (.error (.inventoryInconsistent deviceId)) := by
  intro other task' deviceId
  exact KeyedMap.forall_update htasks (hphase deviceId)
    (fun other task' _ => h.consistent other task' deviceId) other task'

theorem Sound.keep (h : Sound sys) (tid : TaskId) (task : Task)
    (hentries : sys'.entries = sys.entries) (hheap : sys'.heap = sys.heap)
    (hnext : sys'.nextEntry = sys.nextEntry)
    (hpool : PoolSystem.Reached sys'.pool)
    (hgates : ∀ deviceId, sys'.pool.state.gateOf deviceId =
      sys.pool.state.gateOf deviceId) (hothers : ∀ other, other ≠ tid →
      sys'.pool.tasks.lookup other = sys.pool.tasks.lookup other)
    (htasks : ∀ other, sys'.tasks.lookup other =
      if other = tid then some task else sys.tasks.lookup other)
    (hinside : task.phase = .inside → ∃ poolTask,
      sys'.pool.tasks.lookup tid = some poolTask ∧
        Inside sys' task.request poolTask)
    (hexclusive : task.phase = .inside → ∀ other task', other ≠ tid →
      sys.tasks.lookup other = some task' → task'.phase = .inside →
      task.request.writes = false ∧ task'.request.writes = false)
    (hconsistent : ∀ deviceId,
      task.phase ≠ .finished (.error (.inventoryInconsistent deviceId))) :
    Sound sys' := by
  refine ⟨hpool, fun deviceId => ?_, ?_, ?_, ?_, ?_,
    h.consistent_update htasks hconsistent⟩
  · rw [hgates, h.synced, gateOf_congr hentries hheap]
  · rw [hentries, hheap]
    exact h.placed
  · rw [hheap, hnext]
    exact h.heap_lt
  · refine KeyedMap.forall_update htasks hinside ?_
    intro other task' hne htask' hphase
    obtain ⟨poolTask, hpoolTask, hin⟩ := h.inside other task' htask' hphase
    exact ⟨poolTask, (hothers other hne).trans hpoolTask,
      hin.mono hentries hheap hgates⟩
  · intro one other task₁ task₂ htask₁ htask₂ hne hphase₁ hphase₂
    rw [htasks] at htask₁ htask₂
    split at htask₁
    next heq₁ =>
      cases htask₁
      rw [if_neg (by rw [← heq₁]; exact hne.symm)] at htask₂
      exact (hexclusive hphase₁ other task₂ (by rw [← heq₁]; exact hne.symm)
        htask₂ hphase₂).1
    next hne₁ =>
      split at htask₂
      next heq₂ =>
        cases htask₂
        exact (hexclusive hphase₂ one task₁ hne₁ htask₁ hphase₁).2
      next =>
        exact h.exclusive one other task₁ task₂ htask₁ htask₂ hne hphase₁ hphase₂

theorem Sound.leave (h : Sound sys) {phase : Phase}
    (hreached : PoolSystem.Reached pool)
    (hgates : ∀ deviceId, pool.state.gateOf deviceId =
      sys.pool.state.gateOf deviceId) (hothers : ∀ other, other ≠ tid →
      pool.tasks.lookup other = sys.pool.tasks.lookup other)
    (houtside : phase ≠ .inside) (hconsistent : ∀ deviceId,
      phase ≠ .finished (.error (.inventoryInconsistent deviceId))) :
    Sound { sys.setPhase tid task phase with pool := pool } :=
  h.keep tid ⟨task.request, phase⟩ rfl rfl rfl hreached hgates hothers
    (fun _ => lookup_setPhase ..) (fun hinside => absurd hinside houtside)
    (fun hinside => absurd hinside houtside) hconsistent

theorem Sound.alone (h : Sound sys) {other : TaskId} {task' : Task}
    (htask : sys.tasks.lookup tid = some task) (hinside : task.phase = .inside)
    (hwrites : task.request.writes = true)
    (htask' : sys.tasks.lookup other = some task')
    (hinside' : task'.phase = .inside) : other = tid := by
  by_contra hne
  have hreads := h.exclusive tid other task task' htask htask' (Ne.symm hne)
    hinside hinside'
  cases hwrites.symm.trans hreads

theorem begin_registers {call : PoolRequest}
    (h : sys.begin request = some (.inr call))
    (hreads : request.writes = false) : call.registers = false := by
  have hcurrent : ∀ handle (make : Entry → PoolRequest),
      (∀ entry, (make entry).registers = false) →
      sys.withCurrent handle make = some (.inr call) →
      call.registers = false := by
    intro handle make hmake hwith
    obtain ⟨entry, -, hentry⟩ := map_eq_some_iff.mp hwith
    split at hentry
    next =>
      cases hentry
      exact hmake entry
    next => cases hentry
  cases request with
  | register _ _ => cases hreads
  | unregister _ _ => cases hreads
  | resolve _ | sole =>
    simp only [System.begin] at h
    split at h <;> cases h
  | handles => cases h
  | releaseLease _ _ _ | releaseOwnerLeases _ _ | releaseAllLeases _
  | poolEntries _ =>
    cases h
    rfl
  | _ => exact hcurrent _ _ (fun _ => rfl) h

theorem begin_register
    (h : sys.begin request = some (.inr (.register deviceId))) :
    ∃ info, request = .register deviceId info := by
  cases hwrites : request.writes with
  | false => cases begin_registers h hwrites
  | true =>
    cases request with
    | register driverId info =>
      simp only [System.begin] at h
      split at h
      next =>
        cases h
        exact ⟨info, rfl⟩
      next => cases h
    | unregister _ _ =>
      simp only [System.begin] at h
      split at h <;> cases h
    | _ => cases hwrites

theorem complete_reads (sys : System)
    (reply : PoolReply) (hreads : request.writes = false) :
    ∃ answer, sys.complete request reply = (answer, sys) ∧
      ∀ error, answer ≠ .error error := by
  unfold System.complete
  split <;> first | (cases hreads; done) | exact ⟨_, rfl, by simp⟩

/-- A call with the lock in shared mode goes on, or leaves with no error. -/
theorem settle_reads (sys : System) (tid : TaskId) (phase : PoolSystem.Phase)
    (hreads : task.request.writes = false) :
    sys.settle tid task phase = sys ∨ ∃ after,
      sys.settle tid task phase = sys.setPhase tid task after ∧
        after ≠ .inside ∧ ∀ error, after ≠ .finished (.error error) := by
  unfold System.settle
  split
  next => exact .inr ⟨.dropped, rfl, by simp, by simp⟩
  next =>
    split
    next => exact .inl rfl
    next reply _ =>
      obtain ⟨answer, hcomplete, hanswer⟩ := complete_reads sys reply hreads
      rw [hcomplete]
      refine .inr ⟨.finished answer, rfl, by simp, fun error heq => ?_⟩
      exact hanswer error (Phase.finished.inj heq)

theorem Sound.emptied (hpool : PoolSystem.Reached sys.pool)
    (hsynced : ∀ deviceId, sys.pool.state.gateOf deviceId = sys.gateOf deviceId)
    (hplaced : ∀ deviceId handle, sys.entries.lookup deviceId = some handle →
      ∃ gate, sys.heap.lookup handle = some ⟨deviceId, ⟨deviceId, gate⟩⟩)
    (hheap : ∀ handle entry, sys.heap.lookup handle = some entry →
      handle < sys.nextEntry)
    (houtside : ∀ tid task, sys.tasks.lookup tid = some task →
      task.phase ≠ .inside)
    (hconsistent : ∀ tid task deviceId, sys.tasks.lookup tid = some task →
      task.phase ≠ .finished (.error (.inventoryInconsistent deviceId))) :
    Sound sys :=
  ⟨hpool, hsynced, hplaced, hheap,
    fun tid task htask hinside => absurd hinside (houtside tid task htask),
    fun tid _ task _ htask _ _ hinside =>
      absurd hinside (houtside tid task htask), hconsistent⟩

section

variable {tid : TaskId} {task : Task}

/-- When a call that holds the lock alone answers, nobody is inside. -/
theorem Sound.outside_of_writer (h : Sound sys)
    (htask : sys.tasks.lookup tid = some task) (hinside : task.phase = .inside)
    (hwrites : task.request.writes = true) (reply : RegistryReply)
    (htasks : ∀ other, sys'.tasks.lookup other =
      if other = tid then some ⟨task.request, .finished reply⟩
      else sys.tasks.lookup other) :
    ∀ other task', sys'.tasks.lookup other = some task' →
      task'.phase ≠ .inside :=
  KeyedMap.forall_update htasks (by simp) fun _ _ hne htask' hinside' =>
    hne (h.alone htask hinside hwrites htask' hinside')

variable {driverId : DeviceId} {info : DeviceInfo}

theorem validateRegistration_named
    (h : validateRegistration driverId info = .ok ()) :
    driverId.text.toList.all isWhitespace = false := by
  unfold validateRegistration at h
  split at h
  next => cases h
  next hnamed => simpa using hnamed

variable {label : PoolSystem.Label} {poolTask : PoolSystem.Task}

theorem Sound.read_gates (h : Sound sys)
    (htask : sys.tasks.lookup tid = some task) (hinside : task.phase = .inside)
    (hreads : task.request.writes = false) (hworks : works tid label = true)
    (hpool : PoolSystem.Step sys.pool label pool) (deviceId : DeviceId) :
    pool.state.gateOf deviceId = sys.pool.state.gateOf deviceId := by
  obtain ⟨before, hbefore, hin⟩ := h.inside tid task htask hinside
  refine h.pool.sound.gates_kept (PoolSystem.move_of_step hpool) ?_ deviceId
  rintro other candidate found rfl hfound
  obtain rfl : other = tid := by simpa [works] using hworks
  cases hbefore.symm.trans hfound
  exact begin_registers hin.begun hreads

variable (h : Sound sys) (htask : sys.tasks.lookup tid = some task)
  (hinside : task.phase = .inside) (hworks : works tid label = true)
  (hpool : PoolSystem.Step sys.pool label pool)
  (hpoolTask : pool.tasks.lookup tid = some poolTask) {nowMs : ℕ}

include h htask hinside hworks hpool hpoolTask

theorem Sound.register_work
    (hrequest : task.request = .register driverId info) :
    ∃ registration, sys.entries.lookup driverId = none ∧
      registration = ⟨driverId, sys.pool.nextGate⟩ ∧
      System.settle { sys with pool := pool } tid task poolTask.phase =
        System.setPhase
          { sys with
            pool := pool
            entries := sys.entries.insert driverId sys.nextEntry
            heap := sys.heap.insert sys.nextEntry ⟨driverId, registration⟩
            nextEntry := sys.nextEntry + 1 } tid task
          (.finished (.handle sys.nextEntry)) ∧
      ∀ other, pool.state.devices.lookup other =
        if other = driverId then
          some ⟨driverId, .unknown, none, none, sys.pool.nextGate⟩
        else sys.pool.state.devices.lookup other := by
  obtain ⟨⟨call, phase⟩, hbefore, hin⟩ := h.inside tid task htask hinside
  have hbegun := hin.begun
  have hvalid := hin.valid
  rw [hrequest] at hbegun hvalid
  simp only [System.begin] at hbegun
  split at hbegun
  next habsent =>
    cases hbegun
    obtain rfl := hin.unstarted driverId rfl
    have hgate : sys.pool.state.gateOf driverId = none := by
      rw [h.synced, System.gateOf, habsent]
      rfl
    obtain ⟨hafter, hlookup⟩ := PoolSystem.register_step hworks hpool hbefore
      (validateRegistration_named hvalid) (PoolState.gateOf_eq_none.mp hgate)
    cases hpoolTask.symm.trans hafter
    refine ⟨_, habsent, rfl, ?_, hlookup⟩
    obtain ⟨request, phase⟩ := task
    cases hrequest
    rfl
  next => cases hbegun

theorem Sound.registered (hrequest : task.request = .register driverId info) :
    Sound (System.settle { sys with pool := pool } tid task poolTask.phase) := by
  obtain ⟨registration, habsent, rfl, hsettle, hlookup⟩ :=
    h.register_work htask hinside hworks hpool hpoolTask hrequest
  rw [hsettle]
  have hheap : ∀ handle, handle ≠ sys.nextEntry →
      (sys.heap.insert sys.nextEntry
        ⟨driverId, ⟨driverId, sys.pool.nextGate⟩⟩).lookup handle =
        sys.heap.lookup handle :=
    fun handle hne => AList.lookup_insert_ne hne
  have hold : ∀ deviceId handle, sys.entries.lookup deviceId = some handle →
      handle ≠ sys.nextEntry := by
    intro deviceId handle hentry heq
    obtain ⟨gate, hplace⟩ := h.placed deviceId handle hentry
    have hlt := h.heap_lt handle _ hplace
    rw [heq] at hlt
    exact Nat.lt_irrefl _ hlt
  refine .emptied (h.pool.step hpool) ?_ ?_ ?_ ?_ ?_
  · intro deviceId
    have hpoolGate : pool.state.gateOf deviceId = if deviceId = driverId then
        some sys.pool.nextGate else sys.pool.state.gateOf deviceId := by
      unfold PoolState.gateOf
      rw [hlookup]
      split <;> rfl
    have hentry : (sys.entries.insert driverId sys.nextEntry).lookup deviceId =
        if deviceId = driverId then some sys.nextEntry
        else sys.entries.lookup deviceId := KeyedMap.lookup_insert_ite _ _ _ _
    refine hpoolGate.trans ?_
    rw [h.synced]
    simp only [System.gateOf, System.setPhase, hentry]
    split
    next => simp [AList.lookup_insert]
    next =>
      cases hfound : sys.entries.lookup deviceId with
      | none => rfl
      | some handle =>
        simp only [bind_some, hheap handle (hold deviceId handle hfound)]
  · intro deviceId handle hentry
    have hinsert := (KeyedMap.lookup_insert_ite sys.entries driverId deviceId
      sys.nextEntry).symm.trans hentry
    split at hinsert
    next heq =>
      cases hinsert
      subst heq
      exact ⟨sys.pool.nextGate, AList.lookup_insert _⟩
    next =>
      obtain ⟨gate, hplace⟩ := h.placed deviceId handle hinsert
      exact ⟨gate, (hheap handle (hold deviceId handle hinsert)).trans hplace⟩
  · intro handle entry hentry
    by_cases heq : handle = sys.nextEntry
    · rw [heq]
      exact Nat.lt_succ_self _
    · exact Nat.lt_succ_of_lt
        (h.heap_lt handle entry ((hheap handle heq).symm.trans hentry))
  · exact h.outside_of_writer htask hinside (by rw [hrequest]; rfl) _
      fun other => lookup_setPhase ..
  · exact h.consistent_update (fun other => lookup_setPhase ..) (by simp)

/-- The step of an unregistration: it goes on, succeeds, or fails for a
lease. -/
theorem Sound.unregister_work
    (hrequest : task.request = .unregister deviceId nowMs) :
    (System.settle { sys with pool := pool } tid task poolTask.phase =
        { sys with pool := pool } ∧
      ∀ other, pool.state.devices.lookup other =
        sys.pool.state.devices.lookup other) ∨
    (System.settle { sys with pool := pool } tid task poolTask.phase =
        System.setPhase
          { sys with
            pool := pool
            entries := sys.entries.erase deviceId } tid task
          (.finished .unregistered) ∧
      ∀ other, pool.state.devices.lookup other =
        if other = deviceId then none
        else sys.pool.state.devices.lookup other) ∨
    (System.settle { sys with pool := pool } tid task poolTask.phase =
        System.setPhase { sys with pool := pool } tid task
          (.finished (.error (.deviceLeased deviceId))) ∧
      ∀ other, pool.state.devices.lookup other =
        sys.pool.state.devices.lookup other) := by
  obtain ⟨⟨call, phase⟩, hbefore, hin⟩ := h.inside tid task htask hinside
  have hbegun := hin.begun
  rw [hrequest] at hbegun
  simp only [System.begin] at hbegun
  split at hbegun
  next => cases hbegun
  next handle hentry =>
    cases hbegun
    have hpresent : sys.pool.state.devices.lookup deviceId ≠ none := by
      intro habsent
      have hgate := h.synced deviceId
      obtain ⟨gate, hplace⟩ := h.placed deviceId handle hentry
      rw [PoolState.gateOf_eq_none.mpr habsent, System.gateOf, hentry] at hgate
      simp [hplace] at hgate
    obtain ⟨phase', hafter, hcases⟩ := h.pool.sound.remove_step hworks hpool
      hbefore hpresent hin.current
    cases hpoolTask.symm.trans hafter
    obtain ⟨request, phase₀⟩ := task
    cases hrequest
    rcases hcases with ⟨hpending, hcalm, hsame⟩ | ⟨rfl, hremoved⟩ | ⟨rfl, hsame⟩
    · refine .inl ⟨?_, hsame⟩
      unfold System.settle
      split
      next heq => exact absurd heq hcalm
      next => simp only [hpending]
    · exact .inr (.inl ⟨rfl, hremoved⟩)
    · exact .inr (.inr ⟨rfl, hsame⟩)

theorem Sound.stays_inside
    (hother : ∀ driverId info, task.request ≠ .register driverId info)
    (hgates : ∀ deviceId, pool.state.gateOf deviceId =
      sys.pool.state.gateOf deviceId) : Sound { sys with pool := pool } := by
  obtain ⟨before, hbefore, hin⟩ := h.inside tid task htask hinside
  obtain ⟨after, hafter, hprogress⟩ :=
    h.pool.sound.progress (PoolSystem.move_of_step hpool) hbefore
  rw [hpoolTask] at hafter
  cases hafter
  refine h.keep tid task rfl rfl rfl (h.pool.step hpool)
    hgates (fun _ => PoolSystem.tasks_other hworks hpool) (fun other => ?_)
    (fun _ => ⟨poolTask, hpoolTask, ?_⟩) ?_ (by simp [hinside])
  · split
    next heq => rw [heq, htask]
    next => rfl
  · have hbegun : sys.begin task.request = some (.inr poolTask.request) := by
      rw [hprogress.request]
      exact hin.begun
    refine ⟨hbegun, hin.valid, fun deviceId heq => ?_, fun target hmem => ?_⟩
    · rw [heq] at hbegun
      obtain ⟨info, hrequest⟩ := begin_register hbegun
      exact absurd hrequest (hother deviceId info)
    · have hcases := h.pool.sound.targets_current
        (PoolSystem.move_of_step hpool) hbefore hpoolTask target hmem
      exact (hgates _).trans (hcases.elim (hin.current target) id)
  · intro _ other task' hne htask' hinside'
    exact ⟨h.exclusive tid other task task' htask htask' hne.symm hinside hinside',
      h.exclusive other tid task' task htask' htask hne hinside' hinside⟩

theorem Sound.unregistered
    (hrequest : task.request = .unregister deviceId nowMs) :
    Sound (System.settle { sys with pool := pool } tid task poolTask.phase) := by
  rcases h.unregister_work htask hinside hworks hpool hpoolTask hrequest with
    ⟨hsettle, hsame⟩ | ⟨hsettle, hremoved⟩ | ⟨hsettle, hsame⟩
  · rw [hsettle]
    exact h.stays_inside htask hinside hworks hpool hpoolTask
      (by simp [hrequest]) fun other => PoolState.gateOf_congr (hsame other)
  · rw [hsettle]
    refine .emptied (h.pool.step hpool) ?_ ?_ h.heap_lt ?_ ?_
    · intro other
      have herase : (sys.entries.erase deviceId).lookup other =
          if other = deviceId then none else sys.entries.lookup other :=
        KeyedMap.lookup_erase_ite _ _ _
      have hpoolGate : pool.state.gateOf other = if other = deviceId then none
          else sys.pool.state.gateOf other := by
        unfold PoolState.gateOf
        rw [hremoved]
        split <;> rfl
      refine hpoolGate.trans ?_
      rw [h.synced]
      simp only [System.gateOf, System.setPhase, herase]
      split <;> rfl
    · intro other handle hentry
      have herase := (KeyedMap.lookup_erase_ite sys.entries deviceId other).symm.trans
        hentry
      split at herase
      next => cases herase
      next => exact h.placed other handle herase
    · exact h.outside_of_writer htask hinside (by rw [hrequest]; rfl) _
        fun other => lookup_setPhase ..
    · exact h.consistent_update (fun other => lookup_setPhase ..) (by simp)
  · rw [hsettle]
    exact h.leave (h.pool.step hpool)
      (fun other => PoolState.gateOf_congr (hsame other))
      (fun _ => PoolSystem.tasks_other hworks hpool) (by simp) (by simp)

theorem Sound.read (hreads : task.request.writes = false) :
    Sound (System.settle { sys with pool := pool } tid task poolTask.phase) := by
  have hgates := h.read_gates htask hinside hreads hworks hpool
  have hstays : Sound { sys with pool := pool } := by
    refine h.stays_inside htask hinside hworks hpool hpoolTask ?_ hgates
    intro driverId info heq
    rw [heq] at hreads
    cases hreads
  rcases settle_reads { sys with pool := pool } tid poolTask.phase hreads with
    hgoes | ⟨after, hleaves, houtside, hanswer⟩
  · rw [hgoes]
    exact hstays
  · rw [hleaves]
    exact hstays.leave hstays.pool (fun _ => rfl) (fun _ _ => rfl) houtside
      fun _ => hanswer _

end

theorem validate_ne_inconsistent
    {error : RegistryError} (h : request.validate = .error error)
    (deviceId : DeviceId) : error ≠ .inventoryInconsistent deviceId := by
  rintro rfl
  cases request with
  | register driverId info =>
    simp only [RegistryRequest.validate, validateRegistration] at h
    repeat' split at h
    all_goals cases h
  | _ => cases h

theorem begin_ne_inconsistent
    {reply : RegistryReply} (h : sys.begin request = some (.inl reply))
    (deviceId : DeviceId) : reply ≠ .error (.inventoryInconsistent deviceId) := by
  rintro rfl
  have hcurrent : ∀ handle (make : Entry → PoolRequest),
      sys.withCurrent handle make ≠
        some (.inl (.error (.inventoryInconsistent deviceId))) := by
    intro handle make hwith
    obtain ⟨entry, -, hentry⟩ := map_eq_some_iff.mp hwith
    split at hentry <;> cases hentry
  cases request with
  | register _ _ | unregister _ _ | resolve _ | sole =>
    simp only [System.begin] at h
    split at h <;> cases h
  | recordHealth _ _ _ | acquireLease _ _ _ | accessWithLease _ _ _ _
  | accessAvailableTo _ _ _ | cleanupAccessWithLease _ _ _ _ =>
    exact hcurrent _ _ h
  | _ => cases h

theorem pool_call {request : PoolRequest}
    (h : PoolSystem.Step pool (.call tid request) pool') :
    pool'.state = pool.state ∧
      pool'.tasks.lookup tid = some ⟨request, .ready⟩ ∧
      ∀ other, other ≠ tid →
        pool'.tasks.lookup other = pool.tasks.lookup other := by
  unfold PoolSystem.Step at h
  simp only [PoolSystem.System.step] at h
  split at h
  next =>
    cases h
    exact ⟨rfl, (PoolSystem.lookup_setTask ..).trans (if_pos rfl),
      fun other hne => (PoolSystem.lookup_setTask ..).trans (if_neg hne)⟩
  next => cases h

theorem pool_drop (h : PoolSystem.Step pool (.drop tid) pool') :
    pool'.state = pool.state ∧
      ∀ other, other ≠ tid →
        pool'.tasks.lookup other = pool.tasks.lookup other := by
  obtain ⟨task, -, hdrop⟩ := bind_eq_some_iff.mp h
  obtain ⟨-, heq⟩ := ite_none_right_eq_some.mp hdrop
  cases heq
  exact ⟨rfl, fun other hne => (PoolSystem.lookup_setTask ..).trans (if_neg hne)⟩

theorem not_blocked {exclusive : Bool} (h : sys.blocked exclusive = false)
    (htask : sys.tasks.lookup tid = some task)
    (hinside : task.phase = .inside) :
    exclusive = false ∧ task.request.writes = false := by
  have hall := List.any_eq_false.mp h task (KeyedMap.mem_values_of_lookup htask)
  simpa [hinside] using hall

theorem Sound.move (h : Sound sys) (hmove : Move sys label sys') :
    Sound sys' := by
  cases hmove with
  | @tick elapsed pool hpool =>
    have hreached := h.pool.step hpool
    cases hpool
    exact ⟨hreached, h.synced, h.placed, h.heap_lt,
      fun tid task htask hinside => by
        obtain ⟨poolTask, hpoolTask, hin⟩ := h.inside tid task htask hinside
        exact ⟨poolTask, hpoolTask, hin.mono rfl rfl fun _ => rfl⟩,
      h.exclusive, h.consistent⟩
  | @call tid request hnew =>
    exact h.keep tid ⟨request, .ready⟩ rfl rfl rfl h.pool (fun _ => rfl)
      (fun _ _ => rfl) (fun _ => KeyedMap.lookup_insert_ite _ _ _ _)
      (fun hinside => nomatch hinside) (fun hinside => nomatch hinside) (by simp)
  | invalid htask hready herror =>
    refine h.leave h.pool (fun _ => rfl) (fun _ _ => rfl) (by simp) ?_
    intro deviceId heq
    cases heq
    exact validate_ne_inconsistent herror deviceId rfl
  | answer htask hready hbegin =>
    refine h.leave h.pool (fun _ => rfl) (fun _ _ => rfl) (by simp) ?_
    intro deviceId heq
    cases heq
    exact begin_ne_inconsistent hbegin deviceId rfl
  | @enter tid task request pool htask hready hvalid hfree hbegin hpool =>
    obtain ⟨hstate, hown, hothers⟩ := pool_call hpool
    refine h.keep tid ⟨task.request, .inside⟩ rfl rfl rfl (h.pool.step hpool)
      (fun deviceId => by rw [hstate]) hothers (fun _ => lookup_setPhase ..)
      (fun _ => ⟨_, hown, ?_⟩) ?_ (by simp)
    · exact ⟨hbegin, hvalid, fun _ _ => rfl, fun _ hmem => nomatch hmem⟩
    · intro _ other task' hne htask' hinside'
      exact not_blocked hfree htask' hinside'
  | @work tid task label pool poolTask htask hinside hworks hpool hpoolTask =>
    cases hwrites : task.request.writes with
    | false => exact h.read htask hinside hworks hpool hpoolTask hwrites
    | true =>
      cases hrequest : task.request with
      | register driverId info =>
        exact h.registered htask hinside hworks hpool hpoolTask hrequest
      | unregister deviceId nowMs =>
        exact h.unregistered htask hinside hworks hpool hpoolTask hrequest
      | _ =>
        rw [hrequest] at hwrites
        cases hwrites
  | giveUp htask hready =>
    exact h.leave h.pool (fun _ => rfl) (fun _ _ => rfl) (by simp) (by simp)
  | drop htask hphase hpool =>
    obtain ⟨hstate, hothers⟩ := pool_drop hpool
    exact h.leave (h.pool.step hpool) (fun _ => by rw [hstate]) hothers (by simp)
      (by simp)

theorem sound_new (config : DevicePoolConfig) : Sound (System.new config) := by
  refine .emptied ⟨config, .refl _⟩ (fun deviceId => rfl) ?_ ?_ ?_ ?_ <;>
    simp [System.new]

/-- The facts hold in every run. -/
theorem Reached.sound (h : Reached sys) : Sound sys := by
  obtain ⟨config, hreachable⟩ := h
  exact hreachable.invariant (sound_new config)
    fun _ _ _ hsound hstep => hsound.move (move_of_step hstep)

end RegistrySystem

end DeviceRail
