import DeviceRail.Pool.Moves

/-!
# One step and one registration

What a step can do to the record of one registration, and what follows for
whole runs: the indexes are the recomputed ones in every state, and no
`expect` of the pool fails.
-/

namespace DeviceRail.PoolSystem

variable {sys sys' : System} {label : Label}

/-- What a step does to the record of a device. -/
inductive Touch (sys : System) (label : Label) (sys' : System)
    (deviceId : DeviceId) (record : PoolRecord) : Prop
  | same (hsame : sys'.state.devices.lookup deviceId = some record)
  | health {tid candidate health nowMs now}
      (hlabel : label = .commit tid candidate)
      (htask : sys.tasks.lookup tid = some
        ⟨.recordHealth ⟨deviceId, record.gate⟩ health nowMs, .clocked now⟩)
      (hafter : sys'.state.devices.lookup deviceId =
        some (record.recordHealth health now
          (max sys.state.wallHighWaterMs nowMs)))
  | work {tid candidate task rest taken reading now}
      (hlabel : label = .commit tid candidate)
      (htask : sys.tasks.lookup tid = some task)
      (hphase : task.phase = .locked (deviceId, record.gate) rest taken reading)
      (hnow : Reads sys task reading now)
      (hafter : sys'.state.devices.lookup deviceId =
        (record.atGate sys.config task.request now
          (max sys.state.wallHighWaterMs task.request.nowMs) candidate).2)
      (hother : ∀ other, other ≠ deviceId →
        sys'.state.devices.lookup other = sys.state.devices.lookup other)
      (htask' : sys'.tasks.lookup tid = some ⟨task.request,
        answered task.request (deviceId, record.gate) rest taken
          (record.atGate sys.config task.request now
            (max sys.state.wallHighWaterMs task.request.nowMs) candidate).1⟩)

variable {deviceId : DeviceId} {tid : TaskId} {task : Task}
  {record : PoolRecord} {candidate : LeaseId}

section

variable (h : Sound sys)
include h

/-- A step changes a device by its registration with a new gate, through its
health or through work at its gate. -/
theorem Sound.device_cases (hmove : Move sys label sys') (deviceId : DeviceId) :
    sys'.state.devices.lookup deviceId = sys.state.devices.lookup deviceId ∨
    (sys.state.devices.lookup deviceId = none ∧
      sys'.state.devices.lookup deviceId =
        some ⟨deviceId, .unknown, none, none, sys.nextGate⟩ ∧
      ∃ tid candidate, label = .commit tid candidate ∧
        sys.tasks.lookup tid = some ⟨.register deviceId, .ready⟩) ∨
    ∃ record, sys.state.devices.lookup deviceId = some record ∧
      Touch sys label sys' deviceId record := by
  cases hmove with
  | @register tid other candidate htask =>
    rcases sys.state.register_cases other sys.nextGate with
      ⟨error, herror⟩ | ⟨habsent, -, hbecomes⟩
    · exact .inl (by simp only [herror])
    · by_cases hdevice : deviceId = other
      · subst hdevice
        exact .inr (.inl ⟨habsent, hbecomes.lookup_self, tid, candidate, rfl,
          htask⟩)
      · exact .inl (hbecomes.lookup_of_ne hdevice)
  | @health tid registration health nowMs now candidate htask =>
    rcases sys.state.recordHealth_cases registration health now nowMs with
      ⟨error, herror⟩ | ⟨found, hfound, hgate, -, hbecomes⟩
    · exact .inl (by simp only [herror])
    · by_cases hdevice : deviceId = registration.deviceId
      · subst hdevice
        refine .inr (.inr ⟨found, hfound, .health rfl ?_ hbecomes.lookup_self⟩)
        rwa [hgate]
      · exact .inl (hbecomes.lookup_of_ne hdevice)
  | @work tid task target rest taken reading now candidate reply state htask
      hphase hnow hrun =>
    rcases h.indexed.atGate_cases hrun with
      ⟨error, -, houtcome⟩ | ⟨found, after, hfound, hgate, houtcome, hbecomes⟩
    · cases houtcome
      exact .inl rfl
    · cases houtcome
      by_cases hdevice : deviceId = target.1
      · subst hdevice
        have htarget : target = (target.1, found.gate) := by rw [hgate]
        refine .inr (.inr ⟨found, hfound, .work rfl htask
          (hphase.trans (by rw [← htarget])) hnow hbecomes.lookup_self
          (fun _ => hbecomes.lookup_of_ne) ?_⟩)
        rw [← htarget]
        exact (lookup_setTask ..).trans (if_pos rfl)
      · exact .inl (hbecomes.lookup_of_ne hdevice)
  | _ => exact .inl rfl

theorem Sound.touch (hmove : Move sys label sys')
    (hlookup : sys.state.devices.lookup deviceId = some record) :
    Touch sys label sys' deviceId record := by
  rcases h.device_cases hmove deviceId with
    hsame | ⟨habsent, -⟩ | ⟨found, hfound, htouch⟩
  · exact .same (hsame.trans hlookup)
  · cases hlookup.symm.trans habsent
  · cases hlookup.symm.trans hfound
    exact htouch

/-- A device that is not registered appears through a registration. -/
theorem Sound.touch_absent (hmove : Move sys label sys')
    (habsent : sys.state.devices.lookup deviceId = none)
    (hlookup : sys'.state.devices.lookup deviceId = some record) :
    record = ⟨deviceId, .unknown, none, none, sys.nextGate⟩ ∧
      ∃ tid candidate, label = .commit tid candidate ∧
        sys.tasks.lookup tid = some ⟨.register deviceId, .ready⟩ := by
  rcases h.device_cases hmove deviceId with
    hsame | ⟨-, hnew, htask⟩ | ⟨found, hfound, -⟩
  · rw [hsame, habsent] at hlookup
    cases hlookup
  · cases hnew.symm.trans hlookup
    exact ⟨rfl, htask⟩
  · cases habsent.symm.trans hfound

section

variable (hmove : Move sys (.commit tid candidate) sys')
  (htask : sys.tasks.lookup tid = some task)
include hmove htask

theorem Sound.commit_locked {target : DeviceId × GateId}
    {rest : List (DeviceId × GateId)} {taken : List DeviceLease}
    {reading : Option ℕ}
    (hphase : task.phase = .locked target rest taken reading) :
    ∃ now reply, Reads sys task reading now ∧
      (∀ other, sys'.tasks.lookup other = if other = tid then
        some ⟨task.request, answered task.request target rest taken reply⟩
        else sys.tasks.lookup other) ∧
      ((∃ error, sys.state.ensureCurrentGate target.1 target.2 = .error error ∧
          reply = task.request.refused error ∧ sys'.state = sys.state) ∨
        ∃ record, sys.state.devices.lookup target.1 = some record ∧
          record.gate = target.2 ∧
          reply = (record.atGate sys.config task.request now
            (max sys.state.wallHighWaterMs task.request.nowMs) candidate).1 ∧
          sys.state.Becomes target.1 (record.atGate sys.config task.request now
            (max sys.state.wallHighWaterMs task.request.nowMs) candidate).2
            sys'.state) := by
  cases hmove with
  | quiet htask' hquiet hlabel => exact absurd rfl (hlabel tid candidate)
  | register _ htask' | health _ htask' | entries _ htask' =>
    cases htask.symm.trans htask'
    cases hphase
  | panic htask' hphase' hnow hrun =>
    rcases h.indexed.atGate_cases hrun with
      ⟨error, -, houtcome⟩ | ⟨found, after, -, -, houtcome, -⟩ <;> cases houtcome
  | @work _ task' target' rest' taken' reading' now _ reply state htask' hphase'
      hnow hrun =>
      cases htask.symm.trans htask'
      cases hphase.symm.trans hphase'
      refine ⟨now, reply, hnow, (lookup_setTask _ · _), ?_⟩
      rcases h.indexed.atGate_cases hrun with
        ⟨error, hstale, houtcome⟩ |
        ⟨record, after, hlookup, hgate, houtcome, hbecomes⟩
      · obtain ⟨hreply, hstate⟩ := Prod.mk.inj (Option.some.inj houtcome)
        exact .inl ⟨error, hstale, hreply, hstate⟩
      · obtain ⟨hreply, hstate⟩ := Prod.mk.inj (Option.some.inj houtcome)
        exact .inr ⟨record, hlookup, hgate, hreply, hstate ▸ hbecomes⟩

theorem Sound.commit_device (hdevice : task.request.device? = some deviceId) :
    ∃ gate rest taken reading,
      task.phase = .locked (deviceId, gate) rest taken reading := by
  have hlocked : ∃ target rest taken reading,
      task.phase = .locked target rest taken reading := by
    cases hmove with
    | quiet htask' hquiet hlabel => exact absurd rfl (hlabel tid candidate)
    | register _ htask' | health _ htask' | entries _ htask' =>
      cases htask.symm.trans htask'
      cases hdevice
    | panic htask' hphase hnow hrun | work htask' hphase hnow hrun =>
      cases htask.symm.trans htask'
      exact ⟨_, _, _, _, hphase⟩
  obtain ⟨target, rest, taken, reading, hphase⟩ := hlocked
  have hfirst : target.1 = deviceId :=
    (h.fits tid task htask).device deviceId hdevice target
      (by rw [hphase]; exact List.mem_cons_self ..)
  exact ⟨target.2, rest, taken, reading, by rw [hphase, ← hfirst]⟩

end

/-! ## The task that takes a step -/

/-- What a step does to the task that takes it. -/
inductive Goes (sys : System) (label : Label) (sys' : System) (tid : TaskId) :
    Option Task → Task → Prop
  | call (request : PoolRequest) : Goes sys label sys' tid none ⟨request, .ready⟩
  | quiet {task phase} (hquiet : Quiet sys task phase) :
      Goes sys label sys' tid (some task) ⟨task.request, phase⟩
  | lock {task target rest taken}
      (hphase : task.phase = .waiting target rest taken) :
      Goes sys label sys' tid (some task)
        ⟨task.request, .locked target rest taken none⟩
  | register (deviceId : DeviceId)
      (result : Except DevicePoolError DeviceRegistrationToken) :
      Goes sys label sys' tid (some ⟨.register deviceId, .ready⟩)
        ⟨.register deviceId, .finished (.of .registered result)⟩
  | health (registration : DeviceRegistrationToken) (health : PoolHealth)
      (nowMs now : ℕ) :
      Goes sys label sys' tid
        (some ⟨.recordHealth registration health nowMs, .clocked now⟩)
        ⟨.recordHealth registration health nowMs, .finished (.of .health
          (sys.state.recordHealth registration health now nowMs).1)⟩
  | entries (nowMs now : ℕ) :
      Goes sys label sys' tid (some ⟨.entries nowMs, .clocked now⟩)
        ⟨.entries nowMs, .finished (.entries (sys.state.entries now nowMs).1)⟩
  | work {task target rest taken reading now candidate reply}
      (hlabel : label = .commit tid candidate)
      (hphase : task.phase = .locked target rest taken reading)
      (hnow : Reads sys task reading now)
      (hrun : sys.state.atGate sys.config task.request target.1 target.2 now
        candidate = some (some (reply, sys'.state))) :
      Goes sys label sys' tid (some task)
        ⟨task.request, answered task.request target rest taken reply⟩

/-- A step leaves a task as it is, or the task takes it; no `expect` fails. -/
theorem Sound.task_cases (hmove : Move sys label sys') (tid : TaskId) :
    sys'.tasks.lookup tid = sys.tasks.lookup tid ∨ ∃ task',
      sys'.tasks.lookup tid = some task' ∧
        Goes sys label sys' tid (sys.tasks.lookup tid) task' := by
  have hset : ∀ {other before task'}, sys.tasks.lookup other = before →
      sys'.tasks = (sys.setTask other task').tasks →
      (other = tid → Goes sys label sys' tid before task') →
      sys'.tasks.lookup tid = sys.tasks.lookup tid ∨ ∃ task',
        sys'.tasks.lookup tid = some task' ∧
          Goes sys label sys' tid (sys.tasks.lookup tid) task' := by
    intro other before task' hbefore htasks hgoes
    rw [htasks, lookup_setTask]
    split
    next heq =>
      subst heq
      exact .inr ⟨task', rfl, hbefore ▸ hgoes rfl⟩
    next => exact .inl rfl
  cases hmove with
  | tick => exact .inl rfl
  | call request hnew => exact hset hnew rfl fun _ => .call request
  | quiet htask hquiet _ => exact hset htask rfl fun _ => .quiet hquiet
  | lock htask hphase _ => exact hset htask rfl fun _ => .lock hphase
  | register _ htask => exact hset htask rfl fun _ => .register _ _
  | health _ htask => exact hset htask rfl fun _ => .health ..
  | entries _ htask => exact hset htask rfl fun _ => .entries ..
  | panic _ _ _ hrun =>
    rcases h.indexed.atGate_cases hrun with
      ⟨error, -, houtcome⟩ | ⟨record, after, -, -, houtcome, -⟩ <;> cases houtcome
  | work htask hphase hnow hrun =>
    exact hset htask rfl fun heq => .work (heq ▸ rfl) hphase hnow hrun

theorem Sound.goes (hmove : Move sys label sys')
    (htask : sys.tasks.lookup tid = some task) :
    ∃ task', sys'.tasks.lookup tid = some task' ∧
      (task' = task ∨ Goes sys label sys' tid (some task) task') := by
  rcases h.task_cases hmove tid with hsame | ⟨task', htask', hgoes⟩
  · exact ⟨task, hsame.trans htask, .inl rfl⟩
  · exact ⟨task', htask', .inr (htask ▸ hgoes)⟩

theorem Sound.came (hmove : Move sys label sys') {task' : Task}
    (htask' : sys'.tasks.lookup tid = some task') :
    sys.tasks.lookup tid = some task' ∨ ∃ before,
      sys.tasks.lookup tid = before ∧ Goes sys label sys' tid before task' := by
  rcases h.task_cases hmove tid with hsame | ⟨after, hafter, hgoes⟩
  · exact .inl (hsame.symm.trans htask')
  · cases htask'.symm.trans hafter
    exact .inr ⟨_, rfl, hgoes⟩

end

/-! ## Panics -/

/-- No task has panicked. -/
def Calm (sys : System) : Prop :=
  ∀ tid task, sys.tasks.lookup tid = some task → task.phase ≠ .panicked

theorem Calm.move (h : Calm sys) (hsound : Sound sys)
    (hmove : Move sys label sys') : Calm sys' := by
  intro tid task htask
  rcases hsound.came hmove htask with hbefore | ⟨before, -, hgoes⟩
  · exact h tid task hbefore
  cases hgoes with
  | quiet hquiet =>
    rcases hquiet.cases with hidle | ⟨target, rest, taken, -, rfl⟩
    · exact hidle.ne_panicked
    · simp
  | @work task target rest taken _ _ _ reply =>
    rcases answered_cases target rest taken task.request reply with
      hidle | ⟨-, hholds⟩
    · exact hidle.ne_panicked
    · simp [hholds]
  | _ => simp

theorem Reached.calm (h : Reached sys) : Calm sys := by
  obtain ⟨config, hreachable⟩ := h
  have hboth : Sound sys ∧ Calm sys := by
    refine hreachable.invariant (I := fun sys => Sound sys ∧ Calm sys)
      ⟨sound_new config, by simp [Calm, System.new]⟩ ?_
    rintro before label after ⟨hsound, hcalm⟩ hstep
    have hmove := move_of_step hstep
    exact ⟨hsound.move hmove, hcalm.move hsound hmove⟩
  exact hboth.2

/-- In every state of every run the indexes of the pool are those recomputed
from the device records, and no `expect` has failed. -/
theorem indexes_recomputed_without_panic (hreached : Reached sys) :
    sys.state.IndexesAreConsistent ∧
      ∀ tid task, sys.tasks.lookup tid = some task → task.phase ≠ .panicked :=
  ⟨hreached.sound.indexed.consistent, hreached.calm⟩

theorem indexes_recomputed_after_acquire :
    ∃ sys, (System.new .default).runLabels leasedSchedule = some sys ∧
      sys.state.leaseDevices.lookup firstLease = some phone ∧
      sys.state.IndexesAreConsistent ∧
      ∀ tid task, sys.tasks.lookup tid = some task →
        task.phase ≠ .panicked := by
  exact Transition.exists_some_and (by decide +kernel) fun _ hsys =>
    indexes_recomputed_without_panic (reached_of_runLabels hsys)

end DeviceRail.PoolSystem
