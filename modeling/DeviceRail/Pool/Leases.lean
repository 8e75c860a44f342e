import DeviceRail.Pool.Guards

/-!
# Leases

Who can take a lease away, who can use it, and what the sweep of an owner's
leases leaves behind.
-/

namespace DeviceRail

variable {lease : LeaseRecord} {ownerId : LeaseOwnerId} {value : DeviceLease}

namespace PoolRecord

variable {config : DevicePoolConfig} {record : PoolRecord} {now wallNow : ℕ}
  {candidate : LeaseId}

theorem expire_of_live (hlease : record.lease = some lease)
    (hlive : now < lease.deadline) : record.expire now = record := by
  have hsame : (record.expire now).lease = record.lease := by
    rw [hlease]
    exact expire_lease_eq_some.mpr ⟨hlease, hlive⟩
  rw [expire_eq_withLease, hsame, withLease_self]

/-- An acquisition fails for another owner while a lease lasts. -/
theorem acquire_of_live (config : DevicePoolConfig) (deadline wallNow : ℕ)
    (candidate : LeaseId) (hlease : record.lease = some lease)
    (hlive : now < lease.deadline) (hne : lease.value.ownerId ≠ ownerId) :
    ∃ error, (record.acquire config ownerId now deadline wallNow candidate).1 =
        .error error ∧
      (ensureHealthy record now config.healthValidity = .ok () →
        error = .deviceInUse record.deviceId) := by
  rw [acquire, expire_of_live hlease hlive]
  cases hhealth : ensureHealthy record now config.healthValidity with
  | error error => exact ⟨error, rfl, by simp⟩
  | ok _ =>
    simp only [hlease, if_pos hne]
    exact ⟨_, rfl, fun _ => rfl⟩

/-- A lease that lasts is kept by every call that does not revoke it. -/
theorem atGate_of_live {request : PoolRequest}
    (hlease : record.lease = some lease) (hlive : now < lease.deadline)
    (hrevokes : ¬request.Revokes lease.value.id lease.value.ownerId) :
    ∃ lease', (record.atGate config request now wallNow candidate).2 =
        some (record.withLease (some lease')) ∧
      lease'.value.id = lease.value.id ∧
      lease'.value.ownerId = lease.value.ownerId := by
  have hself : record = record.withLease (some lease) := by
    rw [← hlease, withLease_self]
  have hexpire := expire_of_live hlease hlive
  have hleaves := @atGate_leaves config request record now wallNow candidate
  generalize (record.atGate config request now wallNow candidate).2 = after
    at hleaves ⊢
  cases hleaves with
  | same => exact ⟨lease, congrArg some hself, rfl, rfl⟩
  | expired => exact ⟨lease, congrArg some (hexpire.trans hself), rfl, rfl⟩
  | renewed _ _ hfound =>
    cases hlease.symm.trans hfound
    exact ⟨_, rfl, rfl, rfl⟩
  | taken hfound hrevoked =>
    cases hlease.symm.trans hfound
    exact absurd hrevoked hrevokes
  | installed _ hfree | removed _ hfree =>
    rw [hexpire, hlease] at hfree
    cases hfree

/-- The answer of an acquisition carries the lease of the owner, or a new
one. -/
theorem acquire_ok {deadline : ℕ}
    (h : (record.acquire config ownerId now deadline wallNow candidate).1 =
      .ok value) :
    (∃ lease, record.lease = some lease ∧ lease.value.id = value.id ∧
        lease.value.ownerId = ownerId) ∨ value.id = candidate := by
  unfold acquire at h
  split at h
  next => cases h
  next =>
    split at h
    next lease hlease =>
      obtain ⟨hbefore, -⟩ := expire_lease_eq_some.mp hlease
      split at h
      next => cases h
      next howner =>
        cases h
        exact .inl ⟨lease, hbefore, rfl, not_not.mp howner⟩
    next =>
      cases h
      exact .inr rfl

theorem release_ok {leaseId : LeaseId}
    (h : (record.release leaseId ownerId now).1 = .ok value) :
    ∃ lease, record.lease = some lease ∧ lease.value = value ∧
      value.id = leaseId ∧ value.ownerId = ownerId := by
  unfold release at h
  repeat' split at h
  all_goals cases h
  next lease hlease _ hmatch =>
    simp only [not_or, not_not] at hmatch
    exact ⟨lease, hlease, rfl, hmatch.1, hmatch.2⟩

end PoolRecord

namespace PoolSystem

variable {sys sys' : System} {label : Label} {tid : TaskId} {task : Task}
  {deviceId : DeviceId} {request : PoolRequest} {reply : PoolReply}
  {leaseId : LeaseId} {target : DeviceId × GateId}
  {rest : List (DeviceId × GateId)} {taken : List DeviceLease}
  {lease' : LeaseRecord}

theorem Sound.reads_le (h : Sound sys) {reading : Option ℕ} {now : ℕ}
    (htask : sys.tasks.lookup tid = some task)
    (hphase : task.phase = .locked target rest taken reading)
    (hnow : Reads sys task reading now) : now ≤ sys.clock := by
  cases reading with
  | none => exact hnow.2.le
  | some reading =>
    obtain rfl : now = reading := hnow
    exact (h.fits tid task htask).now_le now (by rw [hphase]; rfl)

/-! ## A lease before its deadline -/

/-- Before its deadline a lease stays where it is, unless a step revokes it. -/
theorem Sound.lease_lasts (h : Sound sys) (hmove : Move sys label sys')
    (hlease : sys.state.leaseOf deviceId = some lease)
    (hlive : sys.clock < lease.deadline) :
    (∃ lease', sys'.state.leaseOf deviceId = some lease' ∧
        lease'.value.id = lease.value.id ∧
        lease'.value.ownerId = lease.value.ownerId) ∨
      ∃ tid candidate task, label = .commit tid candidate ∧
        sys.tasks.lookup tid = some task ∧
        task.request.Revokes lease.value.id lease.value.ownerId := by
  obtain ⟨record, hlookup, hrecord⟩ := PoolState.leaseOf_eq_some.mp hlease
  cases h.touch hmove hlookup with
  | same hsame =>
    exact .inl ⟨lease, (PoolState.leaseOf_of_lookup hsame).trans hrecord, rfl,
      rfl⟩
  | health hlabel htask hafter =>
    exact .inl ⟨lease, (PoolState.leaseOf_of_lookup hafter).trans hrecord, rfl,
      rfl⟩
  | @work tid candidate task rest taken reading now hlabel htask hphase hnow
      hafter hother htask' =>
      by_cases hrevokes :
          task.request.Revokes lease.value.id lease.value.ownerId
      · exact .inr ⟨tid, candidate, task, hlabel, htask, hrevokes⟩
      · have hbefore := (h.reads_le htask hphase hnow).trans_lt hlive
        obtain ⟨lease', hrecord', hid, howner⟩ :=
          PoolRecord.atGate_of_live hrecord hbefore hrevokes
        exact .inl ⟨lease',
          PoolState.leaseOf_of_lookup (hafter.trans hrecord'), hid, howner⟩

/-- Before its deadline a lease makes every acquisition of another owner
fail. -/
theorem Sound.acquire_refused (h : Sound sys) {candidate : LeaseId} {nowMs : ℕ}
    (hmove : Move sys (.commit tid candidate) sys')
    (htask : sys.tasks.lookup tid = some task)
    (hrequest : task.request = .acquire deviceId ownerId nowMs)
    (hlease : sys.state.leaseOf deviceId = some lease)
    (hlive : sys.clock < lease.deadline) (hne : lease.value.ownerId ≠ ownerId) :
    ∃ error, sys'.tasks.lookup tid =
        some ⟨task.request, .finished (.error error)⟩ ∧
      ∀ record rest taken now,
        sys.state.devices.lookup deviceId = some record →
        task.phase = .locked (deviceId, record.gate) rest taken (some now) →
        ensureHealthy record now sys.config.healthValidity = .ok () →
        error = .deviceInUse deviceId := by
  obtain ⟨request, phase⟩ := task
  cases hrequest
  obtain ⟨record, hlookup, hrecord⟩ := PoolState.leaseOf_eq_some.mp hlease
  obtain ⟨gate, rest, taken, reading, rfl⟩ := h.commit_device hmove htask rfl
  obtain ⟨now, reply, hnow, htasks, hstale | hwork⟩ :=
    h.commit_locked hmove htask rfl
  · obtain ⟨error, hgate, rfl, -⟩ := hstale
    refine ⟨error, ?_, fun record' rest' taken' now' hlookup' hphase' _ => ?_⟩
    · exact (htasks tid).trans (if_pos rfl)
    · cases hphase'
      rw [PoolState.ensureCurrentGate_of_lookup hlookup' rfl] at hgate
      cases hgate
  · obtain ⟨found, hfound, hgate, hreply, -⟩ := hwork
    cases hlookup.symm.trans hfound
    have hbefore := (h.reads_le htask rfl hnow).trans_lt hlive
    obtain ⟨error, herror, hinUse⟩ :=
      PoolRecord.acquire_of_live sys.config (now + sys.config.leaseTtl)
        (max sys.state.wallHighWaterMs nowMs) candidate hrecord hbefore hne
    have hanswer : reply = .error error :=
      hreply.trans (congrArg (PoolReply.of .lease) herror)
    subst hanswer
    refine ⟨error, ?_, fun record' rest' taken' now' hlookup' hphase' hok => ?_⟩
    · exact (htasks tid).trans (if_pos rfl)
    · cases hphase'
      cases hlookup.symm.trans hlookup'
      obtain rfl : now = now' := hnow
      rw [hinUse hok, h.indexed.keyed deviceId record hlookup]

/-! ## Lease ids and what they were issued for -/

/-- An acquisition has answered with a lease of this id, device and owner. -/
def Issued (sys : System) (leaseId : LeaseId) (deviceId : DeviceId)
    (ownerId : LeaseOwnerId) : Prop :=
  ∃ tid nowMs value, sys.tasks.lookup tid =
      some ⟨.acquire deviceId ownerId nowMs, .finished (.lease value)⟩ ∧
    value.id = leaseId

/-- Lease ids that are drawn are new. -/
def FreshIds (sys : System) (label : Label) : Prop :=
  ∀ tid candidate task deviceId ownerId nowMs, label = .commit tid candidate →
    sys.tasks.lookup tid = some task →
    task.request = .acquire deviceId ownerId nowMs →
    ∀ device owner, ¬Issued sys candidate device owner

/-- A lease id was issued for one device and owner, those of the lease that
carries it. -/
structure Accounted (sys : System) : Prop where
  unique : ∀ leaseId deviceId ownerId device owner,
    Issued sys leaseId deviceId ownerId → Issued sys leaseId device owner →
    deviceId = device ∧ ownerId = owner
  stored : ∀ deviceId lease, sys.state.leaseOf deviceId = some lease →
    Issued sys lease.value.id deviceId lease.value.ownerId

theorem Quiet.not_finished {phase : Phase}
    (h : Quiet sys ⟨request, .finished reply⟩ phase) : False := by
  cases h with
  | lookup hlookup => cases hlookup
  | list hlist =>
    obtain ⟨leases, hswept, -⟩ := Option.bind_eq_some_iff.mp hlist
    unfold swept at hswept
    split at hswept <;> simp_all
  | clock hclock => cases hclock
  | drop hdrop => cases hdrop

theorem Sound.finished (h : Sound sys) (hmove : Move sys label sys')
    (htask : sys.tasks.lookup tid = some ⟨request, .finished reply⟩) :
    sys'.tasks.lookup tid = some ⟨request, .finished reply⟩ := by
  obtain ⟨task', htask', rfl | hgoes⟩ := h.goes hmove htask
  · exact htask'
  cases hgoes with
  | quiet hquiet => exact hquiet.not_finished.elim
  | lock hphase => cases hphase
  | work _ hphase => cases hphase

theorem Issued.move (h : Issued sys leaseId deviceId ownerId)
    (hsound : Sound sys) (hmove : Move sys label sys') :
    Issued sys' leaseId deviceId ownerId := by
  obtain ⟨tid, nowMs, value, htask, hid⟩ := h
  exact ⟨tid, nowMs, value, hsound.finished hmove htask, hid⟩

theorem resume_ne_lease (rest : List (DeviceId × GateId))
    (taken : List DeviceLease) (value : DeviceLease) :
    resume rest taken ≠ .finished (.lease value) := by
  unfold resume
  split <;> simp

theorem answered_eq_lease (h : answered request target rest taken reply =
      .finished (.lease value)) : reply = .lease value := by
  unfold answered at h
  split at h
  next =>
    split at h
    next => exact absurd h (resume_ne_lease _ _ _)
    next => cases h
  next => cases h
  next => exact Phase.finished.inj h

theorem refused_ne_lease (request : PoolRequest) (error : DevicePoolError)
    (value : DeviceLease) : request.refused error ≠ .lease value := by
  unfold PoolRequest.refused
  split <;> simp

/-- An answer with a lease was given before, or comes from work at the gate of
a record. -/
theorem Sound.lease_reply_cases (h : Sound sys) (hmove : Move sys label sys')
    (htask' : sys'.tasks.lookup tid =
      some ⟨request, .finished (.lease value)⟩) :
    sys.tasks.lookup tid = some ⟨request, .finished (.lease value)⟩ ∨
      ∃ candidate target rest taken reading now wallNow record,
        label = .commit tid candidate ∧
        sys.tasks.lookup tid =
          some ⟨request, .locked target rest taken reading⟩ ∧
        sys.state.devices.lookup target.1 = some record ∧
        (record.atGate sys.config request now wallNow candidate).1 =
          .lease value := by
  have hof : ∀ {α : Type} (answer : α → PoolReply)
      (result : Except DevicePoolError α),
      (∀ a, answer a ≠ .lease value) →
      PoolReply.of answer result ≠ .lease value := by
    intro α answer result hanswer
    cases result with
    | error _ => simp
    | ok a => exact hanswer a
  rcases h.came hmove htask' with hbefore | ⟨before, htask, hgoes⟩
  · exact .inl hbefore
  generalize hphase' : Phase.finished (.lease value) = phase' at hgoes
  cases hgoes with
  | quiet hquiet =>
    cases hquiet.turn with
    | lists => exact absurd hphase'.symm (resume_ne_lease _ _ _)
    | _ => cases hphase'
  | register | health =>
    exact absurd (Phase.finished.inj hphase').symm (hof _ _ (by simp))
  | @work task target rest taken reading now candidate reply hlabel hphase hnow
      hrun =>
    obtain rfl := answered_eq_lease hphase'.symm
    rcases h.indexed.atGate_cases hrun with
      ⟨error, -, houtcome⟩ | ⟨record, after, hfound, -, houtcome, -⟩
    · have hreply := (Prod.mk.inj (Option.some.inj houtcome)).1
      exact absurd hreply.symm (refused_ne_lease _ _ _)
    · have hreply := (Prod.mk.inj (Option.some.inj houtcome)).1
      refine .inr ⟨candidate, target, rest, taken, reading, now, _, record,
        hlabel, ?_, hfound, hreply.symm⟩
      rwa [← hphase]
  | _ => cases hphase'

/-- A lease after a step was there before, at the same registration, or has
just been acquired at its gate. -/
theorem Sound.lease_before (h : Sound sys) (hmove : Move sys label sys')
    {record' : PoolRecord}
    (hlookup' : sys'.state.devices.lookup deviceId = some record')
    (hlease' : record'.lease = some lease') :
    ∃ record, sys.state.devices.lookup deviceId = some record ∧
      record.gate = record'.gate ∧
      ((∃ lease, record.lease = some lease ∧
          lease'.value.id = lease.value.id ∧
          lease'.value.ownerId = lease.value.ownerId) ∨
        ∃ tid nowMs rest taken reading, label = .commit tid lease'.value.id ∧
          sys.tasks.lookup tid =
            some ⟨.acquire deviceId lease'.value.ownerId nowMs,
              .locked (deviceId, record.gate) rest taken reading⟩ ∧
          sys'.tasks.lookup tid =
            some ⟨.acquire deviceId lease'.value.ownerId nowMs,
              .finished (.lease lease'.value)⟩) := by
  cases hlookup : sys.state.devices.lookup deviceId with
  | none =>
    obtain ⟨rfl, -⟩ := h.touch_absent hmove hlookup hlookup'
    cases hlease'
  | some record =>
    refine ⟨record, rfl, ?_⟩
    cases h.touch hmove hlookup with
    | same hafter | health _ _ hafter =>
      cases hlookup'.symm.trans hafter
      exact ⟨rfl, .inl ⟨lease', hlease', rfl, rfl⟩⟩
    | @work tid candidate task rest taken reading now hlabel htask hphase hnow
        hafter hother htask' =>
        rw [hlookup'] at hafter
        obtain ⟨kept, rfl⟩ := PoolRecord.atGate_eq_withLease hafter.symm
        refine ⟨rfl, ?_⟩
        rcases PoolRecord.atGate_lease_owner hafter.symm hlease' with
          hkept | ⟨device, nowMs, hrequest, hid, -, hreply⟩
        · exact .inl hkept
        · obtain ⟨request, phase⟩ := task
          cases hrequest
          cases hphase
          obtain rfl := (h.fits tid _ htask).device device rfl _
            (List.mem_cons_self ..)
          rw [hreply] at htask'
          exact .inr ⟨tid, nowMs, rest, taken, reading, by rw [hlabel, hid],
            htask, htask'⟩

section

variable (h : Accounted sys) (hsound : Sound sys)
include h hsound

/-- An id that is issued after a step was issued before for the same device
and owner, or has just been drawn. -/
theorem Accounted.issued_cases (hmove : Move sys label sys')
    (hissued : Issued sys' leaseId deviceId ownerId) :
    Issued sys leaseId deviceId ownerId ∨
      ∃ tid nowMs phase, label = .commit tid leaseId ∧
        sys.tasks.lookup tid =
          some ⟨.acquire deviceId ownerId nowMs, phase⟩ := by
  obtain ⟨tid, nowMs, value, htask', rfl⟩ := hissued
  rcases hsound.lease_reply_cases hmove htask' with hbefore | hwork
  · exact .inl ⟨tid, nowMs, value, hbefore, rfl⟩
  · obtain ⟨candidate, target, rest, taken, reading, now, wallNow, record, hlabel,
      htask, hlookup, hreply⟩ := hwork
    have hdevice : target.1 = deviceId :=
      (hsound.fits tid _ htask).device deviceId rfl target
        (List.mem_cons_self ..)
    rcases PoolRecord.acquire_ok (PoolReply.of_lease.mp hreply) with
      ⟨lease, hlease, hid, howner⟩ | hid
    · have hstored := h.stored target.1 lease
        ((PoolState.leaseOf_of_lookup hlookup).trans hlease)
      rw [hid, howner, hdevice] at hstored
      exact .inl hstored
    · exact .inr ⟨tid, nowMs, _, by rw [hlabel, hid], htask⟩

theorem Accounted.stored_move (hmove : Move sys label sys')
    (hlease' : sys'.state.leaseOf deviceId = some lease') :
    Issued sys' lease'.value.id deviceId lease'.value.ownerId := by
  obtain ⟨record', hlookup', hrecord'⟩ := PoolState.leaseOf_eq_some.mp hlease'
  obtain ⟨record, hlookup, -, ⟨lease, hlease, hid, howner⟩ |
    ⟨tid, nowMs, _, _, _, -, -, htask'⟩⟩ :=
    hsound.lease_before hmove hlookup' hrecord'
  · rw [hid, howner]
    exact (h.stored deviceId lease
      ((PoolState.leaseOf_of_lookup hlookup).trans hlease)).move hsound hmove
  · exact ⟨tid, nowMs, lease'.value, htask', rfl⟩

theorem Accounted.move (hfresh : FreshIds sys label)
    (hmove : Move sys label sys') : Accounted sys' := by
  refine ⟨?_, fun deviceId lease' hlease' => h.stored_move hsound hmove hlease'⟩
  have hclash : ∀ leaseId deviceId ownerId device owner,
      Issued sys leaseId deviceId ownerId →
      ¬∃ tid nowMs phase, label = .commit tid leaseId ∧
        sys.tasks.lookup tid = some ⟨.acquire device owner nowMs, phase⟩ := by
    rintro leaseId deviceId ownerId device owner hissued
      ⟨tid, nowMs, phase, hlabel, htask⟩
    exact hfresh tid leaseId _ device owner nowMs hlabel htask rfl deviceId
      ownerId hissued
  intro leaseId deviceId ownerId device owner hissued hissued'
  rcases h.issued_cases hsound hmove hissued with hbefore | hdrawn
  · rcases h.issued_cases hsound hmove hissued' with hbefore' | hdrawn'
    · exact h.unique leaseId deviceId ownerId device owner hbefore hbefore'
    · exact absurd hdrawn' (hclash _ _ _ _ _ hbefore)
  · rcases h.issued_cases hsound hmove hissued' with hbefore' | hdrawn'
    · exact absurd hdrawn (hclash _ _ _ _ _ hbefore')
    · obtain ⟨tid, nowMs, phase, hlabel, htask⟩ := hdrawn
      obtain ⟨tid', nowMs', phase', hlabel', htask'⟩ := hdrawn'
      cases hlabel.symm.trans hlabel'
      cases htask.symm.trans htask'
      exact ⟨rfl, rfl⟩

end

/-- Calls that were let in or released a lease had an id issued for their
device and owner. -/
structure Accepted (sys : System) : Prop where
  access : ∀ tid leaseId deviceId ownerId nowMs requireFreshHealth device gate,
    sys.tasks.lookup tid = some ⟨.accessWithLease leaseId deviceId ownerId nowMs
      requireFreshHealth, .holding device gate⟩ →
    device = deviceId ∧ Issued sys leaseId deviceId ownerId
  release : ∀ tid leaseId ownerId nowMs value,
    sys.tasks.lookup tid =
      some ⟨.release leaseId ownerId nowMs, .finished (.lease value)⟩ →
    value.id = leaseId ∧ value.ownerId = ownerId ∧
      Issued sys leaseId value.deviceId ownerId

theorem Accepted.move (h : Accepted sys) (haccounted : Accounted sys)
    (hsound : Sound sys) (hmove : Move sys label sys') : Accepted sys' := by
  constructor
  · intro tid leaseId deviceId ownerId nowMs requireFreshHealth device gate htask'
    rcases hsound.holding_cases hmove htask' rfl with
      hbefore | ⟨task, now, record, record', hrequest, hletIn⟩
    · obtain ⟨hdevice, hissued⟩ := h.access _ _ _ _ _ _ _ _ hbefore
      exact ⟨hdevice, hissued.move hsound hmove⟩
    · obtain ⟨wallNow, candidate, hgrants⟩ := hletIn.grants
      obtain ⟨rest, taken, hphase⟩ := hletIn.locks
      have hdevice : device = deviceId :=
        (hsound.fits tid task hletIn.known).device deviceId
          (by rw [← hrequest]; rfl) (device, gate)
          (by rw [hphase]; exact List.mem_cons_self ..)
      rw [← hrequest, PoolRecord.atGate_accessWithLease] at hgrants
      obtain ⟨lease, hlease, -, hid, howner, -⟩ := PoolRecord.accessWithLease_ok
        (PoolReply.of_access.mp (congrArg Prod.fst hgrants))
      have hstored := haccounted.stored device lease
        ((PoolState.leaseOf_of_lookup hletIn.found).trans hlease)
      rw [hid, howner, hdevice] at hstored
      exact ⟨hdevice, hstored.move hsound hmove⟩
  · intro tid leaseId ownerId nowMs value htask'
    rcases hsound.lease_reply_cases hmove htask' with hbefore | hwork
    · obtain ⟨hid, howner, hissued⟩ := h.release _ _ _ _ _ hbefore
      exact ⟨hid, howner, hissued.move hsound hmove⟩
    · obtain ⟨candidate, target, rest, taken, reading, now, wallNow, record,
        hlabel, htask, hlookup, hreply⟩ := hwork
      obtain ⟨lease, hlease, rfl, hid, howner⟩ :=
        PoolRecord.release_ok (PoolReply.of_lease.mp hreply)
      have hof := (PoolState.leaseOf_of_lookup hlookup).trans hlease
      have hstored := haccounted.stored target.1 lease hof
      rw [hid, howner, ← hsound.indexed.placed target.1 lease hof] at hstored
      exact ⟨hid, howner, hstored.move hsound hmove⟩

end PoolSystem

end DeviceRail
