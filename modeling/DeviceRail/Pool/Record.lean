import DeviceRail.Pool.Model

/-!
# Registrations on their own

The pool keeps its devices apart: an operation reads and writes the record of
one registration, and everything else it touches is derived from the records.
This module gives the operations on a single record, the purpose of the pool
stated without its indexes, and shows that the operations of `PoolState` are
these operations applied to the record of a device whose gate is current.
-/

namespace DeviceRail

namespace PoolRequest

/-- The wall-clock value a call supplies. -/
def nowMs : PoolRequest → ℕ
  | .register _ => 0
  | .remove _ nowMs => nowMs
  | .recordHealth _ _ nowMs => nowMs
  | .acquire _ _ nowMs => nowMs
  | .accessWithLease _ _ _ nowMs _ => nowMs
  | .accessAvailableTo _ _ nowMs => nowMs
  | .release _ _ nowMs => nowMs
  | .releaseOwner _ nowMs => nowMs
  | .releaseAll nowMs => nowMs
  | .reapExpired nowMs => nowMs
  | .entries nowMs => nowMs

/-- The call sweeps over several devices. -/
@[simp] def sweeps : PoolRequest → Bool
  | .releaseOwner .. | .releaseAll _ | .reapExpired _ => true
  | _ => false

/-- The answer at a gate that is not current; a sweep skips the device. -/
@[simp] def refused (request : PoolRequest) (error : DevicePoolError) : PoolReply :=
  if request.sweeps then .leases [] else .error error

end PoolRequest

namespace PoolRequest

/-- The calls that take a lease away before its deadline. -/
inductive Revokes (leaseId : LeaseId) (ownerId : LeaseOwnerId) :
    PoolRequest → Prop
  | release (nowMs : ℕ) : Revokes leaseId ownerId (.release leaseId ownerId nowMs)
  | releaseOwner (nowMs : ℕ) :
      Revokes leaseId ownerId (.releaseOwner ownerId nowMs)
  | releaseAll (nowMs : ℕ) : Revokes leaseId ownerId (.releaseAll nowMs)

end PoolRequest

namespace PoolRecord

variable (record : PoolRecord)

/-- The record without a lease whose deadline has passed. -/
def expire (now : ℕ) : PoolRecord :=
  { record with
    lease := record.lease.filter (fun lease => decide (now < lease.deadline)) }

def withLease (lease : Option LeaseRecord) : PoolRecord :=
  { record with lease := lease }

def remove (now : ℕ) : Except DevicePoolError Unit × Option PoolRecord :=
  if (record.expire now).lease.isSome then
    (.error (.deviceLeased record.deviceId), some (record.expire now))
  else (.ok (), none)

def recordHealth (health : PoolHealth) (now wallNow : ℕ) : PoolRecord :=
  { record with
    health := (PoolState.checkedHealth health now wallNow).1
    healthCheckedAt := (PoolState.checkedHealth health now wallNow).2 }

def acquire (config : DevicePoolConfig) (record : PoolRecord)
    (ownerId : LeaseOwnerId) (now deadline wallNow : ℕ) (candidate : LeaseId) :
    Except DevicePoolError DeviceLease × PoolRecord :=
  match ensureHealthy record now config.healthValidity with
  | .error error => (.error error, record.expire now)
  | .ok () =>
    let expiresAtMs := saturatingAddMs wallNow config.leaseTtlMs
    match (record.expire now).lease with
    | some lease =>
      if lease.value.ownerId ≠ ownerId then
        (.error (.deviceInUse record.deviceId), record.expire now)
      else
        (.ok (lease.renew deadline expiresAtMs).value,
          record.withLease (some (lease.renew deadline expiresAtMs)))
    | none =>
      let value : DeviceLease :=
        ⟨candidate, record.deviceId, ownerId, wallNow, expiresAtMs⟩
      (.ok value, record.withLease (some ⟨value, deadline⟩))

def accessWithLease (config : DevicePoolConfig) (record : PoolRecord)
    (leaseId : LeaseId) (ownerId : LeaseOwnerId) (now deadline wallNow : ℕ)
    (requireFreshHealth : Bool) : Except DevicePoolError Unit × PoolRecord :=
  match (if requireFreshHealth then
      ensureHealthy record now config.healthValidity else .ok ()) with
  | .error error => (.error error, record)
  | .ok () =>
    match record.lease with
    | none => (.error .leaseNotFound, record)
    | some lease =>
      if lease.deadline ≤ now then
        (.error .leaseExpired, record.withLease none)
      else if lease.value.id ≠ leaseId ∨ lease.value.ownerId ≠ ownerId ∨
          lease.value.deviceId ≠ record.deviceId then
        (.error .leaseMismatch, record)
      else
        (.ok (), record.withLease (some (lease.renew deadline
          (saturatingAddMs wallNow config.leaseTtlMs))))

def accessAvailableTo (ownerId : LeaseOwnerId) (now : ℕ) :
    Except DevicePoolError Unit × PoolRecord :=
  if (record.expire now).lease.any (fun lease =>
      lease.value.ownerId != ownerId) then
    (.error (.deviceInUse record.deviceId), record.expire now)
  else (.ok (), record.expire now)

def release (leaseId : LeaseId) (ownerId : LeaseOwnerId) (now : ℕ) :
    Except DevicePoolError DeviceLease × PoolRecord :=
  match record.lease with
  | none => (.error .leaseNotFound, record)
  | some lease =>
    if lease.deadline ≤ now then
      (.error .leaseExpired, record.withLease none)
    else if lease.value.id ≠ leaseId ∨ lease.value.ownerId ≠ ownerId then
      (.error .leaseMismatch, record)
    else (.ok lease.value, record.withLease none)

/-- `release_owner`, on one record. -/
def releaseOwner (ownerId : LeaseOwnerId) (now : ℕ) :
    Option DeviceLease × PoolRecord :=
  match record.lease with
  | none => (none, record)
  | some lease =>
    if lease.value.ownerId = ownerId then
      (if now < lease.deadline then some lease.value else none,
        record.withLease none)
    else (none, record)

/-- A call at the gate of a record: its answer, and the record it leaves. -/
def atGate (config : DevicePoolConfig) (request : PoolRequest)
    (record : PoolRecord) (now wallNow : ℕ) (candidate : LeaseId) :
    PoolReply × Option PoolRecord :=
  match request with
  | .remove _ _ =>
    let (result, record) := record.remove now
    (PoolReply.of (fun _ => .removed) result, record)
  | .acquire _ ownerId _ =>
    let (result, record) := record.acquire config ownerId now
      (now + config.leaseTtl) wallNow candidate
    (PoolReply.of .lease result, some record)
  | .accessWithLease leaseId _ ownerId _ requireFreshHealth =>
    let (result, record) := record.accessWithLease config leaseId ownerId now
      (now + config.leaseTtl) wallNow requireFreshHealth
    (PoolReply.of (fun _ => .access) result, some record)
  | .accessAvailableTo _ ownerId _ =>
    let (result, record) := record.accessAvailableTo ownerId now
    (PoolReply.of (fun _ => .access) result, some record)
  | .release leaseId ownerId _ =>
    let (result, record) := record.release leaseId ownerId now
    (PoolReply.of .lease result, some record)
  | .releaseOwner ownerId _ =>
    let (taken, record) := record.releaseOwner ownerId now
    (.leases taken.toList, some record)
  | .releaseAll _ =>
    (.leases (record.lease.map LeaseRecord.value).toList,
      some (record.withLease none))
  | .reapExpired _ =>
    (.leases ((record.lease.filter (fun lease =>
        decide (lease.deadline ≤ now))).map LeaseRecord.value).toList,
      some (record.expire now))
  | .register _ | .recordHealth .. | .entries _ => (.removed, some record)

section

variable (config : DevicePoolConfig) (record : PoolRecord) (now wallNow : ℕ)
  (candidate : LeaseId)

theorem atGate_remove (deviceId : DeviceId) (nowMs : ℕ) :
    record.atGate config (.remove deviceId nowMs) now wallNow candidate =
      (.of (fun _ => .removed) (record.remove now).1,
        (record.remove now).2) := rfl

theorem atGate_acquire (deviceId : DeviceId) (ownerId : LeaseOwnerId)
    (nowMs : ℕ) :
    record.atGate config (.acquire deviceId ownerId nowMs) now wallNow
        candidate =
      (.of .lease (record.acquire config ownerId now (now + config.leaseTtl)
          wallNow candidate).1,
        some (record.acquire config ownerId now (now + config.leaseTtl) wallNow
          candidate).2) := rfl

theorem atGate_accessWithLease (leaseId : LeaseId) (deviceId : DeviceId)
    (ownerId : LeaseOwnerId) (nowMs : ℕ) (requireFreshHealth : Bool) :
    record.atGate config (.accessWithLease leaseId deviceId ownerId nowMs
        requireFreshHealth) now wallNow candidate =
      (.of (fun _ => .access) (record.accessWithLease config leaseId ownerId
          now (now + config.leaseTtl) wallNow requireFreshHealth).1,
        some (record.accessWithLease config leaseId ownerId now
          (now + config.leaseTtl) wallNow requireFreshHealth).2) := rfl

theorem atGate_accessAvailableTo (deviceId : DeviceId)
    (ownerId : LeaseOwnerId) (nowMs : ℕ) :
    record.atGate config (.accessAvailableTo deviceId ownerId nowMs) now wallNow
        candidate =
      (.of (fun _ => .access) (record.accessAvailableTo ownerId now).1,
        some (record.expire now)) := by
  simp only [atGate, accessAvailableTo]
  split <;> rfl

theorem atGate_release (leaseId : LeaseId) (ownerId : LeaseOwnerId)
    (nowMs : ℕ) :
    record.atGate config (.release leaseId ownerId nowMs) now wallNow
        candidate =
      (.of .lease (record.release leaseId ownerId now).1,
        some (record.release leaseId ownerId now).2) := rfl

theorem atGate_releaseOwner (ownerId : LeaseOwnerId) (nowMs : ℕ) :
    record.atGate config (.releaseOwner ownerId nowMs) now wallNow candidate =
      (.leases (record.releaseOwner ownerId now).1.toList,
        some (record.releaseOwner ownerId now).2) := rfl

end

theorem withLease_self : record.withLease record.lease = record := rfl

theorem expire_eq_withLease (now : ℕ) :
    record.expire now = record.withLease (record.expire now).lease := rfl

theorem atGate_access {config : DevicePoolConfig} {request : PoolRequest}
    {record : PoolRecord} {now wallNow : ℕ} {candidate : LeaseId}
    (h : (record.atGate config request now wallNow candidate).1 = .access) :
    (∃ leaseId deviceId ownerId nowMs requireFreshHealth,
        request = .accessWithLease leaseId deviceId ownerId nowMs
          requireFreshHealth) ∨
      ∃ deviceId ownerId nowMs,
        request = .accessAvailableTo deviceId ownerId nowMs := by
  cases request with
  | accessWithLease leaseId deviceId ownerId nowMs requireFreshHealth =>
    exact .inl ⟨_, _, _, _, _, rfl⟩
  | accessAvailableTo deviceId ownerId nowMs => exact .inr ⟨_, _, _, rfl⟩
  | remove _ _ =>
    simp only [atGate] at h
    cases hresult : (record.remove now).1 <;> simp [hresult] at h
  | acquire _ ownerId _ =>
    simp only [atGate] at h
    cases hresult : (record.acquire config ownerId now (now + config.leaseTtl)
      wallNow candidate).1 <;> simp [hresult] at h
  | release leaseId ownerId _ =>
    simp only [atGate] at h
    cases hresult : (record.release leaseId ownerId now).1 <;>
      simp [hresult] at h
  | _ => cases h

/-- What a call at the gate of a record leaves of it. -/
inductive Leaves (record : PoolRecord) (request : PoolRequest) (now : ℕ)
    (candidate : LeaseId) (reply : PoolReply) : Option PoolRecord → Prop
  | same : Leaves record request now candidate reply (some record)
  | expired : Leaves record request now candidate reply
      (some (record.expire now))
  | renewed {lease} (deadline expiresAtMs : ℕ)
      (hlease : record.lease = some lease) :
      Leaves record request now candidate reply
        (some (record.withLease (some (lease.renew deadline expiresAtMs))))
  | installed {deviceId nowMs lease}
      (hrequest : request = .acquire deviceId lease.value.ownerId nowMs)
      (hfree : (record.expire now).lease = none)
      (hid : lease.value.id = candidate)
      (hdevice : lease.value.deviceId = record.deviceId)
      (hreply : reply = .lease lease.value) :
      Leaves record request now candidate reply
        (some (record.withLease (some lease)))
  | taken {lease} (hlease : record.lease = some lease)
      (hrevokes : request.Revokes lease.value.id lease.value.ownerId) :
      Leaves record request now candidate reply (some (record.withLease none))
  | removed {deviceId nowMs} (hrequest : request = .remove deviceId nowMs)
      (hfree : (record.expire now).lease = none) :
      Leaves record request now candidate reply none

section

variable {config : DevicePoolConfig} {request : PoolRequest}
  {record record' : PoolRecord} {now wallNow : ℕ} {candidate : LeaseId}
  {lease : LeaseRecord}

theorem expire_lease_eq_some :
    (record.expire now).lease = some lease ↔
      record.lease = some lease ∧ now < lease.deadline := by
  simp [expire, Option.filter_eq_some_iff]

theorem Leaves.overdue {reply : PoolReply} (hlease : record.lease = some lease)
    (hdeadline : lease.deadline ≤ now) :
    Leaves record request now candidate reply
      (some (record.withLease none)) := by
  have hnone : (record.expire now).lease = none := by
    simp [expire, hlease, Option.filter, Nat.not_lt.mpr hdeadline]
  rw [← hnone, ← expire_eq_withLease]
  exact .expired

theorem atGate_leaves :
    record.Leaves request now candidate
      (record.atGate config request now wallNow candidate).1
      (record.atGate config request now wallNow candidate).2 := by
  cases request with
  | remove deviceId nowMs =>
    rw [atGate_remove, remove]
    split
    · exact .expired
    next hfree => exact .removed rfl (Option.not_isSome_iff_eq_none.mp hfree)
  | acquire deviceId ownerId nowMs =>
    rw [atGate_acquire, acquire]
    split
    · exact .expired
    split
    next lease hlease =>
      split
      · exact .expired
      · exact .renewed _ _ (expire_lease_eq_some.mp hlease).1
    next hfree => exact .installed rfl hfree rfl rfl rfl
  | accessWithLease leaseId deviceId ownerId nowMs requireFreshHealth =>
    rw [atGate_accessWithLease, accessWithLease]
    split
    · exact .same
    split
    · exact .same
    next lease hlease =>
      split
      next hdeadline => exact .overdue hlease hdeadline
      split
      · exact .same
      · exact .renewed _ _ hlease
  | accessAvailableTo _ _ _ =>
    rw [atGate_accessAvailableTo]
    exact .expired
  | release leaseId ownerId nowMs =>
    rw [atGate_release, release]
    split
    · exact .same
    next lease hlease =>
      split
      next hdeadline => exact .overdue hlease hdeadline
      split
      · exact .same
      next hmatch =>
        simp only [not_or, not_not] at hmatch
        obtain ⟨rfl, rfl⟩ := hmatch
        exact .taken hlease (.release nowMs)
  | releaseOwner ownerId nowMs =>
    rw [atGate_releaseOwner, releaseOwner]
    split
    · exact .same
    next lease hlease =>
      split
      next howner =>
        subst howner
        exact .taken hlease (.releaseOwner nowMs)
      · exact .same
  | releaseAll nowMs =>
    cases hlease : record.lease with
    | none =>
      rw [atGate, ← hlease, withLease_self]
      exact .same
    | some lease => exact .taken hlease (.releaseAll nowMs)
  | reapExpired _ => exact .expired
  | _ => exact .same

section

variable
  (h : (record.atGate config request now wallNow candidate).2 = some record')
include h

/-- A call at a gate changes the lease of the record, or removes it. -/
theorem atGate_eq_withLease : ∃ lease, record' = record.withLease lease := by
  cases h ▸ atGate_leaves <;> exact ⟨_, rfl⟩

/-- A lease appears on a record through an acquisition of its owner. -/
theorem atGate_lease_owner {lease' : LeaseRecord}
    (hlease' : record'.lease = some lease') :
    (∃ lease, record.lease = some lease ∧
        lease'.value.id = lease.value.id ∧
        lease'.value.ownerId = lease.value.ownerId) ∨
      ∃ deviceId nowMs,
        request = .acquire deviceId lease'.value.ownerId nowMs ∧
        lease'.value.id = candidate ∧ lease'.value.deviceId = record.deviceId ∧
        (record.atGate config request now wallNow candidate).1 =
          .lease lease'.value := by
  cases h ▸ atGate_leaves with
  | same => exact .inl ⟨lease', hlease', rfl, rfl⟩
  | expired =>
    exact .inl ⟨lease', (expire_lease_eq_some.mp hlease').1, rfl, rfl⟩
  | renewed _ _ hlease =>
    cases hlease'
    exact .inl ⟨_, hlease, rfl, rfl⟩
  | installed hrequest _ hid hdevice hreply =>
    cases hlease'
    exact .inr ⟨_, _, hrequest, hid, hdevice, hreply⟩
  | taken => cases hlease'

end

end

end PoolRecord

/-! ## Lookups after the primitives of the state -/

namespace PoolState

variable {state : PoolState} {deviceId : DeviceId} {lease : LeaseRecord}

theorem leaseOf_eq_some :
    state.leaseOf deviceId = some lease ↔
      ∃ record, state.devices.lookup deviceId = some record ∧
        record.lease = some lease := by
  simp [leaseOf, Option.bind_eq_some_iff]

variable {record : PoolRecord} {gate : GateId} {after : PoolState}
  {other : DeviceId} {outcome : Option (PoolReply × PoolState)}

theorem leaseOf_of_lookup (h : state.devices.lookup deviceId = some record) :
    state.leaseOf deviceId = record.lease := by
  simp [leaseOf, h]

theorem lookup_setLease (lease : Option LeaseRecord) (other : DeviceId) :
    (state.setLease deviceId lease).lookup other =
      if other = deviceId then
        (state.devices.lookup deviceId).map (fun record =>
          record.withLease lease)
      else state.devices.lookup other :=
  KeyedMap.lookup_adjust _ _ _ _

@[simp] theorem devices_advanceWallClock (nowMs : ℕ) :
    (state.advanceWallClock nowMs).devices = state.devices := rfl

theorem takeLease_fst : (state.takeLease deviceId).1 = state.leaseOf deviceId := by
  unfold takeLease
  split
  next h => rw [h]
  next lease h => rw [h]

theorem lookup_takeLease (other : DeviceId) :
    (state.takeLease deviceId).2.devices.lookup other =
      if other = deviceId then
        (state.devices.lookup deviceId).map (fun record =>
          record.withLease none)
      else state.devices.lookup other := by
  unfold takeLease
  split
  next hnone =>
    by_cases hother : other = deviceId
    · subst hother
      cases hlookup : state.devices.lookup other with
      | none => simp
      | some record =>
        rw [leaseOf_of_lookup hlookup] at hnone
        obtain ⟨_, _, _, _, _⟩ := record
        subst hnone
        simp [PoolRecord.withLease]
    · simp [hother]
  next lease _ => exact lookup_setLease none other

theorem lookup_expireLease (now : ℕ) (other : DeviceId) :
    (state.expireLease deviceId now).2.devices.lookup other =
      if other = deviceId then
        (state.devices.lookup deviceId).map (fun record => record.expire now)
      else state.devices.lookup other := by
  unfold expireLease
  split
  next hexpired =>
    obtain ⟨lease, hlease, hdeadline⟩ := (Option.any_eq_true _ _).mp hexpired
    obtain ⟨record, hlookup, hrecord⟩ := leaseOf_eq_some.mp hlease
    have hle : lease.deadline ≤ now := of_decide_eq_true hdeadline
    have hexpire : record.expire now = record.withLease none := by
      simp [PoolRecord.expire, PoolRecord.withLease, hrecord, Option.filter,
        Nat.not_lt.mpr hle]
    simp [lookup_takeLease, hlookup, Option.map_some, hexpire]
  next hcurrent =>
    by_cases hother : other = deviceId
    · subst hother
      cases hlookup : state.devices.lookup other with
      | none => simp
      | some record =>
        rw [leaseOf_of_lookup hlookup] at hcurrent
        have hexpire : record.expire now = record := by
          cases record with
          | mk _ _ _ lease _ =>
            cases lease with
            | none => rfl
            | some lease =>
              have hlt : now < lease.deadline := by simpa using hcurrent
              simp [PoolRecord.expire, Option.filter, hlt]
        simp [hexpire]
    · simp [hother]

/-- The state after a renewal. -/
def renewed (state : PoolState) (deviceId : DeviceId) (lease : LeaseRecord)
    (deadline expiresAtMs : ℕ) : PoolState :=
  { state with
    devices := state.setLease deviceId (some (lease.renew deadline expiresAtMs))
    leaseDeadlines := insert (deadline, lease.value.id)
      (state.leaseDeadlines.erase (lease.deadline, lease.value.id)) }

/-- The state after an installation. -/
def installed (state : PoolState) (deviceId : DeviceId) (lease : LeaseRecord) :
    PoolState :=
  { state with
    devices := state.setLease deviceId (some lease)
    leaseDevices := state.leaseDevices.insert lease.value.id deviceId
    ownerLeases := state.ownerLeases.insert lease.value.ownerId
      (insert lease.value.id (state.leasesOf lease.value.ownerId))
    leaseDeadlines :=
      insert (lease.deadline, lease.value.id) state.leaseDeadlines }

theorem renewLease_of_lease (deadline expiresAtMs : ℕ)
    (h : state.leaseOf deviceId = some lease) :
    state.renewLease deviceId deadline expiresAtMs =
      some (some (lease.renew deadline expiresAtMs).value,
        state.renewed deviceId lease deadline expiresAtMs) := by
  have hagain : PoolState.leaseOf { state with
      leaseDeadlines :=
        state.leaseDeadlines.erase (lease.deadline, lease.value.id) }
      deviceId = some lease := h
  simp only [renewLease, h, Option.map_some, hagain]
  rfl

/-! ## The operations at a current gate -/

theorem ensureCurrentGate_eq_ok :
    state.ensureCurrentGate deviceId gate = .ok () ↔
      ∃ record, state.devices.lookup deviceId = some record ∧
        record.gate = gate := by
  unfold ensureCurrentGate
  split
  next h => simp [h]
  next record h => by_cases hgate : record.gate = gate <;> simp [h, hgate]

/-- The primitive changes of the state. -/
inductive Edit (state : PoolState) : PoolState → Prop
  | wallClock (nowMs : ℕ) : Edit state (state.advanceWallClock nowMs)
  | taken (deviceId : DeviceId) : Edit state (state.takeLease deviceId).2
  | renewed {deviceId : DeviceId} {lease : LeaseRecord}
      (deadline expiresAtMs : ℕ)
      (hlease : state.leaseOf deviceId = some lease) :
      Edit state (state.renewed deviceId lease deadline expiresAtMs)
  | installed {deviceId : DeviceId} {record : PoolRecord} (lease : LeaseRecord)
      (hlookup : state.devices.lookup deviceId = some record)
      (hfree : record.lease = none)
      (hfresh : lease.value.id ∉ state.leaseDevices)
      (hdevice : lease.value.deviceId = deviceId) :
      Edit state (state.installed deviceId lease)
  | registered {deviceId : DeviceId} (gate : GateId)
      (habsent : state.devices.lookup deviceId = none) :
      Edit state
        { state with
          devices := state.devices.insert deviceId
            ⟨deviceId, .unknown, none, none, gate⟩ }
  | removed {deviceId : DeviceId} {record : PoolRecord}
      (hlookup : state.devices.lookup deviceId = some record)
      (hfree : record.lease = none) :
      Edit state { state with devices := state.devices.erase deviceId }
  | health (deviceId : DeviceId) (health : PoolHealth)
      (checkedAt : Option ℕ) :
      Edit state
        { state with
          devices := state.devices.adjust deviceId (fun record =>
            { record with health := health, healthCheckedAt := checkedAt }) }

/-- `after` comes from `state` by primitive changes and differs from it at one
device at most, where it has `record`. -/
structure Becomes (state : PoolState) (deviceId : DeviceId)
    (record : Option PoolRecord) (after : PoolState) : Prop where
  edits : Relation.ReflTransGen Edit state after
  lookup : ∀ other, after.devices.lookup other =
    if other = deviceId then record else state.devices.lookup other

theorem Becomes.same (h : state.devices.lookup deviceId = some record) :
    state.Becomes deviceId (some record) state := by
  refine ⟨.refl, fun other => ?_⟩
  by_cases hother : other = deviceId
  · subst hother
    simp [h]
  · simp [hother]

theorem Becomes.trans {middle : PoolState} {record record' : Option PoolRecord}
    (h : state.Becomes deviceId record middle)
    (h' : middle.Becomes deviceId record' after) :
    state.Becomes deviceId record' after := by
  refine ⟨h.edits.trans h'.edits, fun other => ?_⟩
  rw [h'.lookup other]
  by_cases hother : other = deviceId
  · simp [hother]
  · simp [hother, h.lookup other]

theorem Becomes.lookup_self {record : Option PoolRecord}
    (h : state.Becomes deviceId record after) :
    after.devices.lookup deviceId = record := by
  simp [h.lookup]

theorem Becomes.lookup_of_ne {record : Option PoolRecord}
    (h : state.Becomes deviceId record after) (hne : other ≠ deviceId) :
    after.devices.lookup other = state.devices.lookup other :=
  (h.lookup other).trans (if_neg hne)

section

variable {record : PoolRecord}
  (hlookup : state.devices.lookup deviceId = some record)

include hlookup

theorem becomes_advanceWallClock (nowMs : ℕ) :
    state.Becomes deviceId (some record) (state.advanceWallClock nowMs) :=
  ⟨.single (.wallClock nowMs), (Becomes.same hlookup).lookup⟩

theorem becomes_takeLease :
    state.Becomes deviceId (some (record.withLease none))
      (state.takeLease deviceId).2 := by
  refine ⟨.single (.taken deviceId), fun other => ?_⟩
  simp [lookup_takeLease, hlookup]

theorem becomes_expireLease (now : ℕ) :
    state.Becomes deviceId (some (record.expire now))
      (state.expireLease deviceId now).2 := by
  refine ⟨?_, fun other => by simp [lookup_expireLease, hlookup]⟩
  unfold expireLease
  split
  · exact .single (.taken deviceId)
  · exact .refl

theorem becomes_renewed (deadline expiresAtMs : ℕ)
    (hlease : record.lease = some lease) :
    state.Becomes deviceId
      (some (record.withLease (some (lease.renew deadline expiresAtMs))))
      (state.renewed deviceId lease deadline expiresAtMs) := by
  have hof : state.leaseOf deviceId = some lease :=
    leaseOf_eq_some.mpr ⟨record, hlookup, hlease⟩
  refine ⟨.single (.renewed deadline expiresAtMs hof), fun other => ?_⟩
  simp [renewed, lookup_setLease, hlookup]

theorem becomes_installed (lease : LeaseRecord) (hfree : record.lease = none)
    (hfresh : lease.value.id ∉ state.leaseDevices)
    (hdevice : lease.value.deviceId = deviceId) :
    state.Becomes deviceId (some (record.withLease (some lease)))
      (state.installed deviceId lease) := by
  refine ⟨.single (.installed lease hlookup hfree hfresh hdevice), fun other => ?_⟩
  simp [installed, lookup_setLease, hlookup]

theorem becomes_erase (hfree : record.lease = none) :
    state.Becomes deviceId none
      { state with devices := state.devices.erase deviceId } := by
  refine ⟨.single (.removed hlookup hfree), fun other => ?_⟩
  exact KeyedMap.lookup_erase_ite _ _ _

theorem becomes_expired (now nowMs : ℕ) :
    state.Becomes deviceId (some (record.expire now))
      ((state.advanceWallClock nowMs).expireLease deviceId now).2 :=
  (becomes_advanceWallClock hlookup nowMs).trans
    (becomes_expireLease (becomes_advanceWallClock hlookup nowMs).lookup_self
      now)

variable (hgate : record.gate = gate)

include hgate

theorem ensureCurrentGate_of_lookup :
    state.ensureCurrentGate deviceId gate = .ok () :=
  ensureCurrentGate_eq_ok.mpr ⟨record, hlookup, hgate⟩

variable (hid : record.deviceId = deviceId) {config : DevicePoolConfig}
  {now : ℕ} {candidate : LeaseId}

include hid

theorem remove_current (now nowMs : ℕ) :
    (state.remove deviceId gate now nowMs).1 = (record.remove now).1 ∧
      state.Becomes deviceId (record.remove now).2
        (state.remove deviceId gate now nowMs).2 := by
  have hexpired := becomes_expired hlookup now nowMs
  have hself := hexpired.lookup_self
  unfold remove PoolRecord.remove
  rw [ensureCurrentGate_of_lookup hlookup hgate]
  simp only [hself]
  by_cases hleased : (record.expire now).lease.isSome
  · simp only [hleased, if_true, hid]
    exact ⟨trivial, hexpired⟩
  · simp only [hleased, Bool.false_eq_true, if_false]
    have hfree : (record.expire now).lease = none := by simpa using hleased
    exact ⟨trivial, hexpired.trans (becomes_erase hself hfree)⟩

theorem acquire_current {ownerId : LeaseOwnerId} {deadline nowMs : ℕ}
    {ran : Ran DeviceLease}
    (h : state.acquire config deviceId gate ownerId now deadline nowMs
      candidate = some ran) :
    ∃ after, ran = .returned (record.acquire config ownerId now deadline
        (max state.wallHighWaterMs nowMs) candidate).1 after ∧
      state.Becomes deviceId (some (record.acquire config ownerId now deadline
        (max state.wallHighWaterMs nowMs) candidate).2) after := by
  have hexpired := becomes_expired hlookup now nowMs
  have hself := hexpired.lookup_self
  have hhealth : ensureHealthy (record.expire now) now config.healthValidity =
      ensureHealthy record now config.healthValidity := rfl
  unfold acquire at h
  rw [ensureCurrentGate_of_lookup hlookup hgate] at h
  simp only [hself, hhealth] at h
  unfold PoolRecord.acquire
  cases hcheck : ensureHealthy record now config.healthValidity with
  | error error =>
    simp only [hcheck] at h ⊢
    cases h
    exact ⟨_, rfl, hexpired⟩
  | ok _ =>
    simp only [hcheck] at h ⊢
    cases hlease : (record.expire now).lease with
    | some lease =>
      simp only [hlease] at h ⊢
      split at h
      next howner =>
        cases h
        rw [if_pos howner, hid]
        exact ⟨_, rfl, hexpired⟩
      next howner =>
        rw [if_neg howner]
        have hof := (leaseOf_of_lookup hself).trans hlease
        rw [renewLease_of_lease _ _ hof] at h
        cases h
        exact ⟨_, rfl, hexpired.trans (becomes_renewed hself _ _ hlease)⟩
    | none =>
      simp only [hlease] at h ⊢
      split at h
      next => cases h
      next hfresh =>
        simp only [installLease, hself] at h
        cases h
        rw [hid]
        exact ⟨_, rfl, hexpired.trans
          (becomes_installed hself _ hlease hfresh rfl)⟩

theorem accessWithLease_current (config : DevicePoolConfig) (leaseId : LeaseId)
    (ownerId : LeaseOwnerId) (now deadline nowMs : ℕ)
    (requireFreshHealth : Bool) :
    ∃ after, state.accessWithLease config leaseId deviceId gate ownerId now
        deadline nowMs requireFreshHealth =
        .returned (record.accessWithLease config leaseId ownerId now deadline
          (max state.wallHighWaterMs nowMs) requireFreshHealth).1 after ∧
      state.Becomes deviceId (some (record.accessWithLease config leaseId
        ownerId now deadline (max state.wallHighWaterMs nowMs)
        requireFreshHealth).2) after := by
  have hadvanced := becomes_advanceWallClock hlookup nowMs
  unfold accessWithLease PoolRecord.accessWithLease
  rw [ensureCurrentGate_of_lookup hlookup hgate]
  simp only [devices_advanceWallClock, hlookup, hid]
  cases hcheck : (if requireFreshHealth = true then
      ensureHealthy record now config.healthValidity else .ok ()) with
  | error error => exact ⟨_, rfl, hadvanced⟩
  | ok _ =>
    cases hlease : record.lease with
    | none => exact ⟨_, rfl, hadvanced⟩
    | some lease =>
      by_cases hexpired : lease.deadline ≤ now
      · simp only [if_pos hexpired]
        exact ⟨_, rfl, hadvanced.trans
          (becomes_takeLease hadvanced.lookup_self)⟩
      · by_cases hmismatch : lease.value.id ≠ leaseId ∨
            lease.value.ownerId ≠ ownerId ∨
            lease.value.deviceId ≠ deviceId
        · simp only [if_neg hexpired, if_pos hmismatch]
          exact ⟨_, rfl, hadvanced⟩
        · have hof := (leaseOf_of_lookup hadvanced.lookup_self).trans hlease
          simp only [if_neg hexpired, if_neg hmismatch,
            renewLease_of_lease _ _ hof]
          exact ⟨_, rfl, hadvanced.trans
            (becomes_renewed hadvanced.lookup_self _ _ hlease)⟩

theorem accessAvailableTo_current (ownerId : LeaseOwnerId) (now nowMs : ℕ) :
    (state.accessAvailableTo deviceId gate ownerId now nowMs).1 =
        (record.accessAvailableTo ownerId now).1 ∧
      state.Becomes deviceId (some (record.accessAvailableTo ownerId now).2)
        (state.accessAvailableTo deviceId gate ownerId now nowMs).2 := by
  have hexpired := becomes_expired hlookup now nowMs
  have hself := hexpired.lookup_self
  unfold accessAvailableTo PoolRecord.accessAvailableTo
  rw [ensureCurrentGate_of_lookup hlookup hgate]
  simp only [hself, hid]
  by_cases hother : (record.expire now).lease.any (fun lease =>
      lease.value.ownerId != ownerId)
  · simp only [if_pos hother]
    exact ⟨trivial, hexpired⟩
  · simp only [if_neg hother]
    exact ⟨trivial, hexpired⟩

omit hid in
theorem release_current (leaseId : LeaseId) (ownerId : LeaseOwnerId)
    (now nowMs : ℕ) :
    ∃ after, state.release leaseId ownerId deviceId gate now nowMs =
        .returned (record.release leaseId ownerId now).1 after ∧
      state.Becomes deviceId (some (record.release leaseId ownerId now).2)
        after := by
  have hadvanced := becomes_advanceWallClock hlookup nowMs
  have htaken := hadvanced.trans (becomes_takeLease hadvanced.lookup_self)
  unfold release PoolRecord.release
  rw [ensureCurrentGate_of_lookup hlookup hgate]
  simp only [devices_advanceWallClock, hlookup]
  cases hlease : record.lease with
  | none => exact ⟨_, rfl, hadvanced⟩
  | some lease =>
    by_cases hexpired : lease.deadline ≤ now
    · simp only [if_pos hexpired]
      exact ⟨_, rfl, htaken⟩
    · by_cases hmismatch : lease.value.id ≠ leaseId ∨
          lease.value.ownerId ≠ ownerId
      · simp only [if_neg hexpired, if_pos hmismatch]
        exact ⟨_, rfl, hadvanced⟩
      · simp only [if_neg hexpired, if_neg hmismatch]
        have hfst : ((state.advanceWallClock nowMs).takeLease deviceId).1 =
            some lease := by
          rw [takeLease_fst, leaseOf_of_lookup hadvanced.lookup_self, hlease]
        generalize (state.advanceWallClock nowMs).takeLease deviceId =
          outcome at hfst htaken ⊢
        obtain ⟨taken, after⟩ := outcome
        cases hfst
        exact ⟨_, rfl, htaken⟩

omit hid in
theorem releaseOwnerTarget_current (ownerId : LeaseOwnerId) (now nowMs : ℕ) :
    (state.releaseOwnerTarget ownerId deviceId gate now nowMs).1 =
        (record.releaseOwner ownerId now).1 ∧
      state.Becomes deviceId (some (record.releaseOwner ownerId now).2)
        (state.releaseOwnerTarget ownerId deviceId gate now nowMs).2 := by
  have hadvanced := becomes_advanceWallClock hlookup nowMs
  have htaken := hadvanced.trans (becomes_takeLease hadvanced.lookup_self)
  have hof := leaseOf_of_lookup hadvanced.lookup_self
  unfold releaseOwnerTarget PoolRecord.releaseOwner
  rw [ensureCurrentGate_of_lookup hlookup hgate]
  simp only [hof]
  cases hlease : record.lease with
  | none => exact ⟨rfl, hadvanced⟩
  | some lease =>
    by_cases howner : lease.value.ownerId = ownerId
    · have htake := takeLease_fst.trans (hof.trans hlease)
      simp only [Option.any_some, howner, decide_true, if_true, htake]
      refine ⟨?_, htaken⟩
      by_cases hlive : now < lease.deadline <;> simp [hlive, Option.filter]
    · simp only [Option.any_some, howner, decide_false, Bool.false_eq_true,
        if_false]
      exact ⟨trivial, hadvanced⟩

omit hid in
theorem releaseAllTarget_current (nowMs : ℕ) :
    (state.releaseAllTarget deviceId gate nowMs).1 =
        record.lease.map LeaseRecord.value ∧
      state.Becomes deviceId (some (record.withLease none))
        (state.releaseAllTarget deviceId gate nowMs).2 := by
  have hadvanced := becomes_advanceWallClock hlookup nowMs
  have htake := takeLease_fst.trans (leaseOf_of_lookup hadvanced.lookup_self)
  unfold releaseAllTarget
  rw [ensureCurrentGate_of_lookup hlookup hgate]
  simp only [htake]
  exact ⟨trivial, hadvanced.trans (becomes_takeLease hadvanced.lookup_self)⟩

omit hid in
theorem reapTarget_current (now nowMs : ℕ) :
    (state.reapTarget deviceId gate now nowMs).1 =
        (record.lease.filter (fun lease => decide (lease.deadline ≤ now))).map
          LeaseRecord.value ∧
      state.Becomes deviceId (some (record.expire now))
        (state.reapTarget deviceId gate now nowMs).2 := by
  have hexpired := becomes_expired hlookup now nowMs
  have hof := leaseOf_of_lookup
    (becomes_advanceWallClock hlookup nowMs).lookup_self
  unfold reapTarget
  rw [ensureCurrentGate_of_lookup hlookup hgate]
  refine ⟨?_, hexpired⟩
  unfold expireLease
  rw [hof]
  cases hlease : record.lease with
  | none => rfl
  | some lease =>
    have htake := takeLease_fst.trans (hof.trans hlease)
    by_cases hdeadline : lease.deadline ≤ now
    · simp [hdeadline, htake, Option.filter]
    · simp [hdeadline, Option.filter]

/-- At a current gate a call does to the state what it does to the record, and
does not panic. -/
theorem atGate_current {request : PoolRequest}
    (h : state.atGate config request deviceId gate now candidate =
      some outcome) :
    ∃ after, outcome = some ((record.atGate config request now
        (max state.wallHighWaterMs request.nowMs) candidate).1, after) ∧
      state.Becomes deviceId (record.atGate config request now
        (max state.wallHighWaterMs request.nowMs) candidate).2 after := by
  cases request <;> simp only [atGate, Option.some.injEq, reduceCtorEq] at h
  case acquire =>
    obtain ⟨ran, hran, rfl⟩ := Option.map_eq_some_iff.mp h
    obtain ⟨after, rfl, hbecomes⟩ := acquire_current hlookup hgate hid hran
    exact ⟨after, rfl, hbecomes⟩
  all_goals subst h
  case accessWithLease leaseId _ ownerId nowMs requireFreshHealth =>
    obtain ⟨after, hran, hbecomes⟩ := accessWithLease_current hlookup hgate hid
      config leaseId ownerId now (now + config.leaseTtl) nowMs
      requireFreshHealth
    exact ⟨after, by rw [hran]; rfl, hbecomes⟩
  case release leaseId ownerId nowMs =>
    obtain ⟨after, hran, hbecomes⟩ :=
      release_current hlookup hgate leaseId ownerId now nowMs
    exact ⟨after, by rw [hran]; rfl, hbecomes⟩
  case' remove _ nowMs =>
    have hran := remove_current hlookup hgate hid now nowMs
  case' accessAvailableTo _ ownerId nowMs =>
    have hran := accessAvailableTo_current hlookup hgate hid ownerId now nowMs
  case' releaseOwner ownerId nowMs =>
    have hran := releaseOwnerTarget_current hlookup hgate ownerId now nowMs
  case' releaseAll nowMs =>
    have hran := releaseAllTarget_current hlookup hgate nowMs
  case' reapExpired nowMs =>
    have hran := reapTarget_current hlookup hgate now nowMs
  all_goals exact ⟨_, by rw [hran.1]; rfl, hran.2⟩

end

theorem atGate_stale {config : DevicePoolConfig} {request : PoolRequest}
    {now : ℕ} {candidate : LeaseId} {error : DevicePoolError}
    (hstale : state.ensureCurrentGate deviceId gate = .error error)
    (h : state.atGate config request deviceId gate now candidate =
      some outcome) : outcome = some (request.refused error, state) := by
  cases request with
  | remove _ _ => simpa [atGate, remove, hstale] using h.symm
  | acquire _ _ _ => simpa [atGate, acquire, hstale, Ran.map] using h.symm
  | accessWithLease _ _ _ _ _ =>
    simpa [atGate, accessWithLease, hstale, Ran.map] using h.symm
  | accessAvailableTo _ _ _ =>
    simpa [atGate, accessAvailableTo, hstale] using h.symm
  | release _ _ _ => simpa [atGate, release, hstale, Ran.map] using h.symm
  | releaseOwner _ _ => simpa [atGate, releaseOwnerTarget, hstale] using h.symm
  | releaseAll _ => simpa [atGate, releaseAllTarget, hstale] using h.symm
  | reapExpired _ => simpa [atGate, reapTarget, hstale] using h.symm
  | _ => cases h

/-! ## Operations without a gate -/

theorem register_cases (state : PoolState) (deviceId : DeviceId)
    (gate : GateId) :
    (∃ error, state.register deviceId gate = (.error error, state)) ∨
      (state.devices.lookup deviceId = none ∧
        (state.register deviceId gate).1 = .ok ⟨deviceId, gate⟩ ∧
        state.Becomes deviceId (some ⟨deviceId, .unknown, none, none, gate⟩)
          (state.register deviceId gate).2) := by
  unfold register
  split
  · exact .inl ⟨_, rfl⟩
  split
  · exact .inl ⟨_, rfl⟩
  next habsent =>
    refine .inr ⟨habsent, rfl, .single (.registered gate habsent),
      fun other => ?_⟩
    exact KeyedMap.lookup_insert_ite _ _ _ _

theorem lookup_register
    (h : (state.register deviceId gate).2.devices.lookup other = some record) :
    state.devices.lookup other = some record ∨
      other = deviceId ∧ record.gate = gate := by
  rcases state.register_cases deviceId gate with
    ⟨error, herror⟩ | ⟨-, -, hbecomes⟩
  · rw [herror] at h
    exact .inl h
  · rw [hbecomes.lookup] at h
    split at h
    next heq =>
      cases h
      exact .inr ⟨heq, rfl⟩
    next => exact .inl h

theorem recordHealth_cases (state : PoolState)
    (registration : DeviceRegistrationToken) (health : PoolHealth)
    (now nowMs : ℕ) :
    (∃ error, state.recordHealth registration health now nowMs =
        (.error error, state)) ∨
      ∃ record, state.devices.lookup registration.deviceId = some record ∧
        record.gate = registration.gate ∧
        (∃ recorded, (state.recordHealth registration health now nowMs).1 =
          .ok recorded) ∧
        state.Becomes registration.deviceId
          (some (record.recordHealth health now
            (max state.wallHighWaterMs nowMs)))
          (state.recordHealth registration health now nowMs).2 := by
  unfold recordHealth
  cases hgate : state.ensureCurrentGate registration.deviceId
      registration.gate with
  | error error => exact .inl ⟨error, rfl⟩
  | ok _ =>
    obtain ⟨record, hlookup, hcurrent⟩ := ensureCurrentGate_eq_ok.mp hgate
    refine .inr ⟨record, hlookup, hcurrent, ?_⟩
    simp only [devices_advanceWallClock, hlookup]
    have hadvanced := becomes_advanceWallClock hlookup nowMs
    refine ⟨⟨_, rfl⟩, hadvanced.trans ⟨.single (.health ..), fun other => ?_⟩⟩
    rw [KeyedMap.lookup_adjust]
    simp only [devices_advanceWallClock, hlookup, Option.map_some]
    rfl

end PoolState

end DeviceRail
