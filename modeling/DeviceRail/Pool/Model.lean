import DeviceRail.Protocol.Ui
import DeviceRail.Support.KeyedMap
import Mathlib.Algebra.Group.Nat.Defs
import Mathlib.Data.Finset.Basic

/-!
# The device pool

The inventory of devices with health and exclusive, expiring leases: the data
of the pool, and what each of its operations does while the state is locked.
Instants are nanoseconds of a monotonic clock; wall-clock values are
milliseconds and only kept for diagnosis.
-/

namespace DeviceRail

/-! ## Data -/

def maxDurationMs : ℕ := 24 * 60 * 60 * 1000

def maxHealthCodeBytes : ℕ := 64

inductive DevicePoolError where
  | invalidConfiguration
  | invalidHealthCode
  | invalidDeviceId
  | deviceAlreadyRegistered (deviceId : DeviceId)
  | deviceNotFound (deviceId : DeviceId)
  | deviceRegistrationChanged (deviceId : DeviceId)
  | healthUnknown (deviceId : DeviceId)
  | healthStale (deviceId : DeviceId)
  | deviceUnhealthy (deviceId : DeviceId) (code : String)
  | deviceInUse (deviceId : DeviceId)
  | leaseNotFound
  | leaseMismatch
  | leaseExpired
  | deviceLeased (deviceId : DeviceId)
deriving DecidableEq, Repr

/-- Runtime policy for leases and health freshness, within its bounds. -/
structure DevicePoolConfig where
  leaseTtlMs : ℕ
  healthValidityMs : ℕ
  leaseTtl_pos : 0 < leaseTtlMs
  leaseTtl_le : leaseTtlMs ≤ maxDurationMs
  healthValidity_pos : 0 < healthValidityMs
  healthValidity_le : healthValidityMs ≤ maxDurationMs

namespace DevicePoolConfig

def new (leaseTtlMs healthValidityMs : ℕ) :
    Except DevicePoolError DevicePoolConfig :=
  if h : 0 < leaseTtlMs ∧ leaseTtlMs ≤ maxDurationMs ∧
      0 < healthValidityMs ∧ healthValidityMs ≤ maxDurationMs then
    .ok ⟨leaseTtlMs, healthValidityMs, h.1, h.2.1, h.2.2.1, h.2.2.2⟩
  else .error .invalidConfiguration

def default : DevicePoolConfig where
  leaseTtlMs := 5 * 60 * 1000
  healthValidityMs := 30 * 1000
  leaseTtl_pos := by decide
  leaseTtl_le := by decide
  healthValidity_pos := by decide
  healthValidity_le := by decide

end DevicePoolConfig

/-- Nanoseconds of a number of milliseconds. -/
def fromMillis (ms : ℕ) : ℕ := ms * 1000000

def DevicePoolConfig.leaseTtl (config : DevicePoolConfig) : ℕ :=
  fromMillis config.leaseTtlMs

def DevicePoolConfig.healthValidity (config : DevicePoolConfig) : ℕ :=
  fromMillis config.healthValidityMs

/-- The largest instant of the clock, whose seconds are a signed 64-bit
number. -/
def maxInstant : ℕ := 2 ^ 63 * 1000000000 - 1

/-- `Instant::checked_add`. -/
def checkedAddInstant (instant duration : ℕ) : Option ℕ :=
  if instant + duration ≤ maxInstant then some (instant + duration) else none

/-- `u64::saturating_add`. -/
def saturatingAddMs (a b : ℕ) : ℕ := min (a + b) (2 ^ 64 - 1)

structure LeaseId where
  uuid : Uuid
deriving DecidableEq, Repr

structure LeaseOwnerId where
  uuid : Uuid
deriving DecidableEq, Repr

structure DeviceLease where
  id : LeaseId
  deviceId : DeviceId
  ownerId : LeaseOwnerId
  issuedAtMs : ℕ
  expiresAtMs : ℕ
deriving DecidableEq, Repr

inductive PoolHealthState where
  | unknown
  | healthy
  | degraded
  | unhealthy
deriving DecidableEq, Repr

structure PoolHealth where
  state : PoolHealthState
  checkedAtMs : Option ℕ
  code : Option String
deriving DecidableEq, Repr

def PoolHealth.unknown : PoolHealth := ⟨.unknown, none, none⟩

def PoolHealth.healthy (checkedAtMs : ℕ) : PoolHealth :=
  ⟨.healthy, some checkedAtMs, none⟩

structure DevicePoolEntry where
  deviceId : DeviceId
  health : PoolHealth
  lease : Option DeviceLease
deriving DecidableEq, Repr

/-- The identity of one gate, a reader/writer lock behind a pointer. -/
abbrev GateId := ℕ

structure DeviceRegistrationToken where
  deviceId : DeviceId
  gate : GateId
deriving DecidableEq, Repr

structure LeaseRecord where
  value : DeviceLease
  deadline : ℕ
deriving DecidableEq, Repr

/-- The lease with another deadline. -/
def LeaseRecord.renew (lease : LeaseRecord) (deadline expiresAtMs : ℕ) :
    LeaseRecord :=
  ⟨{ lease.value with expiresAtMs := expiresAtMs }, deadline⟩

structure PoolRecord where
  deviceId : DeviceId
  health : PoolHealth
  healthCheckedAt : Option ℕ
  lease : Option LeaseRecord
  gate : GateId
deriving DecidableEq, Repr

def PoolRecord.publicEntry (record : PoolRecord) (now : ℕ) : DevicePoolEntry :=
  { deviceId := record.deviceId
    health := record.health
    lease := (record.lease.filter (fun lease =>
      decide (now < lease.deadline))).map LeaseRecord.value }

/-- `valid_health_code`, on characters. -/
def validHealthCode (code : String) : Bool :=
  !code.toList.isEmpty && decide (code.utf8ByteSize ≤ maxHealthCodeBytes) &&
    code.toList.all (fun c =>
      ('a' ≤ c && c ≤ 'z') || ('0' ≤ c && c ≤ '9') || c == '_' || c == '-' ||
        c == '.')

def validateHealth (health : PoolHealth) : Except DevicePoolError Unit :=
  let accepted := match health.state with
    | .unknown => health.checkedAtMs.isNone && health.code.isNone
    | .healthy => health.checkedAtMs.isSome && health.code.isNone
    | .degraded => health.checkedAtMs.isSome && health.code.any validHealthCode
    | .unhealthy => health.checkedAtMs.isSome && health.code.any validHealthCode
  if accepted then .ok () else .error .invalidHealthCode

def ensureHealthy (record : PoolRecord) (now validity : ℕ) :
    Except DevicePoolError Unit :=
  match record.healthCheckedAt with
  | none => .error (.healthUnknown record.deviceId)
  | some checkedAt =>
    if validity < now - checkedAt then .error (.healthStale record.deviceId)
    else
      match record.health.state with
      | .healthy => .ok ()
      | .degraded => .ok ()
      | .unknown => .error (.healthUnknown record.deviceId)
      | .unhealthy =>
        .error (.deviceUnhealthy record.deviceId
          (record.health.code.getD "unknown"))

/-! ## The state and its indexes -/

structure PoolState where
  wallHighWaterMs : ℕ
  devices : KeyedMap DeviceId PoolRecord
  leaseDevices : KeyedMap LeaseId DeviceId
  ownerLeases : KeyedMap LeaseOwnerId (Finset LeaseId)
  leaseDeadlines : Finset (ℕ × LeaseId)

/-- How an operation ends that may run into an `expect`. -/
inductive Ran (α : Type) where
  | returned (result : Except DevicePoolError α) (state : PoolState)
  | panicked

namespace PoolState

def empty : PoolState := ⟨0, ∅, ∅, ∅, ∅⟩

variable (state : PoolState)

/-- The lease of a device. -/
def leaseOf (deviceId : DeviceId) : Option LeaseRecord :=
  (state.devices.lookup deviceId).bind PoolRecord.lease

/-- The leases an index lists for an owner. -/
def leasesOf (ownerId : LeaseOwnerId) : Finset LeaseId :=
  (state.ownerLeases.lookup ownerId).getD ∅

/-- The lease field of a record. -/
def setLease (deviceId : DeviceId) (lease : Option LeaseRecord) :
    KeyedMap DeviceId PoolRecord :=
  state.devices.adjust deviceId (fun record => { record with lease := lease })

/-- `install_lease`; `none` when the device is not registered and the
`expect` fails. -/
def installLease (deviceId : DeviceId) (lease : LeaseRecord) :
    Option PoolState :=
  let state := { state with
    leaseDevices := state.leaseDevices.insert lease.value.id deviceId
    ownerLeases := state.ownerLeases.insert lease.value.ownerId
      (insert lease.value.id (state.leasesOf lease.value.ownerId))
    leaseDeadlines :=
      insert (lease.deadline, lease.value.id) state.leaseDeadlines }
  match state.devices.lookup deviceId with
  | none => none
  | some _ => some { state with devices := state.setLease deviceId (some lease) }

/-- Remove a lease from an owner's set, and the set when it becomes empty. -/
def dropOwnerLease (value : DeviceLease) :
    KeyedMap LeaseOwnerId (Finset LeaseId) :=
  match state.ownerLeases.lookup value.ownerId with
  | none => state.ownerLeases
  | some leases =>
    if leases.erase value.id = ∅ then state.ownerLeases.erase value.ownerId
    else state.ownerLeases.insert value.ownerId (leases.erase value.id)

def takeLease (deviceId : DeviceId) : Option LeaseRecord × PoolState :=
  match state.leaseOf deviceId with
  | none => (none, state)
  | some lease =>
    (some lease,
      { state with
        devices := state.setLease deviceId none
        leaseDevices := state.leaseDevices.erase lease.value.id
        ownerLeases := state.dropOwnerLease lease.value
        leaseDeadlines :=
          state.leaseDeadlines.erase (lease.deadline, lease.value.id) })

def expireLease (deviceId : DeviceId) (now : ℕ) :
    Option DeviceLease × PoolState :=
  if (state.leaseOf deviceId).any (fun lease =>
      decide (lease.deadline ≤ now)) then
    let (lease, state) := state.takeLease deviceId
    (lease.map LeaseRecord.value, state)
  else (none, state)

/-- `renew_lease`; `none` when its `expect` fails. -/
def renewLease (deviceId : DeviceId) (deadline : ℕ) (expiresAtMs : ℕ) :
    Option (Option DeviceLease × PoolState) :=
  match (state.leaseOf deviceId).map (fun lease =>
      (lease.value.id, lease.deadline)) with
  | none => some (none, state)
  | some (leaseId, previousDeadline) =>
    let state := { state with
      leaseDeadlines := state.leaseDeadlines.erase (previousDeadline, leaseId) }
    match state.leaseOf deviceId with
    | none => none
    | some lease =>
      let renewed := lease.renew deadline expiresAtMs
      some (some renewed.value,
        { state with
          devices := state.setLease deviceId (some renewed)
          leaseDeadlines := insert (deadline, leaseId) state.leaseDeadlines })

/-- `lease_targets`, for lease ids in the order of an iteration. -/
def leaseTargets (leaseIds : List LeaseId) : List (DeviceId × GateId) :=
  leaseIds.filterMap (fun leaseId =>
    (state.leaseDevices.lookup leaseId).bind (fun deviceId =>
      (state.devices.lookup deviceId).map (fun record =>
        (deviceId, record.gate))))

def ensureCurrentGate (deviceId : DeviceId) (gate : GateId) :
    Except DevicePoolError Unit :=
  match state.devices.lookup deviceId with
  | none => .error (.deviceNotFound deviceId)
  | some record =>
    if record.gate ≠ gate then .error (.deviceRegistrationChanged deviceId)
    else .ok ()

def advanceWallClock (suppliedNowMs : ℕ) : PoolState :=
  { state with wallHighWaterMs := max state.wallHighWaterMs suppliedNowMs }

/-! ## Operations, while the state is locked -/

def register (deviceId : DeviceId) (gate : GateId) :
    Except DevicePoolError DeviceRegistrationToken × PoolState :=
  if deviceId.text.toList.all isWhitespace then (.error .invalidDeviceId, state)
  else match state.devices.lookup deviceId with
  | some _ => (.error (.deviceAlreadyRegistered deviceId), state)
  | none =>
    (.ok ⟨deviceId, gate⟩,
      { state with
        devices := state.devices.insert deviceId
          ⟨deviceId, .unknown, none, none, gate⟩ })

def remove (deviceId : DeviceId) (gate : GateId) (now nowMs : ℕ) :
    Except DevicePoolError Unit × PoolState :=
  match state.ensureCurrentGate deviceId gate with
  | .error error => (.error error, state)
  | .ok () =>
    let state := state.advanceWallClock nowMs
    let state := (state.expireLease deviceId now).2
    match state.devices.lookup deviceId with
    | none => (.error (.deviceNotFound deviceId), state)
    | some record =>
      if record.lease.isSome then
        (.error (.deviceLeased deviceId), state)
      else
        (.ok (), { state with devices := state.devices.erase deviceId })

/-- The health that is recorded, and when it was checked. -/
def checkedHealth (health : PoolHealth) (now wallNow : ℕ) :
    PoolHealth × Option ℕ :=
  if health.state = .unknown then
    ({ health with checkedAtMs := none, code := none }, none)
  else ({ health with checkedAtMs := some wallNow }, some now)

def recordHealth (registration : DeviceRegistrationToken) (health : PoolHealth)
    (now nowMs : ℕ) : Except DevicePoolError PoolHealth × PoolState :=
  match state.ensureCurrentGate registration.deviceId registration.gate with
  | .error error => (.error error, state)
  | .ok () =>
    let state := state.advanceWallClock nowMs
    let (health, checkedAt) := checkedHealth health now state.wallHighWaterMs
    match state.devices.lookup registration.deviceId with
    | none => (.error (.deviceNotFound registration.deviceId), state)
    | some _ =>
      (.ok health,
        { state with
          devices := state.devices.adjust registration.deviceId
            (fun record =>
              { record with
                health := health
                healthCheckedAt := checkedAt }) })

/-- `acquire`; `none` while the drawn lease id is in use. -/
def acquire (config : DevicePoolConfig) (state : PoolState)
    (deviceId : DeviceId) (gate : GateId) (ownerId : LeaseOwnerId)
    (now deadline nowMs : ℕ) (candidate : LeaseId) :
    Option (Ran DeviceLease) :=
  match state.ensureCurrentGate deviceId gate with
  | .error error => some (.returned (.error error) state)
  | .ok () =>
    let state := state.advanceWallClock nowMs
    let wallNow := state.wallHighWaterMs
    let state := (state.expireLease deviceId now).2
    match state.devices.lookup deviceId with
    | none => some (.returned (.error (.deviceNotFound deviceId)) state)
    | some record =>
      match ensureHealthy record now config.healthValidity with
      | .error error => some (.returned (.error error) state)
      | .ok () =>
        match record.lease with
        | some lease =>
          if lease.value.ownerId ≠ ownerId then
            some (.returned (.error (.deviceInUse deviceId)) state)
          else
            match state.renewLease deviceId deadline
                (saturatingAddMs wallNow config.leaseTtlMs) with
            | some (some value, state) => some (.returned (.ok value) state)
            | _ => some .panicked
        | none =>
          if candidate ∈ state.leaseDevices then none
          else
            let value : DeviceLease :=
              { id := candidate
                deviceId := deviceId
                ownerId := ownerId
                issuedAtMs := wallNow
                expiresAtMs := saturatingAddMs wallNow config.leaseTtlMs }
            match state.installLease deviceId ⟨value, deadline⟩ with
            | some state => some (.returned (.ok value) state)
            | none => some .panicked

/-- `access_with_lease_inner`. -/
def accessWithLease (config : DevicePoolConfig) (state : PoolState)
    (leaseId : LeaseId) (deviceId : DeviceId) (gate : GateId)
    (ownerId : LeaseOwnerId) (now deadline nowMs : ℕ)
    (requireFreshHealth : Bool) : Ran Unit :=
  match state.ensureCurrentGate deviceId gate with
  | .error error => .returned (.error error) state
  | .ok () =>
    let state := state.advanceWallClock nowMs
    match state.devices.lookup deviceId with
    | none => .returned (.error (.deviceNotFound deviceId)) state
    | some record =>
      match (if requireFreshHealth then
          ensureHealthy record now config.healthValidity else .ok ()) with
      | .error error => .returned (.error error) state
      | .ok () =>
        match record.lease with
        | none => .returned (.error .leaseNotFound) state
        | some lease =>
          if lease.deadline ≤ now then
            .returned (.error .leaseExpired) (state.takeLease deviceId).2
          else if lease.value.id ≠ leaseId ∨
              lease.value.ownerId ≠ ownerId ∨
              lease.value.deviceId ≠ deviceId then
            .returned (.error .leaseMismatch) state
          else
            match state.renewLease deviceId deadline
                (saturatingAddMs state.wallHighWaterMs config.leaseTtlMs) with
            | some (some _, state) => .returned (.ok ()) state
            | _ => .panicked

def accessAvailableTo (deviceId : DeviceId) (gate : GateId)
    (ownerId : LeaseOwnerId) (now nowMs : ℕ) :
    Except DevicePoolError Unit × PoolState :=
  match state.ensureCurrentGate deviceId gate with
  | .error error => (.error error, state)
  | .ok () =>
    let state := state.advanceWallClock nowMs
    let state := (state.expireLease deviceId now).2
    match state.devices.lookup deviceId with
    | none => (.error (.deviceNotFound deviceId), state)
    | some record =>
      if record.lease.any (fun lease => lease.value.ownerId != ownerId) then
        (.error (.deviceInUse deviceId), state)
      else (.ok (), state)

def release (leaseId : LeaseId) (ownerId : LeaseOwnerId) (deviceId : DeviceId)
    (gate : GateId) (now nowMs : ℕ) : Ran DeviceLease :=
  match state.ensureCurrentGate deviceId gate with
  | .error error => .returned (.error error) state
  | .ok () =>
    let state := state.advanceWallClock nowMs
    match state.devices.lookup deviceId with
    | none => .returned (.error (.deviceNotFound deviceId)) state
    | some record =>
      match record.lease with
      | none => .returned (.error .leaseNotFound) state
      | some lease =>
        if lease.deadline ≤ now then
          .returned (.error .leaseExpired) (state.takeLease deviceId).2
        else if lease.value.id ≠ leaseId ∨ lease.value.ownerId ≠ ownerId then
          .returned (.error .leaseMismatch) state
        else
          match state.takeLease deviceId with
          | (some lease, state) => .returned (.ok lease.value) state
          | (none, _) => .panicked

/-- One target of `release_owner`. -/
def releaseOwnerTarget (ownerId : LeaseOwnerId) (deviceId : DeviceId)
    (gate : GateId) (now nowMs : ℕ) : Option DeviceLease × PoolState :=
  match state.ensureCurrentGate deviceId gate with
  | .error _ => (none, state)
  | .ok () =>
    let state := state.advanceWallClock nowMs
    if (state.leaseOf deviceId).any (fun lease =>
        decide (lease.value.ownerId = ownerId)) then
      let (taken, state) := state.takeLease deviceId
      ((taken.filter (fun lease => decide (now < lease.deadline))).map
        LeaseRecord.value, state)
    else (none, state)

/-- One target of `release_all`. -/
def releaseAllTarget (deviceId : DeviceId) (gate : GateId) (nowMs : ℕ) :
    Option DeviceLease × PoolState :=
  match state.ensureCurrentGate deviceId gate with
  | .error _ => (none, state)
  | .ok () =>
    let state := state.advanceWallClock nowMs
    let (taken, state) := state.takeLease deviceId
    (taken.map LeaseRecord.value, state)

/-- One target of `reap_expired`. -/
def reapTarget (deviceId : DeviceId) (gate : GateId) (now nowMs : ℕ) :
    Option DeviceLease × PoolState :=
  match state.ensureCurrentGate deviceId gate with
  | .error _ => (none, state)
  | .ok () => (state.advanceWallClock nowMs).expireLease deviceId now

def entries (state : PoolState) (now nowMs : ℕ) :
    List DevicePoolEntry × PoolState :=
  let state := state.advanceWallClock nowMs
  (state.devices.values.map (fun record => record.publicEntry now), state)

end PoolState

/-! ## Calls -/

/-- A call of the pool.  The two ways to use a lease differ in whether they
require fresh health. -/
inductive PoolRequest where
  | register (deviceId : DeviceId)
  | remove (deviceId : DeviceId) (nowMs : ℕ)
  | recordHealth (registration : DeviceRegistrationToken) (health : PoolHealth)
      (nowMs : ℕ)
  | acquire (deviceId : DeviceId) (ownerId : LeaseOwnerId) (nowMs : ℕ)
  | accessWithLease (leaseId : LeaseId) (deviceId : DeviceId)
      (ownerId : LeaseOwnerId) (nowMs : ℕ) (requireFreshHealth : Bool)
  | accessAvailableTo (deviceId : DeviceId) (ownerId : LeaseOwnerId)
      (nowMs : ℕ)
  | release (leaseId : LeaseId) (ownerId : LeaseOwnerId) (nowMs : ℕ)
  | releaseOwner (ownerId : LeaseOwnerId) (nowMs : ℕ)
  | releaseAll (nowMs : ℕ)
  | reapExpired (nowMs : ℕ)
  | entries (nowMs : ℕ)
deriving DecidableEq, Repr

/-- The answer to a call; that of one target of a sweep is the list of the
leases it took there. -/
inductive PoolReply where
  | registered (registration : DeviceRegistrationToken)
  | removed
  | health (health : PoolHealth)
  | lease (value : DeviceLease)
  | access
  | leases (values : List DeviceLease)
  | entries (entries : List DevicePoolEntry)
  | error (error : DevicePoolError)
deriving DecidableEq, Repr

@[simp] def PoolReply.of {α : Type} (answer : α → PoolReply) :
    Except DevicePoolError α → PoolReply
  | .ok value => answer value
  | .error failure => .error failure

theorem PoolReply.of_access {result : Except DevicePoolError Unit} :
    PoolReply.of (fun _ => .access) result = .access ↔ result = .ok () := by
  cases result <;> simp

theorem PoolReply.of_lease {result : Except DevicePoolError DeviceLease}
    {value : DeviceLease} :
    PoolReply.of .lease result = .lease value ↔ result = .ok value := by
  cases result <;> simp

def Ran.map {α β : Type} (f : Except DevicePoolError α → β) :
    Ran α → Option (β × PoolState)
  | .returned result state => some (f result, state)
  | .panicked => none

/-- What a call does at the gate of one registration it holds: `none` while a
drawn lease id is in use, and otherwise the answer and the state, or nothing
after a panic. -/
def PoolState.atGate (config : DevicePoolConfig) (request : PoolRequest)
    (state : PoolState) (deviceId : DeviceId) (gate : GateId) (now : ℕ)
    (candidate : LeaseId) : Option (Option (PoolReply × PoolState)) :=
  match request with
  | .remove _ nowMs =>
    let (result, state) := state.remove deviceId gate now nowMs
    some (some (PoolReply.of (fun _ => .removed) result, state))
  | .acquire _ ownerId nowMs =>
    (state.acquire config deviceId gate ownerId now (now + config.leaseTtl)
      nowMs candidate).map (Ran.map (PoolReply.of .lease))
  | .accessWithLease leaseId _ ownerId nowMs requireFreshHealth =>
    some ((state.accessWithLease config leaseId deviceId gate ownerId now
      (now + config.leaseTtl) nowMs requireFreshHealth).map
        (PoolReply.of (fun _ => .access)))
  | .accessAvailableTo _ ownerId nowMs =>
    let (result, state) :=
      state.accessAvailableTo deviceId gate ownerId now nowMs
    some (some (PoolReply.of (fun _ => .access) result, state))
  | .release leaseId ownerId nowMs =>
    some ((state.release leaseId ownerId deviceId gate now nowMs).map
      (PoolReply.of .lease))
  | .releaseOwner ownerId nowMs =>
    let (taken, state) :=
      state.releaseOwnerTarget ownerId deviceId gate now nowMs
    some (some (.leases taken.toList, state))
  | .releaseAll nowMs =>
    let (taken, state) := state.releaseAllTarget deviceId gate nowMs
    some (some (.leases taken.toList, state))
  | .reapExpired nowMs =>
    let (taken, state) := state.reapTarget deviceId gate now nowMs
    some (some (.leases taken.toList, state))
  | .register _ | .recordHealth .. | .entries _ => none

end DeviceRail
