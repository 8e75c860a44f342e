import DeviceRail.Pool.Model
import DeviceRail.Router.Model
import DeviceRail.Support.Transition

/-!
# The lease table of a node

A node grants each of its devices to at most one owner at a time.  Whether a
lease is active is decided by two clocks: the wall clock, whose readings the
callers pass in and which may move either way, and the monotonic clock, which
every call reads itself.  A call that reads the monotonic clock twice gets two
instants.  No call changes the table when it fails, so a call is a function
into its reply and the next table.
-/

namespace DeviceRail.Router

open Fallible

inductive LeaseError where
  | invalid
  | held
  | stale
  | deviceNotFound
deriving DecidableEq, Repr

structure ActiveLease where
  token : PeerLease
  deadline : ℕ
deriving DecidableEq, Repr

def ActiveLease.isActive (lease : ActiveLease) (nowMs instant : ℕ) : Bool :=
  nowMs < lease.token.expiresAtMs && instant < lease.deadline

structure LeaseTable where
  nodeEpoch : ℕ
  knownDevices : List String
  active : KeyedMap String ActiveLease

/-- Go on only when a condition holds. -/
def require {ε : Type} (condition : Bool) (error : ε) : Except ε Unit :=
  if condition then .ok () else .error error

theorem require_eq_ok {ε : Type} {condition : Bool} {error : ε} :
    require condition error = .ok () ↔ condition = true := by
  unfold require
  split <;> simp_all

/-- The wall-clock time at which a lease that starts now expires. -/
def expiry (nowMs ttlMs : ℕ) : Except LeaseError ℕ :=
  if nowMs + ttlMs ≤ maxSafeInteger then .ok (nowMs + ttlMs)
  else .error .invalid

/-- The instant at which a lease that starts now expires. -/
def deadline (instant ttlMs : ℕ) : Except LeaseError ℕ :=
  match checkedAddInstant instant (fromMillis ttlMs) with
  | some deadline => .ok deadline
  | none => .error .invalid

namespace LeaseTable

def new (nodeEpoch : ℕ) (knownDevices : List String) :
    Except LeaseError LeaseTable := do
  let knownDevices := knownDevices.dedup
  require (isSafePositive nodeEpoch && !knownDevices.isEmpty &&
    knownDevices.length ≤ 256 &&
    knownDevices.all (validIdentifier · maxDeviceKeyBytes)) .invalid
  return ⟨nodeEpoch, knownDevices, ∅⟩

variable (table : LeaseTable)

def validateInput (deviceKey ownerId : String) (ttlMs nowMs : ℕ) :
    Except LeaseError Unit := do
  require (validIdentifier deviceKey maxDeviceKeyBytes &&
    validIdentifier ownerId maxOwnerIdBytes && validLeaseTtl ttlMs &&
    isSafePositive nowMs) .invalid
  require (table.knownDevices.contains deviceKey) .deviceNotFound

/-- `lease.validate().map_err(|_| LeaseError::Invalid)`. -/
def checkLease (lease : PeerLease) : Except LeaseError Unit :=
  match lease.validate with
  | .ok () => .ok ()
  | .error _ => .error .invalid

def validateLease (lease : PeerLease) (nowMs : ℕ) : Except LeaseError Unit := do
  checkLease lease
  require (lease.nodeEpoch == table.nodeEpoch && isSafePositive nowMs) .stale

/-- The exact token is in the table. -/
def holds (lease : PeerLease) : Bool :=
  (table.active.lookup lease.deviceKey).any (·.token == lease)

/-- The exact token is in the table, and active. -/
def accepts (lease : PeerLease) (nowMs instant : ℕ) : Bool :=
  (table.active.lookup lease.deviceKey).any fun current =>
    current.token == lease && current.isActive nowMs instant

def put (entry : ActiveLease) : LeaseTable :=
  { table with active := table.active.insert entry.token.deviceKey entry }

def drop (deviceKey : String) : LeaseTable :=
  { table with active := table.active.erase deviceKey }

/-- The part of `acquire` for a device without an active lease. -/
def grant (deviceKey ownerId : String) (ttlMs nowMs grantedAt : ℕ)
    (leaseId : Uuid) : Except LeaseError (PeerLease × LeaseTable) := do
  let expiresAtMs ← expiry nowMs ttlMs
  let deadline ← deadline grantedAt ttlMs
  let lease : PeerLease :=
    ⟨leaseId, deviceKey, ownerId, table.nodeEpoch, expiresAtMs⟩
  return (lease, table.put ⟨lease, deadline⟩)

def acquire (deviceKey ownerId : String) (ttlMs nowMs checkedAt grantedAt : ℕ)
    (leaseId : Uuid) : Except LeaseError (PeerLease × LeaseTable) := do
  table.validateInput deviceKey ownerId ttlMs nowMs
  match (table.active.lookup deviceKey).filter
      (·.isActive nowMs checkedAt) with
  | some existing =>
    require (existing.token.ownerId == ownerId) .held
    return (existing.token, table)
  | none => table.grant deviceKey ownerId ttlMs nowMs grantedAt leaseId

def authorize (lease : PeerLease) (nowMs instant : ℕ) :
    Except LeaseError Unit := do
  table.validateLease lease nowMs
  require (table.accepts lease nowMs instant) .stale

def renew (lease : PeerLease) (ttlMs nowMs checkedAt grantedAt : ℕ) :
    Except LeaseError (PeerLease × LeaseTable) := do
  require (validLeaseTtl ttlMs) .invalid
  table.validateLease lease nowMs
  require (table.accepts lease nowMs checkedAt) .stale
  let expiresAtMs ← expiry nowMs ttlMs
  let deadline ← deadline grantedAt ttlMs
  let renewed := { lease with expiresAtMs }
  return (renewed, table.put ⟨renewed, deadline⟩)

def release (lease : PeerLease) (nowMs instant : ℕ) :
    Except LeaseError LeaseTable := do
  table.validateLease lease nowMs
  require (table.accepts lease nowMs instant) .stale
  return table.drop lease.deviceKey

def revoke (lease : PeerLease) : Except LeaseError LeaseTable := do
  checkLease lease
  require (lease.nodeEpoch == table.nodeEpoch) .stale
  require (table.holds lease) .stale
  return table.drop lease.deviceKey

def invalidateAll : LeaseTable := { table with active := ∅ }

/-! ## What a successful call found and did -/

variable {table after : LeaseTable} {lease : PeerLease}
  {nowMs instant ttlMs grantedAt checkedAt : ℕ} {deviceKey ownerId : String}
  {leaseId : Uuid}

theorem holds_iff :
    table.holds lease = true ↔
      ∃ entry, table.active.lookup lease.deviceKey = some entry ∧
        entry.token = lease := by
  simp [holds, Option.any_eq_true]

theorem accepts_iff :
    table.accepts lease nowMs instant = true ↔
      ∃ entry, table.active.lookup lease.deviceKey = some entry ∧
        entry.token = lease ∧ entry.isActive nowMs instant = true := by
  simp [accepts, Option.any_eq_true]

theorem holds_of_accepts (h : table.accepts lease nowMs instant = true) :
    table.holds lease = true := by
  obtain ⟨entry, hentry, htoken, -⟩ := accepts_iff.mp h
  exact holds_iff.mpr ⟨entry, hentry, htoken⟩

theorem grant_eq_ok
    (h : table.grant deviceKey ownerId ttlMs nowMs grantedAt leaseId =
      .ok (lease, after)) :
    lease.leaseId = leaseId ∧ lease.deviceKey = deviceKey ∧
      lease.ownerId = ownerId ∧ lease.nodeEpoch = table.nodeEpoch ∧
      ∃ deadline, after = table.put ⟨lease, deadline⟩ := by
  obtain ⟨expiresAtMs, _, h⟩ := bind_eq_ok.mp h
  obtain ⟨deadline, _, h⟩ := bind_eq_ok.mp h
  cases h
  exact ⟨rfl, rfl, rfl, rfl, deadline, rfl⟩

/-- A lease that is acquired is the active one, or a new one where there was
none. -/
theorem acquire_eq_ok
    (h : table.acquire deviceKey ownerId ttlMs nowMs checkedAt grantedAt
      leaseId = .ok (lease, after)) :
    (∃ entry, table.active.lookup deviceKey = some entry ∧
        entry.isActive nowMs checkedAt = true ∧ entry.token = lease ∧
        lease.ownerId = ownerId ∧ after = table) ∨
      (∀ entry, table.active.lookup deviceKey = some entry →
          entry.isActive nowMs checkedAt = false) ∧
        lease.leaseId = leaseId ∧ lease.deviceKey = deviceKey ∧
        lease.ownerId = ownerId ∧ lease.nodeEpoch = table.nodeEpoch ∧
        ∃ deadline, after = table.put ⟨lease, deadline⟩ := by
  obtain ⟨_, _, h⟩ := bind_eq_ok.mp h
  split at h
  next existing hexisting =>
    obtain ⟨_, howner, h⟩ := bind_eq_ok.mp h
    cases h
    rw [Option.filter_eq_some_iff] at hexisting
    have howner := beq_iff_eq.mp (require_eq_ok.mp howner)
    exact .inl ⟨existing, hexisting.1, hexisting.2, rfl, howner, rfl⟩
  next hnone =>
    refine .inr ⟨fun entry hentry => ?_, grant_eq_ok h⟩
    rw [hentry] at hnone
    simpa [Option.filter] using hnone

theorem renew_eq_ok {renewed : PeerLease}
    (h : table.renew lease ttlMs nowMs checkedAt grantedAt =
      .ok (renewed, after)) :
    table.accepts lease nowMs checkedAt = true ∧
      (∃ expiresAtMs, renewed = { lease with expiresAtMs }) ∧
      ∃ deadline, after = table.put ⟨renewed, deadline⟩ := by
  obtain ⟨_, _, h⟩ := bind_eq_ok.mp h
  obtain ⟨_, _, h⟩ := bind_eq_ok.mp h
  obtain ⟨_, haccepts, h⟩ := bind_eq_ok.mp h
  obtain ⟨expiresAtMs, _, h⟩ := bind_eq_ok.mp h
  obtain ⟨deadline, _, h⟩ := bind_eq_ok.mp h
  cases h
  exact ⟨require_eq_ok.mp haccepts, ⟨expiresAtMs, rfl⟩, deadline, rfl⟩

theorem authorize_eq_ok (h : table.authorize lease nowMs instant = .ok ()) :
    table.accepts lease nowMs instant = true := by
  obtain ⟨_, _, h⟩ := bind_eq_ok.mp h
  exact require_eq_ok.mp h

theorem release_eq_ok (h : table.release lease nowMs instant = .ok after) :
    table.accepts lease nowMs instant = true ∧
      after = table.drop lease.deviceKey := by
  obtain ⟨_, _, h⟩ := bind_eq_ok.mp h
  obtain ⟨_, haccepts, h⟩ := bind_eq_ok.mp h
  cases h
  exact ⟨require_eq_ok.mp haccepts, rfl⟩

theorem revoke_eq_ok (h : table.revoke lease = .ok after) :
    table.holds lease = true ∧ after = table.drop lease.deviceKey := by
  obtain ⟨_, _, h⟩ := bind_eq_ok.mp h
  obtain ⟨_, _, h⟩ := bind_eq_ok.mp h
  obtain ⟨_, hholds, h⟩ := bind_eq_ok.mp h
  cases h
  exact ⟨require_eq_ok.mp hholds, rfl⟩

end LeaseTable

end DeviceRail.Router
