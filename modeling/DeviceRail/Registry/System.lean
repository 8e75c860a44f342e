import DeviceRail.Pool.Registrations

/-!
# The driver registry

The registry maps device ids to entries and keeps a device pool in step with
them.  Every call takes the lock of the map, in exclusive mode to register and
unregister and in shared mode otherwise, and keeps it while it calls the pool.
An entry stands behind a pointer; its identity is its place on a heap, and a
handle is such a pointer.  The pool is private to the registry, so that every
call of the pool is made by a call of the registry.
-/

namespace DeviceRail

/-! ## Data -/

inductive RegistryError where
  | invalidDeviceId (deviceId : DeviceId)
  | invalidDeviceName (deviceId : DeviceId)
  | deviceIdMismatch (driverId infoId : DeviceId)
  | deviceAlreadyRegistered (deviceId : DeviceId)
  | deviceNotFound (deviceId : DeviceId)
  | deviceLeased (deviceId : DeviceId)
  | inventoryInconsistent (deviceId : DeviceId)
  | noDevicesRegistered
  | deviceSelectionRequired (count : ℕ)
deriving DecidableEq, Repr

/-- What registration reads of the metadata of a device. -/
structure DeviceInfo where
  id : DeviceId
  name : String
deriving DecidableEq, Repr

/-- The identity of one entry. -/
abbrev EntryId := ℕ

/-- An entry: the device of its driver, and the token of its registration. -/
structure Entry where
  deviceId : DeviceId
  registration : DeviceRegistrationToken
deriving DecidableEq, Repr

inductive RegistryRequest where
  | register (driverId : DeviceId) (info : DeviceInfo)
  | unregister (deviceId : DeviceId) (nowMs : ℕ)
  | resolve (deviceId : DeviceId)
  | sole
  | handles
  | recordHealth (handle : EntryId) (health : PoolHealth) (nowMs : ℕ)
  | acquireLease (handle : EntryId) (ownerId : LeaseOwnerId) (nowMs : ℕ)
  | accessWithLease (handle : EntryId) (leaseId : LeaseId)
      (ownerId : LeaseOwnerId) (nowMs : ℕ)
  | accessAvailableTo (handle : EntryId) (ownerId : LeaseOwnerId) (nowMs : ℕ)
  | cleanupAccessWithLease (handle : EntryId) (leaseId : LeaseId)
      (ownerId : LeaseOwnerId) (nowMs : ℕ)
  | releaseLease (leaseId : LeaseId) (ownerId : LeaseOwnerId) (nowMs : ℕ)
  | releaseOwnerLeases (ownerId : LeaseOwnerId) (nowMs : ℕ)
  | releaseAllLeases (nowMs : ℕ)
  | poolEntries (nowMs : ℕ)
deriving DecidableEq, Repr

inductive RegistryReply where
  | handle (handle : EntryId)
  | handles (handles : List EntryId)
  | unregistered
  | access (handle : EntryId)
  | pool (reply : PoolReply)
  | error (error : RegistryError)
deriving DecidableEq, Repr

def validateRegistration (driverId : DeviceId) (info : DeviceInfo) :
    Except RegistryError Unit :=
  if driverId.text.toList.all isWhitespace then
    .error (.invalidDeviceId driverId)
  else if info.id.text.toList.all isWhitespace then
    .error (.invalidDeviceId info.id)
  else if info.name.toList.all isWhitespace then
    .error (.invalidDeviceName info.id)
  else if info.id ≠ driverId then
    .error (.deviceIdMismatch driverId info.id)
  else .ok ()

def unregisterError (deviceId : DeviceId) : DevicePoolError → RegistryError
  | .deviceLeased _ => .deviceLeased deviceId
  | _ => .inventoryInconsistent deviceId

namespace RegistryRequest

/-- The call takes the lock of the map in exclusive mode. -/
def writes : RegistryRequest → Bool
  | .register .. | .unregister .. => true
  | _ => false

/-- The handle a call is made with. -/
def handle? : RegistryRequest → Option EntryId
  | .recordHealth handle _ _ | .acquireLease handle _ _
  | .accessWithLease handle _ _ _ | .accessAvailableTo handle _ _
  | .cleanupAccessWithLease handle _ _ _ => some handle
  | _ => none

/-- What a call checks before it takes the lock. -/
def validate : RegistryRequest → Except RegistryError Unit
  | .register driverId info => validateRegistration driverId info
  | _ => .ok ()

end RegistryRequest

namespace RegistrySystem

export PoolSystem (TaskId)

inductive Phase where
  | ready
  /-- Holds the lock of the map; the pool is at work. -/
  | inside
  | finished (reply : RegistryReply)
  /-- The future or the guard was dropped. -/
  | dropped
deriving DecidableEq, Repr

structure Task where
  request : RegistryRequest
  phase : Phase
deriving DecidableEq, Repr

structure System where
  pool : PoolSystem.System
  entries : KeyedMap DeviceId EntryId
  heap : KeyedMap EntryId Entry
  nextEntry : EntryId
  tasks : KeyedMap TaskId Task

def System.new (config : DevicePoolConfig) : System := ⟨.new config, ∅, ∅, 0, ∅⟩

inductive Label where
  | tick (elapsed : ℕ)
  | call (tid : TaskId) (request : RegistryRequest)
  /-- Take the lock of the map, check, and call the pool. -/
  | enter (tid : TaskId)
  /-- One step of the pool for the call that is inside. -/
  | work (tid : TaskId) (label : PoolSystem.Label)
  | drop (tid : TaskId)
deriving DecidableEq, Repr

/-- The task a label is about. -/
def Label.task? : Label → Option TaskId
  | .tick _ => none
  | .call tid _ | .enter tid | .work tid _ | .drop tid => some tid

/-- The steps a call of the pool makes by itself. -/
def works (tid : TaskId) : PoolSystem.Label → Bool
  | .lookup other | .list other _ | .lock other | .clock other
  | .commit other _ => other == tid
  | _ => false

namespace System

variable (sys : System)

def ensureCurrentEntry (handle : EntryId) (entry : Entry) :
    Except DevicePoolError Unit :=
  match sys.entries.lookup entry.deviceId with
  | some current =>
    if current = handle then .ok ()
    else .error (.deviceRegistrationChanged entry.deviceId)
  | none => .error (.deviceNotFound entry.deviceId)

/-- A call of the pool for the current entry of a handle. -/
def withCurrent (handle : EntryId) (call : Entry → PoolRequest) :
    Option (RegistryReply ⊕ PoolRequest) :=
  (sys.heap.lookup handle).map (fun entry =>
    match sys.ensureCurrentEntry handle entry with
    | .ok () => .inr (call entry)
    | .error error => .inl (.pool (.error error)))

/-- What a call does when it has got the lock: it answers, or calls the
pool. -/
def begin :
    RegistryRequest → Option (RegistryReply ⊕ PoolRequest)
  | .register driverId _ =>
    match sys.entries.lookup driverId with
    | none => some (.inr (.register driverId))
    | some _ => some (.inl (.error (.deviceAlreadyRegistered driverId)))
  | .unregister deviceId nowMs =>
    match sys.entries.lookup deviceId with
    | none => some (.inl (.error (.deviceNotFound deviceId)))
    | some _ => some (.inr (.remove deviceId nowMs))
  | .resolve deviceId =>
    match sys.entries.lookup deviceId with
    | none => some (.inl (.error (.deviceNotFound deviceId)))
    | some handle => some (.inl (.handle handle))
  | .sole =>
    match sys.entries.values with
    | [] => some (.inl (.error .noDevicesRegistered))
    | [handle] => some (.inl (.handle handle))
    | handles => some (.inl (.error (.deviceSelectionRequired handles.length)))
  | .handles => some (.inl (.handles sys.entries.values))
  | .recordHealth handle health nowMs =>
    sys.withCurrent handle (fun entry =>
      .recordHealth entry.registration health nowMs)
  | .acquireLease handle ownerId nowMs =>
    sys.withCurrent handle (fun entry => .acquire entry.deviceId ownerId nowMs)
  | .accessWithLease handle leaseId ownerId nowMs =>
    sys.withCurrent handle (fun entry =>
      .accessWithLease leaseId entry.deviceId ownerId nowMs true)
  | .accessAvailableTo handle ownerId nowMs =>
    sys.withCurrent handle (fun entry =>
      .accessAvailableTo entry.deviceId ownerId nowMs)
  | .cleanupAccessWithLease handle leaseId ownerId nowMs =>
    sys.withCurrent handle (fun entry =>
      .accessWithLease leaseId entry.deviceId ownerId nowMs false)
  | .releaseLease leaseId ownerId nowMs =>
    some (.inr (.release leaseId ownerId nowMs))
  | .releaseOwnerLeases ownerId nowMs =>
    some (.inr (.releaseOwner ownerId nowMs))
  | .releaseAllLeases nowMs => some (.inr (.releaseAll nowMs))
  | .poolEntries nowMs => some (.inr (.entries nowMs))

def setPhase (tid : TaskId) (task : Task) (phase : Phase) : System :=
  { sys with tasks := sys.tasks.insert tid { task with phase := phase } }

/-- The lock of the map is held in a conflicting mode. -/
def blocked (exclusive : Bool) : Bool :=
  sys.tasks.values.any (fun task =>
    task.phase == .inside && (exclusive || task.request.writes))

def enter (tid : TaskId) (task : Task) : Option System :=
  match task.phase, task.request.validate with
  | .ready, .error error => some (sys.setPhase tid task (.finished (.error error)))
  | .ready, .ok () =>
    if sys.blocked task.request.writes then none
    else (sys.begin task.request).bind (fun outcome =>
      match outcome with
      | .inl reply => some (sys.setPhase tid task (.finished reply))
      | .inr request =>
        (sys.pool.step (.call tid request)).map (fun pool =>
          { sys.setPhase tid task .inside with pool := pool }))
  | _, _ => none

/-- What a call does with the answer of the pool, before it gives up the
lock. -/
def complete (request : RegistryRequest) (reply : PoolReply) :
    RegistryReply × System :=
  match request, reply with
  | .register driverId _, .registered registration =>
    (.handle sys.nextEntry,
      { sys with
        entries := sys.entries.insert driverId sys.nextEntry
        heap := sys.heap.insert sys.nextEntry ⟨driverId, registration⟩
        nextEntry := sys.nextEntry + 1 })
  | .register driverId _, _ => (.error (.deviceAlreadyRegistered driverId), sys)
  | .unregister deviceId _, .error error =>
    (.error (unregisterError deviceId error), sys)
  | .unregister deviceId _, _ =>
    (.unregistered, { sys with entries := sys.entries.erase deviceId })
  | .accessWithLease handle _ _ _, .access
  | .accessAvailableTo handle _ _, .access
  | .cleanupAccessWithLease handle _ _ _, .access => (.access handle, sys)
  | _, reply => (.pool reply, sys)

end System

/-- The answer of the pool to a call, an access guard among them. -/
def outcome? : PoolSystem.Phase → Option PoolReply
  | .finished reply => some reply
  | .holding _ _ => some .access
  | _ => none

namespace System

/-- After a step of the pool: go on, or answer when the pool has. -/
def settle (sys : System) (tid : TaskId) (task : Task)
    (phase : PoolSystem.Phase) : System :=
  match phase with
  | .panicked => sys.setPhase tid task .dropped
  | phase =>
    match outcome? phase with
    | none => sys
    | some reply =>
      let (answer, sys) := sys.complete task.request reply
      sys.setPhase tid task (.finished answer)

def work (sys : System) (tid : TaskId) (task : Task)
    (label : PoolSystem.Label) : Option System :=
  if task.phase = .inside ∧ works tid label then
    (sys.pool.step label).bind (fun pool =>
      (pool.tasks.lookup tid).map (fun poolTask =>
        settle { sys with pool := pool } tid task poolTask.phase))
  else none

def drop (sys : System) (tid : TaskId) (task : Task) : Option System :=
  match task.phase with
  | .ready => some (sys.setPhase tid task .dropped)
  | .inside | .finished (.access _) =>
    (sys.pool.step (.drop tid)).map (fun pool =>
      { sys.setPhase tid task .dropped with pool := pool })
  | _ => none

def step (sys : System) : Label → Option System
  | .tick elapsed =>
    (sys.pool.step (.tick elapsed)).map (fun pool => { sys with pool := pool })
  | .call tid request =>
    match sys.tasks.lookup tid with
    | none => some { sys with tasks := sys.tasks.insert tid ⟨request, .ready⟩ }
    | some _ => none
  | .enter tid => (sys.tasks.lookup tid).bind (sys.enter tid)
  | .work tid label =>
    (sys.tasks.lookup tid).bind (fun task => sys.work tid task label)
  | .drop tid => (sys.tasks.lookup tid).bind (sys.drop tid)

end System

/-- One step of the registry. -/
def Step (sys : System) (label : Label) (sys' : System) : Prop :=
  sys.step label = some sys'

/-- A state of some run of a registry. -/
def Reached (sys : System) : Prop :=
  ∃ config, Transition.Reachable Step (System.new config) sys

def System.runLabels (sys : System) (labels : List Label) : Option System :=
  Transition.exec System.step sys labels

theorem reached_of_runLabels {config : DevicePoolConfig} {sys : System}
    {labels : List Label}
    (h : (System.new config).runLabels labels = some sys) : Reached sys :=
  ⟨config, labels, Transition.run_of_exec (fun _ _ _ hstep => hstep) h⟩

end RegistrySystem

end DeviceRail
