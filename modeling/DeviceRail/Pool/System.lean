import DeviceRail.Pool.Indexes
import DeviceRail.Support.Transition
import Mathlib.Data.Finset.Image

/-!
# Concurrent calls of the device pool

Every call of the pool is a task of its own.  A task runs from one wait to the
next: it locks the state to look something up, waits for the gate of a
registration, reads the clock, and locks the state again to do its work.  What
it does under the state lock is one step; between two steps any other task may
run and time may pass.  A gate is held by the tasks that are in a phase that
holds it.  The labels of a run determine it: they carry the order in which a
sweep visits the leases and the lease ids that are drawn.
-/

namespace DeviceRail

namespace PoolRequest

/-- The call takes gates in exclusive mode. -/
def exclusive : PoolRequest → Bool
  | .accessWithLease .. | .accessAvailableTo .. => false
  | _ => true

/-- The call reads the clock once it has a gate. -/
def readsClock : PoolRequest → Bool
  | .releaseAll _ => false
  | _ => true

/-- The call computes a deadline from the clock. -/
def setsDeadline : PoolRequest → Bool
  | .acquire .. | .accessWithLease .. => true
  | _ => false

/-- The device whose gate the call looks up first. -/
def device? : PoolRequest → Option DeviceId
  | .remove deviceId _ | .acquire deviceId _ _
  | .accessWithLease _ deviceId _ _ _ | .accessAvailableTo deviceId _ _ =>
    some deviceId
  | _ => none

end PoolRequest

namespace PoolSystem

abbrev TaskId := ℕ

inductive Phase where
  | ready
  /-- `release` knows the device of its lease. -/
  | located (deviceId : DeviceId)
  /-- The clock was read before any gate. -/
  | clocked (now : ℕ)
  /-- Waits for the gate of a target. -/
  | waiting (target : DeviceId × GateId) (rest : List (DeviceId × GateId))
      (taken : List DeviceLease)
  /-- Has the gate, and the clock once it has read it. -/
  | locked (target : DeviceId × GateId) (rest : List (DeviceId × GateId))
      (taken : List DeviceLease) (now : Option ℕ)
  /-- An access guard is alive. -/
  | holding (deviceId : DeviceId) (gate : GateId)
  | finished (reply : PoolReply)
  /-- The future or the guard was dropped. -/
  | dropped
  | panicked
deriving DecidableEq, Repr

/-- The gate a task holds. -/
def Phase.gate? : Phase → Option GateId
  | .locked target _ _ _ => some target.2
  | .holding _ gate => some gate
  | _ => none

structure Task where
  request : PoolRequest
  phase : Phase
deriving DecidableEq, Repr

structure System where
  config : DevicePoolConfig
  clock : ℕ
  state : PoolState
  nextGate : GateId
  tasks : KeyedMap TaskId Task

def System.new (config : DevicePoolConfig) : System := ⟨config, 0, .empty, 0, ∅⟩

inductive Label where
  | tick (elapsed : ℕ)
  | call (tid : TaskId) (request : PoolRequest)
  /-- Look up the device of a lease or the gate of a device. -/
  | lookup (tid : TaskId)
  /-- Look up the targets of a sweep, in the order of the lease ids. -/
  | list (tid : TaskId) (order : List LeaseId)
  | lock (tid : TaskId)
  | clock (tid : TaskId)
  /-- Do the work of a call, or of a sweep at one target. -/
  | commit (tid : TaskId) (candidate : LeaseId)
  | drop (tid : TaskId)
deriving DecidableEq, Repr

/-! ## What a task does in one step -/

/-- Continue a sweep. -/
def resume (rest : List (DeviceId × GateId)) (taken : List DeviceLease) :
    Phase :=
  match rest with
  | [] => .finished (.leases taken)
  | target :: rest => .waiting target rest taken

def lookupGate (state : PoolState) (deviceId : DeviceId) : Phase :=
  match state.devices.lookup deviceId with
  | none => .finished (.error (.deviceNotFound deviceId))
  | some record => .waiting (deviceId, record.gate) [] []

def lookupPhase (state : PoolState) (task : Task) : Option Phase :=
  match task.phase with
  | .ready =>
    match task.request with
    | .release leaseId _ _ =>
      match state.leaseDevices.lookup leaseId with
      | none => some (.finished (.error .leaseNotFound))
      | some deviceId => some (.located deviceId)
    | request => request.device?.map (lookupGate state)
  | .located deviceId => some (lookupGate state deviceId)
  | _ => none

/-- The leases a sweep looks up. -/
def swept (state : PoolState) (task : Task) : Option (Finset LeaseId) :=
  match task.request, task.phase with
  | .releaseOwner ownerId _, .ready => some (state.leasesOf ownerId)
  | .releaseAll _, .ready => some state.leaseDevices.keys.toFinset
  | .reapExpired _, .clocked now =>
    some ((state.leaseDeadlines.filter (fun due => due.1 ≤ now)).image Prod.snd)
  | _, _ => none

def listPhase (state : PoolState) (task : Task) (order : List LeaseId) :
    Option Phase :=
  (swept state task).bind (fun leases =>
    if order.Nodup ∧ order.toFinset = leases then
      some (resume (state.leaseTargets order) [])
    else none)

def clockPhase (config : DevicePoolConfig) (clock : ℕ) (task : Task) :
    Option Phase :=
  match task.phase with
  | .ready =>
    match task.request with
    | .recordHealth _ health _ =>
      match validateHealth health with
      | .error error => some (.finished (.error error))
      | .ok () => some (.clocked clock)
    | .reapExpired _ | .entries _ => some (.clocked clock)
    | _ => none
  | .locked target rest taken none =>
    if task.request.readsClock then
      if task.request.setsDeadline ∧
          checkedAddInstant clock config.leaseTtl = none then
        some (.finished (.error .invalidConfiguration))
      else some (.locked target rest taken (some clock))
    else none
  | _ => none

/-- What follows the work at a gate. -/
def answered (request : PoolRequest) (target : DeviceId × GateId)
    (rest : List (DeviceId × GateId)) (taken : List DeviceLease)
    (reply : PoolReply) : Phase :=
  match reply with
  | .leases values =>
    if request.sweeps then resume rest (taken ++ values) else .finished reply
  | .access => .holding target.1 target.2
  | _ => .finished reply

namespace System

def setTask (sys : System) (tid : TaskId) (task : Task) : System :=
  { sys with tasks := sys.tasks.insert tid task }

/-- Some task holds the gate in a conflicting mode. -/
def blocked (sys : System) (gate : GateId) (exclusive : Bool) : Bool :=
  sys.tasks.values.any (fun task =>
    task.phase.gate? == some gate && (exclusive || task.request.exclusive))

/-- The work of a task that holds a gate. -/
def commitAt (sys : System) (tid : TaskId) (task : Task)
    (target : DeviceId × GateId) (rest : List (DeviceId × GateId))
    (taken : List DeviceLease) (now : ℕ) (candidate : LeaseId) :
    Option System :=
  match sys.state.atGate sys.config task.request target.1 target.2 now
      candidate with
  | none => none
  | some none => some (sys.setTask tid { task with phase := .panicked })
  | some (some (reply, state)) =>
    some { sys.setTask tid
        { task with phase := answered task.request target rest taken reply }
      with state := state }

def commit (sys : System) (tid : TaskId) (task : Task) (candidate : LeaseId) :
    Option System :=
  match task.request, task.phase with
  | .register deviceId, .ready =>
    let (result, state) := sys.state.register deviceId sys.nextGate
    some { sys.setTask tid
        { task with phase := .finished (.of .registered result) } with
      state := state
      nextGate := sys.nextGate + 1 }
  | .recordHealth registration health nowMs, .clocked now =>
    let (result, state) := sys.state.recordHealth registration health now nowMs
    some { sys.setTask tid
        { task with phase := .finished (.of .health result) } with
      state := state }
  | .entries nowMs, .clocked now =>
    let (entries, state) := sys.state.entries now nowMs
    some { sys.setTask tid
        { task with phase := .finished (.entries entries) } with
      state := state }
  | request, .locked target rest taken none =>
    if request.readsClock then none
    else sys.commitAt tid task target rest taken sys.clock candidate
  | _, .locked target rest taken (some now) =>
    sys.commitAt tid task target rest taken now candidate
  | _, _ => none

/-- A future is dropped where it waits, a guard at any time. -/
def droppable (task : Task) : Bool :=
  match task.phase with
  | .ready | .located _ | .clocked _ | .waiting .. | .holding .. => true
  | .locked _ _ _ (some _) => true
  | .locked _ _ _ none => !task.request.readsClock
  | _ => false

def setPhase (sys : System) (tid : TaskId) (task : Task) (phase : Phase) :
    System :=
  sys.setTask tid { task with phase := phase }

def step (sys : System) : Label → Option System
  | .tick elapsed => some { sys with clock := sys.clock + elapsed }
  | .call tid request =>
    match sys.tasks.lookup tid with
    | none => some (sys.setTask tid ⟨request, .ready⟩)
    | some _ => none
  | .lookup tid =>
    (sys.tasks.lookup tid).bind (fun task =>
      (lookupPhase sys.state task).map (sys.setPhase tid task))
  | .list tid order =>
    (sys.tasks.lookup tid).bind (fun task =>
      (listPhase sys.state task order).map (sys.setPhase tid task))
  | .lock tid =>
    (sys.tasks.lookup tid).bind (fun task =>
      match task.phase with
      | .waiting target rest taken =>
        if sys.blocked target.2 task.request.exclusive then none
        else some (sys.setPhase tid task (.locked target rest taken none))
      | _ => none)
  | .clock tid =>
    (sys.tasks.lookup tid).bind (fun task =>
      (clockPhase sys.config sys.clock task).map (sys.setPhase tid task))
  | .commit tid candidate =>
    (sys.tasks.lookup tid).bind (fun task => sys.commit tid task candidate)
  | .drop tid =>
    (sys.tasks.lookup tid).bind (fun task =>
      if droppable task then some (sys.setPhase tid task .dropped) else none)

end System

/-- One step of the pool. -/
def Step (sys : System) (label : Label) (sys' : System) : Prop :=
  sys.step label = some sys'

/-- A state of some run of a pool. -/
def Reached (sys : System) : Prop :=
  ∃ config, Transition.Reachable Step (System.new config) sys

def System.runLabels (sys : System) (labels : List Label) : Option System :=
  Transition.exec System.step sys labels

theorem reached_of_runLabels {config : DevicePoolConfig} {labels : List Label}
    {sys : System} (h : (System.new config).runLabels labels = some sys) :
    Reached sys :=
  ⟨config, labels, Transition.run_of_exec (fun _ _ _ hstep => hstep) h⟩

/-! ## A sample run -/

def phone : DeviceId := ⟨"phone"⟩

def alice : LeaseOwnerId := ⟨⟨1⟩⟩

def bob : LeaseOwnerId := ⟨⟨2⟩⟩

def firstLease : LeaseId := ⟨⟨11⟩⟩

/-- A healthy device is registered and one owner acquires it. -/
def leasedSchedule : List Label :=
  [.call 0 (.register phone), .commit 0 firstLease,
    .call 1 (.recordHealth ⟨phone, 0⟩ (.healthy 5) 5), .clock 1,
    .commit 1 firstLease,
    .call 2 (.acquire phone alice 6), .lookup 2, .lock 2, .clock 2,
    .commit 2 firstLease]

end PoolSystem

end DeviceRail
