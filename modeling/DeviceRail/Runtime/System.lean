import DeviceRail.EventStore.Changes
import DeviceRail.Runtime.Operation

/-!
# Concurrent runtime operations over one event store

Calls of `execute` and `observe` as tasks that share an event store.  A task
moves from one effect to the next: it waits for its driver, or it calls the
store, whose operations are atomic.  What the driver, the clock and the random
generators contribute is part of the label of a step, so that the labels of a
run determine it.  Other clients of the store do everything except recording
actions and releasing the leases of `observe` calls.
-/

namespace DeviceRail.RuntimeSystem

abbrev TaskId := ℕ

abbrev CapabilitiesAnswer := Except DriverError (List ActionDefinition)

abbrev ExecuteAnswer := Except DeviceOperationError ActionResult

abbrev ObserveAnswer := Except DeviceOperationError Observation

/-! ## `execute` -/

inductive ExecutePc where
  | ready
  /-- Waits for the driver's capabilities. -/
  | classifying
  /-- About to record the start. -/
  | starting (protection : Option ActionProtection)
  /-- The start is recorded. -/
  | calling (protection : Option ActionProtection)
  /-- The driver's `execute` runs. -/
  | waiting (expected : Option ScreenshotOmissionReason)
      (context : DriverOperationContext)
  /-- About to record the outcome. -/
  | completing (result : RuntimeResult ActionResult)
  | done (result : RuntimeResult ActionResult)

/-- A call of `execute`.  The last four fields are history: the events it
recorded, how often it called the driver, how the action was classified, and
what its evidence writer answered and kept. -/
structure ExecuteTask where
  runtime : DeviceRuntime
  context : OperationContext
  call : ActionCall
  pc : ExecutePc
  recorded : List TestEvent
  driverCalls : ℕ
  classified : Option (Option ActionProtection)
  written : List EvidenceAnswer × Finset EvidenceReceipt

inductive ExecuteInput where
  | enter (moment : Moment)
  | classify (entry : Moment) (ending : Ending CapabilitiesAnswer)
      (actionProtection : String → Option ActionProtection)
  | start (clock : ℕ) (eventId : EventId)
  | call (derivedAt : ℕ) (entry : Moment)
  | finish (uses : List EvidenceUse) (ending : Ending ExecuteAnswer)
  | complete (clock : ℕ) (eventId : EventId)

namespace ExecuteTask

def new (runtime : DeviceRuntime) (context : OperationContext)
    (call : ActionCall) : ExecuteTask :=
  ⟨runtime, context, call, .ready, [], 0, none, ([], ∅)⟩

variable (task : ExecuteTask)

def semanticAction : Bool := isSemanticActionName task.call.name

/-- The tests before any effect. -/
def enter (moment : Moment) : ExecuteTask :=
  match inactiveControlError task.context.control moment with
  | some error => { task with pc := .done (.error error) }
  | none =>
    if task.semanticAction && (!task.context.semanticActionsEnabled ||
        !task.context.uiSnapshotsEnabled) then
      { task with
        pc := .done (.error (.driver .semanticChannelUnavailable)) }
    else { task with pc := .classifying }

/-- `validated_action_protection`. -/
def classify (entry : Moment) (ending : Ending CapabilitiesAnswer)
    (actionProtection : String → Option ActionProtection) :
    Option ExecuteTask :=
  let control := task.context.control
  let resolved : Option (RuntimeResult (List ActionDefinition)) :=
    match inactiveControlError control entry with
    | some error => some (.error error)
    | none => ending.resolve control (normalizeDriverResult control)
  match resolved with
  | none => none
  | some (.error error) => some { task with pc := .done (.error error) }
  | some (.ok definitions) =>
    match classifyAction actionProtection definitions task.call.name with
    | .error error => some { task with pc := .done (.error error) }
    | .ok protection =>
      some { task with
        pc := .starting protection
        classified := some protection }

def startedEvent (protection : Option ActionProtection) (clock : ℕ) :
    PendingEvent :=
  .forOperation task.context (some task.runtime.driverId) (nowMs clock)
    (.actionStarted (.fromActionCall task.call protection))

/-- The append of an event of the call, which then goes on at `pc`. -/
def record (pending : PendingEvent) (pc : ExecutePc) (store : MemoryEventStore)
    (eventId : EventId) : ExecuteTask × MemoryEventStore :=
  match store.append pending eventId with
  | (.error error, store) =>
    ({ task with pc := .done (.error (.eventStore error)) }, store)
  | (.ok event, store) =>
    ({ task with pc := pc, recorded := task.recorded ++ [event] }, store)

/-- The append of `ActionStarted`. -/
def start (protection : Option ActionProtection) (store : MemoryEventStore)
    (clock : ℕ) (eventId : EventId) : ExecuteTask × MemoryEventStore :=
  task.record (task.startedEvent protection clock) (.calling protection) store
    eventId

/-- The call of the driver's `execute`; its future is dropped unpolled when
the control is inactive already. -/
def callDriver (protection : Option ActionProtection) (derivedAt : ℕ)
    (entry : Moment) : ExecuteTask :=
  let control := task.context.executionControl derivedAt
  let expected := expectedOmission protection
    (task.context.effectiveScreenshotPolicy task.runtime.screenshotPolicy)
  let screenshotPolicy : ScreenshotPolicy :=
    if expected.isSome then .omit else .capture
  let context :=
    task.runtime.driverContext control task.context screenshotPolicy
  let task := { task with driverCalls := task.driverCalls + 1 }
  match inactiveControlError control entry with
  | some error => { task with pc := .completing (.error error) }
  | none => { task with pc := .waiting expected context }

/-- The checks of `execute` on a driver result. -/
def check (expected : Option ScreenshotOmissionReason)
    (context : DriverOperationContext) (result : ActionResult) :
    RuntimeResult ActionResult :=
  match validateActionResult task.call.id task.semanticAction result with
  | .error error => .error error
  | .ok result =>
    match task.runtime.validateActionEvidence context result expected with
    | .error error => .error error
    | .ok () => .ok result

/-- The end of the wait for the driver. -/
def finish (expected : Option ScreenshotOmissionReason)
    (context : DriverOperationContext) (uses : List EvidenceUse)
    (ending : Ending ExecuteAnswer) : Option ExecuteTask :=
  let (answers, writer) := context.evidence.performAll uses
  let context := { context with evidence := writer }
  (ending.resolve context.control
    (normalizeDeviceOperationResult context.control)).map (fun resolved =>
      { task with
        pc := .completing
          (match resolved with
          | .error error => .error error
          | .ok result => task.check expected context result)
        written := (answers, writer.receipts) })

def completedEvent (result : RuntimeResult ActionResult) (clock : ℕ) :
    PendingEvent :=
  .forOperation task.context (some task.runtime.driverId) (nowMs clock)
    (.actionCompleted task.call.id (.ofResult result))

/-- The append of `ActionCompleted`. -/
def complete (result : RuntimeResult ActionResult) (store : MemoryEventStore)
    (clock : ℕ) (eventId : EventId) : ExecuteTask × MemoryEventStore :=
  task.record (task.completedEvent result clock) (.done result) store eventId

/-- One step of `execute`. -/
def step (store : MemoryEventStore) :
    ExecuteInput → Option (ExecuteTask × MemoryEventStore)
  | .enter moment =>
    match task.pc with
    | .ready => some (task.enter moment, store)
    | _ => none
  | .classify entry ending actionProtection =>
    match task.pc with
    | .classifying =>
      (task.classify entry ending actionProtection).map (·, store)
    | _ => none
  | .start clock eventId =>
    match task.pc with
    | .starting protection => some (task.start protection store clock eventId)
    | _ => none
  | .call derivedAt entry =>
    match task.pc with
    | .calling protection =>
      some (task.callDriver protection derivedAt entry, store)
    | _ => none
  | .finish uses ending =>
    match task.pc with
    | .waiting expected context =>
      (task.finish expected context uses ending).map (·, store)
    | _ => none
  | .complete clock eventId =>
    match task.pc with
    | .completing result => some (task.complete result store clock eventId)
    | _ => none

end ExecuteTask

/-! ## `observe` -/

def observationReleaseMaxAttempts : ℕ := 3

inductive ObservePc where
  | ready
  /-- Holds its lease, waits for the driver. -/
  | observing (lease : ObservationLease)
  /-- About to record the observation or the error. -/
  | recording (lease : ObservationLease) (operation : RuntimeResult Observation)
  /-- About to release its lease for the given time. -/
  | releasing (lease : ObservationLease) (attempt : ℕ)
      (result : RuntimeResult Observation)
  | done (lease : Option ObservationLease) (result : RuntimeResult Observation)

/-- The lease a call has to release. -/
def ObservePc.held? : ObservePc → Option ObservationLease
  | .ready => none
  | .observing lease => some lease
  | .recording lease _ => some lease
  | .releasing lease _ _ => some lease
  | .done _ _ => none

structure ObserveTask where
  runtime : DeviceRuntime
  context : OperationContext
  pc : ObservePc

inductive ObserveInput where
  | reserve (lease : ObservationLease)
  | observe (entry : Moment) (uses : List EvidenceUse)
      (ending : Ending ObserveAnswer)
  | record (clock : ℕ) (eventId : EventId)
  | release

namespace ObserveTask

def new (runtime : DeviceRuntime) (context : OperationContext) : ObserveTask :=
  ⟨runtime, context, .ready⟩

variable (task : ObserveTask)

/-- `reserve_observation`, whose drawing loop ends with an unused token. -/
def reserve (store : MemoryEventStore) (lease : ObservationLease) :
    Option (ObserveTask × MemoryEventStore) :=
  if lease ∈ store.observationLeases then none
  else
    match store.reserveObservation task.context.sessionId lease with
    | (.error error, store) =>
      some ({ task with pc := .done none (.error (.eventStore error)) }, store)
    | (.ok lease, store) => some ({ task with pc := .observing lease }, store)

/-- The call of the driver's `observe`, the wait for it and the checks. -/
def observe (lease : ObservationLease) (entry : Moment)
    (uses : List EvidenceUse) (ending : Ending ObserveAnswer) :
    Option ObserveTask :=
  let screenshotPolicy :=
    task.context.effectiveScreenshotPolicy task.runtime.screenshotPolicy
  let context := task.runtime.driverContext task.context.control task.context
    screenshotPolicy
  let resolved : Option (RuntimeResult Observation) :=
    match inactiveControlError context.control entry with
    | some error => some (.error error)
    | none => ending.resolve context.control
        (normalizeDeviceOperationResult context.control)
  let context := { context with
    evidence := (context.evidence.performAll uses).2 }
  let expected : Option ScreenshotOmissionReason :=
    match screenshotPolicy with
    | .capture => none
    | .omit => some .policy
  resolved.map (fun resolved =>
    { task with
      pc := .recording lease
        (match resolved with
        | .error error => .error error
        | .ok observation =>
          match task.runtime.validateObservationEvidence context observation
              expected with
          | .error error => .error error
          | .ok () => .ok observation) })

def recordedPayload : RuntimeResult Observation → TestEventPayload
  | .ok observation => .observationCaptured observation
  | .error error => .error error.toErrorInfo

/-- The append of the observation or of the error. -/
def record (lease : ObservationLease) (operation : RuntimeResult Observation)
    (store : MemoryEventStore) (clock : ℕ) (eventId : EventId) :
    ObserveTask × MemoryEventStore :=
  let pending := PendingEvent.forOperation task.context
    (some task.runtime.driverId) (nowMs clock) (recordedPayload operation)
  match store.append pending eventId with
  | (.error error, store) =>
    ({ task with pc := .releasing lease 1 (.error (.eventStore error)) }, store)
  | (.ok _, store) => ({ task with pc := .releasing lease 1 operation }, store)

/-- One attempt of `release_observation_lease`. -/
def release (lease : ObservationLease) (attempt : ℕ)
    (result : RuntimeResult Observation) (store : MemoryEventStore) :
    ObserveTask × MemoryEventStore :=
  match store.releaseObservation task.context.sessionId lease with
  | (.ok (), store) => ({ task with pc := .done (some lease) result }, store)
  | (.error error, store) =>
    if attempt < observationReleaseMaxAttempts then
      ({ task with pc := .releasing lease (attempt + 1) result }, store)
    else
      ({ task with pc := .done (some lease) (.error (.eventStore error)) },
        store)

/-- One step of `observe`. -/
def step (store : MemoryEventStore) :
    ObserveInput → Option (ObserveTask × MemoryEventStore)
  | .reserve lease =>
    match task.pc with
    | .ready => task.reserve store lease
    | _ => none
  | .observe entry uses ending =>
    match task.pc with
    | .observing lease => (task.observe lease entry uses ending).map (·, store)
    | _ => none
  | .record clock eventId =>
    match task.pc with
    | .recording lease operation =>
      some (task.record lease operation store clock eventId)
    | _ => none
  | .release =>
    match task.pc with
    | .releasing lease attempt result =>
      some (task.release lease attempt result store)
    | _ => none

end ObserveTask

/-! ## The system -/

structure System where
  store : MemoryEventStore
  executes : KeyedMap TaskId ExecuteTask
  observes : KeyedMap TaskId ObserveTask

def System.new (config : EventStreamConfig) : System :=
  ⟨.withEventStreamConfig config, ∅, ∅⟩

/-- Action events, which only `execute` records. -/
def isActionPayload : TestEventPayload → Bool
  | .actionStarted _ => true
  | .actionCompleted _ _ => true
  | _ => false

/-- What other clients may do with the store: they record no actions, and they
do not know the leases of `observe` calls. -/
def System.isExternal (sys : System) : MemoryEventStore.Op → Bool
  | .append pending _ => !isActionPayload pending.payload
  | .releaseObservation _ lease =>
    sys.observes.values.all (fun task => task.pc.held? != some lease)
  | _ => true

inductive Label where
  | client (op : MemoryEventStore.Op)
  | newExecute (tid : TaskId) (runtime : DeviceRuntime)
      (context : OperationContext) (call : ActionCall)
  | execute (tid : TaskId) (input : ExecuteInput)
  | newObserve (tid : TaskId) (runtime : DeviceRuntime)
      (context : OperationContext)
  | observe (tid : TaskId) (input : ObserveInput)

/-- The unused tokens that `reserve_observation` can draw. -/
def isDrawn (store : MemoryEventStore) : MemoryEventStore.Op → Bool
  | .reserveObservation _ lease => decide (lease ∉ store.observationLeases)
  | _ => true

/-- One step of the system. -/
def System.step (sys : System) : Label → Option System
  | .client op =>
    if sys.isExternal op && isDrawn sys.store op then
      some { sys with store := (sys.store.perform op).2 }
    else none
  | .newExecute tid runtime context call =>
    if (sys.executes.lookup tid).isNone then
      some { sys with
        executes := sys.executes.insert tid (.new runtime context call) }
    else none
  | .execute tid input =>
    match sys.executes.lookup tid with
    | none => none
    | some task =>
      (task.step sys.store input).map (fun next =>
        { sys with
          store := next.2
          executes := sys.executes.insert tid next.1 })
  | .newObserve tid runtime context =>
    if (sys.observes.lookup tid).isNone then
      some { sys with
        observes := sys.observes.insert tid (.new runtime context) }
    else none
  | .observe tid input =>
    match sys.observes.lookup tid with
    | none => none
    | some task =>
      (task.step sys.store input).map (fun next =>
        { sys with
          store := next.2
          observes := sys.observes.insert tid next.1 })

def Step (sys : System) (label : Label) (sys' : System) : Prop :=
  sys.step label = some sys'

/-- Run a schedule. -/
def System.runLabels (sys : System) (labels : List Label) : Option System :=
  Transition.exec System.step sys labels

end DeviceRail.RuntimeSystem
