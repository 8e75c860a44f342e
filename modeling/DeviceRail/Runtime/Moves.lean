import DeviceRail.Runtime.System

/-!
# What a runtime step can do

Inversion of the steps of `execute` and `observe`: each step is one of a few
moves, with what it read from the store and what it established about a
driver's answer.
-/

namespace DeviceRail.RuntimeSystem

open Option

/-! ## `execute` -/

/-- Nothing is recorded yet. -/
def ExecutePc.beforeStart : ExecutePc → Prop
  | .ready => True
  | .classifying => True
  | .starting _ => True
  | _ => False

variable {store' store : MemoryEventStore}

namespace ExecuteTask

/-- What every observation of the action has to report. -/
def omission (task : ExecuteTask) (protection : Option ActionProtection) :
    Option ScreenshotOmissionReason :=
  expectedOmission protection
    (task.context.effectiveScreenshotPolicy task.runtime.screenshotPolicy)

/-- The context of the driver call. -/
def driverContext (task : ExecuteTask) (protection : Option ActionProtection)
    (derivedAt : ℕ) : DriverOperationContext :=
  task.runtime.driverContext (task.context.executionControl derivedAt)
    task.context (if (task.omission protection).isSome then .omit else .capture)

/-- The context after the driver used its writer. -/
def usedContext (context : DriverOperationContext) (uses : List EvidenceUse) :
    DriverOperationContext :=
  { context with evidence := (context.evidence.performAll uses).2 }

/-- The moves of `execute`. -/
inductive Move (task : ExecuteTask) (store : MemoryEventStore) :
    ExecuteTask → MemoryEventStore → Prop
  | entered (hpc : task.pc = .ready) :
      Move task store { task with pc := .classifying } store
  | refused (error : RuntimeError) (hpc : task.pc.beforeStart) :
      Move task store { task with pc := .done (.error error) } store
  | classified (protection : Option ActionProtection)
      (hpc : task.pc = .classifying) :
      Move task store
        { task with
          pc := .starting protection
          classified := some protection } store
  | started (protection : Option ActionProtection) (clock : ℕ)
      (eventId : EventId) (event : TestEvent) (store' : MemoryEventStore)
      (hpc : task.pc = .starting protection)
      (happend : store.append (task.startedEvent protection clock) eventId =
        (.ok event, store')) :
      Move task store
        { task with
          pc := .calling protection
          recorded := task.recorded ++ [event] } store'
  | interrupted (protection : Option ActionProtection) (error : RuntimeError)
      (hpc : task.pc = .calling protection) :
      Move task store
        { task with
          pc := .completing (.error error)
          driverCalls := task.driverCalls + 1 } store
  | called (protection : Option ActionProtection) (derivedAt : ℕ)
      (hpc : task.pc = .calling protection) :
      Move task store
        { task with
          pc := .waiting (task.omission protection)
            (task.driverContext protection derivedAt)
          driverCalls := task.driverCalls + 1 } store
  | finished (expected : Option ScreenshotOmissionReason)
      (context : DriverOperationContext) (uses : List EvidenceUse)
      (result : RuntimeResult ActionResult)
      (hpc : task.pc = .waiting expected context)
      (hresult : ∀ value, result = .ok value →
        task.check expected (usedContext context uses) value = .ok value) :
      Move task store
        { task with
          pc := .completing result
          written := ((context.evidence.performAll uses).1,
            (context.evidence.performAll uses).2.receipts) } store
  | completed (result : RuntimeResult ActionResult) (clock : ℕ)
      (eventId : EventId) (event : TestEvent) (store' : MemoryEventStore)
      (hpc : task.pc = .completing result)
      (happend : store.append (task.completedEvent result clock) eventId =
        (.ok event, store')) :
      Move task store
        { task with
          pc := .done result
          recorded := task.recorded ++ [event] } store'
  | stranded (result : RuntimeResult ActionResult) (clock : ℕ)
      (eventId : EventId) (error : EventStoreError)
      (hpc : task.pc = .completing result)
      (happend : store.append (task.completedEvent result clock) eventId =
        (.error error, store)) :
      Move task store { task with pc := .done (.error (.eventStore error)) }
        store

section

variable {task task' : ExecuteTask} {result value : ActionResult}
  {expected : Option ScreenshotOmissionReason}
  {context : DriverOperationContext} {eventId : EventId}
  {protection : Option ActionProtection} {clock : ℕ}

theorem validateActionResult_eq_ok {callId : Uuid} {semanticAction : Bool}
    (h : validateActionResult callId semanticAction result = .ok value) :
    value = result ∧ result.callId = callId := by
  obtain ⟨hid, h⟩ := guard_eq_ok.mp h
  refine ⟨?_, not_not.mp hid⟩
  split at h
  next => cases h
  next => cases h
  next =>
    split at h
    next => cases h
    next =>
      cases h
      rfl
  next =>
    cases h
    rfl

/-- A checked result is the driver's result, for the right call, with the
evidence of this operation. -/
theorem check_eq_ok (h : task.check expected context result = .ok value) :
    value = result ∧
      validateActionResult task.call.id task.semanticAction result =
        .ok result ∧
      task.runtime.validateActionEvidence context result expected = .ok () := by
  unfold check at h
  split at h
  next => cases h
  next checked hchecked =>
    obtain ⟨rfl, -⟩ := validateActionResult_eq_ok hchecked
    split at h
    next => cases h
    next hevidence =>
      cases h
      exact ⟨rfl, hchecked, hevidence⟩

theorem move_enter (hpc : task.pc = .ready) (moment : Moment) :
    Move task store (task.enter moment) store := by
  have hbefore : task.pc.beforeStart := by
    rw [hpc]
    trivial
  unfold enter
  split
  · exact Move.refused _ hbefore
  split
  · exact Move.refused _ hbefore
  exact Move.entered hpc

theorem move_classify (hpc : task.pc = .classifying) {entry : Moment}
    {ending : Ending CapabilitiesAnswer}
    {actionProtection : String → Option ActionProtection}
    (h : task.classify entry ending actionProtection = some task') :
    Move task store task' store := by
  have hbefore : task.pc.beforeStart := by
    rw [hpc]
    trivial
  unfold classify at h
  dsimp only at h
  split at h
  next => cases h
  next =>
    cases h
    exact Move.refused _ hbefore
  next =>
    split at h
    next =>
      cases h
      exact Move.refused _ hbefore
    next protection _ =>
      cases h
      exact Move.classified protection hpc

theorem append_error_store {pending : PendingEvent} {error : EventStoreError}
    (h : store.append pending eventId = (.error error, store')) :
    store' = store := by
  rcases store.append_cases pending eventId with ⟨_, happend⟩ |
    ⟨_, _, -, -, happend⟩ | ⟨_, _, _, -, -, -, -, -, -, happend⟩ <;>
    cases h.symm.trans happend
  rfl

theorem move_start (hpc : task.pc = .starting protection)
    (h : task.start protection store clock eventId = (task', store')) :
    Move task store task' store' := by
  unfold start record at h
  split at h
  next error _ happend =>
    cases h
    obtain rfl := append_error_store happend
    refine Move.refused _ ?_
    rw [hpc]
    trivial
  next event _ happend =>
    cases h
    exact Move.started protection clock eventId event _ hpc happend

theorem move_callDriver (hpc : task.pc = .calling protection) (derivedAt : ℕ)
    (entry : Moment) :
    Move task store (task.callDriver protection derivedAt entry) store := by
  unfold callDriver
  dsimp only
  split
  next error _ => exact Move.interrupted protection error hpc
  next => exact Move.called protection derivedAt hpc

theorem move_finish (hpc : task.pc = .waiting expected context)
    {uses : List EvidenceUse} {ending : Ending ExecuteAnswer}
    (h : task.finish expected context uses ending = some task') :
    Move task store task' store := by
  obtain ⟨resolved, -, rfl⟩ := map_eq_some_iff.mp h
  refine Move.finished expected context uses _ hpc ?_
  intro value hvalue
  cases resolved with
  | error error => cases hvalue
  | ok result =>
    obtain ⟨rfl, -⟩ := check_eq_ok hvalue
    exact hvalue

theorem move_complete {result : RuntimeResult ActionResult}
    (hpc : task.pc = .completing result)
    (h : task.complete result store clock eventId = (task', store')) :
    Move task store task' store' := by
  unfold complete record at h
  split at h
  next error _ happend =>
    cases h
    obtain rfl := append_error_store happend
    exact Move.stranded result clock eventId error hpc happend
  next event _ happend =>
    cases h
    exact Move.completed result clock eventId event _ hpc happend

theorem move_of_step {input : ExecuteInput}
    (h : task.step store input = some (task', store')) :
    Move task store task' store' := by
  cases input <;> dsimp only [step] at h <;> split at h
  any_goals contradiction
  next moment _ hpc =>
    cases h
    exact move_enter hpc moment
  next hpc =>
    obtain ⟨next, hclassify, heq⟩ := map_eq_some_iff.mp h
    cases heq
    exact move_classify hpc hclassify
  next hpc => exact move_start hpc (Option.some.inj h)
  next derivedAt entry _ protection hpc =>
    cases h
    exact move_callDriver hpc derivedAt entry
  next hpc =>
    obtain ⟨next, hfinish, heq⟩ := map_eq_some_iff.mp h
    cases heq
    exact move_finish hpc hfinish
  next hpc => exact move_complete hpc (Option.some.inj h)

theorem Move.same (h : Move task store task' store') :
    task'.runtime = task.runtime ∧ task'.context = task.context ∧
      task'.call = task.call := by
  cases h <;> exact ⟨rfl, rfl, rfl⟩

end

end ExecuteTask

/-! ## `observe` -/

namespace ObserveTask

def driverContext (task : ObserveTask) : DriverOperationContext :=
  task.runtime.driverContext task.context.control task.context
    (task.context.effectiveScreenshotPolicy task.runtime.screenshotPolicy)

/-- What the observation has to report. -/
def omission (task : ObserveTask) : Option ScreenshotOmissionReason :=
  match task.context.effectiveScreenshotPolicy task.runtime.screenshotPolicy with
  | .capture => none
  | .omit => some .policy

def recordedEvent (task : ObserveTask) (operation : RuntimeResult Observation)
    (clock : ℕ) : PendingEvent :=
  .forOperation task.context (some task.runtime.driverId) (nowMs clock)
    (recordedPayload operation)

/-- The moves of `observe`. -/
inductive Move (task : ObserveTask) (store : MemoryEventStore) :
    ObserveTask → MemoryEventStore → Prop
  | refused (error : RuntimeError) (hpc : task.pc = .ready) :
      Move task store { task with pc := .done none (.error error) } store
  | reserved (lease : ObservationLease) (log : SessionLog)
      (hpc : task.pc = .ready) (hfresh : lease ∉ store.observationLeases)
      (hlookup : store.sessions.lookup task.context.sessionId = some log)
      (hreserve : (store.reserveObservation task.context.sessionId
        lease).2.observationLeases =
          store.observationLeases.insert lease
            ⟨task.context.sessionId, false⟩) :
      Move task store { task with pc := .observing lease }
        (store.reserveObservation task.context.sessionId lease).2
  | observed (lease : ObservationLease) (uses : List EvidenceUse)
      (operation : RuntimeResult Observation)
      (hpc : task.pc = .observing lease)
      (hoperation : ∀ observation, operation = .ok observation →
        task.runtime.validateObservationEvidence
          (ExecuteTask.usedContext task.driverContext uses) observation
          task.omission = .ok ()) :
      Move task store { task with pc := .recording lease operation } store
  | recorded (lease : ObservationLease) (operation : RuntimeResult Observation)
      (clock : ℕ) (eventId : EventId) (result : RuntimeResult Observation)
      (hpc : task.pc = .recording lease operation) :
      Move task store { task with pc := .releasing lease 1 result }
        (store.append (task.recordedEvent operation clock) eventId).2
  | released (lease : ObservationLease) (attempt : ℕ)
      (result : RuntimeResult Observation)
      (hpc : task.pc = .releasing lease attempt result)
      (hrelease : (store.releaseObservation task.context.sessionId lease).1 =
        .ok ()) :
      Move task store { task with pc := .done (some lease) result }
        (store.releaseObservation task.context.sessionId lease).2
  | retained (lease : ObservationLease) (attempt : ℕ)
      (result : RuntimeResult Observation) (pc : ObservePc)
      (hnext : ∀ lease operation, pc ≠ .recording lease operation)
      (hpc : task.pc = .releasing lease attempt result)
      (hrelease : (store.releaseObservation task.context.sessionId lease).1 ≠
        .ok ()) :
      Move task store { task with pc := pc }
        (store.releaseObservation task.context.sessionId lease).2

section

variable {task task' : ObserveTask} {lease : ObservationLease} {entry : Moment}
  {uses : List EvidenceUse} {ending : Ending ObserveAnswer}

theorem move_reserve (hpc : task.pc = .ready)
    (h : task.reserve store lease = some (task', store')) :
    Move task store task' store' := by
  unfold reserve at h
  split at h
  next => cases h
  next hfresh =>
    rcases store.reserveObservation_cases task.context.sessionId lease with
      ⟨error, hreserve⟩ | ⟨log, hlookup, -, hreserve⟩
    · rw [hreserve] at h
      cases h
      exact Move.refused _ hpc
    · rw [hreserve] at h
      cases h
      have hmove : Move task store _ _ :=
        Move.reserved lease log hpc hfresh hlookup (by rw [hreserve])
      rw [hreserve] at hmove
      exact hmove

theorem observe_eq_some (h : task.observe lease entry uses ending = some task') :
    ∃ operation, task' = { task with pc := .recording lease operation } ∧
      ∀ observation, operation = .ok observation →
        task.runtime.validateObservationEvidence
          (ExecuteTask.usedContext task.driverContext uses) observation
          task.omission = .ok () := by
  obtain ⟨resolved, -, rfl⟩ := map_eq_some_iff.mp h
  refine ⟨_, rfl, fun observation hobservation => ?_⟩
  cases resolved with
  | error error => cases hobservation
  | ok value =>
    dsimp only at hobservation
    split at hobservation
    next => cases hobservation
    next hvalid =>
      cases hobservation
      exact hvalid

theorem move_observe (hpc : task.pc = .observing lease)
    (h : task.observe lease entry uses ending = some task') :
    Move task store task' store := by
  obtain ⟨operation, rfl, hvalid⟩ := observe_eq_some h
  exact Move.observed lease uses operation hpc hvalid

theorem move_record {operation : RuntimeResult Observation}
    (hpc : task.pc = .recording lease operation) {clock : ℕ} {eventId : EventId}
    (h : task.record lease operation store clock eventId = (task', store')) :
    Move task store task' store' := by
  have hmove := @Move.recorded task store lease operation clock eventId
  unfold record at h
  dsimp only at h
  split at h <;> next happend =>
    cases h
    rw [recordedEvent, happend] at hmove
    exact hmove _ hpc

theorem move_release {attempt : ℕ} {result : RuntimeResult Observation}
    (hpc : task.pc = .releasing lease attempt result)
    (h : task.release lease attempt result store = (task', store')) :
    Move task store task' store' := by
  have hreleased := @Move.released task store lease attempt result hpc
  have hretained := @Move.retained task store lease attempt result
  unfold release at h
  split at h
  next hrelease =>
    cases h
    rw [hrelease] at hreleased
    exact hreleased rfl
  next error _ hrelease =>
    rw [hrelease] at hretained
    split at h <;> cases h <;> exact hretained _ (by simp) hpc (by simp)

theorem move_of_step {input : ObserveInput}
    (h : task.step store input = some (task', store')) :
    Move task store task' store' := by
  cases input <;> dsimp only [step] at h <;> split at h
  any_goals contradiction
  next hpc => exact move_reserve hpc h
  next hpc =>
    obtain ⟨next, hobserve, heq⟩ := map_eq_some_iff.mp h
    cases heq
    exact move_observe hpc hobserve
  next hpc => exact move_record hpc (Option.some.inj h)
  next hpc => exact move_release hpc (Option.some.inj h)

end

end ObserveTask

/-! ## The system -/

/-- The moves of the system. -/
inductive System.Move (sys : System) : Label → System → Prop
  | client (op : MemoryEventStore.Op) (hexternal : sys.isExternal op = true)
      (hdrawn : op.Drawn sys.store) :
      Move sys (.client op) { sys with store := (sys.store.perform op).2 }
  | newExecute (tid : TaskId) (runtime : DeviceRuntime)
      (context : OperationContext) (call : ActionCall)
      (hnew : sys.executes.lookup tid = none) :
      Move sys (.newExecute tid runtime context call)
        { sys with
          executes := sys.executes.insert tid (.new runtime context call) }
  | execute (tid : TaskId) (input : ExecuteInput) (task task' : ExecuteTask)
      (store' : MemoryEventStore) (hlookup : sys.executes.lookup tid = some task)
      (hmove : task.Move sys.store task' store') :
      Move sys (.execute tid input)
        { sys with
          store := store'
          executes := sys.executes.insert tid task' }
  | newObserve (tid : TaskId) (runtime : DeviceRuntime)
      (context : OperationContext) (hnew : sys.observes.lookup tid = none) :
      Move sys (.newObserve tid runtime context)
        { sys with
          observes := sys.observes.insert tid (.new runtime context) }
  | observe (tid : TaskId) (input : ObserveInput) (task task' : ObserveTask)
      (store' : MemoryEventStore) (hlookup : sys.observes.lookup tid = some task)
      (hmove : task.Move sys.store task' store') :
      Move sys (.observe tid input)
        { sys with
          store := store'
          observes := sys.observes.insert tid task' }

theorem drawn_of_isDrawn {op : MemoryEventStore.Op}
    (h : isDrawn store op = true) : op.Drawn store := by
  cases op <;> simp_all [isDrawn, MemoryEventStore.Op.Drawn]

variable {sys sys' : System} {label : Label}

theorem Step.move (h : Step sys label sys') : sys.Move label sys' := by
  cases label with
  | client op =>
    obtain ⟨hguard, heq⟩ := ite_none_right_eq_some.mp h
    cases heq
    rw [Bool.and_eq_true] at hguard
    exact System.Move.client op hguard.1 (drawn_of_isDrawn hguard.2)
  | newExecute tid runtime context call =>
    obtain ⟨hnew, heq⟩ := ite_none_right_eq_some.mp h
    cases heq
    exact System.Move.newExecute tid runtime context call
      (isNone_iff_eq_none.mp hnew)
  | execute tid input =>
    dsimp only [Step, System.step] at h
    split at h
    next => cases h
    next task hlookup =>
      obtain ⟨⟨task', store'⟩, hstep, heq⟩ := map_eq_some_iff.mp h
      cases heq
      exact System.Move.execute tid input task task' store' hlookup
        (ExecuteTask.move_of_step hstep)
  | newObserve tid runtime context =>
    obtain ⟨hnew, heq⟩ := ite_none_right_eq_some.mp h
    cases heq
    exact System.Move.newObserve tid runtime context
      (isNone_iff_eq_none.mp hnew)
  | observe tid input =>
    dsimp only [Step, System.step] at h
    split at h
    next => cases h
    next task hlookup =>
      obtain ⟨⟨task', store'⟩, hstep, heq⟩ := map_eq_some_iff.mp h
      cases heq
      exact System.Move.observe tid input task task' store' hlookup
        (ObserveTask.move_of_step hstep)

/-! ## Effect on the store -/

/-- What a move of `execute` does to the store is at most one append. -/
theorem ExecuteTask.Move.store_cases {task task' : ExecuteTask}
    {store' : MemoryEventStore} (h : task.Move store task' store') :
    store' = store ∨
      ∃ pending eventId, store' = (store.append pending eventId).2 := by
  cases h with
  | started protection clock eventId event _ _ happend
  | completed result clock eventId event _ _ happend =>
    exact Or.inr ⟨_, eventId, by rw [happend]⟩
  | _ => exact Or.inl rfl

/-- A step leaves the store as it is or runs one of its operations. -/
theorem System.Move.store_cases (h : sys.Move label sys') :
    sys'.store = sys.store ∨ ∃ op, op.Drawn sys.store ∧
      sys'.store = (sys.store.perform op).2 := by
  cases h with
  | client op _ hdrawn => exact Or.inr ⟨op, hdrawn, rfl⟩
  | newExecute | newObserve => exact Or.inl rfl
  | execute tid input task task' store' _ hmove =>
    rcases hmove.store_cases with hsame | ⟨pending, eventId, happend⟩
    · exact Or.inl hsame
    · exact Or.inr ⟨.append pending eventId, trivial, happend⟩
  | observe tid input task task' store' _ hmove =>
    cases hmove with
    | reserved lease log _ hfresh _ _ =>
      exact Or.inr ⟨.reserveObservation task.context.sessionId lease,
        hfresh, rfl⟩
    | recorded lease operation clock eventId _ _ =>
      exact Or.inr ⟨.append (task.recordedEvent operation clock) eventId,
        trivial, rfl⟩
    | released lease _ _ _ _ | retained lease _ _ _ _ _ =>
      exact Or.inr ⟨.releaseObservation task.context.sessionId lease,
        trivial, rfl⟩
    | _ => exact Or.inl rfl

theorem Step.store_reached (hstep : Step sys label sys')
    (h : sys.store.Reached) : sys'.store.Reached := by
  rcases hstep.move.store_cases with hsame | ⟨op, hdrawn, hperform⟩
  · rwa [hsame]
  · rw [hperform]
    exact h.perform op hdrawn

end DeviceRail.RuntimeSystem
