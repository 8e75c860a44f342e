import DeviceRail.EventStore.Advance
import DeviceRail.Runtime.Moves

/-!
# What `execute` records

The invariant of concurrent `execute` calls over one store.  A call that got
its start recorded owns the identifier of its action in the session: while the
session is retained, the events about that action are exactly the events the
call recorded.  The store refuses a second start of the same action, and it
does not end a session in which an action is open, so that the call can always
record the outcome.
-/

namespace DeviceRail

open History SessionLog

/-! ## The events of one action -/

variable {event : TestEvent} {callId : Uuid} {sessionId : SessionId}

namespace History

/-- The event starts or completes the action. -/
def concerns (callId : Uuid) (event : TestEvent) : Bool :=
  event.startedCall? == some callId || event.completedCall? == some callId

/-- The events about one action, in order. -/
def callEvents (events : List TestEvent) (callId : Uuid) : List TestEvent :=
  events.filter (concerns callId)

section

variable {events : List TestEvent}

theorem callEvents_append (added : List TestEvent) :
    callEvents (events ++ added) callId =
      callEvents events callId ++ callEvents added callId :=
  List.filter_append events added

theorem callEvents_eq_nil {added : List TestEvent}
    (h : ∀ event ∈ added, concerns callId event = false) :
    callEvents added callId = [] := by
  apply List.filter_eq_nil_iff.mpr
  intro event hmem
  rw [h event hmem]
  exact Bool.false_ne_true

theorem callEvents_singleton (h : concerns callId event = true) :
    callEvents [event] callId = [event] :=
  List.filter_singleton.trans (by rw [h]; rfl)

/-- Only the events about a call matter for whether it is open. -/
theorem openCall_callEvents :
    openCall (callEvents events callId) callId = openCall events callId := by
  unfold openCall callEvents
  rw [List.foldl_filter]
  congr 1
  funext current event
  unfold concerns callStep
  split_ifs <;> simp_all

theorem Legal.callEvents_of_unstarted (h : Legal sessionId events)
    (hfresh : ¬CallStarted events callId) : callEvents events callId = [] := by
  apply callEvents_eq_nil
  intro event hmem
  have hstart : event.startedCall? ≠ some callId :=
    fun heq => hfresh ⟨event, hmem, heq⟩
  have hdone : event.completedCall? ≠ some callId := fun heq =>
    hfresh ((h.openCall_eq_some_iff callId).1 ⟨event, hmem, heq⟩)
  simp [concerns, hstart, hdone]

theorem callStarted_of_callEvents {rest : List TestEvent}
    (h : callEvents events callId = event :: rest)
    (hstart : event.startedCall? = some callId) :
    CallStarted events callId := by
  have hmem : event ∈ callEvents events callId := by
    rw [h]
    exact List.mem_cons_self
  exact ⟨event, List.mem_of_mem_filter hmem, hstart⟩

end

end History

/-! ## Recording an action event -/

variable {log : SessionLog} {store store' : MemoryEventStore}
  {eventId : EventId}

namespace MemoryEventStore

section

variable {pending : PendingEvent}

theorem admit_action_ne_existing
    (haction : RuntimeSystem.isActionPayload pending.payload = true) :
    log.admitEvent pending ≠ .ok (.existing event) := by
  intro h
  simp only [admitEvent, admitActionStarted, admitActionCompleted] at h
  repeat' split at h
  all_goals simp_all [RuntimeSystem.isActionPayload]

/-- An accepted action event is new, and legal after the log. -/
theorem Consistent.append_action (h : store.Consistent)
    (haction : RuntimeSystem.isActionPayload pending.payload = true)
    (happend : store.append pending eventId = (.ok event, store')) :
    ∃ log log' sequence,
      store.sessions.lookup pending.sessionId = some log ∧
      store'.sessions.lookup pending.sessionId = some log' ∧
      log'.events = log.events ++ [event] ∧
      event = pending.toEvent eventId sequence ∧
      ¬Ended log.events ∧ Admits log.events event := by
  rcases store.append_cases pending eventId with ⟨error, heq⟩ |
    ⟨existing, log, -, hadmitted, heq⟩ |
    ⟨log, sequence, transition, -, hlookup, hcheck, hactive, -, hadmitted, heq⟩
  · cases happend.symm.trans heq
  · exact absurd hadmitted (admit_action_ne_existing haction)
  · cases happend.symm.trans heq
    have hrepresents := h.represents _ log hlookup
    refine ⟨log, _, sequence, hlookup, ?_, record_events transition, rfl,
      hrepresents.ended_iff.not.mp hactive,
      (hrepresents.admits (checkPending_eq_ok.mp hcheck).2 hadmitted
        eventId sequence).2⟩
    rw [lookup_setLog hlookup, if_pos rfl]

/-- The store takes further events of the session. -/
def accepts (store : MemoryEventStore) (sessionId : SessionId) : Bool :=
  !store.streamShutdown && (store.sessions.lookup sessionId).all (fun log =>
    decide (log.info.lastSequence.get < maxSafeInteger))

theorem Consistent.append_completed_ok (h : store.Consistent)
    {callId : Uuid} {outcome : ActionOutcome}
    (hpayload : pending.payload = .actionCompleted callId outcome)
    (hlookup : store.sessions.lookup pending.sessionId = some log)
    (hopen : openCall log.events callId =
      some ⟨pending.requestId, pending.deviceId⟩)
    (hresult : outcome.namesOtherCall callId = false)
    (hat : pending.atMs ≤ maxSafeInteger)
    (haccepts : store.accepts pending.sessionId = true) :
    ∃ event, (store.append pending eventId).1 = .ok event := by
  have hrepresents := h.represents _ log hlookup
  simp only [accepts, hlookup, Option.all_some, Bool.and_eq_true,
    Bool.not_eq_true', decide_eq_true_eq] at haccepts
  have hcheck : checkPending pending = .ok () := by
    rw [checkPending_eq_ok, hpayload]
    exact ⟨hat, rfl⟩
  have hactive : log.info.state ≠ .ended := by
    intro hended
    have hquiet :=
      (hrepresents.legal.quiescent (hrepresents.ended_iff.mp hended)).1 callId
    cases hopen.symm.trans hquiet
  have hadmitted : log.admitEvent pending = .ok (.record (.actionCompleted callId)) := by
    unfold admitEvent
    rw [hpayload]
    simp only [admitActionCompleted]
    rw [hrepresents.inFlight callId, hopen]
    simp [hresult]
  exact append_eq_ok hcheck haccepts.1 hlookup hactive haccepts.2 hadmitted
    eventId

end

end MemoryEventStore

namespace RuntimeSystem

open MemoryEventStore

/-! ## One call -/

/-- The start is recorded and the outcome is not. -/
def ExecutePc.busy : ExecutePc → Prop
  | .calling _ => True
  | .waiting _ _ => True
  | .completing _ => True
  | _ => False

variable {task' : ExecuteTask}

namespace ExecuteTask

variable (task : ExecuteTask)

/-- The session and the action a call is about. -/
def key : SessionId × Uuid := (task.context.sessionId, task.call.id)

/-- The event records the start of the action. -/
structure Starts (task : ExecuteTask) (event : TestEvent) : Prop where
  sessionId : event.sessionId = task.context.sessionId
  requestId : event.requestId = task.context.requestId
  deviceId : event.deviceId = some task.runtime.driverId
  payload : ∃ protection,
    event.payload = .actionStarted (.fromActionCall task.call protection)

/-- The event records the end of the action, with what `execute` returned. -/
structure Completes (task : ExecuteTask) (result : RuntimeResult ActionResult)
    (event : TestEvent) : Prop where
  sessionId : event.sessionId = task.context.sessionId
  requestId : event.requestId = task.context.requestId
  deviceId : event.deviceId = some task.runtime.driverId
  payload : event.payload = .actionCompleted task.call.id (.ofResult result)

def StartRecorded : Prop := ∃ event, task.recorded = [event] ∧ task.Starts event

/-- The call ended before its start was recorded. -/
def Untouched : Prop := task.recorded = [] ∧ task.driverCalls = 0

/-- The call recorded its start and its outcome. -/
def Concluded (result : RuntimeResult ActionResult) : Prop :=
  task.driverCalls = 1 ∧ ∃ started completed,
    task.recorded = [started, completed] ∧ task.Starts started ∧
      task.Completes result completed

/-- What a call has recorded where it stands. -/
def Shape (task : ExecuteTask) : Prop :=
  match task.pc with
  | .ready => task.Untouched
  | .classifying => task.Untouched
  | .starting _ => task.Untouched
  | .calling _ => task.StartRecorded ∧ task.driverCalls = 0
  | .waiting _ _ => task.StartRecorded ∧ task.driverCalls = 1
  | .completing result => (task.StartRecorded ∧ task.driverCalls = 1) ∧
      ∀ value, result = .ok value → value.callId = task.call.id
  | .done result => (task.Untouched ∧ ∃ error, result = .error error) ∨
      task.Concluded result ∨
      (task.StartRecorded ∧ task.driverCalls = 1)

/-- What a call has recorded, and that its session has nothing else about its
action. -/
structure Fits (store : MemoryEventStore) (task : ExecuteTask) : Prop where
  shape : task.Shape
  used : task.recorded ≠ [] → task.context.sessionId ∈ store.usedSessionIds
  traced : task.recorded ≠ [] → ∀ log,
    store.sessions.lookup task.context.sessionId = some log →
      callEvents log.events task.call.id = task.recorded
  live : task.pc.busy →
    ∃ log, store.sessions.lookup task.context.sessionId = some log

section

variable {task : ExecuteTask}

theorem Starts.startedCall? (h : task.Starts event) :
    event.startedCall? = some task.call.id := by
  obtain ⟨protection, hpayload⟩ := h.payload
  rw [TestEvent.startedCall?, hpayload]
  rfl

theorem Starts.correlation (h : task.Starts event) :
    event.correlation =
      ⟨task.context.requestId, some task.runtime.driverId⟩ := by
  rw [TestEvent.correlation, h.requestId, h.deviceId]

theorem Shape.startRecorded (h : task.Shape) (hbusy : task.pc.busy) :
    task.StartRecorded := by
  unfold Shape at h
  cases hpc : task.pc <;> simp_all [ExecutePc.busy]

theorem Shape.starts (h : task.Shape) (hrecorded : task.recorded ≠ []) :
    ∃ event rest, task.recorded = event :: rest ∧ task.Starts event := by
  have hone : task.StartRecorded →
      ∃ event rest, task.recorded = event :: rest ∧ task.Starts event :=
    fun ⟨event, heq, hstarts⟩ => ⟨event, [], heq, hstarts⟩
  unfold Shape at h
  split at h
  iterate 3 next => exact absurd h.1 hrecorded
  next => exact hone h.1
  next => exact hone h.1
  next => exact hone h.1.1
  next =>
    rcases h with ⟨huntouched, -⟩ | ⟨-, started, completed, heq, hstarts, -⟩ |
      ⟨hstart, -⟩
    · exact absurd huntouched.1 hrecorded
    · exact ⟨started, [completed], heq, hstarts⟩
    · exact hone hstart

end

section

variable {task : ExecuteTask}

/-- The action of a call that recorded its start is started in its session. -/
theorem Fits.callStarted (h : task.Fits store) (hrecorded : task.recorded ≠ [])
    (hlog : store.sessions.lookup task.context.sessionId = some log) :
    CallStarted log.events task.call.id := by
  obtain ⟨event, rest, heq, hstarts⟩ := h.shape.starts hrecorded
  have hevents : callEvents log.events task.call.id = event :: rest := by
    rw [h.traced hrecorded log hlog, heq]
  exact callStarted_of_callEvents hevents hstarts.startedCall?

theorem Shape.recorded_ne_nil (h : task.Shape) (hbusy : task.pc.busy) :
    task.recorded ≠ [] := by
  obtain ⟨event, heq, -⟩ := h.startRecorded hbusy
  rw [heq]
  exact List.cons_ne_nil _ _

theorem Fits.openCall_eq (h : task.Fits store) (hbusy : task.pc.busy)
    (hlog : store.sessions.lookup task.context.sessionId = some log) :
    openCall log.events task.call.id =
      some ⟨task.context.requestId, some task.runtime.driverId⟩ := by
  obtain ⟨event, heq, hstarts⟩ := h.shape.startRecorded hbusy
  have htraced := h.traced (h.shape.recorded_ne_nil hbusy) log hlog
  rw [← openCall_callEvents, htraced, heq]
  simp [openCall, callStep, hstarts.startedCall?, hstarts.correlation]

/-- What others do to the store without touching the action of a call keeps
what the call relies on. -/
theorem Fits.advance (h : task.Fits store) (hconsistent : store.Consistent)
    {adds : SessionId → TestEvent → Prop} (hadvance : Advances adds store store')
    (hquiet : task.recorded ≠ [] → ∀ event,
      adds task.context.sessionId event → concerns task.call.id event = false) :
    task.Fits store' where
  shape := h.shape
  used := fun hrecorded => hadvance.used (h.used hrecorded)
  traced := by
    intro hrecorded log' hlog'
    cases hlog : store.sessions.lookup task.context.sessionId with
    | none => cases (hadvance.gone (h.used hrecorded) hlog).symm.trans hlog'
    | some log =>
      rcases hadvance.kept _ log hlog with
        ⟨log'', added, hlog'', hevents, hadds⟩ | ⟨hnone, -⟩
      · cases hlog''.symm.trans hlog'
        rw [hevents, callEvents_append, h.traced hrecorded log hlog,
          callEvents_eq_nil, List.append_nil]
        exact fun event hmem => hquiet hrecorded event (hadds event hmem)
      · cases hnone.symm.trans hlog'
  live := by
    intro hbusy
    obtain ⟨log, hlog⟩ := h.live hbusy
    rcases hadvance.kept _ log hlog with ⟨log', -, hlog', -⟩ | ⟨-, hended⟩
    · exact ⟨log', hlog'⟩
    · have hquiescent :=
        ((hconsistent.represents _ log hlog).legal.quiescent hended).1
          task.call.id
      cases (h.openCall_eq hbusy hlog).symm.trans hquiescent

end

section

variable {task : ExecuteTask} {clock : ℕ}

theorem concerns_actionEvent {pending : PendingEvent} {other : Uuid}
    (hne : other ≠ callId)
    (hpayload : (∃ call, pending.payload = .actionStarted call ∧
        call.id = callId) ∨
      ∃ outcome, pending.payload = .actionCompleted callId outcome)
    (eventId : EventId) (sequence : EventSequence) :
    concerns other (pending.toEvent eventId sequence) = false := by
  rcases hpayload with ⟨call, hpayload, rfl⟩ | ⟨outcome, hpayload⟩ <;>
    simp [concerns, TestEvent.startedCall?, TestEvent.completedCall?,
      PendingEvent.toEvent, hpayload, Ne.symm hne]

/-- `execute` adds events about its own action, to its own session. -/
theorem Move.advances (h : task.Move store task' store')
    (hconsistent : store.Consistent) :
    Advances (fun sessionId event => sessionId = task.context.sessionId ∧
      ∀ other, other ≠ task.call.id → concerns other event = false)
      store store' := by
  cases h with
  | started _ _ eventId event _ _ happend
  | completed _ _ eventId event _ _ happend =>
    obtain rfl : (store.append _ eventId).2 = _ := congrArg Prod.snd happend
    refine (hconsistent.advances_append _ eventId).mono ?_
    rintro sessionId added ⟨hid, sequence, rfl⟩
    refine ⟨hid, fun other hne => concerns_actionEvent hne ?_ _ _⟩
    first
      | exact Or.inl ⟨_, rfl, rfl⟩
      | exact Or.inr ⟨_, rfl⟩
  | _ => exact Advances.refl store

theorem Move.store_eq (h : task.Move store task' store')
    (hrecorded : task'.recorded = []) : store' = store := by
  cases h with
  | started | completed => simp at hrecorded
  | _ => rfl

theorem Starts.of_same (h : task.Starts event)
    (hsame : task'.runtime = task.runtime ∧ task'.context = task.context ∧
      task'.call = task.call) : task'.Starts event := by
  obtain ⟨hruntime, hcontext, hcall⟩ := hsame
  exact ⟨hcontext ▸ h.sessionId, hcontext ▸ h.requestId, hruntime ▸ h.deviceId,
    hcall ▸ h.payload⟩

theorem StartRecorded.of_same (h : task.StartRecorded)
    (hsame : task'.runtime = task.runtime ∧ task'.context = task.context ∧
      task'.call = task.call) (hrecorded : task'.recorded = task.recorded) :
    task'.StartRecorded := by
  obtain ⟨event, heq, hstarts⟩ := h
  exact ⟨event, hrecorded.trans heq, hstarts.of_same hsame⟩

theorem Shape.untouched (h : task.Shape) (hbefore : task.pc.beforeStart) :
    task.Untouched := by
  unfold Shape at h
  cases hpc : task.pc <;> simp_all [ExecutePc.beforeStart]

theorem started_events (hconsistent : store.Consistent)
    {protection : Option ActionProtection}
    (happend : store.append (task.startedEvent protection clock) eventId =
      (.ok event, store')) :
    task.Starts event ∧ ∃ log log',
      store.sessions.lookup task.context.sessionId = some log ∧
      ¬CallStarted log.events task.call.id ∧
      store'.sessions.lookup task.context.sessionId = some log' ∧
      callEvents log'.events task.call.id = [event] := by
  obtain ⟨log, log', sequence, hlog, hlog', hevents, rfl, -, hadmits⟩ :=
    hconsistent.append_action rfl happend
  have hstarts : task.Starts ((task.startedEvent protection clock).toEvent
      eventId sequence) := ⟨rfl, rfl, rfl, protection, rfl⟩
  have hfresh := hadmits.not_callStarted hstarts.startedCall?
  refine ⟨hstarts, log, log', hlog, hfresh, hlog', ?_⟩
  rw [hevents, callEvents_append,
    (hconsistent.represents _ log hlog).legal.callEvents_of_unstarted hfresh,
    callEvents_singleton (by simp [concerns, hstarts.startedCall?])]
  rfl

/-- A recorded outcome follows what was recorded about its action. -/
theorem completed_events (hconsistent : store.Consistent)
    {result : RuntimeResult ActionResult}
    (happend : store.append (task.completedEvent result clock) eventId =
      (.ok event, store')) :
    task.Completes result event ∧ ∃ log log',
      store.sessions.lookup task.context.sessionId = some log ∧
      store'.sessions.lookup task.context.sessionId = some log' ∧
      callEvents log'.events task.call.id =
        callEvents log.events task.call.id ++ [event] := by
  obtain ⟨log, log', sequence, hlog, hlog', hevents, rfl, -, -⟩ :=
    hconsistent.append_action rfl happend
  refine ⟨⟨rfl, rfl, rfl, rfl⟩, log, log', hlog, hlog', ?_⟩
  rw [hevents, callEvents_append, callEvents_singleton]
  exact (Bool.or_eq_true _ _).mpr (.inr (beq_iff_eq.mpr rfl))

theorem Move.shape (h : task.Move store task' store')
    (hconsistent : store.Consistent) (hshape : task.Shape) : task'.Shape := by
  have hsame := h.same
  cases h with
  | entered hpc | classified protection hpc =>
    simp only [Shape, hpc] at hshape ⊢
    exact hshape
  | refused error hpc => exact Or.inl ⟨hshape.untouched hpc, error, rfl⟩
  | started protection clock eventId event _ hpc happend =>
    simp only [Shape, hpc] at hshape
    obtain ⟨hstarts, -⟩ := started_events hconsistent happend
    refine ⟨⟨event, ?_, hstarts.of_same hsame⟩, hshape.2⟩
    rw [hshape.1]
    rfl
  | interrupted protection error hpc =>
    simp only [Shape, hpc] at hshape
    refine ⟨⟨hshape.1.of_same hsame rfl, ?_⟩, by simp⟩
    simp only [hshape.2]
  | called protection derivedAt hpc =>
    simp only [Shape, hpc] at hshape
    refine ⟨hshape.1.of_same hsame rfl, ?_⟩
    simp only [hshape.2]
  | finished expected context uses result hpc hresult =>
    simp only [Shape, hpc] at hshape
    refine ⟨⟨hshape.1.of_same hsame rfl, hshape.2⟩, ?_⟩
    intro value hvalue
    obtain ⟨-, hvalid, -⟩ := check_eq_ok (hresult value hvalue)
    exact (validateActionResult_eq_ok hvalid).2
  | completed result clock eventId event _ hpc happend =>
    simp only [Shape, hpc] at hshape
    obtain ⟨⟨⟨started, heq, hstarts⟩, hcalls⟩, -⟩ := hshape
    obtain ⟨hcompletes, -⟩ := completed_events hconsistent happend
    refine Or.inr (Or.inl ⟨hcalls, started, event, ?_,
      hstarts.of_same hsame, ⟨hcompletes.sessionId, hcompletes.requestId,
        hcompletes.deviceId, hcompletes.payload⟩⟩)
    rw [heq]
    rfl
  | stranded result clock eventId error hpc happend =>
    simp only [Shape, hpc] at hshape
    exact Or.inr (Or.inr ⟨hshape.1.1.of_same hsame rfl, hshape.1.2⟩)

theorem Move.fits (h : task.Move store task' store')
    (hconsistent : store.Consistent) (hfits : task.Fits store) :
    task'.Fits store' := by
  have hshape := h.shape hconsistent hfits.shape
  have hadvance := h.advances hconsistent
  cases h with
  | started protection clock eventId event _ hpc happend =>
    obtain ⟨-, log, log', hlog, -, hlog', hevents⟩ :=
      started_events hconsistent happend
    have hnil : task.recorded = [] := by
      have hold := hfits.shape
      simp only [Shape, hpc] at hold
      exact hold.1
    refine ⟨hshape, ?_, ?_, fun _ => ⟨log', hlog'⟩⟩
    · exact fun _ => hadvance.used (hconsistent.used _ log hlog)
    · intro _ current hcurrent
      cases hlog'.symm.trans hcurrent
      rw [hevents, hnil]
      rfl
  | completed result clock eventId event _ hpc happend =>
    have hbusy : task.pc.busy := by
      rw [hpc]
      trivial
    obtain ⟨-, log, log', hlog, hlog', hevents⟩ :=
      completed_events hconsistent happend
    refine ⟨hshape, ?_, ?_, fun hnot => hnot.elim⟩
    · exact fun _ => hadvance.used (hconsistent.used _ log hlog)
    · intro _ current hcurrent
      cases hlog'.symm.trans hcurrent
      rw [hevents, hfits.traced (hfits.shape.recorded_ne_nil hbusy) log hlog]
  | interrupted protection error hpc | called protection derivedAt hpc
  | finished expected context uses result hpc hresult =>
    refine ⟨hshape, hfits.used, hfits.traced, fun _ => hfits.live ?_⟩
    rw [hpc]
    trivial
  | _ => exact ⟨hshape, hfits.used, hfits.traced, fun h => h.elim⟩

end

end ExecuteTask

/-! ## All calls -/

/-- Every call fits its session, and no two calls recorded the same action. -/
structure Recording (sys : System) : Prop where
  fits : ∀ tid task, sys.executes.lookup tid = some task → task.Fits sys.store
  distinct : ∀ tid tid' task task', sys.executes.lookup tid = some task →
    sys.executes.lookup tid' = some task' → tid ≠ tid' →
    task.recorded ≠ [] → task'.recorded ≠ [] → task.key ≠ task'.key

/-- Events that are not about any action. -/
def Quiet (_ : SessionId) (event : TestEvent) : Prop :=
  ∀ callId, concerns callId event = false

theorem quiet_of_payload (h : isActionPayload event.payload = false) :
    Quiet sessionId event := by
  intro callId
  unfold isActionPayload at h
  cases hpayload : event.payload <;>
    simp_all [concerns, TestEvent.startedCall?, TestEvent.completedCall?]

theorem quiet_of_external {sys : System} {op : Op}
    (hexternal : sys.isExternal op = true) (hadds : op.Adds sessionId event) :
    Quiet sessionId event := by
  cases op with
  | append pending eventId =>
    obtain ⟨-, sequence, rfl⟩ := hadds
    have hpayload : isActionPayload pending.payload = false := by
      simpa [System.isExternal] using hexternal
    exact quiet_of_payload hpayload
  | endSession command eventId =>
    obtain ⟨-, sequence, rfl⟩ := hadds
    exact quiet_of_payload rfl
  | _ => exact hadds.elim

theorem ObserveTask.Move.advances {task task' : ObserveTask}
    {store store' : MemoryEventStore} (h : task.Move store task' store')
    (hconsistent : store.Consistent) : Advances Quiet store store' := by
  cases h with
  | refused | observed => exact Advances.refl store
  | reserved =>
    exact (hconsistent.advances_reserveObservation _ _).mono
      fun _ _ hadds => hadds.elim
  | recorded lease operation clock eventId result _ =>
    refine (hconsistent.advances_append _ eventId).mono ?_
    rintro sessionId event ⟨-, sequence, rfl⟩
    apply quiet_of_payload
    cases operation <;> rfl
  | _ =>
    exact (hconsistent.advances_releaseObservation _ _).mono
      fun _ _ hadds => hadds.elim

section

variable {sys sys' : System} {tid : TaskId} {task : ExecuteTask}

theorem Recording.quiet (h : Recording sys) (hconsistent : sys.store.Consistent)
    (hadvance : Advances Quiet sys.store sys'.store)
    (hexecutes : sys'.executes = sys.executes) : Recording sys' where
  fits := by
    intro tid task hlookup
    rw [hexecutes] at hlookup
    exact (h.fits tid task hlookup).advance hconsistent hadvance
      (fun _ event hquiet => hquiet task.call.id)
  distinct := by
    rw [hexecutes]
    exact h.distinct

section

variable (h : Recording sys) (hconsistent : sys.store.Consistent)
  (hlookup : sys.executes.lookup tid = some task)
  (hmove : task.Move sys.store task' store')
include h hconsistent hlookup hmove

/-- A call that records an action is alone with it. -/
theorem Recording.fresh_key {other : TaskId} {otherTask : ExecuteTask}
    (hother : sys.executes.lookup other = some otherTask) (hne : other ≠ tid)
    (hrecorded : task'.recorded ≠ []) (hotherRecorded : otherTask.recorded ≠ []) :
    otherTask.key ≠ task'.key := by
  have hkey : task'.key = task.key := by
    obtain ⟨-, hcontext, hcall⟩ := hmove.same
    rw [ExecuteTask.key, ExecuteTask.key, hcontext, hcall]
  rw [hkey]
  by_cases hold : task.recorded = []
  · have hstart : ∃ log,
        sys.store.sessions.lookup task.context.sessionId = some log ∧
          ¬CallStarted log.events task.call.id := by
      have hfits := h.fits tid task hlookup
      cases hmove with
      | started protection clock eventId event _ hpc happend =>
        obtain ⟨-, log, -, hlog, hfresh, -⟩ :=
          ExecuteTask.started_events hconsistent happend
        exact ⟨log, hlog, hfresh⟩
      | completed result clock eventId event _ hpc happend =>
        refine absurd hold (hfits.shape.recorded_ne_nil ?_)
        rw [hpc]
        trivial
      | _ => exact absurd hold hrecorded
    obtain ⟨log, hlog, hfresh⟩ := hstart
    intro heq
    obtain ⟨hsession, hcall⟩ := Prod.mk.inj heq
    have hfits := h.fits other otherTask hother
    have hstarted : CallStarted log.events otherTask.call.id :=
      hfits.callStarted hotherRecorded (by rw [hsession, hlog])
    rw [hcall] at hstarted
    exact hfresh hstarted
  · exact h.distinct other tid otherTask task hother hlookup hne hotherRecorded
      hold

theorem Recording.execute :
    Recording { sys with
      store := store'
      executes := sys.executes.insert tid task' } where
  fits := by
    refine KeyedMap.forall_update (KeyedMap.lookup_insert_ite _ _ · _)
      (hmove.fits hconsistent (h.fits tid task hlookup)) ?_
    intro other otherTask hne hother
    have hfits := h.fits other otherTask hother
    by_cases hrecorded : task'.recorded = []
    · have hstore := hmove.store_eq hrecorded
      subst hstore
      exact hfits
    · refine hfits.advance hconsistent (hmove.advances hconsistent) ?_
      rintro hotherRecorded event ⟨hsession, hquiet⟩
      apply hquiet
      intro hcall
      refine h.fresh_key hconsistent hlookup hmove hother hne hrecorded
        hotherRecorded ?_
      obtain ⟨-, hcontext, hsame⟩ := hmove.same
      rw [ExecuteTask.key, ExecuteTask.key, hcontext, hsame, hsession, hcall]
  distinct := by
    refine KeyedMap.pairwise_insert (fun _ _ h h₁ h₂ => (h h₂ h₁).symm) ?_
      h.distinct
    intro other otherTask hother hne hrecorded hrecorded'
    exact (h.fresh_key hconsistent hlookup hmove hother hne hrecorded
      hrecorded').symm

end

theorem Step.recording {label : Label} (hstep : Step sys label sys')
    (hconsistent : sys.store.Consistent) (h : Recording sys) :
    Recording sys' := by
  cases hstep.move with
  | client op hexternal hdrawn =>
    refine h.quiet hconsistent ?_ rfl
    exact (hconsistent.perform_advances op).mono
      (fun _ _ hadds => quiet_of_external hexternal hadds)
  | newExecute tid runtime context call _ =>
    refine ⟨KeyedMap.forall_insert
      ⟨⟨rfl, rfl⟩, absurd rfl, absurd rfl, False.elim⟩ h.fits, ?_⟩
    refine KeyedMap.pairwise_insert (fun _ _ h h₁ h₂ => (h h₂ h₁).symm) ?_
      h.distinct
    exact fun _ _ _ _ hrecorded => absurd rfl hrecorded
  | execute tid input task task' store' hlookup hmove =>
    exact h.execute hconsistent hlookup hmove
  | newObserve tid runtime context _ =>
    exact h.quiet hconsistent (Advances.refl _) rfl
  | observe tid input task task' store' hlookup hmove =>
    exact h.quiet hconsistent (hmove.advances hconsistent) rfl

theorem recording_new (config : EventStreamConfig) :
    Recording (System.new config) := by
  constructor <;> simp [System.new]

end

end RuntimeSystem

end DeviceRail
