import DeviceRail.EventStore.Log
import DeviceRail.Support.Transition

/-!
# The in-memory event store

The operations of the store, each as one atomic step on the whole store.
Random identifiers (event identifiers, lease tokens) and the identity of a new
receiver are arguments: whoever runs an operation supplies them, so that a run
determines its states.
-/

namespace DeviceRail

structure ObservationLeaseState where
  sessionId : SessionId
  released : Bool
deriving DecidableEq, Repr

structure MemoryEventStore where
  sessions : KeyedMap SessionId SessionLog
  usedSessionIds : Finset SessionId
  observationLeases : KeyedMap ObservationLease ObservationLeaseState
  streamShutdown : Bool
  streamConfig : EventStreamConfig

namespace MemoryEventStore

def withEventStreamConfig (streamConfig : EventStreamConfig) :
    MemoryEventStore :=
  { sessions := ∅
    usedSessionIds := ∅
    observationLeases := ∅
    streamShutdown := false
    streamConfig := streamConfig }

variable (store : MemoryEventStore)

/-- Replace one retained log. -/
def setLog (sessionId : SessionId) (log : SessionLog) : MemoryEventStore :=
  { store with sessions := store.sessions.adjust sessionId (fun _ => log) }

def startSession (command : StartSession) (eventId : EventId) :
    Except EventStoreError SessionInfo × MemoryEventStore :=
  match ensureTimestamp command.atMs with
  | .error e => (.error e, store)
  | .ok () =>
    if store.streamShutdown then (.error .shuttingDown, store)
    else
      let used := insert command.sessionId store.usedSessionIds
      if command.sessionId ∈ store.usedSessionIds then
        (.error (.sessionAlreadyExists command.sessionId),
          { store with usedSessionIds := used })
      else
        let log := SessionLog.start command eventId
          store.streamConfig.tailCapacity
        (.ok log.info,
          { store with
            usedSessionIds := used
            sessions := store.sessions.insert command.sessionId log })

/-- `reserve_observation`; `lease` is the token the drawing loop leaves with. -/
def reserveObservation (sessionId : SessionId) (lease : ObservationLease) :
    Except EventStoreError ObservationLease × MemoryEventStore :=
  if store.streamShutdown then (.error .shuttingDown, store)
  else
    match store.sessions.lookup sessionId with
    | none => (.error (.sessionNotFound sessionId), store)
    | some log =>
      if log.info.state = .ended then
        (.error (.sessionEnded sessionId), store)
      else
        let log := { log with
          inFlightObservations := insert lease log.inFlightObservations }
        let store := store.setLog sessionId log
        (.ok lease,
          { store with observationLeases :=
              store.observationLeases.insert lease ⟨sessionId, false⟩ })

def releaseObservation (sessionId : SessionId) (lease : ObservationLease) :
    Except EventStoreError Unit × MemoryEventStore :=
  match store.observationLeases.lookup lease with
  | none => (.error (.invalidObservationLease sessionId lease.uuid), store)
  | some leaseState =>
    if leaseState.sessionId ≠ sessionId then
      (.error (.invalidObservationLease sessionId lease.uuid), store)
    else if leaseState.released then (.ok (), store)
    else
      match store.sessions.lookup sessionId with
      | none =>
        (.error (.internal
          "active observation lease has no Session log"), store)
      | some log =>
        let present := decide (lease ∈ log.inFlightObservations)
        let store := store.setLog sessionId { log with
          inFlightObservations := log.inFlightObservations.erase lease }
        if !present then
          (.error (.internal
            ("active observation lease is missing from Session " ++
              "bookkeeping")), store)
        else
          match store.observationLeases.lookup lease with
          | none =>
            (.error (.internal
              ("validated observation lease disappeared while the " ++
                "state lock was held")), store)
          | some _ =>
            (.ok (),
              { store with
                observationLeases :=
                  store.observationLeases.adjust lease
                    (fun state => { state with released := true }) })

/-- The tests of `append` before any lock is taken. -/
def checkPending (pending : PendingEvent) : Except EventStoreError Unit :=
  match ensureTimestamp pending.atMs with
  | .error e => .error e
  | .ok () =>
    if pending.payload.isLifecycle then .error .lifecycleEventReserved
    else .ok ()

def append (store : MemoryEventStore) (pending : PendingEvent)
    (eventId : EventId) :
    Except EventStoreError TestEvent × MemoryEventStore :=
  match checkPending pending with
  | .error e => (.error e, store)
  | .ok () =>
    if store.streamShutdown then (.error .shuttingDown, store)
    else
      match store.sessions.lookup pending.sessionId with
      | none => (.error (.sessionNotFound pending.sessionId), store)
      | some log =>
        let (reply, log) := log.append pending eventId
        (reply, store.setLog pending.sessionId log)

def endSession (store : MemoryEventStore) (command : EndSession)
    (eventId : EventId) :
    Except EventStoreError SessionInfo × MemoryEventStore :=
  match ensureTimestamp command.atMs with
  | .error e => (.error e, store)
  | .ok () =>
    if store.streamShutdown then (.error .shuttingDown, store)
    else
      match store.sessions.lookup command.sessionId with
      | none => (.error (.sessionNotFound command.sessionId), store)
      | some log =>
        let (reply, log) := log.endSession command eventId
        (reply, store.setLog command.sessionId log)

/-- `delete_ended`.  The signal it sends reaches only the channel that leaves
the store with the log. -/
def deleteEnded (sessionId : SessionId) :
    Except EventStoreError Unit × MemoryEventStore :=
  match store.sessions.lookup sessionId with
  | none => (.error (.sessionNotFound sessionId), store)
  | some log =>
    if log.info.state = .active then
      (.error (.sessionActive sessionId), store)
    else
      (.ok (),
        { store with
          sessions := store.sessions.erase sessionId
          observationLeases := store.observationLeases.retain
            (fun lease => decide (lease.sessionId ≠ sessionId)) })

def beginStreamShutdown : Bool × MemoryEventStore :=
  if store.streamShutdown then (false, store)
  else
    (true,
      { store with
        streamShutdown := true
        sessions := store.sessions.mapValues (·.signal .storeShutdown) })

def subscribeAfter (store : MemoryEventStore) (sessionId : SessionId)
    (after : Option EventSequence) (receiver : ReceiverId) :
    Except EventStreamError EventSubscription × MemoryEventStore :=
  if store.streamShutdown then (.error .storeShutdown, store)
  else
    match store.sessions.lookup sessionId with
    | none =>
      if sessionId ∈ store.usedSessionIds then
        (.error (.sessionDeleted sessionId), store)
      else (.error (.sessionNotFound sessionId), store)
    | some log =>
      let (reply, log) :=
        log.subscribeAfter store.streamConfig sessionId after receiver
      (reply, store.setLog sessionId log)

/-- Dropping a subscription drops its receiver. -/
def dropReceiver (sessionId : SessionId) (receiver : ReceiverId) :
    MemoryEventStore :=
  { store with sessions := store.sessions.adjust sessionId (fun log =>
      { log with streamTail := log.streamTail.unsubscribe receiver }) }

def exportSession (sessionId : SessionId) :
    Except EventStoreError SessionExport :=
  match store.sessions.lookup sessionId with
  | none => .error (.sessionNotFound sessionId)
  | some log => .ok ⟨log.info, log.events⟩

/-! ## Runs -/

/-- One call of the store with its arguments. -/
inductive Op where
  | startSession (command : StartSession) (eventId : EventId)
  | reserveObservation (sessionId : SessionId) (lease : ObservationLease)
  | releaseObservation (sessionId : SessionId) (lease : ObservationLease)
  | append (pending : PendingEvent) (eventId : EventId)
  | endSession (command : EndSession) (eventId : EventId)
  | deleteEnded (sessionId : SessionId)
  | beginStreamShutdown
  | subscribeAfter (sessionId : SessionId) (after : Option EventSequence)
      (receiver : ReceiverId)
  | dropReceiver (sessionId : SessionId) (receiver : ReceiverId)

/-- The result of a call, as far as success is concerned. -/
inductive Reply where
  | ok
  | storeError (error : EventStoreError)
  | streamError (error : EventStreamError)
deriving DecidableEq, Repr

def Reply.ofStore {α : Type*} : Except EventStoreError α → Reply
  | .ok _ => .ok
  | .error e => .storeError e

def Reply.ofStream {α : Type*} : Except EventStreamError α → Reply
  | .ok _ => .ok
  | .error e => .streamError e

/-- Run one call. -/
def perform : Op → Reply × MemoryEventStore
  | .startSession command eventId =>
    (store.startSession command eventId).map Reply.ofStore id
  | .reserveObservation sessionId lease =>
    (store.reserveObservation sessionId lease).map Reply.ofStore id
  | .releaseObservation sessionId lease =>
    (store.releaseObservation sessionId lease).map Reply.ofStore id
  | .append pending eventId =>
    (store.append pending eventId).map Reply.ofStore id
  | .endSession command eventId =>
    (store.endSession command eventId).map Reply.ofStore id
  | .deleteEnded sessionId => (store.deleteEnded sessionId).map Reply.ofStore id
  | .beginStreamShutdown =>
    (store.beginStreamShutdown).map (fun _ => Reply.ok) id
  | .subscribeAfter sessionId after receiver =>
    (store.subscribeAfter sessionId after receiver).map Reply.ofStream id
  | .dropReceiver sessionId receiver =>
    (.ok, store.dropReceiver sessionId receiver)

/-- The drawing loop of `reserve_observation` ends only with an unused
token. -/
def Op.Drawn : Op → Prop
  | .reserveObservation _ lease => lease ∉ store.observationLeases
  | _ => True

/-- One call of a run. -/
def Step (op : Op) (store' : MemoryEventStore) : Prop :=
  op.Drawn store ∧ store' = (store.perform op).2

/-- The states reached by any sequence of calls from a new store. -/
def Reached : Prop :=
  ∃ streamConfig,
    Transition.Reachable Step (withEventStreamConfig streamConfig) store

theorem reached_withEventStreamConfig (config : EventStreamConfig) :
    (withEventStreamConfig config).Reached :=
  ⟨config, Transition.Reachable.refl _⟩

theorem Reached.perform {store : MemoryEventStore} (h : store.Reached)
    (op : Op) (hdrawn : op.Drawn store) : (store.perform op).2.Reached := by
  obtain ⟨config, hreach⟩ := h
  exact ⟨config, hreach.tail ⟨hdrawn, rfl⟩⟩

end MemoryEventStore

end DeviceRail
