import DeviceRail.EventStore.Bookkeeping
import DeviceRail.EventStore.Store

/-!
# What a store operation can change

One inversion theorem for the whole store: an operation leaves the store as it
is, or it succeeds and makes one of seven changes.  Every invariant and every
statement about runs is derived from this list.
-/

namespace DeviceRail

/-- A change of one log: an event is recorded, the session is closed, or only
the channel is touched. -/
inductive LogChange (sessionId : SessionId) (log : SessionLog) :
    SessionLog → Prop
  | recorded (pending : PendingEvent) (eventId : EventId)
      (sequence : EventSequence) (transition : EventTransition)
      (hid : pending.sessionId = sessionId)
      (hcheck : MemoryEventStore.checkPending pending = .ok ())
      (hactive : log.info.state ≠ .ended)
      (hsequence : log.info.lastSequence.checkedNext = some sequence)
      (hadmitted : log.admitEvent pending = .ok (.record transition)) :
      LogChange sessionId log
        (log.record (pending.toEvent eventId sequence) transition)
  | closed (command : EndSession) (eventId : EventId)
      (sequence : EventSequence)
      (hid : command.sessionId = sessionId)
      (hat : command.atMs ≤ maxSafeInteger)
      (hactive : log.info.state ≠ .ended)
      (hobservations : log.inFlightObservations = ∅)
      (hcalls : ∀ callId, log.inFlight.lookup callId = none)
      (hstreams : ∀ streamId, log.mediaStreams.lookup streamId = none)
      (hsequence : log.info.lastSequence.checkedNext = some sequence) :
      LogChange sessionId log (log.close (command.toEvent eventId sequence))
  | tail (streamTail : StreamTail) :
      LogChange sessionId log { log with streamTail := streamTail }

namespace MemoryEventStore

/-- The events an operation can add to a session. -/
def Op.Adds (sessionId : SessionId) (event : TestEvent) : Op → Prop
  | .append pending eventId =>
    sessionId = pending.sessionId ∧
      ∃ sequence, event = pending.toEvent eventId sequence
  | .endSession command eventId =>
    sessionId = command.sessionId ∧
      ∃ sequence, event = command.toEvent eventId sequence
  | _ => False

/-- A change of the store by an operation. -/
inductive Change (store : MemoryEventStore) : Op → MemoryEventStore → Prop
  | created (command : StartSession) (eventId : EventId)
      (hat : command.atMs ≤ maxSafeInteger)
      (hfresh : command.sessionId ∉ store.usedSessionIds) :
      Change store (.startSession command eventId)
        { store with
          usedSessionIds := insert command.sessionId store.usedSessionIds
          sessions := store.sessions.insert command.sessionId
            (SessionLog.start command eventId store.streamConfig.tailCapacity) }
  | updated {op : Op} (sessionId : SessionId) (log log' : SessionLog)
      (hlookup : store.sessions.lookup sessionId = some log)
      (hlog : LogChange sessionId log log')
      (hevents : log'.events = log.events ∨ ∃ event,
        log'.events = log.events ++ [event] ∧ op.Adds sessionId event) :
      Change store op (store.setLog sessionId log')
  | reserved (sessionId : SessionId) (log : SessionLog)
      (lease : ObservationLease)
      (hlookup : store.sessions.lookup sessionId = some log)
      (hactive : log.info.state ≠ .ended) :
      Change store (.reserveObservation sessionId lease)
        { store.setLog sessionId { log with
            inFlightObservations := insert lease log.inFlightObservations } with
          observationLeases :=
            store.observationLeases.insert lease ⟨sessionId, false⟩ }
  | released (sessionId : SessionId) (log : SessionLog)
      (lease : ObservationLease)
      (hlookup : store.sessions.lookup sessionId = some log)
      (hlease : store.observationLeases.lookup lease = some ⟨sessionId, false⟩)
      (hmem : lease ∈ log.inFlightObservations) :
      Change store (.releaseObservation sessionId lease)
        { store.setLog sessionId { log with
            inFlightObservations := log.inFlightObservations.erase lease } with
          observationLeases := store.observationLeases.adjust lease
            (fun state => { state with released := true }) }
  | deleted (sessionId : SessionId) (log : SessionLog)
      (hlookup : store.sessions.lookup sessionId = some log)
      (hended : log.info.state = .ended) :
      Change store (.deleteEnded sessionId)
        { store with
          sessions := store.sessions.erase sessionId
          observationLeases := store.observationLeases.retain
            (fun lease => decide (lease.sessionId ≠ sessionId)) }
  | shutdown (hopen : store.streamShutdown = false) :
      Change store .beginStreamShutdown
        { store with
          streamShutdown := true
          sessions := store.sessions.mapValues (·.signal .storeShutdown) }

/-! ## Operation by operation -/

section

variable (store : MemoryEventStore) {pending : PendingEvent} {log : SessionLog}

theorem ensureTimestamp_eq_ok {atMs : ℕ} :
    ensureTimestamp atMs = .ok () ↔ atMs ≤ maxSafeInteger := by
  unfold ensureTimestamp
  split <;> simp_all

theorem checkPending_eq_ok :
    checkPending pending = .ok () ↔
      pending.atMs ≤ maxSafeInteger ∧ pending.payload.isLifecycle = false := by
  unfold checkPending
  cases htime : ensureTimestamp pending.atMs with
  | error e =>
    have hnot : ¬pending.atMs ≤ maxSafeInteger :=
      ensureTimestamp_eq_ok.not.mp (by simp [htime])
    simp [hnot]
  | ok =>
    have hle := ensureTimestamp_eq_ok.mp htime
    cases hlife : pending.payload.isLifecycle <;> simp [hle]

theorem setLog_eq_self {sessionId : SessionId}
    (h : store.sessions.lookup sessionId = some log) :
    store.setLog sessionId log = store := by
  have hsessions : store.sessions.adjust sessionId (fun _ => log) =
      store.sessions := by
    apply KeyedMap.adjust_eq_self
    intro v hv
    rw [h] at hv
    exact Option.some.inj hv
  simp only [setLog, hsessions]

theorem startSession_cases (command : StartSession) (eventId : EventId) :
    (∃ error, store.startSession command eventId = (.error error, store)) ∨
    (command.atMs ≤ maxSafeInteger ∧
      command.sessionId ∉ store.usedSessionIds ∧
      store.startSession command eventId =
        (.ok (SessionLog.start command eventId
            store.streamConfig.tailCapacity).info,
          { store with
            usedSessionIds := insert command.sessionId store.usedSessionIds
            sessions := store.sessions.insert command.sessionId
              (SessionLog.start command eventId
                store.streamConfig.tailCapacity) })) := by
  unfold startSession
  repeat' split
  any_goals exact Or.inl ⟨_, rfl⟩
  next hused =>
    refine Or.inl ⟨.sessionAlreadyExists command.sessionId, ?_⟩
    simp only [Finset.insert_eq_of_mem hused]
  next htime _ hfresh =>
    exact Or.inr ⟨ensureTimestamp_eq_ok.mp htime, hfresh, rfl⟩

variable (sessionId : SessionId)

theorem reserveObservation_cases (lease : ObservationLease) :
    (∃ error,
      store.reserveObservation sessionId lease = (.error error, store)) ∨
    (∃ log, store.sessions.lookup sessionId = some log ∧
      log.info.state ≠ .ended ∧
      store.reserveObservation sessionId lease =
        (.ok lease,
          { store.setLog sessionId { log with
              inFlightObservations :=
                insert lease log.inFlightObservations } with
            observationLeases :=
              store.observationLeases.insert lease ⟨sessionId, false⟩ })) := by
  unfold reserveObservation
  repeat' split
  any_goals exact Or.inl ⟨_, rfl⟩
  next log hlookup hactive => exact Or.inr ⟨log, hlookup, hactive, rfl⟩

/-- `release_observation` fails without effect, confirms an earlier release, or
releases. -/
theorem releaseObservation_cases (lease : ObservationLease) :
    (∃ error,
      store.releaseObservation sessionId lease = (.error error, store)) ∨
    (store.observationLeases.lookup lease = some ⟨sessionId, true⟩ ∧
      store.releaseObservation sessionId lease = (.ok (), store)) ∨
    (∃ log, store.sessions.lookup sessionId = some log ∧
      store.observationLeases.lookup lease = some ⟨sessionId, false⟩ ∧
      lease ∈ log.inFlightObservations ∧
      store.releaseObservation sessionId lease =
        (.ok (),
          { store.setLog sessionId { log with
              inFlightObservations :=
                log.inFlightObservations.erase lease } with
            observationLeases := store.observationLeases.adjust lease
              (fun state => { state with released := true }) })) := by
  unfold releaseObservation
  split
  · exact Or.inl ⟨_, rfl⟩
  split
  · exact Or.inl ⟨_, rfl⟩
  next leaseState hlease hsession =>
    have hid : leaseState.sessionId = sessionId := not_not.mp hsession
    split
    next hreleased =>
      refine Or.inr (Or.inl ⟨?_, rfl⟩)
      rw [hlease, ← hid, ← hreleased]
    next hunreleased =>
      have hfalse : leaseState.released = false := by simpa using hunreleased
      split
      next => exact Or.inl ⟨_, rfl⟩
      next log hlookup =>
        by_cases hmem : lease ∈ log.inFlightObservations
        · refine Or.inr (Or.inr ⟨log, hlookup, ?_, hmem, ?_⟩)
          · rw [hlease, ← hid, ← hfalse]
          · simp only [hmem, decide_true, Bool.not_true, setLog, hlease]
            rfl
        · refine Or.inl ⟨.internal
            ("active observation lease is missing from Session " ++
              "bookkeeping"), ?_⟩
          have hsame : ({ log with
              inFlightObservations :=
                log.inFlightObservations.erase lease } : SessionLog) = log := by
            rw [Finset.erase_eq_of_notMem hmem]
          simp only [hmem, decide_false, Bool.not_false, if_true, hsame,
            store.setLog_eq_self hlookup]

theorem append_cases (pending : PendingEvent) (eventId : EventId) :
    (∃ error, store.append pending eventId = (.error error, store)) ∨
    (∃ event log, store.sessions.lookup pending.sessionId = some log ∧
      log.admitEvent pending = .ok (.existing event) ∧
      store.append pending eventId = (.ok event, store)) ∨
    (∃ log sequence transition,
      store.streamShutdown = false ∧
      store.sessions.lookup pending.sessionId = some log ∧
      checkPending pending = .ok () ∧ log.info.state ≠ .ended ∧
      log.info.lastSequence.checkedNext = some sequence ∧
      log.admitEvent pending = .ok (.record transition) ∧
      store.append pending eventId =
        (.ok (pending.toEvent eventId sequence),
          store.setLog pending.sessionId
            (log.record (pending.toEvent eventId sequence) transition))) := by
  unfold append
  split
  · exact .inl ⟨_, rfl⟩
  split
  · exact .inl ⟨_, rfl⟩
  split
  · exact .inl ⟨_, rfl⟩
  next hcheck hshutdown _ log hlookup =>
    rcases log.append_cases pending eventId with ⟨error, h⟩ |
      ⟨event, hadmitted, h⟩ |
      ⟨sequence, transition, hactive, hsequence, hadmitted, h⟩ <;>
      simp only [h, store.setLog_eq_self hlookup]
    · exact .inl ⟨error, rfl⟩
    · exact .inr (.inl ⟨event, log, hlookup, hadmitted, rfl⟩)
    · exact .inr (.inr ⟨log, sequence, transition, by simpa using hshutdown,
        hlookup, hcheck, hactive, hsequence, hadmitted, rfl⟩)

variable {store sessionId} in
/-- An active session with room takes every event it admits. -/
theorem append_eq_ok {admission : Admission}
    (hcheck : checkPending pending = .ok ())
    (hshutdown : store.streamShutdown = false)
    (hlookup : store.sessions.lookup pending.sessionId = some log)
    (hactive : log.info.state ≠ .ended)
    (hroom : log.info.lastSequence.get < maxSafeInteger)
    (hadmitted : log.admitEvent pending = .ok admission) (eventId : EventId) :
    ∃ event, (store.append pending eventId).1 = .ok event := by
  cases hnext : log.info.lastSequence.checkedNext with
  | none =>
    rw [EventSequence.checkedNext_eq_none] at hnext
    omega
  | some sequence =>
    cases admission <;>
      simp [append, hcheck, hshutdown, hlookup, SessionLog.append, hactive,
        SessionLog.nextSequence_eq_ok.mpr hnext, hadmitted]

theorem endSession_cases (command : EndSession) (eventId : EventId) :
    (∃ error, store.endSession command eventId = (.error error, store)) ∨
    (∃ log sequence,
      store.sessions.lookup command.sessionId = some log ∧
      command.atMs ≤ maxSafeInteger ∧ log.info.state ≠ .ended ∧
      log.inFlightObservations = ∅ ∧
      (∀ callId, log.inFlight.lookup callId = none) ∧
      (∀ streamId, log.mediaStreams.lookup streamId = none) ∧
      log.info.lastSequence.checkedNext = some sequence ∧
      store.endSession command eventId =
        (.ok (log.close (command.toEvent eventId sequence)).info,
          store.setLog command.sessionId
            (log.close (command.toEvent eventId sequence)))) := by
  unfold endSession
  split
  · exact .inl ⟨_, rfl⟩
  split
  · exact .inl ⟨_, rfl⟩
  split
  · exact .inl ⟨_, rfl⟩
  next htime _ _ log hlookup =>
    rcases log.endSession_cases command eventId with ⟨error, h⟩ |
      ⟨sequence, hactive, hobservations, hcalls, hstreams, hsequence, h⟩ <;>
      simp only [h, store.setLog_eq_self hlookup]
    · exact .inl ⟨error, rfl⟩
    · exact .inr ⟨log, sequence, hlookup, ensureTimestamp_eq_ok.mp htime,
        hactive, hobservations, hcalls, hstreams, hsequence, rfl⟩

theorem deleteEnded_cases :
    (∃ error, store.deleteEnded sessionId = (.error error, store)) ∨
    (∃ log, store.sessions.lookup sessionId = some log ∧
      log.info.state = .ended ∧
      store.deleteEnded sessionId =
        (.ok (),
          { store with
            sessions := store.sessions.erase sessionId
            observationLeases := store.observationLeases.retain
              (fun lease => decide (lease.sessionId ≠ sessionId)) })) := by
  unfold deleteEnded
  repeat' split
  any_goals exact Or.inl ⟨_, rfl⟩
  next log hlookup hended =>
    refine Or.inr ⟨log, hlookup, ?_, rfl⟩
    cases hstate : log.info.state with
    | active => exact absurd hstate hended
    | ended => rfl

theorem subscribeAfter_cases (after : Option EventSequence)
    (receiver : ReceiverId) :
    (∃ error, store.subscribeAfter sessionId after receiver =
      (.error error, store)) ∨
    (∃ log subscription, store.sessions.lookup sessionId = some log ∧
      store.subscribeAfter sessionId after receiver =
        (.ok subscription,
          store.setLog sessionId { log with
            streamTail := log.streamTail.subscribe receiver })) := by
  unfold subscribeAfter
  split
  · exact .inl ⟨_, rfl⟩
  split
  · split <;> exact .inl ⟨_, rfl⟩
  next log hlookup =>
    rcases log.subscribeAfter_cases store.streamConfig sessionId after
      receiver with ⟨error, h⟩ | ⟨-, -, h⟩ <;>
      simp only [h, store.setLog_eq_self hlookup]
    · exact .inl ⟨error, rfl⟩
    · exact .inr ⟨log, _, hlookup, rfl⟩

/-- Every operation leaves the store as it is, or succeeds and makes a
change. -/
theorem perform_cases (op : Op) : (store.perform op).2 = store ∨
      ((store.perform op).1 = .ok ∧ store.Change op (store.perform op).2) := by
  cases op with
  | startSession command eventId =>
    rcases store.startSession_cases command eventId with ⟨error, h⟩ |
      ⟨hat, hfresh, h⟩ <;> simp only [perform, h, Prod.map_apply]
    · exact .inl rfl
    · exact .inr ⟨rfl, .created command eventId hat hfresh⟩
  | reserveObservation sessionId lease =>
    rcases store.reserveObservation_cases sessionId lease with ⟨error, h⟩ |
      ⟨log, hlookup, hactive, h⟩ <;> simp only [perform, h, Prod.map_apply]
    · exact .inl rfl
    · exact .inr ⟨rfl, .reserved sessionId log lease hlookup hactive⟩
  | releaseObservation sessionId lease =>
    rcases store.releaseObservation_cases sessionId lease with ⟨error, h⟩ |
      ⟨-, h⟩ | ⟨log, hlookup, hlease, hmem, h⟩ <;>
      simp only [perform, h, Prod.map_apply]
    · exact .inl rfl
    · exact .inl rfl
    · exact .inr ⟨rfl, .released sessionId log lease hlookup hlease hmem⟩
  | append pending eventId =>
    rcases store.append_cases pending eventId with ⟨error, h⟩ |
      ⟨event, log, -, -, h⟩ |
      ⟨log, sequence, transition, -, hlookup, hcheck, hactive, hsequence,
        hadmitted, h⟩ <;> simp only [perform, h, Prod.map_apply]
    · exact .inl rfl
    · exact .inl rfl
    · exact .inr ⟨rfl, .updated _ log _ hlookup (.recorded pending eventId
        sequence transition rfl hcheck hactive hsequence hadmitted)
        (.inr ⟨_, SessionLog.record_events transition, rfl, sequence, rfl⟩)⟩
  | endSession command eventId =>
    rcases store.endSession_cases command eventId with ⟨error, h⟩ |
      ⟨log, sequence, hlookup, hat, hactive, hobservations, hcalls, hstreams,
        hsequence, h⟩ <;> simp only [perform, h, Prod.map_apply]
    · exact .inl rfl
    · exact .inr ⟨rfl, .updated _ log _ hlookup (.closed command eventId
        sequence rfl hat hactive hobservations hcalls hstreams hsequence)
        (.inr ⟨_, SessionLog.close_events, rfl, sequence, rfl⟩)⟩
  | deleteEnded sessionId =>
    rcases store.deleteEnded_cases sessionId with ⟨error, h⟩ |
      ⟨log, hlookup, hended, h⟩ <;> simp only [perform, h, Prod.map_apply]
    · exact .inl rfl
    · exact .inr ⟨rfl, .deleted sessionId log hlookup hended⟩
  | beginStreamShutdown =>
    cases hshutdown : store.streamShutdown <;>
      simp only [perform, beginStreamShutdown, hshutdown]
    · exact .inr ⟨rfl, .shutdown hshutdown⟩
    · exact .inl rfl
  | subscribeAfter sessionId after receiver =>
    rcases store.subscribeAfter_cases sessionId after receiver with
      ⟨error, h⟩ | ⟨log, subscription, hlookup, h⟩ <;>
      simp only [perform, h, Prod.map_apply]
    · exact .inl rfl
    · exact .inr ⟨rfl, .updated sessionId log _ hlookup (.tail _) (.inl rfl)⟩
  | dropReceiver sessionId receiver =>
    cases hlookup : store.sessions.lookup sessionId with
    | none => simp [perform, dropReceiver, KeyedMap.adjust, hlookup]
    | some log =>
      right
      refine ⟨rfl, ?_⟩
      have heq : store.dropReceiver sessionId receiver =
          store.setLog sessionId { log with
            streamTail := log.streamTail.unsubscribe receiver } := by
        simp [dropReceiver, setLog, KeyedMap.adjust, hlookup]
      simp only [perform, heq]
      exact .updated sessionId log _ hlookup (.tail _) (.inl rfl)

end

end MemoryEventStore

end DeviceRail
