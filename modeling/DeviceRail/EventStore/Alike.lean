import DeviceRail.EventStore.Changes

/-!
# Stores that differ in event identities and timestamps

Event identifiers never influence the store, and a timestamp only decides
whether a media event repeats an earlier one.  Two stores are alike when they
agree on everything else, apart from the channels.  Operations that agree up to
event identities and timestamps keep stores alike and answer alike.
-/

namespace DeviceRail

open TestEvent Fallible

/-! ## Events -/

def TestEventPayload.isMedia : TestEventPayload → Bool
  | .mediaStreamStarted _ => true
  | .mediaFrameCaptured _ => true
  | .mediaStreamEnded _ _ => true
  | _ => false

/-- The event without its identity, and without its timestamp unless it is a
media event. -/
def TestEvent.erase (event : TestEvent) : TestEvent :=
  { event with
    eventId := ⟨⟨0⟩⟩
    atMs := if event.payload.isMedia then event.atMs else 0 }

/-- Pending events with the same content. -/
structure PendingEvent.Alike (pending pending' : PendingEvent) : Prop where
  sessionId : pending.sessionId = pending'.sessionId
  requestId : pending.requestId = pending'.requestId
  deviceId : pending.deviceId = pending'.deviceId
  payload : pending.payload = pending'.payload
  inRange : pending.atMs ≤ maxSafeInteger ↔ pending'.atMs ≤ maxSafeInteger
  atMs : pending.payload.isMedia = true → pending.atMs = pending'.atMs

variable {pending pending' : PendingEvent}

theorem PendingEvent.Alike.erase_toEvent (h : pending.Alike pending')
    (eventId eventId' : EventId) (sequence : EventSequence) :
    (pending.toEvent eventId sequence).erase =
      (pending'.toEvent eventId' sequence).erase := by
  obtain ⟨session, request, device, atMs, payload⟩ := pending
  obtain ⟨session', request', device', atMs', payload'⟩ := pending'
  obtain ⟨rfl, rfl, rfl, rfl, -, hat⟩ := h
  cases hmedia : payload.isMedia with
  | false => simp [erase, PendingEvent.toEvent, hmedia]
  | true =>
    have heq : atMs = atMs' := hat hmedia
    rw [heq]
    rfl

/-! ## Logs -/

variable {log : SessionLog}

namespace SessionLog

/-- Logs with the same bookkeeping and the same events up to erasure. -/
structure Alike (log log' : SessionLog) : Prop where
  info : log.info = log'.info
  events : log.events.map erase = log'.events.map erase
  seenCalls : log.seenCalls = log'.seenCalls
  inFlight : log.inFlight = log'.inFlight
  inFlightObservations : log.inFlightObservations = log'.inFlightObservations
  seenMediaStreams : log.seenMediaStreams = log'.seenMediaStreams
  mediaStreams : log.mediaStreams = log'.mediaStreams

variable {log' : SessionLog}

theorem Alike.symm (h : log.Alike log') : log'.Alike log :=
  ⟨h.info.symm, h.events.symm, h.seenCalls.symm, h.inFlight.symm,
    h.inFlightObservations.symm, h.seenMediaStreams.symm, h.mediaStreams.symm⟩

theorem Alike.ofTails (h : log.Alike log') (tail tail' : StreamTail) :
    ({ log with streamTail := tail } : SessionLog).Alike
      { log' with streamTail := tail' } :=
  ⟨h.info, h.events, h.seenCalls, h.inFlight, h.inFlightObservations,
    h.seenMediaStreams, h.mediaStreams⟩

theorem Alike.setObservations (h : log.Alike log')
    (observations : Finset ObservationLease) :
    ({ log with inFlightObservations := observations } : SessionLog).Alike
      { log' with inFlightObservations := observations } :=
  ⟨h.info, h.events, h.seenCalls, h.inFlight, rfl, h.seenMediaStreams,
    h.mediaStreams⟩

/-- An admission up to erasure. -/
def eraseAdmission : Admission → Admission
  | .record transition => .record transition
  | .existing event => .existing event.erase

theorem isMedia_of_beq {payload payload' : TestEventPayload}
    (h : (payload == payload') = true) : payload.isMedia = payload'.isMedia := by
  cases payload <;> cases payload' <;> first | rfl | cases h

theorem map_erase_find? {same : TestEvent → Bool}
    (hsame : ∀ event, same event.erase = same event) (events : List TestEvent) :
    (events.reverse.find? same).map erase =
      (events.map erase).reverse.find? same := by
  rw [← List.map_reverse, List.find?_map]
  congr 2
  exact funext fun event => (hsame event).symm

section

variable (h : log.Alike log') {event event' : TestEvent}

include h

section

variable (hpending : pending.Alike pending')
include hpending

/-- The retry search does not see what erasure removes. -/
theorem Alike.exactMediaRetry (hmedia : pending.payload.isMedia = true) :
    (log.exactMediaRetry pending).map erase =
      (log'.exactMediaRetry pending').map erase := by
  unfold SessionLog.exactMediaRetry
  rw [← hpending.requestId, ← hpending.deviceId, ← hpending.payload,
    ← hpending.atMs hmedia, map_erase_find?, map_erase_find?, h.events]
  all_goals
    intro event
    simp only [erase]
    cases hpayload : event.payload == pending.payload with
    | false => simp
    | true => simp [isMedia_of_beq hpayload, hmedia]

theorem Alike.retryOr (hmedia : pending.payload.isMedia = true)
    (error : EventStoreError) :
    (log.retryOr pending error).map eraseAdmission =
      (log'.retryOr pending' error).map eraseAdmission := by
  have hretry := h.exactMediaRetry hpending hmedia
  unfold SessionLog.retryOr
  cases hfirst : log.exactMediaRetry pending <;>
    cases hsecond : log'.exactMediaRetry pending' <;>
    simp_all [Except.map, eraseAdmission]

theorem Alike.admitEvent :
    (log.admitEvent pending).map eraseAdmission =
      (log'.admitEvent pending').map eraseAdmission := by
  unfold SessionLog.admitEvent
  rw [← hpending.payload]
  cases hpayload : pending.payload with
  | actionStarted call =>
    simp only [admitActionStarted, h.seenCalls, hpending.requestId,
      hpending.deviceId]
  | actionCompleted callId outcome =>
    simp only [admitActionCompleted, h.inFlight, hpending.requestId,
      hpending.deviceId]
  | mediaStreamStarted stream =>
    have hretry := h.retryOr hpending (by rw [hpayload]; rfl)
      (.duplicateMediaStream stream.id)
    simp only [admitMediaStreamStarted, h.seenMediaStreams, h.mediaStreams,
      h.info]
    split_ifs <;> first | exact hretry | rfl
  | mediaFrameCaptured frame =>
    have hretry := h.retryOr hpending (by rw [hpayload]; rfl)
    simp only [admitMediaFrameCaptured, h.mediaStreams]
    split
    next => exact hretry _
    next => split_ifs <;> first | exact hretry _ | rfl
  | mediaStreamEnded streamId frameCount =>
    have hretry := h.retryOr hpending (by rw [hpayload]; rfl)
      (.mediaStreamNotActive streamId)
    simp only [admitMediaStreamEnded, h.mediaStreams]
    split
    next => exact hretry
    next => rfl
  | _ => rfl

end

theorem Alike.events_snoc (hevent : event.erase = event'.erase) :
    (log.events ++ [event]).map erase =
      (log'.events ++ [event']).map erase := by
  rw [List.map_append, List.map_append, h.events, List.map_singleton,
    List.map_singleton, hevent]

theorem Alike.record (hevent : event.erase = event'.erase)
    (transition : EventTransition) :
    (log.record event transition).Alike (log'.record event' transition) := by
  have hsequence : event.sequence = event'.sequence :=
    (congrArg sequence hevent :)
  have hevents := h.events_snoc hevent
  cases transition <;>
    constructor <;>
    simp only [SessionLog.record, applyTransition, updateInfoAfterAppend,
      publishEvent, hsequence, hevents, h.info, h.seenCalls, h.inFlight,
      h.inFlightObservations, h.seenMediaStreams, h.mediaStreams]

theorem Alike.append (hpending : pending.Alike pending')
    (eventId eventId' : EventId) :
    (log.append pending eventId).1.map erase =
        (log'.append pending' eventId').1.map erase ∧
      (log.append pending eventId).2.Alike
        (log'.append pending' eventId').2 := by
  have hnext : log.nextSequence = log'.nextSequence := by
    simp only [SessionLog.nextSequence, h.info]
  unfold SessionLog.append
  rw [h.info, hnext, hpending.sessionId]
  split
  next => exact ⟨rfl, h⟩
  next =>
    cases log'.nextSequence with
    | error error => exact ⟨rfl, h⟩
    | ok sequence =>
      rcases map_eq_map (h.admitEvent hpending) with
        ⟨error, hfirst, hsecond⟩ |
        ⟨admission, admission', hfirst, hsecond, heq⟩ <;> rw [hfirst, hsecond]
      · exact ⟨rfl, h⟩
      cases admission with
      | existing event =>
        cases admission' with
        | existing event' =>
          exact ⟨congrArg Except.ok (Admission.existing.inj heq), h⟩
        | record transition => cases heq
      | record transition =>
        cases admission' with
        | existing event => cases heq
        | record transition' =>
          cases heq
          have hevent := hpending.erase_toEvent eventId eventId' sequence
          exact ⟨congrArg Except.ok hevent, h.record hevent transition⟩

theorem Alike.endSession (command : EndSession) (eventId eventId' : EventId) :
    (log.endSession command eventId).2.Alike
      (log'.endSession command eventId').2 := by
  have hnext : log.nextSequence = log'.nextSequence := by
    simp only [SessionLog.nextSequence, h.info]
  unfold SessionLog.endSession
  rw [h.info, hnext, h.inFlightObservations, h.inFlight, h.mediaStreams]
  split_ifs <;> try exact h
  cases log'.nextSequence with
  | error error => exact h
  | ok sequence =>
    refine ⟨?_, h.events_snoc rfl, h.seenCalls, h.inFlight,
      h.inFlightObservations, h.seenMediaStreams, h.mediaStreams⟩
    simp only [close, updateInfoAfterAppend, publishEvent, EndSession.toEvent,
      h.info]

end

end SessionLog

/-! ## Stores -/

namespace MemoryEventStore

/-- Stores with alike logs and the same tables. -/
structure Alike (store store' : MemoryEventStore) : Prop where
  sessions : ∀ sessionId, Option.Rel SessionLog.Alike
    (store.sessions.lookup sessionId) (store'.sessions.lookup sessionId)
  usedSessionIds : store.usedSessionIds = store'.usedSessionIds
  observationLeases : store.observationLeases = store'.observationLeases
  streamShutdown : store.streamShutdown = store'.streamShutdown

/-- The same call, up to the event identifiers drawn in it. -/
inductive Op.Alike : Op → Op → Prop
  | startSession (command : StartSession) (eventId eventId' : EventId) :
      Alike (.startSession command eventId) (.startSession command eventId')
  | append (pending : PendingEvent) (eventId eventId' : EventId) :
      Alike (.append pending eventId) (.append pending eventId')
  | endSession (command : EndSession) (eventId eventId' : EventId) :
      Alike (.endSession command eventId) (.endSession command eventId')
  | reserveObservation (sessionId : SessionId) (lease : ObservationLease) :
      Alike (.reserveObservation sessionId lease)
        (.reserveObservation sessionId lease)
  | releaseObservation (sessionId : SessionId) (lease : ObservationLease) :
      Alike (.releaseObservation sessionId lease)
        (.releaseObservation sessionId lease)
  | deleteEnded (sessionId : SessionId) :
      Alike (.deleteEnded sessionId) (.deleteEnded sessionId)
  | beginStreamShutdown : Alike .beginStreamShutdown .beginStreamShutdown
  | subscribeAfter (sessionId : SessionId) (after : Option EventSequence)
      (receiver : ReceiverId) :
      Alike (.subscribeAfter sessionId after receiver)
        (.subscribeAfter sessionId after receiver)
  | dropReceiver (sessionId : SessionId) (receiver : ReceiverId) :
      Alike (.dropReceiver sessionId receiver) (.dropReceiver sessionId receiver)

section

variable {store store' : MemoryEventStore}

variable (h : store.Alike store')

include h

variable (sessionId : SessionId)

theorem Alike.setLog {log' : SessionLog} (hlog : log.Alike log') :
    (store.setLog sessionId log).Alike (store'.setLog sessionId log') := by
  refine ⟨?_, h.usedSessionIds, h.observationLeases, h.streamShutdown⟩
  intro key
  simp only [MemoryEventStore.setLog, KeyedMap.lookup_adjust]
  split
  next =>
    exact Option.Rel.casesOn (h.sessions sessionId)
      (fun _ => Option.Rel.some hlog) Option.Rel.none
  next => exact h.sessions key

theorem Alike.startSession (command : StartSession)
    (eventId eventId' : EventId) :
    (store.startSession command eventId).2.Alike
      (store'.startSession command eventId').2 := by
  unfold MemoryEventStore.startSession
  rw [h.streamShutdown, h.usedSessionIds]
  split
  next => exact h
  next =>
    split_ifs
    · exact h
    · exact ⟨h.sessions, rfl, h.observationLeases, rfl⟩
    · refine ⟨?_, rfl, h.observationLeases, rfl⟩
      intro key
      simp only [KeyedMap.lookup_insert_ite]
      split
      next => exact Option.Rel.some ⟨rfl, rfl, rfl, rfl, rfl, rfl, rfl⟩
      next => exact h.sessions key

theorem Alike.reserveObservation (lease : ObservationLease) :
    (store.reserveObservation sessionId lease).1 =
        (store'.reserveObservation sessionId lease).1 ∧
      (store.reserveObservation sessionId lease).2.Alike
        (store'.reserveObservation sessionId lease).2 := by
  unfold MemoryEventStore.reserveObservation
  rw [h.streamShutdown]
  split
  next => exact ⟨rfl, h⟩
  next =>
    refine Option.Rel.casesOn (h.sessions sessionId)
      (fun {log log'} hlog => ?_) ⟨rfl, h⟩
    have hstate : log.info.state = log'.info.state := by rw [hlog.info]
    simp only [hstate]
    split
    next => exact ⟨rfl, h⟩
    next =>
      have hset := h.setLog sessionId
        (hlog.setObservations (insert lease log'.inFlightObservations))
      rw [hlog.inFlightObservations]
      refine ⟨rfl, hset.sessions, hset.usedSessionIds, ?_, hset.streamShutdown⟩
      simp only [MemoryEventStore.setLog, h.observationLeases]

theorem Alike.releaseObservation (lease : ObservationLease) :
    (store.releaseObservation sessionId lease).1 =
        (store'.releaseObservation sessionId lease).1 ∧
      (store.releaseObservation sessionId lease).2.Alike
        (store'.releaseObservation sessionId lease).2 := by
  unfold MemoryEventStore.releaseObservation
  rw [h.observationLeases]
  split
  · exact ⟨rfl, h⟩
  split
  · exact ⟨rfl, h⟩
  split
  · exact ⟨rfl, h⟩
  next hlease _ _ =>
    refine Option.Rel.casesOn (h.sessions sessionId)
      (fun {log log'} hlog => ?_) ⟨rfl, h⟩
    have hset := h.setLog sessionId
      (hlog.setObservations (log'.inFlightObservations.erase lease))
    simp only [hlog.inFlightObservations, MemoryEventStore.setLog,
      h.observationLeases, hlease]
    split <;>
      exact ⟨rfl, hset.sessions, hset.usedSessionIds, rfl, hset.streamShutdown⟩

theorem Alike.append (hpending : pending.Alike pending')
    (eventId eventId' : EventId) :
    (store.append pending eventId).1.map erase =
        (store'.append pending' eventId').1.map erase ∧
      (store.append pending eventId).2.Alike
        (store'.append pending' eventId').2 := by
  have hcheck : checkPending pending = checkPending pending' := by
    simp only [checkPending, ensureTimestamp, hpending.inRange,
      hpending.payload]
  unfold MemoryEventStore.append
  rw [hcheck, h.streamShutdown, ← hpending.sessionId]
  split
  · exact ⟨rfl, h⟩
  split
  · exact ⟨rfl, h⟩
  refine Option.Rel.casesOn (h.sessions pending.sessionId) (fun hlog => ?_)
    ⟨rfl, h⟩
  obtain ⟨hreply, hlogs⟩ := hlog.append hpending eventId eventId'
  exact ⟨hreply, h.setLog _ hlogs⟩

theorem Alike.endSession (command : EndSession) (eventId eventId' : EventId) :
    (store.endSession command eventId).2.Alike
      (store'.endSession command eventId').2 := by
  unfold MemoryEventStore.endSession
  rw [h.streamShutdown]
  split
  · exact h
  split
  · exact h
  exact Option.Rel.casesOn (h.sessions command.sessionId)
    (fun hlog => h.setLog _ (hlog.endSession command eventId eventId')) h

theorem Alike.deleteEnded :
    (store.deleteEnded sessionId).2.Alike (store'.deleteEnded sessionId).2 := by
  unfold MemoryEventStore.deleteEnded
  refine Option.Rel.casesOn (h.sessions sessionId) (fun {log log'} hlog => ?_) h
  have hstate : log.info.state = log'.info.state := by rw [hlog.info]
  simp only [hstate]
  split
  next => exact h
  next =>
    refine ⟨?_, h.usedSessionIds, by rw [h.observationLeases], h.streamShutdown⟩
    intro key
    simp only [KeyedMap.lookup_erase_ite]
    split
    next => exact Option.Rel.none
    next => exact h.sessions key

theorem Alike.beginStreamShutdown :
    store.beginStreamShutdown.2.Alike store'.beginStreamShutdown.2 := by
  unfold MemoryEventStore.beginStreamShutdown
  rw [h.streamShutdown]
  split
  next => exact h
  next =>
    refine ⟨?_, h.usedSessionIds, h.observationLeases, rfl⟩
    intro key
    simp only [KeyedMap.lookup_mapValues]
    exact Option.Rel.casesOn (h.sessions key)
      (fun hlog => Option.Rel.some (hlog.ofTails _ _)) Option.Rel.none

theorem Alike.retail {sessionId : SessionId}
    (hlog : store.sessions.lookup sessionId = some log) (tail : StreamTail) :
    (store.setLog sessionId { log with streamTail := tail }).Alike store' := by
  refine ⟨?_, h.usedSessionIds, h.observationLeases, h.streamShutdown⟩
  intro key
  have hold := h.sessions key
  simp only [MemoryEventStore.setLog, KeyedMap.lookup_adjust]
  split
  next hkey =>
    subst hkey
    rw [hlog] at hold ⊢
    generalize store'.sessions.lookup key = second at hold
    cases hold with
    | some halike => exact Option.Rel.some (halike.ofTails tail _)
  next => exact hold

theorem Alike.symm : store'.Alike store := by
  refine ⟨?_, h.usedSessionIds.symm, h.observationLeases.symm,
    h.streamShutdown.symm⟩
  intro key
  exact Option.Rel.casesOn (h.sessions key)
    (fun hlog => Option.Rel.some hlog.symm) Option.Rel.none

theorem Alike.subscribeAfter_left (after : Option EventSequence)
    (receiver : ReceiverId) :
    (store.subscribeAfter sessionId after receiver).2.Alike store' := by
  rcases store.subscribeAfter_cases sessionId after receiver with
    ⟨error, hsubscribe⟩ | ⟨log, subscription, hlog, hsubscribe⟩
  · rwa [hsubscribe]
  · rw [hsubscribe]
    exact h.retail hlog _

theorem Alike.dropReceiver_left (receiver : ReceiverId) :
    (store.dropReceiver sessionId receiver).Alike store' := by
  refine ⟨?_, h.usedSessionIds, h.observationLeases, h.streamShutdown⟩
  intro key
  have hold := h.sessions key
  simp only [MemoryEventStore.dropReceiver, KeyedMap.lookup_adjust]
  split
  next hkey =>
    subst hkey
    exact Option.Rel.casesOn hold
      (fun halike => Option.Rel.some (halike.ofTails _ _)) Option.Rel.none
  next => exact hold

theorem Alike.perform {op op' : Op}
    (hop : op.Alike op') : (store.perform op).2.Alike (store'.perform op').2 := by
  cases hop with
  | startSession command eventId eventId' =>
    exact h.startSession command eventId eventId'
  | append pending eventId eventId' =>
    have hpending : pending.Alike pending :=
      ⟨rfl, rfl, rfl, rfl, Iff.rfl, fun _ => rfl⟩
    exact (h.append hpending eventId eventId').2
  | endSession command eventId eventId' =>
    exact h.endSession command eventId eventId'
  | reserveObservation sessionId lease =>
    exact (h.reserveObservation sessionId lease).2
  | releaseObservation sessionId lease =>
    exact (h.releaseObservation sessionId lease).2
  | deleteEnded sessionId => exact h.deleteEnded sessionId
  | beginStreamShutdown => exact h.beginStreamShutdown
  | subscribeAfter sessionId after receiver =>
    exact ((h.subscribeAfter_left sessionId after
      receiver).symm.subscribeAfter_left sessionId after receiver).symm
  | dropReceiver sessionId receiver =>
    exact ((h.dropReceiver_left sessionId
      receiver).symm.dropReceiver_left sessionId receiver).symm

end

end MemoryEventStore

end DeviceRail
