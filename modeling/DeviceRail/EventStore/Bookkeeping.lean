import DeviceRail.EventStore.History

/-!
# Bookkeeping of a session log

The tables a log keeps beside its events are exactly what a replay of the
events says, and every operation on a log keeps them so.
-/

namespace DeviceRail

/-- The bookkeeping step that belongs to an event. -/
def TestEvent.transition (event : TestEvent) : EventTransition :=
  match event.payload with
  | .actionStarted call => .actionStarted call.id event.correlation
  | .actionCompleted callId _ => .actionCompleted callId
  | .mediaStreamStarted stream => .mediaStarted stream.id stream.mediaType
  | .mediaFrameCaptured frame => .mediaFrame frame.streamId
  | .mediaStreamEnded streamId _ => .mediaEnded streamId
  | _ => .none

namespace SessionLog

open History TestEvent

/-- The log is the record of a legal history, and its tables are that history's
replay. -/
structure Represents (log : SessionLog) (sessionId : SessionId) : Prop where
  legal : Legal sessionId log.events
  id_eq : log.info.id = sessionId
  eventCount : log.info.eventCount.get = log.events.length
  lastSequence : log.info.lastSequence.get = log.events.length
  startedAt : log.events.head?.map atMs = some log.info.startedAtMs
  endedAt : log.info.endedAtMs =
    (log.events.getLast?.filter isSessionEnded).map atMs
  ended_iff : log.info.state = .ended ↔ Ended log.events
  seenCalls : ∀ callId, callId ∈ log.seenCalls ↔ CallStarted log.events callId
  inFlight : ∀ callId, log.inFlight.lookup callId = openCall log.events callId
  seenMediaStreams : ∀ streamId,
    streamId ∈ log.seenMediaStreams ↔ StreamStarted log.events streamId
  mediaStreams : ∀ streamId,
    log.mediaStreams.lookup streamId = openStream log.events streamId
  settled : log.info.state = .ended → log.inFlightObservations = ∅

/-! ## What the operations on a log can do -/

variable {pending : PendingEvent} {event : TestEvent}

section

variable (log : SessionLog)

theorem nextSequence_eq_ok {log : SessionLog} {sequence : EventSequence} :
    log.nextSequence = .ok sequence ↔
      log.info.lastSequence.checkedNext = some sequence := by
  unfold nextSequence
  cases log.info.lastSequence.checkedNext <;> simp

theorem retryOr_ne_record (pending : PendingEvent) (error : EventStoreError)
    (transition : EventTransition) :
    log.retryOr pending error ≠ .ok (.record transition) := by
  unfold retryOr
  cases log.exactMediaRetry pending <;> simp

theorem retryOr_eq_existing {error : EventStoreError}
    (h : log.retryOr pending error = .ok (.existing event)) :
    log.exactMediaRetry pending = some event := by
  unfold retryOr at h
  cases hretry : log.exactMediaRetry pending <;> simp_all

theorem exactMediaRetry_mem
    (h : log.exactMediaRetry pending = some event) : event ∈ log.events := by
  exact List.mem_reverse.mp (List.mem_of_find?_eq_some h)

theorem admit_eq_existing (h : log.admitEvent pending = .ok (.existing event)) :
    log.exactMediaRetry pending = some event := by
  simp only [admitEvent, admitActionStarted, admitActionCompleted,
    admitMediaStreamStarted, admitMediaFrameCaptured,
    admitMediaStreamEnded] at h
  repeat' split at h
  all_goals first
    | exact log.retryOr_eq_existing h
    | simp at h

/-- `append` fails, answers with a recorded event, or records a new one. -/
theorem append_cases (pending : PendingEvent) (eventId : EventId) :
    (∃ error, log.append pending eventId = (.error error, log)) ∨
    (∃ event, log.admitEvent pending = .ok (.existing event) ∧
      log.append pending eventId = (.ok event, log)) ∨
    (∃ sequence transition, log.info.state ≠ .ended ∧
      log.info.lastSequence.checkedNext = some sequence ∧
      log.admitEvent pending = .ok (.record transition) ∧
      log.append pending eventId =
        (.ok (pending.toEvent eventId sequence),
          log.record (pending.toEvent eventId sequence) transition)) := by
  unfold append
  split
  next => exact Or.inl ⟨_, rfl⟩
  next hstate =>
    split
    next => exact Or.inl ⟨_, rfl⟩
    next sequence hsequence =>
      split
      next => exact Or.inl ⟨_, rfl⟩
      next event hadmitted => exact Or.inr (Or.inl ⟨event, hadmitted, rfl⟩)
      next transition hadmitted =>
        exact Or.inr (Or.inr ⟨sequence, transition, hstate,
          nextSequence_eq_ok.mp hsequence, hadmitted, rfl⟩)

/-- `end_session` fails, or closes a log with nothing in flight. -/
theorem endSession_cases (command : EndSession) (eventId : EventId) :
    (∃ error, log.endSession command eventId = (.error error, log)) ∨
    (∃ sequence, log.info.state ≠ .ended ∧
      log.inFlightObservations = ∅ ∧
      (∀ callId, log.inFlight.lookup callId = none) ∧
      (∀ streamId, log.mediaStreams.lookup streamId = none) ∧
      log.info.lastSequence.checkedNext = some sequence ∧
      log.endSession command eventId =
        (.ok (log.close (command.toEvent eventId sequence)).info,
          log.close (command.toEvent eventId sequence))) := by
  unfold endSession
  split_ifs with hstate hobservations hcalls hstreams
  iterate 4 · exact Or.inl ⟨_, rfl⟩
  · split
    next => exact Or.inl ⟨_, rfl⟩
    next sequence hsequence =>
      refine Or.inr ⟨sequence, hstate, not_not.mp hobservations, ?_, ?_,
        nextSequence_eq_ok.mp hsequence, rfl⟩
      · exact (KeyedMap.isEmpty_iff _).mp (by simpa using hcalls)
      · exact (KeyedMap.isEmpty_iff _).mp (by simpa using hstreams)

/-- `subscribe_after` fails, or registers a receiver and hands out the suffix
after the cursor. -/
theorem subscribeAfter_cases (config : EventStreamConfig)
    (sessionId : SessionId) (after : Option EventSequence)
    (receiver : ReceiverId) :
    (∃ error, log.subscribeAfter config sessionId after receiver =
      (.error error, log)) ∨
    (log.info.lastSequence.get = log.events.length ∧
      cursorPosition after ≤ log.events.length ∧
      log.subscribeAfter config sessionId after receiver =
        (.ok (EventSubscription.new sessionId
            (log.events.drop (cursorPosition after))
            ⟨receiver, log.streamTail.position⟩ after
            log.info.lastSequence log.info.state),
          { log with streamTail := log.streamTail.subscribe receiver })) := by
  unfold subscribeAfter
  repeat' split
  any_goals exact Or.inl ⟨_, rfl⟩
  next hcount _ hcursor _ _ =>
    exact Or.inr ⟨not_not.mp hcount, Nat.le_of_not_lt hcursor, rfl⟩

end

/-! ## Admission is legality -/

variable {sessionId : SessionId}

section

variable {log : SessionLog} {transition : EventTransition}

section

variable (h : log.Represents sessionId)

include h

theorem Represents.admits_actionStarted {call : RecordedActionCall}
    (hadmitted : log.admitActionStarted pending call = .ok (.record transition)) :
    transition = .actionStarted call.id ⟨pending.requestId, pending.deviceId⟩ ∧
      ¬CallStarted log.events call.id := by
  obtain ⟨hfresh, hadmitted⟩ := guard_eq_ok.mp hadmitted
  cases hadmitted
  exact ⟨rfl, fun hstarted => hfresh ((h.seenCalls _).mpr hstarted)⟩

theorem Represents.admits_actionCompleted {callId : Uuid}
    {outcome : ActionOutcome}
    (hadmitted : log.admitActionCompleted pending callId outcome =
      .ok (.record transition)) :
    transition = .actionCompleted callId ∧
      openCall log.events callId = some ⟨pending.requestId, pending.deviceId⟩ ∧
      outcome.namesOtherCall callId = false := by
  unfold admitActionCompleted at hadmitted
  split at hadmitted
  next => simp at hadmitted
  next correlation hlookup =>
    split_ifs at hadmitted with hmismatch hother
    cases hadmitted
    rw [not_or, not_not, not_not] at hmismatch
    refine ⟨rfl, ?_, by simpa using hother⟩
    rw [← h.inFlight, hlookup, ← hmismatch.1, ← hmismatch.2]

theorem Represents.admits_mediaStreamStarted {stream : MediaStreamInfo}
    (hadmitted : log.admitMediaStreamStarted pending stream =
      .ok (.record transition)) :
    transition = .mediaStarted stream.id stream.mediaType ∧
      ¬StreamStarted log.events stream.id ∧ DeclarationValid stream := by
  unfold admitMediaStreamStarted at hadmitted
  split at hadmitted
  next =>
    split at hadmitted
    next => exact absurd hadmitted (log.retryOr_ne_record _ _ _)
    next => simp at hadmitted
  next hfresh =>
    split at hadmitted
    next => simp at hadmitted
    next request hrequest =>
      obtain ⟨hviewport, hadmitted⟩ := guard_eq_ok.mp hadmitted
      cases hadmitted
      have hmedia : validateMediaType stream.mediaType = .ok () := by
        unfold PutEvidence.new at hrequest
        split at hrequest <;> simp_all
      refine ⟨rfl, fun hstarted => hfresh ((h.seenMediaStreams _).mpr
        hstarted), hmedia, ?_⟩
      intro viewport hsome
      simpa [hsome] using hviewport

theorem Represents.admits_mediaFrameCaptured {frame : MediaFrame}
    (hadmitted : log.admitMediaFrameCaptured pending frame =
      .ok (.record transition)) :
    transition = .mediaFrame frame.streamId ∧
      ∃ state, openStream log.events frame.streamId = some state ∧
        FrameFits state frame := by
  unfold admitMediaFrameCaptured at hadmitted
  split at hadmitted
  next => exact absurd hadmitted (log.retryOr_ne_record _ _ _)
  next state hlookup =>
    split at hadmitted
    next =>
      split at hadmitted
      next => exact absurd hadmitted (log.retryOr_ne_record _ _ _)
      next => simp at hadmitted
    next hindex =>
      obtain ⟨hmedia, hadmitted⟩ := guard_eq_ok.mp hadmitted
      split at hadmitted
      next => simp at hadmitted
      next digest hdigest =>
        obtain ⟨hduration, hadmitted⟩ := guard_eq_ok.mp hadmitted
        cases hadmitted
        refine ⟨rfl, state, ?_, not_not.mp hindex, not_not.mp hmedia,
          ⟨digest, hdigest⟩, ?_⟩
        · rw [← h.mediaStreams, hlookup]
        · intro value hvalue
          simpa [hvalue] using hduration

theorem Represents.admits_mediaStreamEnded {streamId : MediaStreamId}
    {frameCount : ℕ}
    (hadmitted : log.admitMediaStreamEnded pending streamId frameCount =
      .ok (.record transition)) :
    transition = .mediaEnded streamId ∧
      ∃ state, openStream log.events streamId = some state ∧
        frameCount = state.nextFrameIndex - 1 := by
  unfold admitMediaStreamEnded at hadmitted
  split at hadmitted
  next => exact absurd hadmitted (log.retryOr_ne_record _ _ _)
  next state hlookup =>
    obtain ⟨hcount, hadmitted⟩ := guard_eq_ok.mp hadmitted
    cases hadmitted
    refine ⟨rfl, state, ?_, not_not.mp hcount⟩
    rw [← h.mediaStreams, hlookup]

/-- What `append` decides to record may follow the history, and its transition
is the one that belongs to the event. -/
theorem Represents.admits (hlifecycle : pending.payload.isLifecycle = false)
    (hadmitted : log.admitEvent pending = .ok (.record transition))
    (eventId : EventId) (sequence : EventSequence) :
    transition = (pending.toEvent eventId sequence).transition ∧
      Admits log.events (pending.toEvent eventId sequence) := by
  unfold admitEvent at hadmitted
  unfold Admits TestEvent.transition
  simp only [PendingEvent.toEvent, correlation]
  generalize pending.payload = payload at hlifecycle hadmitted ⊢
  cases payload with
  | actionStarted call => exact h.admits_actionStarted hadmitted
  | actionCompleted callId outcome => exact h.admits_actionCompleted hadmitted
  | mediaStreamStarted stream => exact h.admits_mediaStreamStarted hadmitted
  | mediaFrameCaptured frame => exact h.admits_mediaFrameCaptured hadmitted
  | mediaStreamEnded streamId frameCount =>
    exact h.admits_mediaStreamEnded hadmitted
  | sessionStarted | sessionEnded => cases hlifecycle
  | _ =>
    cases hadmitted
    exact ⟨rfl, trivial⟩

end

end

/-! ## Recording keeps the tables a replay -/

section

variable {log : SessionLog} (transition : EventTransition)

@[simp] theorem record_events :
    (log.record event transition).events = log.events ++ [event] := by
  cases transition <;> rfl

@[simp] theorem record_info :
    (log.record event transition).info =
      { log.info with
        eventCount := event.sequence, lastSequence := event.sequence } := by
  cases transition <;> rfl

@[simp] theorem record_inFlightObservations :
    (log.record event transition).inFlightObservations =
      log.inFlightObservations := by
  cases transition <;> rfl

@[simp] theorem record_streamTail :
    (log.record event transition).streamTail =
      log.streamTail.send (.event event) := by
  cases transition <;> rfl

theorem mem_record_seenCalls (callId : Uuid) :
    callId ∈ (log.record event event.transition).seenCalls ↔
      callId ∈ log.seenCalls ∨ event.startedCall? = some callId := by
  unfold TestEvent.transition startedCall?
  cases event.payload <;> simp [record, or_comm, eq_comm]

theorem mem_record_seenMediaStreams (streamId : MediaStreamId) :
    streamId ∈ (log.record event event.transition).seenMediaStreams ↔
      streamId ∈ log.seenMediaStreams ∨
        event.startedStream? = some streamId := by
  unfold TestEvent.transition startedStream?
  cases event.payload <;> simp [record, or_comm, eq_comm]

theorem lookup_record_inFlight (callId : Uuid) :
    (log.record event event.transition).inFlight.lookup callId =
      callStep callId (log.inFlight.lookup callId) event := by
  unfold TestEvent.transition callStep startedCall? completedCall?
  cases event.payload <;>
    simp [record, KeyedMap.lookup_insert_ite, KeyedMap.lookup_erase_ite,
      eq_comm]

theorem lookup_record_mediaStreams (streamId : MediaStreamId) :
    (log.record event event.transition).mediaStreams.lookup streamId =
      streamStep streamId (log.mediaStreams.lookup streamId) event := by
  unfold TestEvent.transition streamStep
  cases event.payload with
  | mediaFrameCaptured frame =>
    simp only [record, applyTransition, updateInfoAfterAppend, publishEvent,
      KeyedMap.lookup_adjust]
    by_cases hid : frame.streamId = streamId
    · subst hid
      simp
    · simp [hid, Ne.symm hid]
  | _ =>
    simp [record, KeyedMap.lookup_insert_ite, KeyedMap.lookup_erase_ite,
      eq_comm]

section

variable (h : log.Represents sessionId) (hactive : log.info.state ≠ .ended)
  (hid : event.sessionId = sessionId)
  (hsequence : event.sequence.get = log.events.length + 1)
  (hat : event.atMs ≤ maxSafeInteger)
include h hactive hid hsequence hat

/-- Recording an event, in a session that it ends or leaves open. -/
theorem Represents.extend (hadmits : Admits log.events event)
    {state : SessionState} {endedAtMs : Option ℕ}
    (hstate : state = .ended ↔ event.isSessionEnded = true)
    (hended : endedAtMs =
      if event.isSessionEnded then some event.atMs else none)
    (hsettled : state = .ended → log.inFlightObservations = ∅) :
    (({ log with info := { log.info with
        state := state, endedAtMs := endedAtMs } } : SessionLog).record event
      event.transition).Represents sessionId where
  legal := by
    rw [record_events]
    exact h.legal.record (fun hended => hactive (h.ended_iff.mpr hended)) hid
      hsequence hat hadmits
  id_eq := by simpa using h.id_eq
  eventCount := by simp [hsequence]
  lastSequence := by simp [hsequence]
  startedAt := by
    simp [List.head?_append_of_ne_nil _ h.legal.ne_nil, h.startedAt]
  endedAt := by
    cases hopen : event.isSessionEnded <;> simp [hended, Option.filter, hopen]
  ended_iff := by simp [hstate, ← h.ended_iff, hactive]
  seenCalls := by
    intro callId
    simp only [mem_record_seenCalls, record_events, callStarted_snoc,
      h.seenCalls]
  inFlight := by
    intro callId
    simp only [lookup_record_inFlight, record_events, openCall_snoc, h.inFlight]
  seenMediaStreams := by
    intro streamId
    simp only [mem_record_seenMediaStreams, record_events, streamStarted_snoc,
      h.seenMediaStreams]
  mediaStreams := by
    intro streamId
    simp only [lookup_record_mediaStreams, record_events, openStream_snoc,
      h.mediaStreams]
  settled := by simpa using hsettled

theorem Represents.record (hopen : event.isSessionEnded = false)
    (hadmits : Admits log.events event) :
    (log.record event event.transition).Represents sessionId := by
  refine h.extend hactive hid hsequence hat hadmits (by simp [hactive, hopen])
    ?_ fun hended => absurd hended hactive
  have hlast := h.legal.getLast?_isSessionEnded.not.mpr
    (fun hended => hactive (h.ended_iff.mpr hended))
  rw [h.endedAt, hopen]
  cases hget : log.events.getLast? with
  | none => rfl
  | some last => simpa [hget, Option.filter] using hlast

end

@[simp] theorem close_events :
    (log.close event).events = log.events ++ [event] := rfl

@[simp] theorem close_state : (log.close event).info.state = .ended := rfl

@[simp] theorem close_streamTail :
    (log.close event).streamTail = log.streamTail.send (.event event) := rfl

@[simp] theorem close_inFlightObservations :
    (log.close event).inFlightObservations = log.inFlightObservations := rfl

theorem Represents.close (h : log.Represents sessionId)
    (hactive : log.info.state ≠ .ended) (hid : event.sessionId = sessionId)
    (hsequence : event.sequence.get = log.events.length + 1)
    (hat : event.atMs ≤ maxSafeInteger) {outcome : SessionOutcome}
    {reason : Option String}
    (hpayload : event.payload = .sessionEnded outcome reason)
    (hobservations : log.inFlightObservations = ∅)
    (hcalls : ∀ callId, log.inFlight.lookup callId = none)
    (hstreams : ∀ streamId, log.mediaStreams.lookup streamId = none) :
    (log.close event).Represents sessionId := by
  have hended : event.isSessionEnded = true := by
    simp [isSessionEnded, hpayload]
  have hadmits : Admits log.events event := by
    simp only [Admits, hpayload, ← h.inFlight, ← h.mediaStreams]
    exact ⟨hcalls, hstreams⟩
  have hclosed := h.extend hactive hid hsequence hat hadmits
    (iff_of_true (rfl : SessionState.ended = .ended) hended) rfl
    fun _ => hobservations
  rwa [transition, hpayload, hended] at hclosed

theorem Represents.withTail (h : log.Represents sessionId) (tail : StreamTail) :
    ({ log with streamTail := tail } : SessionLog).Represents sessionId :=
  ⟨h.legal, h.id_eq, h.eventCount, h.lastSequence, h.startedAt, h.endedAt,
    h.ended_iff, h.seenCalls, h.inFlight, h.seenMediaStreams, h.mediaStreams,
    h.settled⟩

/-- Observations in flight are not either, except that an ended session has
none. -/
theorem Represents.withObservations (h : log.Represents sessionId)
    {observations : Finset ObservationLease}
    (hsettled : log.info.state = .ended → observations = ∅) :
    ({ log with inFlightObservations := observations } :
      SessionLog).Represents sessionId :=
  ⟨h.legal, h.id_eq, h.eventCount, h.lastSequence, h.startedAt, h.endedAt,
    h.ended_iff, h.seenCalls, h.inFlight, h.seenMediaStreams, h.mediaStreams,
    hsettled⟩

theorem represents_start (command : StartSession) (eventId : EventId)
    (tailCapacity : ℕ) (hat : command.atMs ≤ maxSafeInteger) :
    (SessionLog.start command eventId tailCapacity).Represents
      command.sessionId := by
  refine ⟨Legal.start rfl rfl rfl hat, rfl, rfl, rfl, rfl, ?_, ?_, ?_, ?_, ?_,
    ?_, ?_⟩
  all_goals
    simp [SessionLog.start, Ended, CallStarted, StreamStarted, openCall,
      openStream, callStep, streamStep, isSessionEnded, startedCall?,
      completedCall?, startedStream?, Option.filter]

end

end SessionLog

end DeviceRail
