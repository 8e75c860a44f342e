import DeviceRail.Evidence.Reference
import DeviceRail.EventStore.Stream
import DeviceRail.Support.KeyedMap

/-!
# Session logs

One session's log with its bookkeeping, and the operations of the in-memory
event store that run while the log's lock is held.  Operations return their
reply together with the log they leave behind, on errors too, so that a failed
operation that changed something would show.
-/

namespace DeviceRail

/-- Opaque token of one in-flight observation. -/
structure ObservationLease where
  uuid : Uuid
deriving DecidableEq, Repr

inductive EventStoreError where
  | sessionAlreadyExists (sessionId : SessionId)
  | sessionNotFound (sessionId : SessionId)
  | sessionEnded (sessionId : SessionId)
  | sessionActive (sessionId : SessionId)
  | actionsInFlight (sessionId : SessionId) (count : ℕ)
  | observationsInFlight (sessionId : SessionId) (count : ℕ)
  | invalidObservationLease (sessionId : SessionId) (leaseId : Uuid)
  | lifecycleEventReserved
  | duplicateActionCall (callId : Uuid)
  | actionNotStarted (callId : Uuid)
  | actionCorrelationMismatch (callId : Uuid)
  | actionResultMismatch (callId : Uuid)
  | duplicateMediaStream (streamId : MediaStreamId)
  | invalidMediaStream
  | mediaStreamNotActive (streamId : MediaStreamId)
  | mediaFrameOutOfOrder
  | mediaFrameMismatch
  | mediaFrameCountMismatch
  | mediaStreamsInFlight (sessionId : SessionId) (count : ℕ)
  | sequenceExhausted (sessionId : SessionId)
  | shuttingDown
  | timestampOutOfRange
  | internal (message : String)
deriving DecidableEq, Repr

/-- The request and device an action was started with. -/
structure ActionCorrelation where
  requestId : Option RpcId
  deviceId : Option DeviceId
deriving DecidableEq, Repr

structure MediaStreamState where
  mediaType : String
  nextFrameIndex : ℕ
deriving DecidableEq, Repr

/-- An event before the store gives it an identity and a sequence number. -/
structure PendingEvent where
  sessionId : SessionId
  requestId : Option RpcId
  deviceId : Option DeviceId
  atMs : ℕ
  payload : TestEventPayload

structure StartSession where
  sessionId : SessionId
  requestId : Option RpcId
  deviceId : Option DeviceId
  atMs : ℕ

structure EndSession where
  sessionId : SessionId
  requestId : Option RpcId
  deviceId : Option DeviceId
  atMs : ℕ
  outcome : SessionOutcome
  reason : Option String

structure SessionLog where
  info : SessionInfo
  events : List TestEvent
  streamTail : StreamTail
  seenCalls : Finset Uuid
  inFlight : KeyedMap Uuid ActionCorrelation
  inFlightObservations : Finset ObservationLease
  seenMediaStreams : Finset MediaStreamId
  mediaStreams : KeyedMap MediaStreamId MediaStreamState

/-- What recording an event does to the bookkeeping. -/
inductive EventTransition where
  | none
  | actionStarted (callId : Uuid) (correlation : ActionCorrelation)
  | actionCompleted (callId : Uuid)
  | mediaStarted (streamId : MediaStreamId) (mediaType : String)
  | mediaFrame (streamId : MediaStreamId)
  | mediaEnded (streamId : MediaStreamId)
deriving DecidableEq, Repr

/-- The decision of `append` about a pending event: record it, or answer with
an event that is already in the log. -/
inductive Admission where
  | record (transition : EventTransition)
  | existing (event : TestEvent)

def ensureTimestamp (atMs : ℕ) : Except EventStoreError Unit :=
  if atMs ≤ maxSafeInteger then .ok () else .error .timestampOutOfRange

/-- The viewport test of a media stream declaration. -/
def Viewport.isUsable (viewport : Viewport) : Bool :=
  !(viewport.width == 0 || viewport.height == 0 ||
    !viewport.scaleFactor.isFinite || viewport.scaleFactor.leZero)

/-- A success whose result names another call. -/
def ActionOutcome.namesOtherCall (outcome : ActionOutcome) (callId : Uuid) :
    Bool :=
  match outcome with
  | .succeeded result => result.callId != callId
  | _ => false

/-- The recorded form of a pending event. -/
def PendingEvent.toEvent (pending : PendingEvent) (eventId : EventId)
    (sequence : EventSequence) : TestEvent :=
  { eventId := eventId
    sessionId := pending.sessionId
    sequence := sequence
    requestId := pending.requestId
    deviceId := pending.deviceId
    atMs := pending.atMs
    payload := pending.payload }

/-- The terminal event of an end command. -/
def EndSession.toEvent (command : EndSession) (eventId : EventId)
    (sequence : EventSequence) : TestEvent :=
  { eventId := eventId
    sessionId := command.sessionId
    sequence := sequence
    requestId := command.requestId
    deviceId := command.deviceId
    atMs := command.atMs
    payload := .sessionEnded command.outcome command.reason }

namespace SessionLog

/-- The log `start_session` creates. -/
def start (command : StartSession) (eventId : EventId)
    (tailCapacity : ℕ) : SessionLog :=
  { info :=
      { id := command.sessionId
        state := .active
        startedAtMs := command.atMs
        endedAtMs := none
        eventCount := .first
        lastSequence := .first }
    events :=
      [{ eventId := eventId
         sessionId := command.sessionId
         sequence := .first
         requestId := command.requestId
         deviceId := command.deviceId
         atMs := command.atMs
         payload := .sessionStarted }]
    streamTail := Broadcast.channel tailCapacity
    seenCalls := ∅
    inFlight := ∅
    inFlightObservations := ∅
    seenMediaStreams := ∅
    mediaStreams := ∅ }

variable (log : SessionLog)

def nextSequence : Except EventStoreError EventSequence :=
  match log.info.lastSequence.checkedNext with
  | some sequence => .ok sequence
  | none => .error (.sequenceExhausted log.info.id)

@[simp] def updateInfoAfterAppend (sequence : EventSequence) : SessionLog :=
  { log with info :=
      { log.info with eventCount := sequence, lastSequence := sequence } }

@[simp] def publishEvent (event : TestEvent) : SessionLog :=
  { log with streamTail := log.streamTail.send (.event event) }

/-- The latest recorded event with the same content as `pending`. -/
def exactMediaRetry (pending : PendingEvent) : Option TestEvent :=
  log.events.reverse.find? (fun event =>
    event.requestId == pending.requestId &&
      event.deviceId == pending.deviceId &&
      event.atMs == pending.atMs &&
      event.payload == pending.payload)

/-- Answer a media event with its earlier recording, or fail. -/
def retryOr (pending : PendingEvent) (error : EventStoreError) :
    Except EventStoreError Admission :=
  match log.exactMediaRetry pending with
  | some event => .ok (.existing event)
  | none => .error error

def admitActionStarted (pending : PendingEvent) (call : RecordedActionCall) :
    Except EventStoreError Admission :=
  if call.id ∈ log.seenCalls then .error (.duplicateActionCall call.id)
  else
    .ok (.record (.actionStarted call.id ⟨pending.requestId, pending.deviceId⟩))

def admitActionCompleted (pending : PendingEvent) (callId : Uuid)
    (outcome : ActionOutcome) : Except EventStoreError Admission :=
  match log.inFlight.lookup callId with
  | none => .error (.actionNotStarted callId)
  | some correlation =>
    if correlation.requestId ≠ pending.requestId ∨
        correlation.deviceId ≠ pending.deviceId then
      .error (.actionCorrelationMismatch callId)
    else if outcome.namesOtherCall callId then
      .error (.actionResultMismatch callId)
    else .ok (.record (.actionCompleted callId))

def admitMediaStreamStarted (pending : PendingEvent) (stream : MediaStreamInfo) :
    Except EventStoreError Admission :=
  if stream.id ∈ log.seenMediaStreams then
    if (log.mediaStreams.lookup stream.id).any
        (fun active => active.nextFrameIndex == 1) then
      log.retryOr pending (.duplicateMediaStream stream.id)
    else .error (.duplicateMediaStream stream.id)
  else
    match PutEvidence.new log.info.id stream.mediaType with
    | .error _ => .error .invalidMediaStream
    | .ok _ =>
      if stream.viewport.any (fun viewport => !viewport.isUsable) then
        .error .invalidMediaStream
      else .ok (.record (.mediaStarted stream.id stream.mediaType))

def admitMediaFrameCaptured (pending : PendingEvent) (frame : MediaFrame) :
    Except EventStoreError Admission :=
  match log.mediaStreams.lookup frame.streamId with
  | none => log.retryOr pending (.mediaStreamNotActive frame.streamId)
  | some stream =>
    if frame.frameIndex.get ≠ stream.nextFrameIndex then
      if frame.frameIndex.get < stream.nextFrameIndex then
        log.retryOr pending .mediaFrameOutOfOrder
      else .error .mediaFrameOutOfOrder
    else if frame.evidence.mediaType ≠ stream.mediaType then
      .error .mediaFrameMismatch
    else
      match Sha256Digest.fromAssetRef frame.evidence with
      | .error _ => .error .mediaFrameMismatch
      | .ok _ =>
        if frame.durationMs.any (fun value => maxSafeInteger < value) then
          .error .mediaFrameMismatch
        else .ok (.record (.mediaFrame frame.streamId))

def admitMediaStreamEnded (pending : PendingEvent) (streamId : MediaStreamId)
    (frameCount : ℕ) : Except EventStoreError Admission :=
  match log.mediaStreams.lookup streamId with
  | none => log.retryOr pending (.mediaStreamNotActive streamId)
  | some stream =>
    if frameCount ≠ stream.nextFrameIndex - 1 then
      .error .mediaFrameCountMismatch
    else .ok (.record (.mediaEnded streamId))

/-- The `match` on the payload in `append`. -/
def admitEvent (pending : PendingEvent) : Except EventStoreError Admission :=
  match pending.payload with
  | .actionStarted call => log.admitActionStarted pending call
  | .actionCompleted callId outcome =>
    log.admitActionCompleted pending callId outcome
  | .mediaStreamStarted stream => log.admitMediaStreamStarted pending stream
  | .mediaFrameCaptured frame => log.admitMediaFrameCaptured pending frame
  | .mediaStreamEnded streamId frameCount =>
    log.admitMediaStreamEnded pending streamId frameCount
  | _ => .ok (.record .none)

/-- The bookkeeping part of recording an event. -/
@[simp] def applyTransition : EventTransition → SessionLog
  | .none => log
  | .actionStarted callId correlation =>
    { log with
      seenCalls := insert callId log.seenCalls
      inFlight := log.inFlight.insert callId correlation }
  | .actionCompleted callId =>
    { log with inFlight := log.inFlight.erase callId }
  | .mediaStarted streamId mediaType =>
    { log with
      seenMediaStreams := insert streamId log.seenMediaStreams
      mediaStreams := log.mediaStreams.insert streamId ⟨mediaType, 1⟩ }
  | .mediaFrame streamId =>
    { log with
      mediaStreams := log.mediaStreams.adjust streamId (fun stream =>
        { stream with nextFrameIndex := stream.nextFrameIndex + 1 }) }
  | .mediaEnded streamId =>
    { log with mediaStreams := log.mediaStreams.erase streamId }

/-- Add an event at the end of the log, with its bookkeeping, and publish it. -/
def record (event : TestEvent) (transition : EventTransition) : SessionLog :=
  let log := { log with events := log.events ++ [event] }
  let log := log.updateInfoAfterAppend event.sequence
  let log := log.applyTransition transition
  log.publishEvent event

/-- `append` from the state test on. -/
def append (pending : PendingEvent) (eventId : EventId) :
    Except EventStoreError TestEvent × SessionLog :=
  if log.info.state = .ended then
    (.error (.sessionEnded pending.sessionId), log)
  else
    match log.nextSequence with
    | .error e => (.error e, log)
    | .ok sequence =>
      match log.admitEvent pending with
      | .error e => (.error e, log)
      | .ok (.existing event) => (.ok event, log)
      | .ok (.record transition) =>
        let event := pending.toEvent eventId sequence
        (.ok event, log.record event transition)

/-- Add the terminal event and publish it. -/
def close (event : TestEvent) : SessionLog :=
  let log := { log with
    events := log.events ++ [event]
    info := { log.info with state := .ended, endedAtMs := some event.atMs } }
  let log := log.updateInfoAfterAppend event.sequence
  log.publishEvent event

/-- `end_session` from the state test on. -/
def endSession (command : EndSession) (eventId : EventId) :
    Except EventStoreError SessionInfo × SessionLog :=
  if log.info.state = .ended then
    (.error (.sessionEnded command.sessionId), log)
  else if log.inFlightObservations ≠ ∅ then
    (.error (.observationsInFlight command.sessionId
      log.inFlightObservations.card), log)
  else if !log.inFlight.isEmpty then
    (.error (.actionsInFlight command.sessionId log.inFlight.len), log)
  else if !log.mediaStreams.isEmpty then
    (.error (.mediaStreamsInFlight command.sessionId log.mediaStreams.len), log)
  else
    match log.nextSequence with
    | .error e => (.error e, log)
    | .ok sequence =>
      let log := log.close (command.toEvent eventId sequence)
      (.ok log.info, log)

/-- `subscribe_after` once the log's lock is held. -/
def subscribeAfter (config : EventStreamConfig) (sessionId : SessionId)
    (after : Option EventSequence) (receiver : ReceiverId) :
    Except EventStreamError EventSubscription × SessionLog :=
  match after.filter (fun after => log.info.lastSequence.get < after.get) with
  | some after =>
    (.error (.cursorAhead sessionId after log.info.lastSequence), log)
  | none =>
    if log.info.lastSequence.get ≠ log.events.length then
      (.error (.internal ("session " ++ sessionId.uuid.toText ++
        " event count does not match its append-only log")), log)
    else if (log.events.getLast?.any (·.payload.isSessionEnded)) ≠
        (log.info.state == .ended) then
      (.error (.internal ("session " ++ sessionId.uuid.toText ++
        " state does not match its terminal event")), log)
    else if log.events.length < cursorPosition after then
      (.error (.internal ("session " ++ sessionId.uuid.toText ++
        " cursor is inconsistent with its log")), log)
    else if config.maxReplayEvents <
        log.events.length - cursorPosition after then
      (.error (.replayLimitExceeded sessionId
        (log.events.length - cursorPosition after)
        config.maxReplayEvents), log)
    else if config.maxSubscribersPerSession ≤ log.streamTail.receiverCount then
      (.error (.tooManySubscribers sessionId
        config.maxSubscribersPerSession), log)
    else
      (.ok (EventSubscription.new sessionId
          (log.events.drop (cursorPosition after))
          ⟨receiver, log.streamTail.position⟩ after
          log.info.lastSequence log.info.state),
        { log with streamTail := log.streamTail.subscribe receiver })

/-- Send a signal to the receivers of the log. -/
def signal (s : EventStreamSignal) : SessionLog :=
  { log with streamTail := log.streamTail.send s }

end SessionLog

end DeviceRail
