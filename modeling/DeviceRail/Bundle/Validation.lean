import DeviceRail.Bundle.Json
import DeviceRail.Bundle.References
import DeviceRail.EventStore.Log
import DeviceRail.Protocol.Ui

/-!
# Validation of a captured session

`validate_source` of the bundle format: the header of an ended session, and a
replay of its events that checks their order, their correlation and their
content, and collects their typed evidence references.
-/

namespace DeviceRail

/-! ## Typed references of events -/

/-- A reference that declares no length. -/
def TypedReference.plain (asset : AssetRef) : TypedReference := ⟨asset, none⟩

def UiSnapshotRef.typedReference (snapshot : UiSnapshotRef) : TypedReference :=
  ⟨snapshot.evidence, some snapshot.byteLength⟩

def Observation.typedReferences (observation : Observation) :
    List TypedReference :=
  observation.screenshot.toList.map .plain ++
    observation.uiSnapshot.toList.map UiSnapshotRef.typedReference

/-- Screenshots and evidence first, then the UI snapshots. -/
def ActionResult.typedReferences (result : ActionResult) :
    List TypedReference :=
  (result.observations.filterMap Observation.screenshot ++
    result.evidence).map .plain ++
    (result.observations.filterMap Observation.uiSnapshot).map
      UiSnapshotRef.typedReference

def ActionOutcome.typedReferences : ActionOutcome → List TypedReference
  | .succeeded result => result.typedReferences
  | _ => []

def TestEventPayload.typedReferences :
    TestEventPayload → List TypedReference
  | .observationCaptured observation => observation.typedReferences
  | .actionCompleted _ outcome => outcome.typedReferences
  | .mediaFrameCaptured frame => [.plain frame.evidence]
  | .verdictRecorded verdict => verdict.evidence.map .plain
  | _ => []

def TestEvent.typedReferences (event : TestEvent) : List TypedReference :=
  event.payload.typedReferences

def TestEventPayload.isSessionStarted : TestEventPayload → Bool
  | .sessionStarted => true
  | _ => false

namespace SessionBundle

/-! ## Protocol versions -/

def validateEventProtocol (version : ProtocolVersion) :
    Except ModelError Unit :=
  if version.major = 1 ∧ version.minor ≤ 5 then .ok ()
  else .error (.unsupportedEventProtocol version.major version.minor)

def requireProtocol (minor : ℕ) (error : String → ModelError)
    (protocol : ProtocolVersion) (field : String) : Except ModelError Unit :=
  if protocol.major = 1 ∧ minor ≤ protocol.minor then .ok ()
  else .error (error field)

def requireProtocol12 := requireProtocol 2 .fieldRequiresProtocol12

def requireProtocol14 := requireProtocol 4 .fieldRequiresProtocol14

def requireProtocol15 := requireProtocol 5 .fieldRequiresProtocol15

/-! ## Content of events -/

/-- A check that applies under a condition. -/
def checkWhen (test : Bool) (check : Except ModelError Unit) :
    Except ModelError Unit :=
  if test then check else .ok ()

/-- A check on each element, in order. -/
def checkEach {α : Type} (check : α → Except ModelError Unit) :
    List α → Except ModelError Unit
  | [] => .ok ()
  | value :: values => do
      check value
      checkEach check values

section

variable (limits : BundleLimits) (protocol : ProtocolVersion)

def validateObservation (observation : Observation) :
    Except ModelError Unit := do
  failIf (observation.screenshot.isSome &&
    observation.screenshotOmission.isSome) .observationScreenshotConflict
  checkWhen observation.screenshotOmission.isSome
    (requireProtocol12 protocol "screenshotOmission")
  failIf (observation.uiSnapshot.isSome &&
    observation.uiSnapshotOmission.isSome) .observationUiSnapshotConflict
  checkWhen (observation.uiSnapshot.isSome ||
    observation.uiSnapshotOmission.isSome)
    (requireProtocol15 protocol "uiSnapshot")
  failIf (observation.uiSnapshot.any (fun snapshot =>
    !snapshot.validate.isOk)) .invalidUiSnapshotReference
  failIf (!observation.viewport.scaleFactor.isFinite)
    .invalidObservationViewport
  checkEach (fun entry => validateJsonValue limits entry.2 2)
    observation.metadata

def validateErrorDetails (error : ErrorInfo) : Except ModelError Unit :=
  match error.details with
  | some details => validateJsonValue limits details 1
  | none => .ok ()

/-- The observation reports an omission that belongs to protected actions. -/
def reportsProtectedAction (observation : Observation) : Bool :=
  observation.screenshotOmission == some .protectedAction ||
    observation.uiSnapshotOmission == some .protectedAction

def protectedObservation (observation : Option Observation) : Bool :=
  observation.any (fun observation =>
    observation.screenshot.isNone &&
      observation.screenshotOmission == some .protectedAction &&
      observation.uiSnapshot.isNone &&
      (decide (protocol.minor < 5) ||
        observation.uiSnapshotOmission.isNone ||
        observation.uiSnapshotOmission == some .protectedAction))

def validateSuccessOmission (argumentsRedacted : Bool)
    (result : ActionResult) : Except ModelError Unit :=
  if argumentsRedacted then
    failIf (!result.evidence.isEmpty ||
      !protectedObservation protocol result.before ||
      !protectedObservation protocol result.after)
      .invalidProtectedActionOmission
  else
    failIf (result.observations.any reportsProtectedAction)
      .unexpectedProtectedActionOmission

/-- The context of an execution, and the kind it must have. -/
def executionContext : ActionExecution → UiContextRef × Option UiContextKind
  | .nativeSemantic context => (context, some .native)
  | .webSemantic context => (context, some .web)
  | .coordinateFallback context _ => (context, none)

def validateExecution (execution : ActionExecution) :
    Except ModelError Unit := do
  requireProtocol15 protocol "execution"
  failIf (!(executionContext execution).1.validate.isOk ||
    (executionContext execution).2.any (fun kind =>
      (executionContext execution).1.contextKind != kind))
    .invalidActionExecution

def validateResult (callId : Uuid) (argumentsRedacted : Bool)
    (result : ActionResult) : Except ModelError Unit := do
  failIf (result.callId != callId) (.actionResultMismatch callId)
  failIf (decide (result.finishedAtMs < result.startedAtMs))
    (.actionTimeMismatch callId)
  validateJsonValue limits result.output 1
  checkEach (validateObservation limits protocol) result.observations
  checkEach (validateExecution protocol) result.execution.toList
  validateSuccessOmission protocol argumentsRedacted result

def validateOutcome (callId : Uuid) (argumentsRedacted : Bool) :
    ActionOutcome → Except ModelError Unit
  | .succeeded result =>
    validateResult limits protocol callId argumentsRedacted result
  | .failed error => validateErrorDetails limits error
  | .cancelled error => validateErrorDetails limits error
  | .timedOut error _ => validateErrorDetails limits error

def validateArguments (call : RecordedActionCall) :
    Except ModelError Unit := do
  checkWhen call.argumentsRedacted
    (requireProtocol12 protocol "argumentsRedacted")
  failIf (call.argumentsRedacted && !call.arguments.isNull)
    .redactedArgumentsNotNull
  validateJsonValue limits call.arguments 1

/-- `u8::is_ascii_control`, on characters. -/
def isAsciiControl (c : Char) : Bool :=
  decide (c.toNat < 0x20) || c.toNat == 0x7F

/-- The part of the test of a stream declaration that only reads it. -/
def declarationRefused (stream : MediaStreamInfo) : Bool :=
  stream.mediaType.toList.isEmpty ||
    decide (255 < stream.mediaType.utf8ByteSize) ||
    stream.mediaType.toList.any isAsciiControl ||
    stream.viewport.any (fun viewport => !viewport.isUsable)

end

/-! ## The replay -/

structure ActionCorrelation where
  requestId : Option RpcId
  deviceId : Option DeviceId
  argumentsRedacted : Bool
deriving DecidableEq, Repr

/-- The local variables of the loop over the events. -/
structure ReplayState where
  eventIds : Finset EventId
  seenCalls : Finset Uuid
  inFlight : KeyedMap Uuid ActionCorrelation
  seenMediaStreams : Finset MediaStreamId
  mediaStreams : KeyedMap MediaStreamId MediaStreamState
  references : ReferenceCollector

def ReplayState.new : ReplayState := ⟨∅, ∅, ∅, ∅, ∅, .new⟩

/-- What the loop reads besides the state: the limits, the protocol, the
session, its end and the number of events. -/
structure ReplayContext where
  limits : BundleLimits
  protocol : ProtocolVersion
  session : SessionInfo
  endedAtMs : ℕ
  total : ℕ

section

variable (context : ReplayContext)

def ReplayState.collect (state : ReplayState)
    (references : List TypedReference) : Except ModelError ReplayState := do
  let collected ← state.references.addAll context.limits references
  pure { state with references := collected }

def validateActionStarted (state : ReplayState) (event : TestEvent)
    (call : RecordedActionCall) : Except ModelError ReplayState := do
  validateArguments context.limits context.protocol call
  failIf (decide (call.id ∈ state.seenCalls)) (.duplicateActionCall call.id)
  pure { state with
    seenCalls := insert call.id state.seenCalls
    inFlight := state.inFlight.insert call.id
      ⟨event.requestId, event.deviceId, call.argumentsRedacted⟩ }

def validateActionCompleted (state : ReplayState) (event : TestEvent)
    (callId : Uuid) (outcome : ActionOutcome) :
    Except ModelError ReplayState :=
  match state.inFlight.lookup callId with
  | none => .error (.actionNotStarted callId)
  | some started => do
      failIf (started.requestId != event.requestId ||
        started.deviceId != event.deviceId) (.actionCorrelationMismatch callId)
      validateOutcome context.limits context.protocol callId
        started.argumentsRedacted outcome
      { state with inFlight := state.inFlight.erase callId }.collect context
        outcome.typedReferences

def validateMediaStreamStarted (state : ReplayState)
    (stream : MediaStreamInfo) : Except ModelError ReplayState := do
  failIf (declarationRefused stream ||
    decide (stream.id ∈ state.seenMediaStreams)) .invalidMediaStream
  pure { state with
    seenMediaStreams := insert stream.id state.seenMediaStreams
    mediaStreams := state.mediaStreams.insert stream.id ⟨stream.mediaType, 1⟩ }

def validateMediaFrameCaptured (state : ReplayState) (frame : MediaFrame) :
    Except ModelError ReplayState :=
  match state.mediaStreams.lookup frame.streamId with
  | none => .error .invalidMediaStream
  | some stream => do
      failIf (frame.frameIndex.get != stream.nextFrameIndex ||
        frame.evidence.mediaType != stream.mediaType ||
        frame.durationMs.any (fun value => decide (maxSafeInteger < value)))
        .invalidMediaStream
      let state ← state.collect context [.plain frame.evidence]
      pure { state with
        mediaStreams := state.mediaStreams.adjust frame.streamId
          (fun stream =>
            { stream with nextFrameIndex := stream.nextFrameIndex + 1 }) }

def validateMediaStreamEnded (state : ReplayState) (streamId : MediaStreamId)
    (frameCount : ℕ) : Except ModelError ReplayState :=
  match state.mediaStreams.lookup streamId with
  | none => .error .invalidMediaStream
  | some stream => do
      failIf (frameCount != stream.nextFrameIndex - 1) .invalidMediaStream
      pure { state with mediaStreams := state.mediaStreams.erase streamId }

/-- The `match` on the payload. -/
def validatePayload (first last : Bool) (state : ReplayState)
    (event : TestEvent) : Except ModelError ReplayState :=
  match event.payload with
  | .sessionStarted => do
      failIf (!first || event.atMs != context.session.startedAtMs)
        .invalidLifecycle
      pure state
  | .sessionEnded _ _ => do
      failIf (!last || event.atMs != context.endedAtMs) .invalidLifecycle
      pure state
  | .observationCaptured observation => do
      failIf (first || last) .invalidLifecycle
      validateObservation context.limits context.protocol observation
      failIf (reportsProtectedAction observation)
        .unexpectedProtectedActionOmission
      state.collect context observation.typedReferences
  | .actionStarted call => do
      failIf (first || last) .invalidLifecycle
      validateActionStarted context state event call
  | .actionCompleted callId outcome => do
      failIf (first || last) .invalidLifecycle
      validateActionCompleted context state event callId outcome
  | .mediaStreamStarted stream => do
      requireProtocol14 context.protocol "mediaStreamStarted"
      failIf (first || last) .invalidMediaStream
      validateMediaStreamStarted state stream
  | .mediaFrameCaptured frame => do
      requireProtocol14 context.protocol "mediaFrameCaptured"
      failIf (first || last) .invalidLifecycle
      validateMediaFrameCaptured context state frame
  | .mediaStreamEnded streamId frameCount => do
      requireProtocol14 context.protocol "mediaStreamEnded"
      failIf (first || last) .invalidLifecycle
      validateMediaStreamEnded state streamId frameCount
  | .verdictRecorded verdict => do
      failIf (first || last) .invalidLifecycle
      state.collect context (verdict.evidence.map .plain)
  | .error error => do
      failIf (first || last) .invalidLifecycle
      validateErrorDetails context.limits error
      pure state

/-- One iteration of the loop. -/
def validateEvent (index : ℕ) (state : ReplayState) (event : TestEvent) :
    Except ModelError ReplayState := do
  let first := index == 0
  let last := index + 1 == context.total
  failIf (EventSequence.new (index + 1) != some event.sequence)
    .invalidEventSequence
  failIf (event.sessionId != context.session.id) .eventSessionMismatch
  failIf (decide (event.eventId ∈ state.eventIds)) .duplicateEventId
  let state ← validatePayload context first last
    { state with eventIds := insert event.eventId state.eventIds } event
  failIf (first && !event.payload.isSessionStarted) .invalidLifecycle
  failIf (last && !event.payload.isSessionEnded) .invalidLifecycle
  pure state

def validateEvents : ℕ → ReplayState → List TestEvent →
    Except ModelError ReplayState
  | _, state, [] => .ok state
  | index, state, event :: events => do
      let state ← validateEvent context index state event
      validateEvents (index + 1) state events

end

def validateExport (limits : BundleLimits) (protocol : ProtocolVersion)
    (sessionExport : SessionExport) : Except ModelError ReferenceCollector := do
  failIf (decide (limits.maxEvents < sessionExport.events.length))
    (.limitExceeded "events" limits.maxEvents)
  failIf (sessionExport.session.state != .ended) .sessionNotEnded
  match sessionExport.session.endedAtMs with
  | none => .error .invalidEndedSession
  | some endedAtMs => do
      failIf (EventSequence.new sessionExport.events.length !=
          some sessionExport.session.eventCount ||
        EventSequence.new sessionExport.events.length !=
          some sessionExport.session.lastSequence) .invalidEventSequence
      let state ← validateEvents
        ⟨limits, protocol, sessionExport.session, endedAtMs, sessionExport.events.length⟩
        0 .new sessionExport.events
      failIf (!state.inFlight.isEmpty) .actionStillInFlight
      failIf (!state.mediaStreams.isEmpty) .mediaStreamStillInFlight
      failIf (decide (limits.maxAssets < state.references.byDigest.len))
        (ReferenceCollector.assetLimit limits)
      pure state.references

def validateSource (source : BundleSource) (limits : BundleLimits) :
    Except ModelError (KeyedMap Sha256Digest AssetRef) := do
  validateEventProtocol source.eventProtocolVersion
  let references ←
    validateExport limits source.eventProtocolVersion source.sessionExport
  pure references.byDigest

end SessionBundle

end DeviceRail
