import DeviceRail.Protocol.Identifiers
import DeviceRail.Support.Float64

/-!
# Wire data

The values that drivers return and events carry.  Equality of these values is
the derived `PartialEq` of the protocol crate: structural, except that scale
factors and JSON floats compare as IEEE numbers.
-/

namespace DeviceRail

/-- A JSON number: a non-negative integer, a negative one, or a float. -/
inductive Number where
  | posInt (value : ℕ)
  | negInt (value : ℤ)
  | float (value : Float64)
deriving BEq, Repr

/-- An arbitrary JSON value; object entries are in the map's order. -/
inductive Value where
  | null
  | bool (value : Bool)
  | number (value : Number)
  | string (value : String)
  | array (values : List Value)
  | object (entries : List (String × Value))
deriving BEq, Repr

def Value.isNull : Value → Bool
  | .null => true
  | _ => false

structure ErrorInfo where
  code : String
  message : String
  retryable : Bool
  details : Option Value
deriving BEq, Repr

/-! ## Devices and observations -/

structure Viewport where
  width : ℕ
  height : ℕ
  scaleFactor : Float64
deriving BEq, Repr

structure AssetRef where
  id : String
  mediaType : String
  uri : String
  sha256 : Option String
deriving DecidableEq, Repr

inductive ScreenshotOmissionReason where
  | policy
  | protectedAction
deriving DecidableEq, Repr

inductive UiContextKind where
  | native
  | web
deriving DecidableEq, Repr

/-- Identity of one native accessibility or web-document context. -/
structure UiContextRef where
  contextKind : UiContextKind
  contextId : String
  documentEpoch : String
deriving DecidableEq, Repr

/-- Observation-side reference to a UI tree stored as evidence. -/
structure UiSnapshotRef where
  formatVersion : ℕ
  context : UiContextRef
  nodeCount : ℕ
  byteLength : ℕ
  evidence : AssetRef
deriving DecidableEq, Repr

inductive UiSnapshotOmissionReason where
  | driverUnsupported
  | policy
  | protectedAction
deriving DecidableEq, Repr

structure Observation where
  id : Uuid
  deviceId : DeviceId
  capturedAtMs : ℕ
  viewport : Viewport
  screenshot : Option AssetRef
  screenshotOmission : Option ScreenshotOmissionReason
  uiSnapshot : Option UiSnapshotRef
  uiSnapshotOmission : Option UiSnapshotOmissionReason
  metadata : List (String × Value)
deriving BEq, Repr

namespace Observation

/-- Every typed evidence reference of the observation. -/
def assetRefs (observation : Observation) : List AssetRef :=
  observation.screenshot.toList ++
    observation.uiSnapshot.toList.map UiSnapshotRef.evidence

def uiSnapshotStateIsValid (observation : Observation) : Bool :=
  !(observation.uiSnapshot.isSome && observation.uiSnapshotOmission.isSome)

end Observation

/-! ## Actions -/

inductive ActionProtection where
  | standard
  | «protected»
deriving DecidableEq, Repr

structure ActionDefinition where
  name : String
  description : String
  inputSchema : Value
  protection : ActionProtection
deriving Repr

structure ActionCall where
  id : Uuid
  name : String
  arguments : Value
deriving BEq, Repr

/-- Durable form of an action invocation. -/
structure RecordedActionCall where
  id : Uuid
  name : String
  arguments : Value
  argumentsRedacted : Bool
deriving BEq, Repr

/-- `RecordedActionCall::from_action_call`: only a call classified as standard
keeps its arguments. -/
def RecordedActionCall.fromActionCall
    (call : ActionCall) (protection : Option ActionProtection) :
    RecordedActionCall :=
  let isStandard := protection == some .standard
  { id := call.id
    name := call.name
    arguments := if isStandard then call.arguments else .null
    argumentsRedacted := !isStandard }

inductive CoordinateFallbackReason where
  | semanticInteractionUnavailable
  | platformLimitation
deriving DecidableEq, Repr

/-- The channel through which a semantic action ran. -/
inductive ActionExecution where
  | nativeSemantic (context : UiContextRef)
  | webSemantic (context : UiContextRef)
  | coordinateFallback (context : UiContextRef)
      (fallbackReason : CoordinateFallbackReason)
deriving DecidableEq, Repr

structure ActionResult where
  callId : Uuid
  startedAtMs : ℕ
  finishedAtMs : ℕ
  output : Value
  before : Option Observation
  after : Option Observation
  evidence : List AssetRef
  execution : Option ActionExecution
deriving BEq, Repr

namespace ActionResult

/-- The observations of the result, in the order validators visit them. -/
def observations (result : ActionResult) : List Observation :=
  result.before.toList ++ result.after.toList

/-- Every typed evidence reference reachable from the result. -/
def assetRefs (result : ActionResult) : List AssetRef :=
  result.evidence ++ result.observations.flatMap Observation.assetRefs

end ActionResult

inductive ActionOutcome where
  | succeeded (result : ActionResult)
  | failed (error : ErrorInfo)
  | cancelled (error : ErrorInfo)
  | timedOut (error : ErrorInfo) (timeoutMs : ℕ)
deriving BEq, Repr

/-! ## Sessions and events -/

inductive SessionState where
  | active
  | ended
deriving DecidableEq, Repr

inductive SessionOutcome where
  | completed
  | failed
  | cancelled
  | shutdown
deriving DecidableEq, Repr

structure SessionInfo where
  id : SessionId
  state : SessionState
  startedAtMs : ℕ
  endedAtMs : Option ℕ
  eventCount : EventSequence
  lastSequence : EventSequence
deriving DecidableEq, Repr

inductive MediaStreamKind where
  | screenshot
  | video
deriving DecidableEq, Repr

structure MediaStreamInfo where
  id : MediaStreamId
  kind : MediaStreamKind
  mediaType : String
  viewport : Option Viewport
deriving BEq, Repr

structure MediaFrame where
  streamId : MediaStreamId
  frameIndex : EventSequence
  keyFrame : Bool
  durationMs : Option ℕ
  evidence : AssetRef
deriving DecidableEq, Repr

inductive VerdictStatus where
  | pass
  | fail
  | unknown
deriving DecidableEq, Repr

structure Verdict where
  status : VerdictStatus
  summary : String
  evidence : List AssetRef
deriving DecidableEq, Repr

inductive TestEventPayload where
  | sessionStarted
  | sessionEnded (outcome : SessionOutcome) (reason : Option String)
  | observationCaptured (observation : Observation)
  | actionStarted (call : RecordedActionCall)
  | actionCompleted (callId : Uuid) (outcome : ActionOutcome)
  | mediaStreamStarted (stream : MediaStreamInfo)
  | mediaFrameCaptured (frame : MediaFrame)
  | mediaStreamEnded (streamId : MediaStreamId) (frameCount : ℕ)
  | verdictRecorded (verdict : Verdict)
  | error (error : ErrorInfo)
deriving BEq, Repr

structure TestEvent where
  eventId : EventId
  sessionId : SessionId
  sequence : EventSequence
  requestId : Option RpcId
  deviceId : Option DeviceId
  atMs : ℕ
  payload : TestEventPayload
deriving BEq, Repr

structure SessionExport where
  session : SessionInfo
  events : List TestEvent
deriving Repr

/-- The events a session export or a store log starts and ends with. -/
@[simp] def TestEventPayload.isLifecycle : TestEventPayload → Bool
  | .sessionStarted => true
  | .sessionEnded _ _ => true
  | _ => false

end DeviceRail
