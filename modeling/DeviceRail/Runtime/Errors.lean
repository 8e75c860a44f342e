import DeviceRail.Evidence.Writer
import DeviceRail.EventStore.Log
import DeviceRail.Runtime.Control

/-!
# Errors of the runtime

The errors of drivers and of the runtime, and the error information that is
recorded in events and sent to clients.  Object keys are in the order of the
JSON map, which is sorted.
-/

namespace DeviceRail

/-- A JSON object with one string field. -/
def stringDetail (key value : String) : Option Value :=
  some (.object [(key, .string value)])

def natValue (n : ℕ) : Value := .number (.posInt n)

/-! ## Drivers -/

inductive DriverError where
  | notConnected (deviceId : DeviceId)
  | unknownAction (action : String)
  | invalidArguments (action message : String)
  | elementNotFound
  | elementAmbiguous
  | elementStale
  | elementNotInteractable
  | uiContextNotFound
  | uiContextAmbiguous
  | uiContextChanged
  | semanticChannelUnavailable
  | protocol (message : String)
  | cancelled
  | timedOut
  | platform (code : String) (retryable : Bool)
  | internal (message : String)
deriving DecidableEq, Repr

def isPlatformCodeChar (c : Char) : Bool :=
  ('a' ≤ c && c ≤ 'z') || ('0' ≤ c && c ≤ '9') || c == '_' || c == '-' ||
    c == '.'

def publicPlatformCode (code : String) : String :=
  if !code.isEmpty && code.utf8ByteSize ≤ 64 &&
      code.toList.all isPlatformCodeChar then code
  else "unknown"

def DriverError.toErrorInfo : DriverError → ErrorInfo
  | .notConnected deviceId =>
    ⟨"device_not_connected",
      "device " ++ deviceId.text ++ " is not connected", true,
      stringDetail "deviceId" deviceId.text⟩
  | .unknownAction action =>
    ⟨"unknown_action", "unknown action: " ++ action, false,
      stringDetail "action" action⟩
  | .invalidArguments action _ =>
    ⟨"invalid_arguments", "invalid arguments for action " ++ action, false,
      stringDetail "action" action⟩
  | .elementNotFound =>
    ⟨"element_not_found", "element was not found", false, none⟩
  | .elementAmbiguous =>
    ⟨"element_ambiguous", "element selector matched more than one element",
      false, none⟩
  | .elementStale => ⟨"element_stale", "element reference is stale", true, none⟩
  | .elementNotInteractable =>
    ⟨"element_not_interactable", "element is not interactable", false, none⟩
  | .uiContextNotFound =>
    ⟨"ui_context_not_found", "UI context was not found", false, none⟩
  | .uiContextAmbiguous =>
    ⟨"ui_context_ambiguous",
      "UI context selector matched more than one context", false, none⟩
  | .uiContextChanged =>
    ⟨"ui_context_changed", "UI context changed", true, none⟩
  | .semanticChannelUnavailable =>
    ⟨"semantic_channel_unavailable", "semantic UI channel is unavailable",
      false, none⟩
  | .protocol _ => ⟨"protocol_error", "driver protocol error", false, none⟩
  | .cancelled =>
    ⟨"driver_cancelled", "driver operation was cancelled", false, none⟩
  | .timedOut => ⟨"driver_timed_out", "driver operation timed out", true, none⟩
  | .platform code retryable =>
    ⟨"platform_error", "platform operation failed", retryable,
      stringDetail "platformCode" (publicPlatformCode code)⟩
  | .internal _ => ⟨"internal_error", "internal driver error", true, none⟩

/-! ## Evidence -/

def EvidenceError.toErrorInfo : EvidenceError → ErrorInfo
  | .unavailable =>
    ⟨"evidence_store_unavailable",
      "evidence store is not configured for this runtime", false, none⟩
  | .invalidConfiguration _ =>
    ⟨"invalid_evidence_store_configuration",
      "evidence store configuration is invalid", false, none⟩
  | .corruptStore _ =>
    ⟨"evidence_corrupt", "evidence store is corrupt", false, none⟩
  | .invalidReference reason =>
    ⟨"invalid_evidence_reference", "evidence reference is invalid", false,
      stringDetail "reason" reason⟩
  | .invalidDigest value =>
    ⟨"invalid_evidence_digest", "evidence digest is invalid", false,
      stringDetail "digest" value⟩
  | .invalidMediaType mediaType =>
    ⟨"invalid_evidence_media_type", "evidence media type is invalid", false,
      stringDetail "mediaType" mediaType⟩
  | .emptyContent =>
    ⟨"empty_evidence", "evidence content is empty", false, none⟩
  | .declaredSizeMismatch declared actual =>
    ⟨"evidence_size_mismatch",
      "evidence size does not match its declaration", false,
      some (.object [("actualBytes", natValue actual),
        ("declaredBytes", natValue declared)])⟩
  | .digestMismatch expected actual =>
    ⟨"evidence_digest_mismatch",
      "evidence digest does not match its declaration", false,
      some (.object [("actual", .string actual.text),
        ("expected", .string expected.text)])⟩
  | .notFound digest =>
    ⟨"evidence_not_found", "evidence was not found", false,
      stringDetail "digest" digest.text⟩
  | .notAttached sessionId digest =>
    ⟨"evidence_not_attached", "evidence is not attached to this session",
      false,
      some (.object [("digest", .string digest.text),
        ("sessionId", .string sessionId.uuid.toText)])⟩
  | .corrupt expected actual =>
    ⟨"evidence_corrupt", "evidence content is corrupt", false,
      some (.object [("actual", .string actual.text),
        ("expected", .string expected.text)])⟩
  | .corruptMetadata digest _ =>
    ⟨"evidence_corrupt", "evidence metadata is corrupt", false,
      stringDetail "digest" digest.text⟩
  | .mediaTypeConflict digest existing requested =>
    ⟨"evidence_media_type_conflict",
      "evidence media type conflicts with stored metadata", false,
      some (.object [("digest", .string digest.text),
        ("existing", .string existing), ("requested", .string requested)])⟩
  | .unsafePath _ =>
    ⟨"unsafe_evidence_path", "evidence storage path is unsafe", false, none⟩
  | .tooLarge actual maximum =>
    ⟨"evidence_too_large", "evidence exceeds the configured size limit",
      false,
      some (.object [("actualBytes", natValue actual),
        ("maximumBytes", natValue maximum)])⟩
  | .referenceLimit maximum =>
    ⟨"evidence_reference_limit",
      "session evidence reference limit exceeded", false,
      some (.object [("maximum", natValue maximum)])⟩
  | .sessionClosed sessionId =>
    ⟨"evidence_session_closed", "evidence session is already closed", false,
      stringDetail "sessionId" sessionId.uuid.toText⟩
  | .storeBusy => ⟨"evidence_store_busy", "evidence store is busy", true, none⟩
  | .unsupportedStoreVersion version =>
    ⟨"unsupported_evidence_store_version",
      "evidence store version is unsupported", false,
      some (.object [("version", natValue version)])⟩
  | .io _ _ => ⟨"evidence_io_error", "evidence store I/O failed", true, none⟩
  | .internal _ => ⟨"evidence_store_error", "evidence store failed", true, none⟩

/-! ## The event store -/

def sessionDetail (sessionId : SessionId) : Option Value :=
  stringDetail "sessionId" sessionId.uuid.toText

def callDetail (callId : Uuid) : Option Value :=
  stringDetail "callId" callId.toText

/-- A busy session: what is in flight, and how often. -/
def busyInfo (sessionId : SessionId) (count : ℕ) (noun key : String) :
    ErrorInfo :=
  ⟨"session_busy",
    "session " ++ sessionId.uuid.toText ++ " still has " ++ toString count ++
      " " ++ noun ++ "(s) in flight", true,
    some (.object [(key, natValue count),
      ("sessionId", .string sessionId.uuid.toText)])⟩

def EventStoreError.toErrorInfo : EventStoreError → ErrorInfo
  | .sessionAlreadyExists sessionId =>
    ⟨"session_already_exists",
      "session already exists: " ++ sessionId.uuid.toText, false,
      sessionDetail sessionId⟩
  | .sessionNotFound sessionId =>
    ⟨"session_not_found", "session not found: " ++ sessionId.uuid.toText,
      false, sessionDetail sessionId⟩
  | .sessionEnded sessionId =>
    ⟨"session_ended", "session is already ended: " ++ sessionId.uuid.toText,
      false, sessionDetail sessionId⟩
  | .sessionActive sessionId =>
    ⟨"session_active",
      "active session cannot be deleted: " ++ sessionId.uuid.toText, false,
      sessionDetail sessionId⟩
  | .actionsInFlight sessionId count =>
    busyInfo sessionId count "action" "inFlightActions"
  | .observationsInFlight sessionId count =>
    busyInfo sessionId count "observation" "inFlightObservations"
  | .invalidObservationLease sessionId leaseId =>
    ⟨"invalid_observation_lease",
      "observation lease " ++ leaseId.toText ++
        " does not belong to session " ++ sessionId.uuid.toText, false,
      some (.object [("leaseId", .string leaseId.toText),
        ("sessionId", .string sessionId.uuid.toText)])⟩
  | .lifecycleEventReserved =>
    ⟨"invalid_event",
      "session lifecycle events can only be written by " ++
        "start_session/end_session", false, none⟩
  | .duplicateActionCall callId =>
    ⟨"duplicate_action_call",
      "action call id is already used in this session: " ++ callId.toText,
      false, callDetail callId⟩
  | .actionNotStarted callId =>
    ⟨"action_not_started",
      "action was not started in this session: " ++ callId.toText, false,
      callDetail callId⟩
  | .actionCorrelationMismatch callId =>
    ⟨"action_correlation_mismatch",
      "action event correlation changed for call " ++ callId.toText, false,
      callDetail callId⟩
  | .actionResultMismatch callId =>
    ⟨"action_result_mismatch",
      "successful action result call id does not match completed call " ++
        callId.toText, false, callDetail callId⟩
  | .duplicateMediaStream streamId =>
    ⟨"duplicate_media_stream",
      "media stream id is already used: " ++ streamId.uuid.toText, false,
      stringDetail "streamId" streamId.uuid.toText⟩
  | .invalidMediaStream =>
    ⟨"invalid_media_stream", "media stream declaration is invalid", false, none⟩
  | .mediaStreamNotActive streamId =>
    ⟨"media_stream_not_active",
      "media stream is not active: " ++ streamId.uuid.toText, false,
      stringDetail "streamId" streamId.uuid.toText⟩
  | .mediaFrameOutOfOrder =>
    ⟨"media_frame_out_of_order", "media stream frame is out of order", false,
      none⟩
  | .mediaFrameMismatch =>
    ⟨"media_frame_mismatch",
      "media stream frame does not match its declared stream", false, none⟩
  | .mediaFrameCountMismatch =>
    ⟨"media_frame_count_mismatch",
      "media stream ended with an inconsistent frame count", false, none⟩
  | .mediaStreamsInFlight sessionId count =>
    busyInfo sessionId count "media stream" "inFlightMediaStreams"
  | .sequenceExhausted sessionId =>
    ⟨"event_sequence_exhausted",
      "event sequence exhausted for session: " ++ sessionId.uuid.toText,
      false, sessionDetail sessionId⟩
  | .shuttingDown =>
    ⟨"event_store_shutting_down", "event store is shutting down", false, none⟩
  | .timestampOutOfRange =>
    ⟨"timestamp_out_of_range",
      "timestamp exceeds the cross-language safe integer limit", false,
      none⟩
  | .internal message =>
    ⟨"event_store_error", "event store failed: " ++ message, true, none⟩

/-! ## The runtime -/

inductive DeviceOperationError where
  | driver (error : DriverError)
  | evidence (error : EvidenceError)
deriving DecidableEq, Repr

inductive RuntimeError where
  | driver (error : DriverError)
  | eventStore (error : EventStoreError)
  | evidence (error : EvidenceError)
  | cancelled (reason : CancellationReason)
  | timedOut (scope : TimeoutScope) (timeoutMs : ℕ)
deriving DecidableEq, Repr

abbrev RuntimeResult (α : Type) := Except RuntimeError α

def cancelledMessage (reason : CancellationReason) : String :=
  "request was cancelled: " ++ reason.debugText

def timedOutMessage (scope : TimeoutScope) (timeoutMs : ℕ) : String :=
  scope.debugText ++ " timed out after " ++ toString timeoutMs ++ " ms"

def timedOutDetails (scope : TimeoutScope) (timeoutMs : ℕ) : Option Value :=
  some (.object [("scope", .string scope.asStr),
    ("timeoutMs", natValue timeoutMs)])

namespace RuntimeError

def toErrorInfo : RuntimeError → ErrorInfo
  | .driver error => error.toErrorInfo
  | .eventStore error => error.toErrorInfo
  | .evidence error => error.toErrorInfo
  | .cancelled reason =>
    ⟨"request_cancelled", cancelledMessage reason, false,
      stringDetail "reason" reason.asStr⟩
  | .timedOut scope timeoutMs =>
    ⟨match scope with
      | .action => "action_timed_out"
      | .request => "request_timed_out"
      | .shutdown => "request_timed_out",
      timedOutMessage scope timeoutMs, true, timedOutDetails scope timeoutMs⟩

def toActionErrorInfo : RuntimeError → ErrorInfo
  | .cancelled reason =>
    ⟨"action_cancelled", cancelledMessage reason, false,
      stringDetail "reason" reason.asStr⟩
  | .timedOut scope timeoutMs =>
    ⟨"action_timeout", timedOutMessage scope timeoutMs, true,
      timedOutDetails scope timeoutMs⟩
  | error => error.toErrorInfo

end RuntimeError

end DeviceRail
