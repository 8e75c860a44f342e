import DeviceRail.Router.Lease
import DeviceRail.Runtime.Errors

/-!
# One exchange with a peer

A driver sends one request over a stream and reads one line back.  What the
transport reports about a failure is all the driver knows of it, and from that
it tells its caller whether a retry is safe.  The control, the stream and the
peer may do anything at any byte.  What the bytes of a line mean is decided by
the bundled schema and the deserializer, which are parameters here.
-/

namespace DeviceRail.Router

def distributedProtocolVersion : ℕ := 2

def maxRequestTimeoutMs : ℕ := 5 * 60000

/-! ## Requests -/

/-- The operations on one device. -/
inductive PeerOperation where
  | leaseAcquire (deviceKey ownerId : String) (ttlMs : ℕ)
  | leaseRenew (lease : PeerLease) (ttlMs : ℕ)
  | leaseRelease (lease : PeerLease)
  | connect (deviceKey : String)
  | disconnect (deviceKey : String)
  | observe (deviceKey : String)
  | execute (deviceKey : String) (call : ActionCall)
  | evidenceRead (deviceKey evidenceId : String) (offset maxBytes : ℕ)

def PeerOperation.deviceKey : PeerOperation → String
  | .leaseAcquire deviceKey _ _ | .connect deviceKey | .disconnect deviceKey
  | .observe deviceKey | .execute deviceKey _
  | .evidenceRead deviceKey _ _ _ => deviceKey
  | .leaseRenew lease _ | .leaseRelease lease => lease.deviceKey

structure PeerRequest where
  protocolVersion : ℕ
  requestId : Uuid
  traceId : Uuid
  nodeId : NodeId
  nodeEpoch : Option ℕ
  timeoutMs : Option ℕ
  callId : Option Uuid
  lease : Option PeerLease
  operation : PeerOperation

/-- A new request; its two ids are drawn by the caller. -/
def PeerRequest.new (requestId traceId : Uuid) (nodeId : NodeId)
    (nodeEpoch : Option ℕ) (operation : PeerOperation) : PeerRequest where
  protocolVersion := distributedProtocolVersion
  requestId := requestId
  traceId := traceId
  nodeId := nodeId
  nodeEpoch := nodeEpoch
  timeoutMs := none
  callId := match operation with
    | .execute _ call => some call.id
    | _ => none
  lease := none
  operation := operation

def validEvidenceId (value : String) : Bool :=
  validIdentifier value 128 ||
    (value.startsWith "sha256:" && value.utf8ByteSize == 71 &&
      (value.toList.drop 7).all fun c => c.isDigit || ('a' ≤ c && c ≤ 'f'))

def isObject : Value → Bool
  | .object _ => true
  | _ => false

/-- The checks that depend on the operation. -/
def PeerRequest.fits (request : PeerRequest) : Bool :=
  match request.operation with
  | .leaseAcquire _ ownerId ttlMs =>
    request.nodeEpoch.isSome && request.lease.isNone &&
      request.callId.isNone && validIdentifier ownerId 64 &&
      validLeaseTtl ttlMs
  | .leaseRenew lease ttlMs =>
    request.nodeEpoch == some lease.nodeEpoch &&
      request.lease == some lease && request.callId.isNone &&
      validLeaseTtl ttlMs
  | .leaseRelease lease =>
    request.nodeEpoch == some lease.nodeEpoch &&
      request.lease == some lease && request.callId.isNone
  | .connect _ | .disconnect _ | .observe _ =>
    request.nodeEpoch.isSome && request.lease.isSome && request.callId.isNone
  | .execute _ call =>
    request.nodeEpoch.isSome && request.lease.isSome &&
      request.callId == some call.id && !isNil call.id &&
      !isBadText call.name 128 && isObject call.arguments
  | .evidenceRead _ evidenceId offset maxBytes =>
    request.nodeEpoch.isSome && request.lease.isSome &&
      request.callId.isNone && validEvidenceId evidenceId &&
      offset ≤ maxSafeInteger && 1 ≤ maxBytes && maxBytes ≤ 256 * 1024

def PeerRequest.validate (request : PeerRequest) : Except ModelError Unit := do
  require (request.protocolVersion == distributedProtocolVersion)
    .unsupportedVersion
  require (!isNil request.requestId && !isNil request.traceId &&
    request.nodeEpoch.all isSafePositive &&
    request.timeoutMs.all (fun ms => ms != 0 && ms ≤ maxRequestTimeoutMs) &&
    request.callId.all (!isNil ·)) .invalidEnvelope
  require (validIdentifier request.operation.deviceKey maxDeviceKeyBytes)
    .invalidIdentifier
  request.lease.elim (.ok ()) fun lease => do
    lease.validate
    require (request.operation.deviceKey == lease.deviceKey &&
      request.nodeEpoch == some lease.nodeEpoch) .invalidEnvelope
  require request.fits .invalidEnvelope

/-! ## Responses -/

/-- A result, with the fields that are compared with the request. -/
inductive PeerResult where
  | lease (lease : PeerLease)
  | ack
  | device (id : DeviceId) (connected : Bool)
  | observation (deviceId : DeviceId)
  | action (callId : Uuid)
  | evidenceChunk (evidenceId : String) (totalSize offset : ℕ)
      (dataBase64 : String)
deriving DecidableEq, Repr

def PeerResult.matchesRequest (result : PeerResult) (request : PeerRequest)
    (responseEpoch : ℕ) : Bool :=
  match request.operation, result with
  | .leaseAcquire deviceKey ownerId _, .lease granted =>
    granted.validate.isOk && granted.deviceKey == deviceKey &&
      granted.ownerId == ownerId && granted.nodeEpoch == responseEpoch
  | .leaseRenew old _, .lease renewed =>
    renewed.validate.isOk && renewed.leaseId == old.leaseId &&
      renewed.deviceKey == old.deviceKey &&
      renewed.ownerId == old.ownerId && renewed.nodeEpoch == old.nodeEpoch
  | .leaseRelease _, .ack | .disconnect _, .ack => true
  | .connect deviceKey, .device id connected =>
    id.text == deviceKey && connected
  | .observe deviceKey, .observation deviceId => deviceId.text == deviceKey
  | .execute _ call, .action callId => callId == call.id
  | .evidenceRead _ evidenceId offset maxBytes,
      .evidenceChunk returnedId totalSize returnedOffset dataBase64 =>
      returnedId == evidenceId && returnedOffset == offset &&
        offset < totalSize &&
        dataBase64.utf8ByteSize ≤ (maxBytes + 2) / 3 * 4
  | _, _ => false

structure PeerError where
  code : String
  retryable : Bool
  outcomeUnknown : Bool
deriving DecidableEq, Repr

def validCode (value : String) : Bool :=
  !value.isEmpty && value.utf8ByteSize ≤ 64 &&
    value.toList.zipIdx.all fun entry =>
      entry.1.isLower ||
        (0 < entry.2 && (entry.1.isDigit || isIdentifierMark entry.1))

def PeerError.validate (error : PeerError) : Except ModelError Unit :=
  require (validCode error.code) .invalidEnvelope

structure PeerResponse where
  protocolVersion : ℕ
  requestId : Uuid
  nodeId : NodeId
  nodeEpoch : ℕ
  ok : Bool
  result : Option PeerResult
  error : Option PeerError

def PeerResponse.validateFor (response : PeerResponse)
    (request : PeerRequest) : Except ModelError Unit := do
  require (response.protocolVersion == distributedProtocolVersion)
    .unsupportedVersion
  require (response.requestId == request.requestId &&
    response.nodeId == request.nodeId && isSafePositive response.nodeEpoch &&
    request.nodeEpoch.all (· == response.nodeEpoch) &&
    response.ok == (response.result.isSome && response.error.isNone) &&
    (response.ok || (response.result.isNone && response.error.isSome)))
    .responseMismatch
  response.error.elim (.ok ()) PeerError.validate
  response.result.elim (.ok ()) fun result =>
    require (result.matchesRequest request response.nodeEpoch) .responseMismatch

/-! ## The transport -/

inductive TransportError where
  | invalidRequest
  | frameTooLarge
  | closedBeforeSend
  | failedAfterSend
  | protocol
  | unsupportedVersion
  | cancelled
  | cancelledAfterSend
  | timedOut
  | timedOutAfterSend
deriving DecidableEq, Repr

namespace TransportError

def mayHaveReachedPeer : TransportError → Bool
  | .failedAfterSend | .cancelledAfterSend | .timedOutAfterSend => true
  | _ => false

def code : TransportError → String
  | .invalidRequest => "peer_request_invalid"
  | .frameTooLarge => "peer_frame_too_large"
  | .closedBeforeSend => "peer_closed_before_send"
  | .failedAfterSend => "peer_failed_after_send"
  | .protocol => "peer_protocol_error"
  | .unsupportedVersion => "peer_protocol_version_unsupported"
  | .cancelled => "peer_cancelled"
  | .cancelledAfterSend => "peer_cancelled_after_send"
  | .timedOut => "peer_timed_out"
  | .timedOutAfterSend => "peer_timed_out_after_send"

end TransportError

/-- The serializer, the bundled schema and the deserializer. -/
structure Wire where
  encode : PeerRequest → Option (List UInt8)
  schemaAccepts : List UInt8 → Bool
  protocolVersion : List UInt8 → Option ℕ
  decode : List UInt8 → Option PeerResponse

/-- Why the control ends an operation. -/
inductive Interruption where
  | cancelled
  | timedOut
deriving DecidableEq, Repr

namespace Interruption

def beforeSend : Interruption → TransportError
  | .cancelled => .cancelled
  | .timedOut => .timedOut

def afterSend : Interruption → TransportError
  | .cancelled => .cancelledAfterSend
  | .timedOut => .timedOutAfterSend

end Interruption

/-- How the write of a frame ends, with the bytes written when it is cut
short. -/
inductive Writing where
  | finished
  | failed (count : ℕ)
  | interrupted (count : ℕ) (reason : Interruption)
deriving DecidableEq, Repr

/-- What follows the bytes a peer sends. -/
inductive Ending where
  | endOfFile
  | failed
deriving DecidableEq, Repr

/-- What happens to one request: the control at the start and while the
transport waits for its stream, whether the stream is still open, the write,
the bytes that come back and an interruption of the wait for them. -/
structure Circumstances where
  atStart : Option Interruption
  remainingMs : Option ℕ
  atStream : Option Interruption
  isOpen : Bool
  writing : Writing
  incoming : List UInt8
  ending : Ending
  whileWaiting : Option Interruption

def newline : UInt8 := 10

def carriageReturn : UInt8 := 13

/-- `read_until` on the stream limited to one byte more than a frame. -/
def readUntil (incoming : List UInt8) (ending : Ending) :
    Except TransportError (List UInt8) :=
  let bounded := incoming.take (maxPeerFrameBytes + 1)
  if newline ∈ bounded then
    .ok (bounded.takeWhile (· != newline) ++ [newline])
  else if maxPeerFrameBytes < incoming.length then .ok bounded
  else
    match ending with
    | .endOfFile => .ok bounded
    | .failed => .error .failedAfterSend

def readFrame (incoming : List UInt8) (ending : Ending) :
    Except TransportError (List UInt8) := do
  let bytes ← readUntil incoming ending
  require (!bytes.isEmpty) .failedAfterSend
  require (bytes.length ≤ maxPeerFrameBytes &&
    bytes.getLast? == some newline) .frameTooLarge
  require (!bytes.dropLast.isEmpty &&
    bytes.dropLast.getLast? != some carriageReturn) .protocol
  return bytes.dropLast

def Circumstances.stamp (circumstances : Circumstances)
    (request : PeerRequest) : PeerRequest :=
  match request.timeoutMs, circumstances.remainingMs with
  | none, some remaining =>
    { request with
      timeoutMs := some (max 1 (min remaining maxRequestTimeoutMs)) }
  | _, _ => request

namespace Wire

variable (wire : Wire) (expectedNodeId : NodeId) (message : PeerRequest)
  (circumstances : Circumstances)

def encodeFrame : Except TransportError (List UInt8) :=
  match wire.encode message with
  | none => .error .invalidRequest
  | some bytes =>
    if bytes.isEmpty || maxPeerFrameBytes ≤ bytes.length then
      .error .frameTooLarge
    else .ok (bytes ++ [newline])

/-- What a line is read as. -/
def interpret (line : List UInt8) : Except TransportError PeerResponse :=
  if !wire.schemaAccepts line then
    if (wire.protocolVersion line).any (· != distributedProtocolVersion) then
      .error .unsupportedVersion
    else .error .protocol
  else
    match wire.decode line with
    | none => .error .protocol
    | some response =>
      match response.validateFor message with
      | .error _ => .error .protocol
      | .ok () => .ok response

def interrupt : Option Interruption → Except TransportError Unit
  | none => .ok ()
  | some reason => .error reason.beforeSend

/-- Everything `request` does before the first byte is written. -/
def prepare : Except TransportError (List UInt8) := do
  require (message.nodeId == expectedNodeId) .invalidRequest
  interrupt circumstances.atStart
  (circumstances.stamp message).validate.mapError fun
    | .unsupportedVersion => .unsupportedVersion
    | _ => .invalidRequest
  let frame ← wire.encodeFrame (circumstances.stamp message)
  interrupt circumstances.atStream
  require circumstances.isOpen .closedBeforeSend
  return frame

/-- One request: its outcome, and how many bytes of it were written. -/
def request : Except TransportError PeerResponse × ℕ :=
  match wire.prepare expectedNodeId message circumstances with
  | .error error => (.error error, 0)
  | .ok frame =>
    match circumstances.writing with
    | .failed count => (.error .failedAfterSend, min count frame.length)
    | .interrupted count reason =>
      (.error reason.afterSend, min count frame.length)
    | .finished =>
      (match circumstances.whileWaiting with
        | some reason => .error reason.afterSend
        | none =>
          readFrame circumstances.incoming circumstances.ending >>=
            wire.interpret (circumstances.stamp message),
        frame.length)

end Wire

/-! ## The driver's reading of an outcome -/

def semanticDriverError : String → Option DriverError
  | "element_not_found" => some .elementNotFound
  | "element_ambiguous" => some .elementAmbiguous
  | "element_stale" => some .elementStale
  | "element_not_interactable" => some .elementNotInteractable
  | "ui_context_not_found" => some .uiContextNotFound
  | "ui_context_ambiguous" => some .uiContextAmbiguous
  | "ui_context_changed" => some .uiContextChanged
  | "semantic_channel_unavailable" => some .semanticChannelUnavailable
  | _ => none

def bounded (text fallback : String) (maxChars : ℕ) : String :=
  let text := String.ofList (text.toList.take maxChars)
  if isBlank text then fallback else text

def invalidArguments (action message : String) : DriverError :=
  .invalidArguments (bounded action "unknown_action" 128)
    (bounded message "arguments were rejected" 256)

/-- The code for an outcome the peer itself does not know. -/
def PeerOperation.unknownCode : PeerOperation → String
  | .execute _ _ => "remote_execute_outcome_unknown"
  | .connect _ | .disconnect _ => "remote_lifecycle_outcome_unknown"
  | _ => "remote_outcome_unknown"

/-- The call name of an execute request. -/
def PeerOperation.callName? : PeerOperation → Option String
  | .execute _ call => some call.name
  | _ => none

def PeerError.toDriverError (error : PeerError) (operation : PeerOperation) :
    DriverError :=
  if error.outcomeUnknown then .platform operation.unknownCode false
  else
    match (if error.code = "invalid_arguments" then operation.callName?
      else none) with
    | some name =>
      invalidArguments name "remote peer rejected the action arguments"
    | none =>
      (semanticDriverError error.code).getD
        (.platform (String.ofList
          (("remote_" ++ error.code).toList.take 64)) error.retryable)

def responseToResult (response : PeerResponse) (request : PeerRequest) :
    Except DriverError PeerResult :=
  match response.validateFor request with
  | .error _ => .error (.protocol "peer response mismatch")
  | .ok () =>
    if response.ok then
      match response.result with
      | some result => .ok result
      | none => .error (.protocol "peer response has no result")
    else
      match response.error with
      | some error => .error (error.toDriverError request.operation)
      | none => .error (.protocol "peer response has no error")

/-- The error for a mutation that may have reached the peer. -/
def PeerOperation.unknownOutcome : PeerOperation → DriverError
  | .execute _ _ => .platform "remote_execute_outcome_unknown" false
  | _ => .platform "remote_lifecycle_outcome_unknown" false

def exchangeRaw (exchange : Except TransportError PeerResponse)
    (request : PeerRequest) (mutation : Bool) :
    Except DriverError PeerResult :=
  match exchange with
  | .ok response => responseToResult response request
  | .error .cancelled => .error .cancelled
  | .error .timedOut => .error .timedOut
  | .error .cancelledAfterSend =>
    .error (if mutation then request.operation.unknownOutcome else .cancelled)
  | .error .timedOutAfterSend =>
    .error (if mutation then request.operation.unknownOutcome else .timedOut)
  | .error .protocol => .error (.protocol TransportError.protocol.code)
  | .error .invalidRequest =>
    .error (.protocol TransportError.invalidRequest.code)
  | .error .unsupportedVersion =>
    .error (.protocol TransportError.unsupportedVersion.code)
  | .error error =>
    .error (if mutation && error.mayHaveReachedPeer then
      request.operation.unknownOutcome else .platform error.code true)

end DeviceRail.Router
