import DeviceRail.Protocol.Ui
import DeviceRail.Runtime.Errors

/-!
# Operations of the device runtime

The pure parts of `DeviceRuntime::observe` and `DeviceRuntime::execute`: the
contexts they derive, how they wait for a driver, the checks on what a driver
returned, and the outcome they record.
-/

namespace DeviceRail

/-! ## Contexts -/

inductive ScreenshotPolicy where
  | capture
  | omit
deriving DecidableEq, Repr

structure OperationContext where
  sessionId : SessionId
  requestId : Option RpcId
  control : ExecutionControl
  actionTimeoutMs : Option ℕ
  screenshotPolicyOverride : Option ScreenshotPolicy
  uiSnapshotsEnabled : Bool
  semanticActionsEnabled : Bool
deriving DecidableEq, Repr

namespace OperationContext

def effectiveScreenshotPolicy (context : OperationContext)
    (runtimePolicy : ScreenshotPolicy) : ScreenshotPolicy :=
  match runtimePolicy, context.screenshotPolicyOverride with
  | .omit, _ => .omit
  | _, some .omit => .omit
  | _, _ => .capture

/-- `execution_control`, called at `now`. -/
def executionControl (context : OperationContext) (now : ℕ) :
    ExecutionControl :=
  match context.actionTimeoutMs with
  | none => context.control
  | some timeoutMs => context.control.withTimeout now timeoutMs .action

end OperationContext

def PendingEvent.forOperation (context : OperationContext)
    (deviceId : Option DeviceId) (atMs : ℕ) (payload : TestEventPayload) :
    PendingEvent :=
  ⟨context.sessionId, context.requestId, deviceId, atMs, payload⟩

/-- `now_ms`, for a clock reading in milliseconds. -/
def nowMs (clock : ℕ) : ℕ := min clock maxSafeInteger

structure DriverOperationContext where
  control : ExecutionControl
  evidence : SessionEvidenceWriter
  screenshotPolicy : ScreenshotPolicy
  uiSnapshotsEnabled : Bool
  semanticActionsEnabled : Bool

/-- A runtime: the identity of its driver and its configuration. -/
structure DeviceRuntime where
  driverId : DeviceId
  evidence : EvidenceBackend
  strictEvidenceReceipts : Bool
  screenshotPolicy : ScreenshotPolicy
deriving DecidableEq, Repr

namespace DeviceRuntime

def new (driverId : DeviceId) : DeviceRuntime :=
  ⟨driverId, .unavailable, false, .capture⟩

def withEvidence (driverId : DeviceId) (evidence : EvidenceBackend) :
    DeviceRuntime :=
  ⟨driverId, evidence, true, .capture⟩

def driverContext (runtime : DeviceRuntime) (control : ExecutionControl)
    (operation : OperationContext) (screenshotPolicy : ScreenshotPolicy) :
    DriverOperationContext :=
  let evidence := match screenshotPolicy with
    | .capture => runtime.evidence
    | .omit => .unavailable
  { control := control
    evidence := .new operation.sessionId evidence
    screenshotPolicy := screenshotPolicy
    uiSnapshotsEnabled := operation.uiSnapshotsEnabled
    semanticActionsEnabled := operation.semanticActionsEnabled }

end DeviceRuntime

/-! ## Waiting for a driver -/

def timeoutError (control : ExecutionControl) : RuntimeError :=
  let (scope, timeoutMs) := control.timeout.getD (.request, 0)
  .timedOut scope timeoutMs

def inactiveControlError (control : ExecutionControl) (moment : Moment) :
    Option RuntimeError :=
  match moment.reason with
  | some reason => some (.cancelled reason)
  | none => if control.isExpired moment then some (timeoutError control) else none

def normalizeDriverResult {α : Type} (control : ExecutionControl)
    (moment : Moment) : Except DriverError α → RuntimeResult α
  | .ok value => .ok value
  | .error .cancelled =>
    match moment.reason with
    | some reason => .error (.cancelled reason)
    | none => .error (.driver .cancelled)
  | .error .timedOut =>
    if control.isExpired moment then .error (timeoutError control)
    else .error (.driver .timedOut)
  | .error error => .error (.driver error)

def normalizeDeviceOperationResult {α : Type} (control : ExecutionControl)
    (moment : Moment) : Except DeviceOperationError α → RuntimeResult α
  | .ok value => .ok value
  | .error (.driver error) => normalizeDriverResult control moment (.error error)
  | .error (.evidence error) => .error (.evidence error)

/-- How a wait ends: the driver's future is ready, or it is not and the
cancellation signal or the deadline is observed. -/
inductive Ending (α : Type) where
  | returned (moment : Moment) (result : α)
  | cancelled (moment : Moment)
  | elapsed (moment : Moment)

/-- A wait that passed the first look at its control; `none` when the branch
is not ready at its moment. -/
def Ending.resolve {α β : Type} (ending : Ending α) (control : ExecutionControl)
    (normalize : Moment → α → RuntimeResult β) : Option (RuntimeResult β) :=
  match ending with
  | .returned moment result => some (normalize moment result)
  | .cancelled moment => moment.reason.map (fun reason => .error (.cancelled reason))
  | .elapsed moment =>
    if control.isExpired moment then some (.error (timeoutError control))
    else none

variable {α : Type} {control : ExecutionControl}

theorem Ending.resolve_eq_ok {β : Type} {ending : Ending α}
    {normalize : Moment → α → RuntimeResult β} {value : β}
    (h : ending.resolve control normalize = some (.ok value)) :
    ∃ moment result, ending = .returned moment result ∧
      normalize moment result = .ok value := by
  cases ending with
  | returned moment result => exact ⟨moment, result, rfl, Option.some.inj h⟩
  | _ => simp [Ending.resolve] at h

theorem normalizeDriverResult_eq_ok {moment : Moment}
    {result : Except DriverError α} {value : α}
    (h : normalizeDriverResult control moment result = .ok value) :
    result = .ok value := by
  unfold normalizeDriverResult at h
  split at h
  next =>
    cases h
    rfl
  next => split at h <;> cases h
  next => split at h <;> cases h
  next => cases h

/-! ## Classification of actions -/

def ActionProtection.debugText : ActionProtection → String
  | .standard => "Standard"
  | .«protected» => "Protected"

/-- `Debug` of an optional value. -/
def debugOption {α : Type} (text : α → String) : Option α → String
  | none => "None"
  | some value => "Some(" ++ text value ++ ")"

/-- `validate_capability_protections`, with the answers of the driver's
classifier. -/
def validateCapabilityProtections
    (actionProtection : String → Option ActionProtection) :
    List ActionDefinition → RuntimeResult Unit
  | [] => .ok ()
  | definition :: definitions =>
    let declared := actionProtection definition.name
    if declared ≠ some definition.protection then
      .error (.driver (.protocol
        ("action protection for `" ++ definition.name ++ "` is " ++
          debugOption ActionProtection.debugText declared ++ ", expected " ++
          definition.protection.debugText)))
    else validateCapabilityProtections actionProtection definitions

/-- `validated_action_protection` after the driver listed its capabilities. -/
def classifyAction (actionProtection : String → Option ActionProtection)
    (definitions : List ActionDefinition) (name : String) :
    RuntimeResult (Option ActionProtection) :=
  match validateCapabilityProtections actionProtection definitions with
  | .error e => .error e
  | .ok () =>
    match definitions.find? (fun definition => definition.name == name) with
    | some definition => .ok (some definition.protection)
    | none => .ok (actionProtection name)

/-- The omission that every observation of the action must report. -/
def expectedOmission (protection : Option ActionProtection)
    (screenshotPolicy : ScreenshotPolicy) : Option ScreenshotOmissionReason :=
  match protection with
  | some .standard =>
    match screenshotPolicy with
    | .capture => none
    | .omit => some .policy
  | some .«protected» => some .protectedAction
  | none => some .protectedAction

/-! ## Checks on what a driver returned -/

def ScreenshotOmissionReason.debugText : ScreenshotOmissionReason → String
  | .policy => "Policy"
  | .protectedAction => "ProtectedAction"

def UiSnapshotOmissionReason.debugText : UiSnapshotOmissionReason → String
  | .driverUnsupported => "DriverUnsupported"
  | .policy => "Policy"
  | .protectedAction => "ProtectedAction"

def protocolError {α : Type} (message : String) : RuntimeResult α :=
  .error (.driver (.protocol message))

/-- The UI omission that goes with a screenshot omission. -/
def expectedUiOmission :
    Option ScreenshotOmissionReason → Option UiSnapshotOmissionReason
  | some .policy => some .policy
  | some .protectedAction => some .protectedAction
  | none => none

/-- The comparison of UI omissions in `validate_observation_omission`. -/
def uiOmissionError :
    Option UiSnapshotOmissionReason → Option UiSnapshotOmissionReason →
      Option String
  | some expected, some actual =>
    if actual ≠ expected then
      some ("observation UI snapshot omission " ++ actual.debugText ++
        " does not match expected " ++ expected.debugText)
    else none
  | none, some .protectedAction =>
    some "observation reported a protected UI snapshot omission unexpectedly"
  | _, _ => none

def validateObservationOmission (observation : Observation)
    (expected : Option ScreenshotOmissionReason) (uiSnapshotsEnabled : Bool) :
    RuntimeResult Unit :=
  if observation.screenshotOmission ≠ expected then
    protocolError ("observation screenshot omission " ++
      debugOption ScreenshotOmissionReason.debugText
        observation.screenshotOmission ++
      " does not match expected " ++
      debugOption ScreenshotOmissionReason.debugText expected)
  else if expected.isSome && observation.screenshot.isSome then
    protocolError "screenshot-omitted observation returned a screenshot"
  else if !uiSnapshotsEnabled && (observation.uiSnapshot.isSome ||
      observation.uiSnapshotOmission.isSome) then
    protocolError ("observation returned Protocol 1.5 UI Snapshot fields " ++
      "without operation support")
  else if !observation.uiSnapshotStateIsValid then
    protocolError
      "observation returned both a UI snapshot and an omission reason"
  else
    match uiOmissionError (expectedUiOmission expected)
        observation.uiSnapshotOmission with
    | some message => protocolError message
    | none =>
      if (expectedUiOmission expected).isSome &&
          observation.uiSnapshot.isSome then
        protocolError "UI-snapshot-omitted observation returned a UI snapshot"
      else
        match observation.uiSnapshot with
        | none => .ok ()
        | some snapshot =>
          match snapshot.validate with
          | .error _ =>
            protocolError
              "observation returned an invalid UI snapshot reference"
          | .ok () => .ok ()

def validateActionResult (callId : Uuid) (semanticAction : Bool)
    (result : ActionResult) : RuntimeResult ActionResult :=
  if result.callId ≠ callId then
    protocolError ("action result call id " ++ result.callId.toText ++
      " does not match request " ++ callId.toText)
  else
    match result.execution, semanticAction with
    | some _, false =>
      protocolError "non-semantic action returned semantic execution metadata"
    | none, true => protocolError "semantic action omitted execution metadata"
    | some execution, true =>
      match execution.validate with
      | .error _ =>
        protocolError "semantic action returned invalid execution metadata"
      | .ok () => .ok result
    | none, false => .ok result

namespace DeviceRuntime

def validateObservationEvidence (runtime : DeviceRuntime)
    (context : DriverOperationContext) (observation : Observation)
    (expectedOmission : Option ScreenshotOmissionReason) :
    RuntimeResult Unit :=
  match validateObservationOmission observation expectedOmission
      context.uiSnapshotsEnabled with
  | .error e => .error e
  | .ok () =>
    if expectedOmission.isSome && !context.evidence.receiptsMatch [] then
      protocolError "screenshot-omitted observation persisted evidence"
    else if !runtime.strictEvidenceReceipts ||
        context.evidence.receiptsMatch observation.assetRefs then .ok ()
    else
      protocolError
        "observation evidence does not match this operation's receipts"

/-- The omission checks on the observations of a result, in order. -/
def validateOmissions (expectedOmission : Option ScreenshotOmissionReason)
    (uiSnapshotsEnabled : Bool) : List Observation → RuntimeResult Unit
  | [] => .ok ()
  | observation :: observations =>
    match validateObservationOmission observation expectedOmission
        uiSnapshotsEnabled with
    | .error e => .error e
    | .ok () =>
      validateOmissions expectedOmission uiSnapshotsEnabled observations

def validateActionEvidence (runtime : DeviceRuntime)
    (context : DriverOperationContext) (result : ActionResult)
    (expectedOmission : Option ScreenshotOmissionReason) :
    RuntimeResult Unit :=
  if expectedOmission.isSome && result.after.isNone then
    protocolError
      "screenshot-omitted action did not return an after observation"
  else if expectedOmission = some .protectedAction ∧ result.before.isNone then
    protocolError "protected action did not return a before observation"
  else
    match validateOmissions expectedOmission context.uiSnapshotsEnabled
        result.observations with
    | .error e => .error e
    | .ok () =>
      if expectedOmission.isSome then
        if !result.evidence.isEmpty then
          protocolError "screenshot-omitted action returned evidence"
        else if !context.evidence.receiptsMatch [] then
          protocolError "screenshot-omitted action persisted evidence"
        else .ok ()
      else if !runtime.strictEvidenceReceipts ||
          context.evidence.receiptsMatch result.assetRefs then .ok ()
      else
        protocolError "action evidence does not match this operation's receipts"

end DeviceRuntime

/-- The outcome `execute` records for its result. -/
def ActionOutcome.ofResult : RuntimeResult ActionResult → ActionOutcome
  | .ok result => .succeeded result
  | .error (.cancelled reason) =>
    .cancelled (RuntimeError.cancelled reason).toActionErrorInfo
  | .error (.timedOut scope timeoutMs) =>
    .timedOut (RuntimeError.timedOut scope timeoutMs).toActionErrorInfo
      timeoutMs
  | .error error => .failed error.toErrorInfo

end DeviceRail
