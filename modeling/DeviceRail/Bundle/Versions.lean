import DeviceRail.Bundle.Lifecycle

/-!
# Event protocol versions

The minor version that `required_protocol_minor` states for an event, against
the one the bundle validator asks for.  Both agree on media streams, UI
snapshots and execution channels.  The validator also asks for 1.2 where
arguments are redacted or a screenshot is omitted, and
`required_protocol_minor` does not.
-/

namespace DeviceRail

/-! ## What an event needs -/

/-- An observation that carries fields of protocol 1.5. -/
def Observation.hasUiFields (observation : Observation) : Bool :=
  observation.uiSnapshot.isSome || observation.uiSnapshotOmission.isSome

def TestEventPayload.requiredProtocolMinor : TestEventPayload → ℕ
  | .mediaStreamStarted _ => 4
  | .mediaFrameCaptured _ => 4
  | .mediaStreamEnded _ _ => 4
  | .observationCaptured observation => if observation.hasUiFields then 5 else 0
  | .actionCompleted _ (.succeeded result) =>
    if result.execution.isSome ||
      result.observations.any Observation.hasUiFields then 5 else 0
  | _ => 0

def TestEvent.requiredProtocolMinor (event : TestEvent) : ℕ :=
  event.payload.requiredProtocolMinor

/-- The payload carries fields of protocol 1.2: redacted arguments or the
omission of a screenshot. -/
def TestEventPayload.hasRedactionFields : TestEventPayload → Bool
  | .actionStarted call => call.argumentsRedacted
  | .observationCaptured observation => observation.screenshotOmission.isSome
  | .actionCompleted _ (.succeeded result) =>
    result.observations.any (fun observation =>
      observation.screenshotOmission.isSome)
  | _ => false

/-- The payload belongs to a media stream, or carries fields of protocol 1.5. -/
def TestEventPayload.hasLaterFields : TestEventPayload → Bool
  | .mediaStreamStarted _ => true
  | .mediaFrameCaptured _ => true
  | .mediaStreamEnded _ _ => true
  | .observationCaptured observation => observation.hasUiFields
  | .actionCompleted _ (.succeeded result) =>
    result.execution.isSome || result.observations.any Observation.hasUiFields
  | _ => false

variable {minor required : ℕ}

theorem TestEventPayload.requiredProtocolMinor_le_iff
    (payload : TestEventPayload) (hminor : minor < 2) :
    payload.requiredProtocolMinor ≤ minor ↔ payload.hasLaterFields = false := by
  unfold TestEventPayload.requiredProtocolMinor TestEventPayload.hasLaterFields
  split
  iterate 3 next => simpa using Nat.lt_of_lt_of_le hminor (by decide)
  next observation =>
    cases observation.hasUiFields <;> simp
    omega
  next result =>
    cases (result.execution.isSome ||
      result.observations.any Observation.hasUiFields) <;> simp
    omega
  next => simp_all

namespace SessionBundle

open Fallible Narrows

def OfVersion (error : ModelError) : Prop := error.isVersion = true

/-- Protocol `1.minor`. -/
def protocolOne (minor : ℕ) : ProtocolVersion := ⟨1, minor⟩

/-- What the validator asks of the minor version for an observation. -/
def ObservationFits (minor : ℕ) (observation : Observation) : Prop :=
  (observation.screenshotOmission.isSome = true → 2 ≤ minor) ∧
    (observation.hasUiFields = true → 5 ≤ minor)

/-- What the validator asks of the minor version for an event. -/
def PayloadFits (minor : ℕ) (payload : TestEventPayload) : Prop :=
  payload.requiredProtocolMinor ≤ minor ∧
    (payload.hasRedactionFields = true → 2 ≤ minor)

/-! ## One test -/

section

variable {needs : Prop} {α : Type} {test : Bool} {error : ModelError}
  {computation : Except ModelError α}

theorem not_ofVersion_of_within
    (h : FailsIn (fun error => error.isVersion = false) computation)
    (error : ModelError) (herror : computation = .error error) :
    ¬OfVersion error := by
  have hunversioned := h.error herror
  simp [OfVersion, hunversioned]

theorem not_ofVersion_of_ofData (h : FailsIn OfData computation)
    (error : ModelError) (herror : computation = .error error) :
    ¬OfVersion error :=
  not_ofVersion_of_within (h.weaken fun _ hdata => hdata.2) error herror

theorem failIf_not_ofVersion (h : error.isVersion = false) (other : ModelError)
    (hother : failIf test error = .error other) : ¬OfVersion other :=
  not_ofVersion_of_within (within_failIf fun _ => h) other hother

theorem afterTest {next next' : Unit → Except ModelError α}
    (h : error.isVersion = false)
    (hnext : ∀ value, Narrows OfVersion needs (next value) (next' value)) :
    Narrows OfVersion needs (failIf test error >>= next)
      (failIf test error >>= next') :=
  after (failIf_not_ofVersion h) hnext

theorem narrows_requireProtocol {error : String → ModelError}
    (hrequired : required ≤ 5) (herror : ∀ field, OfVersion (error field))
    (field : String) :
    Narrows OfVersion (required ≤ minor)
      (requireProtocol required error (protocolOne 5) field)
      (requireProtocol required error (protocolOne minor) field) := by
  have hfive : requireProtocol required error (protocolOne 5) field = .ok () :=
    if_pos ⟨rfl, hrequired⟩
  have hkept : required ≤ minor →
      requireProtocol required error (protocolOne minor) field = .ok () :=
    fun hle => if_pos ⟨rfl, hle⟩
  refine ⟨fun hle other hother => ?_, fun _ _ => hkept, fun _ _ hnot => ?_⟩
  · cases (hkept hle).symm.trans hother
  · exact ⟨error field, if_neg fun hle => hnot hle.2, herror field⟩

theorem narrows_checkWhen {check check' : Except ModelError Unit}
    (h : Narrows OfVersion needs check check') :
    Narrows OfVersion (test = true → needs) (checkWhen test check)
      (checkWhen test check') := by
  cases test with
  | false => exact (ok ()).congr (by simp)
  | true => exact h.congr (by simp)

theorem narrows_checkEach {needs : α → Prop}
    {check check' : α → Except ModelError Unit}
    (h : ∀ value, Narrows OfVersion (needs value) (check value) (check' value))
    (values : List α) :
    Narrows OfVersion (∀ value ∈ values, needs value) (checkEach check values)
      (checkEach check' values) := by
  induction values with
  | nil => exact (ok ()).congr (by simp)
  | cons value values ih => exact ((h value).bind fun _ => ih).congr (by simp)

end

/-! ## The content of an event -/

section

variable {limits : BundleLimits}

theorem narrows_validateObservation (observation : Observation) :
    Narrows OfVersion (ObservationFits minor observation)
      (validateObservation limits (protocolOne 5) observation)
      (validateObservation limits (protocolOne minor) observation) := by
  refine afterTest rfl fun _ => ?_
  refine (narrows_checkWhen (narrows_requireProtocol (by decide)
    (fun _ => by rfl) _)).bind fun _ => ?_
  refine afterTest rfl fun _ => ?_
  refine ((narrows_checkWhen (narrows_requireProtocol (le_refl 5)
    (fun _ => by rfl) _)).bind fun _ => ?_).congr (iff_of_eq (and_true _))
  refine afterTest rfl fun _ => ?_
  refine afterTest rfl fun _ => ?_
  exact refl (not_ofVersion_of_ofData
    (within_checkEach (fun _ => within_validateJsonValue _ _) _))

theorem narrows_validateErrorDetails (error : ErrorInfo) :
    Narrows OfVersion True (validateErrorDetails limits error)
      (validateErrorDetails limits error) :=
  refl (not_ofVersion_of_ofData (within_validateErrorDetails error))

/-- What passes for a protected action under 1.5 passes under every version. -/
theorem protectedObservation_of_five {observation : Option Observation}
    (h : protectedObservation (protocolOne 5) observation = true) :
    protectedObservation (protocolOne minor) observation = true := by
  unfold protectedObservation at h ⊢
  cases observation with
  | none => cases h
  | some observation =>
    simp only [Option.any_some, Bool.and_eq_true] at h ⊢
    refine ⟨h.1, ?_⟩
    have homitted := h.2
    simp only [protocolOne, lt_irrefl, decide_false, Bool.false_or] at homitted
    rw [Bool.or_assoc, homitted, Bool.or_true]

theorem narrows_validateSuccessOmission (argumentsRedacted : Bool)
    (result : ActionResult) :
    Narrows OfVersion True
      (validateSuccessOmission (protocolOne 5) argumentsRedacted result)
      (validateSuccessOmission (protocolOne minor) argumentsRedacted result) := by
  unfold validateSuccessOmission
  cases argumentsRedacted with
  | false => exact refl (failIf_not_ofVersion rfl)
  | true =>
    refine ⟨fun _ => failIf_not_ofVersion rfl, fun value hok _ => ?_,
      fun _ _ hnot => absurd trivial hnot⟩
    cases value
    simp only [if_true, failIf_eq_ok, Bool.or_eq_false_iff,
      Bool.not_eq_false'] at hok ⊢
    exact ⟨⟨hok.1.1, protectedObservation_of_five hok.1.2⟩,
      protectedObservation_of_five hok.2⟩

theorem narrows_validateExecution (execution : ActionExecution) :
    Narrows OfVersion (5 ≤ minor)
      (validateExecution (protocolOne 5) execution)
      (validateExecution (protocolOne minor) execution) :=
  ((narrows_requireProtocol (le_refl 5) (fun _ => by rfl) _).bind fun _ =>
    refl (failIf_not_ofVersion rfl)).congr (iff_of_eq (and_true _))

/-- The version a successful result needs. -/
def ResultFits (minor : ℕ) (result : ActionResult) : Prop :=
  (∀ observation ∈ result.observations, ObservationFits minor observation) ∧
    (result.execution.isSome = true → 5 ≤ minor)

theorem narrows_validateResult (callId : Uuid) (argumentsRedacted : Bool)
    (result : ActionResult) :
    Narrows OfVersion (ResultFits minor result)
      (validateResult limits (protocolOne 5) callId argumentsRedacted result)
      (validateResult limits (protocolOne minor) callId argumentsRedacted
        result) := by
  refine afterTest rfl fun _ => ?_
  refine afterTest rfl fun _ => ?_
  refine after (not_ofVersion_of_ofData
    (within_validateJsonValue _ _)) fun _ => ?_
  refine (narrows_checkEach narrows_validateObservation _).bind fun _ => ?_
  refine ((narrows_checkEach narrows_validateExecution _).bind fun _ =>
    narrows_validateSuccessOmission argumentsRedacted result).congr ?_
  cases result.execution <;> simp

theorem ite_le_iff {test : Prop} [Decidable test] :
    (if test then required else 0) ≤ minor ↔ (test → required ≤ minor) := by
  split <;> simp_all

theorem resultFits_iff {callId : Uuid} {result : ActionResult} :
    ResultFits minor result ↔
      PayloadFits minor (.actionCompleted callId (.succeeded result)) := by
  simp only [ResultFits, PayloadFits, ObservationFits, ite_le_iff,
    TestEventPayload.requiredProtocolMinor, Bool.or_eq_true, List.any_eq_true,
    TestEventPayload.hasRedactionFields, or_imp, forall_exists_index, and_imp]
  constructor
  · rintro ⟨hobservations, hexecution⟩
    exact ⟨⟨hexecution, fun observation hmem =>
        (hobservations observation hmem).2⟩,
      fun observation hmem => (hobservations observation hmem).1⟩
  · rintro ⟨⟨hexecution, hfields⟩, homitted⟩
    exact ⟨fun observation hmem => ⟨homitted observation hmem,
      hfields observation hmem⟩, hexecution⟩

theorem narrows_validateOutcome (callId : Uuid) (argumentsRedacted : Bool)
    (outcome : ActionOutcome) :
    Narrows OfVersion (PayloadFits minor (.actionCompleted callId outcome))
      (validateOutcome limits (protocolOne 5) callId argumentsRedacted outcome)
      (validateOutcome limits (protocolOne minor) callId argumentsRedacted
        outcome) := by
  have hfailed : ∀ error, Narrows OfVersion
      (0 ≤ minor ∧ (false = true → 2 ≤ minor))
      (validateErrorDetails limits error)
      (validateErrorDetails limits error) := fun error =>
    (narrows_validateErrorDetails error).congr (by simp)
  cases outcome with
  | failed error | cancelled error | timedOut error _ => exact hfailed error
  | succeeded result =>
    refine (narrows_validateResult callId argumentsRedacted result).congr ?_
    exact resultFits_iff

theorem narrows_validateArguments (call : RecordedActionCall) :
    Narrows OfVersion (PayloadFits minor (.actionStarted call))
      (validateArguments limits (protocolOne 5) call)
      (validateArguments limits (protocolOne minor) call) := by
  have hneeds : (call.argumentsRedacted = true → 2 ≤ minor) ↔
      PayloadFits minor (.actionStarted call) := by
    simp [PayloadFits, TestEventPayload.requiredProtocolMinor,
      TestEventPayload.hasRedactionFields]
  refine ((narrows_checkWhen (narrows_requireProtocol (by decide)
    (fun _ => by rfl) _)).before fun _ => ?_).congr hneeds
  refine not_ofVersion_of_ofData ?_
  exact (within_failIf fun _ => ⟨rfl, rfl⟩).seq (within_validateJsonValue _ _)

end

/-! ## The replay -/

section

/-- The same session under another protocol. -/
def ReplayContext.under (context : ReplayContext) (minor : ℕ) : ReplayContext :=
  { context with protocol := protocolOne minor }

variable (context : ReplayContext) (state : ReplayState)

theorem narrows_collect (references : List TypedReference) :
    Narrows OfVersion True (state.collect (context.under 5) references)
      (state.collect (context.under minor) references) :=
  refl (not_ofVersion_of_ofData ((within_addAll _ _).bind fun _ _ => trivial))

theorem narrows_validateActionStarted (event : TestEvent)
    (call : RecordedActionCall) :
    Narrows OfVersion (PayloadFits minor (.actionStarted call))
      (validateActionStarted (context.under 5) state event call)
      (validateActionStarted (context.under minor) state event call) := by
  exact (narrows_validateArguments call).before fun _ =>
    not_ofVersion_of_within ((within_failIf fun _ => by rfl).seq trivial)

theorem narrows_validateActionCompleted (event : TestEvent) (callId : Uuid)
    (outcome : ActionOutcome) :
    Narrows OfVersion (PayloadFits minor (.actionCompleted callId outcome))
      (validateActionCompleted (context.under 5) state event callId outcome)
      (validateActionCompleted (context.under minor) state event callId
        outcome) := by
  unfold validateActionCompleted
  split
  next => exact error (by simp [OfVersion, ModelError.isVersion])
  next started _ =>
    refine afterTest rfl fun _ => ?_
    exact ((narrows_validateOutcome callId _ outcome).bind fun _ =>
      narrows_collect context _ _).congr (iff_of_eq (and_true _))

theorem narrows_validateMediaFrameCaptured (frame : MediaFrame) :
    Narrows OfVersion True
      (validateMediaFrameCaptured (context.under 5) state frame)
      (validateMediaFrameCaptured (context.under minor) state frame) := by
  unfold validateMediaFrameCaptured
  split
  next => exact error (by simp [OfVersion, ModelError.isVersion])
  next =>
    refine afterTest rfl fun _ => ?_
    exact (narrows_collect context state _).before fun _ _ hother => by
      cases hother

theorem within_validateMediaStreamStarted (stream : MediaStreamInfo) :
    FailsIn (fun error => error.isVersion = false)
      (validateMediaStreamStarted state stream) :=
  (within_failIf fun _ => by rfl).seq trivial

theorem within_validateMediaStreamEnded (streamId : MediaStreamId)
    (frameCount : ℕ) :
    FailsIn (fun error => error.isVersion = false)
      (validateMediaStreamEnded state streamId frameCount) := by
  unfold validateMediaStreamEnded
  split
  next => rfl
  next => exact (within_failIf fun _ => by rfl).seq trivial

theorem narrows_validatePayload (first last : Bool) (state : ReplayState)
    (event : TestEvent) :
    Narrows OfVersion (PayloadFits minor event.payload)
      (validatePayload (context.under 5) first last state event)
      (validatePayload (context.under minor) first last state event) := by
  have hnone : ∀ payload : TestEventPayload,
      payload.requiredProtocolMinor = 0 → payload.hasRedactionFields = false →
      (True ↔ PayloadFits minor payload) := by
    intro payload hrequired hredaction
    simp [PayloadFits, hrequired, hredaction]
  have hmedia : ∀ payload : TestEventPayload,
      payload.requiredProtocolMinor = 4 → payload.hasRedactionFields = false →
      (4 ≤ minor ↔ PayloadFits minor payload) := by
    intro payload hrequired hredaction
    simp [PayloadFits, hrequired, hredaction]
  unfold validatePayload
  cases event.payload with
  | observationCaptured observation =>
    have hneeds : ObservationFits minor observation ↔
        PayloadFits minor (.observationCaptured observation) := by
      simp only [ObservationFits, PayloadFits, ite_le_iff,
        TestEventPayload.requiredProtocolMinor,
        TestEventPayload.hasRedactionFields]
      exact and_comm
    refine afterTest rfl fun _ => ?_
    refine ((narrows_validateObservation observation).bind fun _ => ?_).congr
      ((iff_of_eq (and_true _)).trans hneeds)
    exact afterTest rfl fun _ => narrows_collect context state _
  | actionStarted call =>
    refine afterTest rfl fun _ => ?_
    exact narrows_validateActionStarted context state event call
  | actionCompleted callId outcome =>
    refine afterTest rfl fun _ => ?_
    exact narrows_validateActionCompleted context state event callId outcome
  | mediaStreamStarted stream =>
    exact ((narrows_requireProtocol (by decide) (fun _ => by rfl) _).before
      fun _ => not_ofVersion_of_within
        ((within_failIf fun _ => by rfl).seq
          (within_validateMediaStreamStarted state stream))).congr
      (hmedia _ rfl rfl)
  | mediaFrameCaptured frame =>
    refine ((narrows_requireProtocol (by decide) (fun _ => by rfl) _).bind
      fun _ => ?_).congr ((iff_of_eq (and_true _)).trans (hmedia _ rfl rfl))
    refine afterTest rfl fun _ => ?_
    exact narrows_validateMediaFrameCaptured context state frame
  | mediaStreamEnded streamId frameCount =>
    exact ((narrows_requireProtocol (by decide) (fun _ => by rfl) _).before
      fun _ => not_ofVersion_of_within
        ((within_failIf fun _ => by rfl).seq
          (within_validateMediaStreamEnded state streamId frameCount))).congr
      (hmedia _ rfl rfl)
  | verdictRecorded verdict =>
    refine (afterTest rfl fun _ => ?_).congr (hnone _ rfl rfl)
    exact narrows_collect context state _
  | error error =>
    refine (afterTest rfl fun _ => ?_).congr (hnone _ rfl rfl)
    exact (narrows_validateErrorDetails error).before fun _ _ hother => by
      cases hother
  | _ => exact (afterTest rfl fun _ => ok state).congr (hnone _ rfl rfl)

theorem narrows_validateEvent (index : ℕ) (state : ReplayState)
    (event : TestEvent) :
    Narrows OfVersion (PayloadFits minor event.payload)
      (validateEvent (context.under 5) index state event)
      (validateEvent (context.under minor) index state event) := by
  refine afterTest rfl fun _ => ?_
  refine afterTest rfl fun _ => ?_
  refine afterTest rfl fun _ => ?_
  refine ((narrows_validatePayload context _ _ _ event).bind fun _ => ?_).congr
    (iff_of_eq (and_true _))
  refine afterTest rfl fun _ => ?_
  exact afterTest rfl fun _ => ok _

theorem narrows_validateEvents (index : ℕ) (state : ReplayState)
    (events : List TestEvent) :
    Narrows OfVersion (∀ event ∈ events, PayloadFits minor event.payload)
      (validateEvents (context.under 5) index state events)
      (validateEvents (context.under minor) index state events) := by
  induction events generalizing index state with
  | nil => exact (ok state).congr (by simp)
  | cons event events ih =>
    exact ((narrows_validateEvent context index state event).bind fun next =>
      ih (index + 1) next).congr (by simp)

theorem narrows_validateExport (limits : BundleLimits)
    (sessionExport : SessionExport) :
    Narrows OfVersion
      (∀ event ∈ sessionExport.events, PayloadFits minor event.payload)
      (validateExport limits (protocolOne 5) sessionExport)
      (validateExport limits (protocolOne minor) sessionExport) := by
  refine afterTest rfl fun _ => ?_
  refine afterTest rfl fun _ => ?_
  split
  next => exact error (by simp [OfVersion, ModelError.isVersion])
  next endedAtMs _ =>
    refine afterTest rfl fun _ => ?_
    refine ((narrows_validateEvents ⟨limits, protocolOne 5,
      sessionExport.session, endedAtMs, sessionExport.events.length⟩ 0 .new
      sessionExport.events).bind fun _ => ?_).congr (iff_of_eq (and_true _))
    refine afterTest rfl fun _ => ?_
    refine afterTest rfl fun _ => ?_
    exact afterTest rfl fun _ => ok _

end

/-! ## The two tables -/

/-- The validator raises no version error under `1.minor`. -/
def NoVersionError (limits : BundleLimits) (sessionExport : SessionExport)
    (minor : ℕ) : Prop :=
  ∀ error, validateSource ⟨⟨1, minor⟩, sessionExport⟩ limits = .error error →
    error.isVersion = false

theorem narrows_validateSource (hminor : minor ≤ 5) (limits : BundleLimits)
    (sessionExport : SessionExport) :
    Narrows OfVersion
      (∀ event ∈ sessionExport.events, PayloadFits minor event.payload)
      (validateSource ⟨⟨1, 5⟩, sessionExport⟩ limits)
      (validateSource ⟨⟨1, minor⟩, sessionExport⟩ limits) := by
  have hfive : validateEventProtocol ⟨1, 5⟩ = .ok () := if_pos ⟨rfl, le_refl 5⟩
  have hversion : validateEventProtocol ⟨1, minor⟩ = .ok () :=
    if_pos ⟨rfl, hminor⟩
  unfold validateSource
  simp only [hfive, hversion]
  exact (narrows_validateExport limits sessionExport).before fun _ _ hother => by
    cases hother

/-- The version the validator asks for, where its other tests pass. -/
theorem noVersionError_iff {limits : BundleLimits}
    {sessionExport : SessionExport} (hminor : minor ≤ 5) (hvalid : ∃ assets,
      validateSource ⟨⟨1, 5⟩, sessionExport⟩ limits = .ok assets) :
    NoVersionError limits sessionExport minor ↔
      ∀ event ∈ sessionExport.events, PayloadFits minor event.payload := by
  have hnarrows := narrows_validateSource hminor limits sessionExport
  obtain ⟨assets, haccepted⟩ := hvalid
  constructor
  · intro hnone
    by_contra hnot
    obtain ⟨error, herror, hversion⟩ := hnarrows.lost assets haccepted hnot
    rw [OfVersion, hnone error herror] at hversion
    cases hversion
  · intro hfits error herror
    simpa [OfVersion] using hnarrows.quiet hfits error herror

/-- For an export that passes the other tests of the validator, the minor
version that `required_protocol_minor` states is the one the validator asks for
exactly from 1.2 on, or without redacted arguments and omitted screenshots, or
where some event needs a later version anyway. -/
theorem version_errors_iff_required (limits : BundleLimits)
    (sessionExport : SessionExport) (minor : ℕ) (hminor : minor ≤ 5)
    (hvalid : ∃ assets,
      validateSource ⟨⟨1, 5⟩, sessionExport⟩ limits = .ok assets) :
    (NoVersionError limits sessionExport minor ↔
      ∀ event ∈ sessionExport.events, event.requiredProtocolMinor ≤ minor) ↔
    (2 ≤ minor ∨
      (∀ event ∈ sessionExport.events,
        event.payload.hasRedactionFields = false) ∨
      ∃ event ∈ sessionExport.events, event.payload.hasLaterFields = true) := by
  have hneeds := noVersionError_iff hminor hvalid
  rw [hneeds]
  constructor
  · intro hsame
    by_contra hnot
    simp only [not_or, not_le, not_exists, not_and, Bool.not_eq_true] at hnot
    obtain ⟨hsmall, hredacted, hplain⟩ := hnot
    refine hredacted fun event hmem => ?_
    have hrequired : ∀ event ∈ sessionExport.events,
        event.requiredProtocolMinor ≤ minor := fun event hmem =>
      (event.payload.requiredProtocolMinor_le_iff hsmall).mpr
        (hplain event hmem)
    by_contra hredaction
    have htwo := (hsame.mpr hrequired event hmem).2 (by simpa using hredaction)
    omega
  · intro hwhen
    refine ⟨fun hfits event hmem => (hfits event hmem).1,
      fun hrequired event hmem => ⟨hrequired event hmem, fun hredaction => ?_⟩⟩
    rcases hwhen with htwo | hplain | ⟨later, hlater, hfields⟩
    · exact htwo
    · cases (hplain event hmem).symm.trans hredaction
    · by_contra hsmall
      have hnone := (later.payload.requiredProtocolMinor_le_iff
        (not_le.mp hsmall)).mp (hrequired later hlater)
      cases hfields.symm.trans hnone

/-- A session with one protected action. -/
def protectedExport : SessionExport :=
  ⟨⟨⟨⟨1⟩⟩, .ended, 5, some 40, ⟨4, by decide, by decide⟩,
      ⟨4, by decide, by decide⟩⟩,
    [⟨⟨⟨2⟩⟩, ⟨⟨1⟩⟩, .first, none, none, 5, .sessionStarted⟩,
      ⟨⟨⟨3⟩⟩, ⟨⟨1⟩⟩, .second, some (.number 7), none, 12,
        .actionStarted ⟨⟨9⟩, "device.type", .null, true⟩⟩,
      ⟨⟨⟨4⟩⟩, ⟨⟨1⟩⟩, .third, some (.number 7), none, 20,
        .actionCompleted ⟨9⟩ (.failed ⟨"driver_error", "no device", false,
          none⟩)⟩,
      ⟨⟨⟨6⟩⟩, ⟨⟨1⟩⟩, ⟨4, by decide, by decide⟩, none, none, 40,
        .sessionEnded .completed none⟩]⟩

theorem version_errors_iff_required_protected :
    (∃ assets, validateSource ⟨⟨1, 5⟩, protectedExport⟩ .default = .ok assets) ∧
      (NoVersionError .default protectedExport 2 ↔
        ∀ event ∈ protectedExport.events, event.requiredProtocolMinor ≤ 2) := by
  have haccepted : ∃ assets,
      validateSource ⟨⟨1, 5⟩, protectedExport⟩ .default = .ok assets :=
    ⟨_, rfl⟩
  exact ⟨haccepted, (version_errors_iff_required .default protectedExport 2
    (by decide) haccepted).mpr (.inl (le_refl 2))⟩

/-- `required_protocol_minor` states 1.0 for every event of a session whose
redacted arguments the bundle format holds from 1.2 on. -/
theorem redacted_arguments_require_two :
    (∃ assets, validateSource ⟨⟨1, 5⟩, protectedExport⟩ .default = .ok assets) ∧
      (∀ event ∈ protectedExport.events, event.requiredProtocolMinor ≤ 0) ∧
      validateSource ⟨⟨1, 0⟩, protectedExport⟩ .default =
        .error (.fieldRequiresProtocol12 "argumentsRedacted") ∧
      ¬NoVersionError .default protectedExport 0 := by
  have hrefused : validateSource ⟨⟨1, 0⟩, protectedExport⟩ .default =
      .error (.fieldRequiresProtocol12 "argumentsRedacted") := rfl
  refine ⟨⟨_, rfl⟩, by decide, hrefused, fun hnone => ?_⟩
  have hcontra := hnone _ hrefused
  cases hcontra

end SessionBundle

end DeviceRail
