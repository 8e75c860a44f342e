import DeviceRail.Bundle.Replay
import DeviceRail.Runtime.Checks

/-!
# What a strict runtime records

The facts about a recorded event that the runtime's checks establish, and what
the bundle validator still tests once they hold: that the viewports are finite,
that no action ends before it starts, and that the limits are large enough.
-/

namespace DeviceRail.SessionBundle

open History List

/-- Event protocol 1.5. -/
def protocol15 : ProtocolVersion := ⟨1, 5⟩

/-! ## JSON values of events -/

/-- The JSON values that are walked, with the depth they start at. -/
def observationValues (observation : Observation) : List (Value × ℕ) :=
  observation.metadata.map (fun entry => (entry.2, 2))

def errorValues (error : ErrorInfo) : List (Value × ℕ) :=
  error.details.toList.map (fun details => (details, 1))

def outcomeValues : ActionOutcome → List (Value × ℕ)
  | .succeeded result =>
    (result.output, 1) :: result.observations.flatMap observationValues
  | .failed error => errorValues error
  | .cancelled error => errorValues error
  | .timedOut error _ => errorValues error

def payloadValues : TestEventPayload → List (Value × ℕ)
  | .observationCaptured observation => observationValues observation
  | .actionStarted call => [(call.arguments, 1)]
  | .actionCompleted _ outcome => outcomeValues outcome
  | .error error => errorValues error
  | _ => []

/-- Limits that are large enough for the sizes of a history. -/
structure LargeEnough (limits : BundleLimits) (events : List TestEvent) :
    Prop where
  count : events.length ≤ limits.maxEvents
  room : ReferenceCollector.Room limits (references events)
  json : ∀ event ∈ events, ∀ entry ∈ payloadValues event.payload,
    JsonFits limits entry.1 entry.2

/-! ## Recordable events -/

/-- What the runtime's checks say about an observation. -/
structure ObservationRecordable (observation : Observation) : Prop where
  screenshot : observation.screenshotOmission.isSome = true →
    observation.screenshot = none
  uiState : observation.uiSnapshotStateIsValid = true
  valid : ∀ snapshot, observation.uiSnapshot = some snapshot →
    snapshot.validate = .ok ()

/-- What the runtime's checks say about a result. -/
structure ResultRecordable (redacted : Bool) (result : ActionResult) :
    Prop where
  observations : ∀ observation ∈ result.observations,
    ObservationRecordable observation
  execution : ∀ execution, result.execution = some execution →
    execution.validate = .ok ()
  omission : validateSuccessOmission protocol15 redacted result = .ok ()
  canonical : ∀ reference ∈ result.typedReferences,
    reference.digest?.isSome = true

/-- The events of a strict runtime and of a media stream writer. -/
def Recordable (redacted : Uuid → Bool) : TestEventPayload → Prop
  | .observationCaptured observation =>
    ObservationRecordable observation ∧
      reportsProtectedAction observation = false ∧
      ∀ reference ∈ observation.typedReferences, reference.digest?.isSome = true
  | .actionStarted call =>
    call.argumentsRedacted = true → call.arguments.isNull = true
  | .actionCompleted callId (.succeeded result) =>
    ResultRecordable (redacted callId) result
  | .verdictRecorded _ => False
  | _ => True

variable {observation : Observation}

section

variable {expected : Option ScreenshotOmissionReason}

theorem observationRecordable_of_reports (h : observation.Reports expected) :
    ObservationRecordable observation := by
  refine ⟨?_, h.uiState, h.valid⟩
  intro hsome
  rw [h.omission] at hsome
  exact h.screenshot hsome

theorem not_reportsProtectedAction (h : observation.Reports expected)
    (hexpected : expected ≠ some .protectedAction) :
    reportsProtectedAction observation = false := by
  have hui : observation.uiSnapshotOmission ≠ some .protectedAction := by
    intro heq
    have huiOmission := h.uiOmission
    rw [heq] at huiOmission
    cases expected with
    | none => cases huiOmission
    | some reason =>
      cases reason with
      | policy => cases huiOmission
      | protectedAction => exact hexpected rfl
  simp [reportsProtectedAction, h.omission, hexpected, hui]

theorem protectedObservation_of_reports
    (h : observation.Reports (some .protectedAction)) :
    protectedObservation protocol15 (some observation) = true := by
  have hui : observation.uiSnapshotOmission = none ∨
      observation.uiSnapshotOmission = some .protectedAction := by
    cases heq : observation.uiSnapshotOmission with
    | none => exact Or.inl rfl
    | some reason =>
      exact Or.inr (congrArg some
        (uiOmissionError_eq_none h.uiOmission reason heq))
  rcases hui with hui | hui <;>
    simp [protectedObservation, h.omission, h.screenshot rfl, h.uiSnapshot rfl,
      hui]

end

/-! ## References -/

variable {reference : TypedReference} {result : ActionResult}

theorem asset_mem_of_observation (h : reference ∈ observation.typedReferences) :
    reference.asset ∈ observation.assetRefs := by
  rcases mem_append.mp h with hscreenshot | hsnapshot
  · obtain ⟨asset, hmem, rfl⟩ := mem_map.mp hscreenshot
    exact mem_append_left _ hmem
  · obtain ⟨snapshot, hmem, rfl⟩ := mem_map.mp hsnapshot
    exact mem_append_right _ (mem_map_of_mem hmem)

theorem asset_mem_of_result (h : reference ∈ result.typedReferences) :
    reference.asset ∈ result.assetRefs := by
  rcases mem_append.mp h with hplain | hsnapshot
  · obtain ⟨asset, hmem, rfl⟩ := mem_map.mp hplain
    rcases mem_append.mp hmem with hscreenshot | hevidence
    · obtain ⟨observation, hobservation, heq⟩ := mem_filterMap.mp hscreenshot
      refine mem_append_right _ (mem_flatMap.mpr
        ⟨observation, hobservation, mem_append_left _ ?_⟩)
      rw [heq]
      exact mem_singleton.mpr rfl
    · exact mem_append_left _ hevidence
  · obtain ⟨snapshot, hmem, rfl⟩ := mem_map.mp hsnapshot
    obtain ⟨observation, hobservation, heq⟩ := mem_filterMap.mp hmem
    refine mem_append_right _ (mem_flatMap.mpr
      ⟨observation, hobservation, mem_append_right _ ?_⟩)
    rw [heq]
    exact mem_map.mpr ⟨snapshot, mem_singleton.mpr rfl, rfl⟩

/-- References that match the receipts of a used writer are canonical. -/
theorem canonical_of_receipts {sessionId : SessionId}
    {backend : EvidenceBackend} {uses : List EvidenceUse}
    {assets : List AssetRef}
    (hmatch : ((SessionEvidenceWriter.new sessionId backend).performAll
      uses).2.receiptsMatch assets = true) (hmem : reference.asset ∈ assets) :
    reference.digest?.isSome = true := by
  have hnew : (SessionEvidenceWriter.new sessionId backend).Canonical :=
    fun receipt hmem => nomatch hmem
  have hcanonical := hnew.performAll uses
  obtain ⟨digest, hdigest⟩ := hcanonical.fromAssetRef hmatch hmem
  rw [TypedReference.digest?_eq_some.mpr hdigest]
  rfl

/-! ## What is left to test -/

/-- The observations of a payload. -/
def payloadObservations : TestEventPayload → List Observation
  | .observationCaptured observation => [observation]
  | .actionCompleted _ (.succeeded result) => result.observations
  | _ => []

/-- What the runtime does not check in a payload. -/
structure PayloadPresentable (payload : TestEventPayload) : Prop where
  viewports : ∀ observation ∈ payloadObservations payload,
    observation.viewport.scaleFactor.isFinite = true
  times : ∀ callId result,
    payload = .actionCompleted callId (.succeeded result) →
      result.startedAtMs ≤ result.finishedAtMs

section

variable {limits : BundleLimits}

theorem validateObservation_iff (h : ObservationRecordable observation)
    (hjson : ∀ entry ∈ observationValues observation,
      JsonFits limits entry.1 entry.2) :
    validateObservation limits protocol15 observation = .ok () ↔
      observation.viewport.scaleFactor.isFinite = true := by
  have hscreenshot : (observation.screenshot.isSome &&
      observation.screenshotOmission.isSome) = false := by
    cases homission : observation.screenshotOmission with
    | none => simp
    | some reason => simp [h.screenshot (by rw [homission]; rfl)]
  have hui : (observation.uiSnapshot.isSome &&
      observation.uiSnapshotOmission.isSome) = false := by
    have hstate := h.uiState
    rwa [Observation.uiSnapshotStateIsValid, Bool.not_eq_true'] at hstate
  have hvalid : observation.uiSnapshot.any (fun snapshot =>
      !snapshot.validate.isOk) = false := by
    cases hsnapshot : observation.uiSnapshot with
    | none => rfl
    | some snapshot =>
      simp [h.valid snapshot hsnapshot, Except.isOk, Except.toBool]
  have hmetadata : checkEach (fun entry : String × Value =>
      validateJsonValue limits entry.2 2) observation.metadata = .ok () := by
    rw [checkEach_eq_ok]
    intro entry hmem
    rw [validateJsonValue_eq_ok]
    exact hjson (entry.2, 2) (mem_map_of_mem hmem)
  have h12 : ∀ field, requireProtocol12 protocol15 field = .ok () :=
    fun _ => rfl
  have h15 : ∀ field, requireProtocol15 protocol15 field = .ok () :=
    fun _ => rfl
  unfold validateObservation
  simp only [check_bind_eq_ok, failIf_eq_ok, checkWhen_eq_ok, hscreenshot, hui,
    hvalid, hmetadata, h12, h15, implies_true, true_and, and_true,
    Bool.not_eq_false']

theorem validateErrorDetails_of_fits {error : ErrorInfo}
    (hjson : ∀ entry ∈ errorValues error, JsonFits limits entry.1 entry.2) :
    validateErrorDetails limits error = .ok () := by
  unfold validateErrorDetails
  split
  next details hdetails =>
    rw [validateJsonValue_eq_ok]
    exact hjson (details, 1) (by simp [errorValues, hdetails])
  next => rfl

theorem validateExecution_of_valid {execution : ActionExecution}
    (h : execution.validate = .ok ()) :
    validateExecution protocol15 execution = .ok () := by
  have h15 : requireProtocol15 protocol15 "execution" = .ok () := rfl
  unfold validateExecution
  simp only [check_bind_eq_ok, h15, true_and, failIf_eq_ok]
  cases execution with
  | coordinateFallback context fallbackReason =>
    simp only [ActionExecution.validate] at h
    simp [executionContext, h, Except.isOk, Except.toBool]
  | _ =>
    simp only [ActionExecution.validate] at h
    split at h
    next hkind => simp [executionContext, h, hkind, Except.isOk, Except.toBool]
    next => cases h

theorem validateResult_iff {callId : Uuid} {redacted : Bool}
    (hid : result.callId = callId) (h : ResultRecordable redacted result)
    (hjson : ∀ entry ∈ outcomeValues (.succeeded result),
      JsonFits limits entry.1 entry.2) :
    validateResult limits protocol15 callId redacted result = .ok () ↔
      (∀ observation ∈ result.observations,
        observation.viewport.scaleFactor.isFinite = true) ∧
        result.startedAtMs ≤ result.finishedAtMs := by
  have houtput : validateJsonValue limits result.output 1 = .ok () := by
    rw [validateJsonValue_eq_ok]
    exact hjson (result.output, 1) mem_cons_self
  have hexecution : checkEach (validateExecution protocol15)
      result.execution.toList = .ok () := by
    rw [checkEach_eq_ok]
    intro execution hmem
    exact validateExecution_of_valid
      (h.execution execution (Option.mem_toList.mp hmem))
  have hobservations : checkEach (validateObservation limits protocol15)
      result.observations = .ok () ↔
      ∀ observation ∈ result.observations,
        observation.viewport.scaleFactor.isFinite = true := by
    rw [checkEach_eq_ok]
    refine forall_congr' fun observation => imp_congr_right fun hmem => ?_
    apply validateObservation_iff (h.observations observation hmem)
    intro entry hentry
    exact hjson entry (mem_cons_of_mem _
      (mem_flatMap.mpr ⟨observation, hmem, hentry⟩))
  unfold validateResult
  simp only [check_bind_eq_ok, failIf_eq_ok, hid, bne_self_eq_false, houtput,
    hexecution, hobservations, h.omission, true_and, and_true,
    decide_eq_false_iff_not, not_lt]
  exact and_comm

end

/-- The tests on the content of a recordable event come down to what the
runtime does not check. -/
theorem contentFits_iff {context : ReplayContext}
    (hprotocol : context.protocol = protocol15) {redacted : Uuid → Bool}
    {payload : TestEventPayload} (h : Recordable redacted payload)
    (hcall : ∀ callId result,
      payload = .actionCompleted callId (.succeeded result) →
        result.callId = callId) (hjson : ∀ entry ∈ payloadValues payload,
      JsonFits context.limits entry.1 entry.2) :
    ContentFits context redacted payload ↔ PayloadPresentable payload := by
  have h12 : ∀ field, requireProtocol12 protocol15 field = .ok () :=
    fun _ => rfl
  have hplain : payloadObservations payload = [] →
      (∀ callId result, payload ≠ .actionCompleted callId
        (.succeeded result)) → PayloadPresentable payload := by
    intro hnone hother
    refine ⟨by simp [hnone], fun callId result heq => ?_⟩
    exact absurd heq (hother callId result)
  unfold ContentFits checkContent
  rw [hprotocol]
  cases payload with
  | observationCaptured observation =>
    obtain ⟨hrecordable, hreports, -⟩ := h
    simp only [check_bind_eq_ok, failIf_eq_ok, hreports, and_true,
      validateObservation_iff hrecordable hjson]
    constructor
    · intro hfinite
      refine ⟨?_, by simp⟩
      intro other hmem
      rwa [mem_singleton.mp hmem]
    · intro hpresentable
      exact hpresentable.viewports observation (mem_singleton.mpr rfl)
  | actionStarted call =>
    refine iff_of_true ?_ (hplain rfl (by simp))
    have hnull : (call.argumentsRedacted && !call.arguments.isNull) =
        false := by
      cases hredacted : call.argumentsRedacted with
      | false => rfl
      | true => simp [h hredacted]
    have hfits : validateJsonValue context.limits call.arguments 1 =
        .ok () := by
      rw [validateJsonValue_eq_ok]
      exact hjson (call.arguments, 1) mem_cons_self
    unfold validateArguments
    simp only [check_bind_eq_ok, failIf_eq_ok, checkWhen_eq_ok, h12, hnull,
      hfits, implies_true, and_self]
  | actionCompleted callId outcome =>
    cases outcome with
    | succeeded result =>
      have hresult := validateResult_iff (hcall callId result rfl) h hjson
      refine hresult.trans ⟨?_, ?_⟩
      · rintro ⟨hfinite, htimes⟩
        refine ⟨hfinite, ?_⟩
        rintro other value heq
        cases heq
        exact htimes
      · intro hpresentable
        exact ⟨hpresentable.viewports, hpresentable.times callId result rfl⟩
    | _ =>
      exact iff_of_true (validateErrorDetails_of_fits hjson)
        (hplain rfl (by simp))
  | error error =>
    exact iff_of_true (validateErrorDetails_of_fits hjson)
      (hplain rfl (by simp))
  | verdictRecorded verdict => exact h.elim
  | _ => exact iff_of_true rfl (hplain rfl (by simp))

end DeviceRail.SessionBundle
