import DeviceRail.Runtime.Operation

/-!
# What the runtime's checks establish

Inversions of the checks that `observe` and `execute` make on what a driver
returned: which omissions an accepted observation reports, and which evidence
an accepted result carries.
-/

namespace DeviceRail

/-! ## Observations -/

/-- The observation reports the expected omission, and is well formed. -/
structure Observation.Reports (observation : Observation)
    (expected : Option ScreenshotOmissionReason) : Prop where
  omission : observation.screenshotOmission = expected
  screenshot : expected.isSome = true → observation.screenshot = none
  uiState : observation.uiSnapshotStateIsValid = true
  uiOmission : uiOmissionError (expectedUiOmission expected)
    observation.uiSnapshotOmission = none
  uiSnapshot : expected.isSome = true → observation.uiSnapshot = none
  valid : ∀ snapshot, observation.uiSnapshot = some snapshot →
    snapshot.validate = .ok ()

theorem expectedUiOmission_isSome (expected : Option ScreenshotOmissionReason) :
    (expectedUiOmission expected).isSome = expected.isSome := by
  cases expected with
  | none => rfl
  | some reason => cases reason <;> rfl

variable {observation : Observation} {uiSnapshotsEnabled : Bool}
  {result : ActionResult}

theorem reports_of_validateObservationOmission
    {expected : Option ScreenshotOmissionReason}
    (h : validateObservationOmission observation expected
      uiSnapshotsEnabled = .ok ()) : observation.Reports expected := by
  obtain ⟨homission, h⟩ := guard_eq_ok.mp h
  obtain ⟨hscreenshot, h⟩ := guard_eq_ok.mp h
  split at h
  next => cases h
  next =>
    obtain ⟨hstate, h⟩ := guard_eq_ok.mp h
    split at h
    · cases h
    split at h
    · cases h
    next huiOmission hsnapshot =>
      rw [expectedUiOmission_isSome] at hsnapshot
      refine ⟨not_not.mp homission, ?_, ?_, huiOmission, ?_, ?_⟩
      · intro hsome
        simpa [hsome] using hscreenshot
      · simpa using hstate
      · intro hsome
        simpa [hsome] using hsnapshot
      · intro snapshot heq
        rw [heq] at h
        dsimp only at h
        split at h
        next => cases h
        next hvalid => exact hvalid

theorem uiOmissionError_eq_none {expected : UiSnapshotOmissionReason}
    {actual : Option UiSnapshotOmissionReason}
    (h : uiOmissionError (some expected) actual = none) :
    ∀ reason, actual = some reason → reason = expected := by
  rintro reason rfl
  unfold uiOmissionError at h
  dsimp only at h
  split at h
  next => cases h
  next heq => exact not_not.mp heq

namespace DeviceRuntime

variable {expected : Option ScreenshotOmissionReason} {runtime : DeviceRuntime}
  {context : DriverOperationContext}

/-- An accepted observation, with the receipts of a strict runtime. -/
theorem validateObservationEvidence_eq_ok
    (h : runtime.validateObservationEvidence context observation expected =
      .ok ()) :
    observation.Reports expected ∧
      (runtime.strictEvidenceReceipts = true →
        context.evidence.receiptsMatch observation.assetRefs = true) := by
  unfold validateObservationEvidence protocolError at h
  split at h
  next => cases h
  next homission =>
    refine ⟨reports_of_validateObservationOmission homission, ?_⟩
    intro hstrict
    split at h
    next => cases h
    next =>
      split at h
      next hmatch => simpa [hstrict] using hmatch
      next => cases h

/-! ## Results -/

theorem validateOmissions_eq_ok {observations : List Observation}
    (h : validateOmissions expected uiSnapshotsEnabled observations = .ok ()) :
    ∀ observation ∈ observations, observation.Reports expected := by
  induction observations with
  | nil => simp
  | cons observation observations ih =>
    unfold validateOmissions at h
    split at h
    next => cases h
    next hfirst =>
      intro other hmem
      rcases List.mem_cons.mp hmem with rfl | hlater
      · exact reports_of_validateObservationOmission hfirst
      · exact ih h other hlater

/-- What an accepted result carries. -/
structure Evidenced (runtime : DeviceRuntime)
    (context : DriverOperationContext) (result : ActionResult)
    (expected : Option ScreenshotOmissionReason) : Prop where
  after : expected.isSome = true → result.after ≠ none
  before : expected = some .protectedAction → result.before ≠ none
  reports : ∀ observation ∈ result.observations, observation.Reports expected
  omitted : expected.isSome = true → result.evidence = []
  receipts : expected = none → runtime.strictEvidenceReceipts = true →
    context.evidence.receiptsMatch result.assetRefs = true

theorem evidenced_of_validateActionEvidence
    (h : runtime.validateActionEvidence context result expected = .ok ()) :
    runtime.Evidenced context result expected := by
  obtain ⟨hafter, h⟩ := guard_eq_ok.mp h
  obtain ⟨hbefore, h⟩ := guard_eq_ok.mp h
  split at h
  next => cases h
  next homissions =>
    refine ⟨?_, ?_, validateOmissions_eq_ok homissions, ?_, ?_⟩
    · intro hsome hnone
      simp [hsome, hnone] at hafter
    · intro hprotected hnone
      simp [hprotected, hnone] at hbefore
    · intro hsome
      rw [if_pos hsome] at h
      split at h
      next => cases h
      next hevidence => simpa using hevidence
    · rintro rfl hstrict
      rw [if_neg (by simp)] at h
      split at h
      next hmatch => simpa [hstrict] using hmatch
      next => cases h

end DeviceRuntime

theorem execution_of_validateActionResult {callId : Uuid}
    {semanticAction : Bool} {value : ActionResult}
    (h : validateActionResult callId semanticAction result = .ok value) :
    ∀ execution, result.execution = some execution →
      execution.validate = .ok () := by
  intro execution hexecution
  unfold validateActionResult protocolError at h
  split at h
  next => cases h
  next =>
    rw [hexecution] at h
    cases semanticAction with
    | false => cases h
    | true =>
      dsimp only at h
      split at h
      next => cases h
      next hvalid => exact hvalid

end DeviceRail
