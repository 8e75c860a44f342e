import DeviceRail.Evidence.Reference
import Mathlib.Algebra.GroupWithZero.Nat

/-!
# Session bundles

The input of the bundle writer, its resource limits, and the errors of its
model validation.  Sizes of the source are `usize` values of a 64-bit
platform.
-/

namespace DeviceRail

structure ProtocolVersion where
  major : ℕ
  minor : ℕ
deriving DecidableEq, Repr

/-- Input captured from an ended session. -/
structure BundleSource where
  eventProtocolVersion : ProtocolVersion
  sessionExport : SessionExport

/-- The resource limits that model validation reads. -/
structure BundleLimits where
  maxEvents : ℕ
  maxAssets : ℕ
  maxJsonDepth : ℕ
  maxJsonNodes : ℕ
  maxTypedReferences : ℕ
deriving DecidableEq, Repr

def BundleLimits.default : BundleLimits :=
  { maxEvents := 100000
    maxAssets := 10000
    maxJsonDepth := 128
    maxJsonNodes := 1000000
    maxTypedReferences := 100000 }

/-- `usize::MAX`. -/
def usizeMax : ℕ := 2 ^ 64 - 1

/-- The errors of `validate_source`. -/
inductive ModelError where
  | unsupportedEventProtocol (major minor : ℕ)
  | fieldRequiresProtocol12 (field : String)
  | fieldRequiresProtocol14 (field : String)
  | fieldRequiresProtocol15 (field : String)
  | limitExceeded (resource : String) (limit : ℕ)
  | jsonDepthLimit
  | sessionNotEnded
  | invalidEndedSession
  | invalidEventSequence
  | eventSessionMismatch
  | duplicateEventId
  | invalidLifecycle
  | duplicateActionCall (callId : Uuid)
  | actionNotStarted (callId : Uuid)
  | actionCorrelationMismatch (callId : Uuid)
  | actionResultMismatch (callId : Uuid)
  | actionTimeMismatch (callId : Uuid)
  | actionStillInFlight
  | invalidMediaStream
  | mediaStreamStillInFlight
  | redactedArgumentsNotNull
  | observationScreenshotConflict
  | observationUiSnapshotConflict
  | invalidUiSnapshotReference
  | invalidActionExecution
  | invalidObservationViewport
  | invalidProtectedActionOmission
  | unexpectedProtectedActionOmission
  | invalidEvidenceReference
  | conflictingEvidenceMediaType (digest : String)
  | conflictingEvidenceByteLength (digest : String)
deriving DecidableEq, Repr

/-- Stop with an error when a test fires. -/
def failIf (test : Bool) (error : ModelError) : Except ModelError Unit :=
  if test then .error error else .ok ()

variable {error : ModelError}

@[simp] theorem failIf_false : failIf false error = .ok () := rfl

@[simp] theorem failIf_eq_ok {test : Bool} :
    failIf test error = .ok () ↔ test = false := by
  cases test <;> simp [failIf]

export Fallible (bind_eq_ok bind_congr_ok ok_bind)

theorem check_bind_eq_ok {ε β : Type} {check : Except ε Unit}
    {next : Unit → Except ε β} {value : β} :
    (check >>= next) = .ok value ↔ check = .ok () ∧ next () = .ok value := by
  rw [bind_eq_ok]
  constructor
  · rintro ⟨⟨⟩, hcheck, hnext⟩
    exact ⟨hcheck, hnext⟩
  · rintro ⟨hcheck, hnext⟩
    exact ⟨(), hcheck, hnext⟩

end DeviceRail
