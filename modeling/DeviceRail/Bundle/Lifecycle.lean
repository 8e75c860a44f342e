import DeviceRail.Bundle.Replay
import DeviceRail.EventStore.Invariant

/-!
# Histories the bundle format refuses

Every history the event store is able to produce is a legal one for the bundle
format: the validator may still refuse the content of an event or a limit, and
never the order of the events, their correlation or their session.
-/

namespace DeviceRail

/-- The errors of the validator's state machine. -/
def ModelError.isStateMachine : ModelError → Bool
  | .sessionNotEnded => true
  | .invalidEndedSession => true
  | .invalidEventSequence => true
  | .eventSessionMismatch => true
  | .invalidLifecycle => true
  | .duplicateActionCall _ => true
  | .actionNotStarted _ => true
  | .actionCorrelationMismatch _ => true
  | .actionResultMismatch _ => true
  | .actionStillInFlight => true
  | .invalidMediaStream => true
  | .mediaStreamStillInFlight => true
  | _ => false

/-- The errors of the version tests. -/
def ModelError.isVersion : ModelError → Bool
  | .fieldRequiresProtocol12 _ => true
  | .fieldRequiresProtocol14 _ => true
  | .fieldRequiresProtocol15 _ => true
  | _ => false

namespace SessionBundle

open History Fallible

/-- Errors that are not about the order or the correlation of events. -/
def OfContent (error : ModelError) : Prop := error.isStateMachine = false

/-- Errors of the walks over JSON values and references. -/
def OfData (error : ModelError) : Prop :=
  error.isStateMachine = false ∧ error.isVersion = false

theorem ofContent_of_ofData (error : ModelError) (h : OfData error) :
    OfContent error := h.1

/-! ## Walks over values and references -/

variable {limits : BundleLimits} {test : Bool}

section

variable {E : ModelError → Prop}

theorem within_failIf {error : ModelError} (h : test = true → E error) :
    FailsIn E (failIf test error) := by
  cases test with
  | false => exact trivial
  | true => exact h rfl

theorem within_checkEach {α : Type} {check : α → Except ModelError Unit}
    (h : ∀ value, FailsIn E (check value)) (values : List α) :
    FailsIn E (checkEach check values) := by
  induction values with
  | nil => exact trivial
  | cons value values ih => exact (h value).seq ih

theorem within_expandJson (limits : BundleLimits) (remaining : ℕ)
    (entry : Value × ℕ) (pending : List (Value × ℕ)) :
    FailsIn OfData (expandJson limits remaining entry pending) := by
  fun_cases expandJson limits remaining entry pending with
  | case5 => trivial
  | _ => exact ⟨rfl, rfl⟩

theorem within_validateJsonLoop (limits : BundleLimits) (remaining : ℕ)
    (pending : List (Value × ℕ)) :
    FailsIn OfData (validateJsonLoop limits remaining pending) := by
  fun_induction validateJsonLoop limits remaining pending with
  | case1 => trivial
  | case4 _ _ _ ih => exact (within_expandJson _ _ _ _).bind fun _ _ => ih _
  | _ => exact ⟨rfl, rfl⟩

theorem within_validateJsonValue (root : Value) (depth : ℕ) :
    FailsIn OfData (validateJsonValue limits root depth) :=
  within_validateJsonLoop _ _ _

theorem within_validateErrorDetails (error : ErrorInfo) :
    FailsIn OfData (validateErrorDetails limits error) := by
  unfold validateErrorDetails
  split
  next => exact within_validateJsonValue _ _
  next => exact trivial

section

variable (collector : ReferenceCollector)

theorem within_add (reference : AssetRef) :
    FailsIn OfData (collector.add limits reference) := by
  unfold ReferenceCollector.add
  simp only
  split
  · exact ⟨rfl, rfl⟩
  split
  · exact ⟨rfl, rfl⟩
  split <;> split
  all_goals first | exact ⟨rfl, rfl⟩ | trivial

theorem within_addTyped (reference : TypedReference) :
    FailsIn OfData (collector.addTyped limits reference) := by
  unfold ReferenceCollector.addTyped
  split
  next => exact within_add _ _
  next =>
    unfold ReferenceCollector.addWithLength
    have hadd : FailsIn OfData
        (collector.add limits reference.asset) := within_add _ _
    split
    next error herror => exact hadd.error herror
    next =>
      split
      next => exact ⟨rfl, rfl⟩
      next =>
        split
        next =>
          split
          next => exact ⟨rfl, rfl⟩
          next => trivial
        next => trivial

theorem within_addAll (references : List TypedReference) :
    FailsIn OfData (collector.addAll limits references) := by
  induction references generalizing collector with
  | nil => trivial
  | cons reference references ih =>
    exact (within_addTyped collector reference).bind fun next _ => ih next

end

end

/-! ## Checks of content -/

section

variable {protocol : ProtocolVersion} {callId : Uuid} {argumentsRedacted : Bool}

theorem within_checkWhen {check : Except ModelError Unit}
    (h : FailsIn OfContent check) :
    FailsIn OfContent (checkWhen test check) := by
  cases test with
  | false => exact trivial
  | true => exact h

theorem within_requireProtocol {minor : ℕ} {error : String → ModelError}
    (h : ∀ field, OfContent (error field)) (field : String) :
    FailsIn OfContent (requireProtocol minor error protocol field) := by
  unfold requireProtocol
  split
  next => exact trivial
  next => exact h field

theorem within_validateObservation (observation : Observation) :
    FailsIn OfContent (validateObservation limits protocol observation) := by
  refine (within_failIf fun _ => by rfl).seq ?_
  refine (within_checkWhen (within_requireProtocol (fun _ => by rfl) _)).seq ?_
  refine (within_failIf fun _ => by rfl).seq ?_
  refine (within_checkWhen (within_requireProtocol (fun _ => by rfl) _)).seq ?_
  refine (within_failIf fun _ => by rfl).seq ?_
  refine (within_failIf fun _ => by rfl).seq ?_
  exact within_checkEach (fun entry =>
    (within_validateJsonValue _ _).weaken ofContent_of_ofData) _

theorem within_validateExecution (execution : ActionExecution) :
    FailsIn OfContent (validateExecution protocol execution) :=
  (within_requireProtocol (fun _ => by rfl) _).seq
    (within_failIf fun _ => by rfl)

theorem within_validateSuccessOmission (argumentsRedacted : Bool)
    (result : ActionResult) :
    FailsIn OfContent
      (validateSuccessOmission protocol argumentsRedacted result) := by
  unfold validateSuccessOmission
  split
  next => exact within_failIf fun _ => by rfl
  next => exact within_failIf fun _ => by rfl

/-- A success is refused for its correlation only when it names another
call. -/
theorem within_validateResult {result : ActionResult}
    (hcall : result.callId = callId) :
    FailsIn OfContent
      (validateResult limits protocol callId argumentsRedacted result) := by
  refine (within_failIf fun hother => ?_).seq ?_
  · simp [hcall] at hother
  refine (within_failIf fun _ => by rfl).seq ?_
  refine ((within_validateJsonValue _ _).weaken ofContent_of_ofData).seq ?_
  refine (within_checkEach within_validateObservation _).seq ?_
  refine (within_checkEach within_validateExecution _).seq ?_
  exact within_validateSuccessOmission _ _

theorem within_validateOutcome {outcome : ActionOutcome}
    (hcall : outcome.namesOtherCall callId = false) :
    FailsIn OfContent
      (validateOutcome limits protocol callId argumentsRedacted outcome) := by
  cases outcome with
  | succeeded result =>
    exact within_validateResult (by
      simpa [ActionOutcome.namesOtherCall] using hcall)
  | failed error | cancelled error | timedOut error _ =>
    exact (within_validateErrorDetails error).weaken ofContent_of_ofData

theorem within_validateArguments (call : RecordedActionCall) :
    FailsIn OfContent (validateArguments limits protocol call) := by
  refine (within_checkWhen (within_requireProtocol (fun _ => by rfl) _)).seq ?_
  refine (within_failIf fun _ => by rfl).seq ?_
  exact (within_validateJsonValue _ _).weaken ofContent_of_ofData

end

/-! ## The replay of a legal history -/

section

variable {context : ReplayContext} {sessionId : SessionId}
  {events : List TestEvent} {event : TestEvent}

theorem within_checkContent (redacted : Uuid → Bool)
    (hadmits : Admits events event) :
    FailsIn OfContent (checkContent context redacted event.payload) := by
  cases hpayload : event.payload with
  | observationCaptured observation =>
    exact (within_validateObservation observation).seq
      (within_failIf fun _ => by rfl)
  | actionStarted call => exact within_validateArguments call
  | actionCompleted callId outcome =>
    simp only [Admits, hpayload] at hadmits
    exact within_validateOutcome hadmits.2
  | error error =>
    exact (within_validateErrorDetails error).weaken ofContent_of_ofData
  | mediaStreamStarted stream | mediaFrameCaptured frame
  | mediaStreamEnded streamId frameCount =>
    exact within_requireProtocol (fun _ => by rfl) _
  | _ => exact trivial

/-- The replay of a legal history fails only on the content of an event. -/
theorem within_events (hlegal : Legal sessionId events)
    (hheader : HeaderFits context sessionId events) :
    FailsIn OfContent (validateEvents context 0 .new events) := by
  induction hlegal with
  | @start event hid hsequence hpayload _ =>
    rw [validateEvents_singleton,
      validateEvent_start hid hsequence hpayload hheader]
    trivial
  | @record events event hlegal hopen hid hsequence _ hadmits ih =>
    rw [validateEvents_snoc hlegal hopen hid hsequence hadmits hheader]
    refine (ih (hheader.of_snoc hopen)).bind fun state _ => ?_
    refine (within_failIf fun _ => by rfl).seq ?_
    refine (within_checkContent _ hadmits).seq ?_
    exact ((within_addAll _ _).weaken ofContent_of_ofData).bind
      fun _ _ => trivial

end

/-! ## Exports of the event store -/

theorem within_validateExport {log : SessionLog} {sessionId : SessionId}
    {limits : BundleLimits} {protocol : ProtocolVersion}
    (h : log.Represents sessionId) (hended : log.info.state = .ended) :
    FailsIn OfContent
      (validateExport limits protocol ⟨log.info, log.events⟩) := by
  obtain ⟨last, -, -, hendedAt⟩ := endedAt_of_represents h hended
  rw [validateExport_of_represents limits protocol h hended hendedAt]
  refine (within_failIf fun _ => by rfl).seq ?_
  exact (within_events h.legal (headerFits_of_represents limits protocol h
    hended hendedAt)).bind fun _ _ => trivial

/-- Whatever was appended to the store, the bundle validator refuses no ended
session for the order, the correlation or the session of its events. -/
theorem exported_session_lifecycle_accepted (store : MemoryEventStore)
    (hstore : store.Reached) (sessionId : SessionId)
    (sessionExport : SessionExport)
    (hexport : store.exportSession sessionId = .ok sessionExport)
    (hended : sessionExport.session.state = .ended) (limits : BundleLimits)
    (error : ModelError)
    (herror : validateSource ⟨⟨1, 5⟩, sessionExport⟩ limits = .error error) :
    error.isStateMachine = false := by
  unfold MemoryEventStore.exportSession at hexport
  split at hexport
  next => cases hexport
  next log hlookup =>
    cases hexport
    have hrepresents := hstore.consistent.represents sessionId log hlookup
    have hwithin : FailsIn OfContent
        (validateSource ⟨⟨1, 5⟩, ⟨log.info, log.events⟩⟩ limits) := by
      exact (within_validateExport hrepresents hended).bind fun _ _ => trivial
    exact hwithin.error herror

/-- A client records an observation with an infinite scale factor and ends the
session. -/
def blownUpObservation : MemoryEventStore.Op :=
  .append ⟨⟨⟨1⟩⟩, none, none, 6, .observationCaptured
    ⟨⟨11⟩, ⟨"device-1"⟩, 6, ⟨1080, 1920, .infinity⟩, none, none, none, none,
      []⟩⟩ ⟨⟨3⟩⟩

def blownUpEnd : MemoryEventStore.Op :=
  .endSession ⟨⟨⟨1⟩⟩, none, none, 7, .completed, none⟩ ⟨⟨4⟩⟩

def blownUpStore : MemoryEventStore :=
  ((((MemoryEventStore.withEventStreamConfig .default).perform
    MemoryEventStore.sampleStart).2.perform blownUpObservation).2.perform
    blownUpEnd).2

theorem exported_session_lifecycle_accepted_blown_up :
    ∃ sessionExport, blownUpStore.exportSession ⟨⟨1⟩⟩ = .ok sessionExport ∧
      sessionExport.session.state = .ended ∧
      validateSource ⟨⟨1, 5⟩, sessionExport⟩ .default =
        .error .invalidObservationViewport ∧
      ModelError.invalidObservationViewport.isStateMachine = false := by
  have hreached : blownUpStore.Reached :=
    (((MemoryEventStore.reached_withEventStreamConfig .default).perform
      MemoryEventStore.sampleStart trivial).perform blownUpObservation
      trivial).perform blownUpEnd trivial
  exact ⟨_, rfl, rfl, rfl, exported_session_lifecycle_accepted blownUpStore
    hreached ⟨⟨1⟩⟩ _ rfl rfl .default _ rfl⟩

end SessionBundle

end DeviceRail
