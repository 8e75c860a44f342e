import DeviceRail.Bundle.Validation
import DeviceRail.EventStore.Bookkeeping

/-!
# The bundle replay of a legal history

On a legal history the bookkeeping of the bundle validator agrees with the
replay of the history, so that none of its order and correlation tests fails.
What remains of the validation are the event identifiers, the content of each
event, and the collection of the typed references.
-/

namespace DeviceRail

open List

variable {events : List TestEvent} {callId : Uuid}

namespace History

/-- The event starts the call with redacted arguments. -/
def startsRedacted (callId : Uuid) (event : TestEvent) : Bool :=
  match event.payload with
  | .actionStarted call => call.id == callId && call.argumentsRedacted
  | _ => false

/-- The history has a start of the call with redacted arguments. -/
def redactedCall (events : List TestEvent) (callId : Uuid) : Bool :=
  events.any (startsRedacted callId)

theorem redactedCall_snoc (events : List TestEvent) (event : TestEvent)
    (callId : Uuid) :
    redactedCall (events ++ [event]) callId =
      (redactedCall events callId || startsRedacted callId event) := by
  simp [redactedCall]

variable {test : (Uuid → Bool) → TestEventPayload → Prop}

theorem redactedCall_of_unstarted (h : ¬CallStarted events callId) :
    redactedCall events callId = false := by
  rw [redactedCall, any_eq_false]
  intro event hmem hstarts
  refine h ⟨event, hmem, ?_⟩
  unfold startsRedacted at hstarts
  split at hstarts
  next call hpayload =>
    rw [Bool.and_eq_true, beq_iff_eq] at hstarts
    simp [TestEvent.startedCall?, hpayload, hstarts.1]
  next => cases hstarts

/-- A property of every event, given which calls were redacted before it. -/
def Throughout (test : (Uuid → Bool) → TestEventPayload → Prop)
    (events : List TestEvent) : Prop :=
  ∀ i event, events[i]? = some event →
    test (redactedCall (events.take i)) event.payload

theorem throughout_snoc {event : TestEvent} :
    Throughout test (events ++ [event]) ↔
      Throughout test events ∧ test (redactedCall events) event.payload := by
  have htake : ∀ i found, events[i]? = some found →
      (events ++ [event]).take i = events.take i := by
    intro i found hi
    have hlt : i < events.length := (List.getElem?_eq_some_iff.mp hi).1
    rw [List.take_append_of_le_length hlt.le]
  constructor
  · intro h
    refine ⟨fun i found hi => ?_, ?_⟩
    · rw [← htake i found hi]
      exact h i found (Indexed.getElem?_snoc_eq_some.mpr (Or.inl hi))
    · have hlast := h events.length event
        (Indexed.getElem?_snoc_eq_some.mpr (Or.inr ⟨rfl, rfl⟩))
      rwa [take_left] at hlast
  · rintro ⟨hold, hnew⟩ i found hi
    rcases Indexed.getElem?_snoc_eq_some.mp hi with hi | ⟨rfl, rfl⟩
    · rw [htake i found hi]
      exact hold i found hi
    · rwa [take_left]

theorem Throughout.append {added : List TestEvent} (h : Throughout test events)
    (hadded : ∀ event ∈ added, ∀ redacted, test redacted event.payload) :
    Throughout test (events ++ added) := by
  induction added using List.reverseRecOn with
  | nil => rwa [append_nil]
  | append_singleton added event ih =>
    rw [← append_assoc, throughout_snoc]
    refine ⟨ih fun found hmem => ?_, ?_⟩
    · exact hadded found (mem_append_left _ hmem)
    · exact hadded event (by simp) _

/-- The typed references of a history, in order. -/
def references (events : List TestEvent) : List TypedReference :=
  events.flatMap TestEvent.typedReferences

theorem references_snoc (events : List TestEvent) (event : TestEvent) :
    references (events ++ [event]) =
      references events ++ event.typedReferences := by
  simp [references]

end History

namespace SessionBundle

open History TestEvent ReferenceCollector

/-! ## Content -/

theorem checkWhen_eq_ok {test : Bool} {check : Except ModelError Unit} :
    checkWhen test check = .ok () ↔ (test = true → check = .ok ()) := by
  cases test <;> simp [checkWhen]

theorem checkEach_eq_ok {α : Type} {check : α → Except ModelError Unit}
    {values : List α} :
    checkEach check values = .ok () ↔
      ∀ value ∈ values, check value = .ok () := by
  induction values with
  | nil => simp [checkEach]
  | cons value values ih => simp [checkEach, check_bind_eq_ok, ih]

/-- The tests on an event that depend only on the event and on whether the
arguments of its call were redacted. -/
def checkContent (context : ReplayContext) (redacted : Uuid → Bool) :
    TestEventPayload → Except ModelError Unit
  | .observationCaptured observation => do
      validateObservation context.limits context.protocol observation
      failIf (reportsProtectedAction observation)
        .unexpectedProtectedActionOmission
  | .actionStarted call =>
    validateArguments context.limits context.protocol call
  | .actionCompleted callId outcome =>
    validateOutcome context.limits context.protocol callId (redacted callId)
      outcome
  | .mediaStreamStarted _ =>
    requireProtocol14 context.protocol "mediaStreamStarted"
  | .mediaFrameCaptured _ =>
    requireProtocol14 context.protocol "mediaFrameCaptured"
  | .mediaStreamEnded _ _ =>
    requireProtocol14 context.protocol "mediaStreamEnded"
  | .error error => validateErrorDetails context.limits error
  | _ => .ok ()

/-- The event passes the tests on its content. -/
def ContentFits (context : ReplayContext) (redacted : Uuid → Bool)
    (payload : TestEventPayload) : Prop :=
  checkContent context redacted payload = .ok ()

/-- Every event of the history passes the tests on its content. -/
def ContentsFit (context : ReplayContext) (events : List TestEvent) : Prop :=
  Throughout (ContentFits context) events

/-! ## Bookkeeping -/

/-- The tables of the validator are the replay of the history. -/
structure Tracks (state : ReplayState) (events : List TestEvent) : Prop where
  eventIds : ∀ eventId, eventId ∈ state.eventIds ↔
    eventId ∈ events.map TestEvent.eventId
  seenCalls : ∀ callId, callId ∈ state.seenCalls ↔ CallStarted events callId
  inFlight : ∀ callId, state.inFlight.lookup callId =
    (openCall events callId).map (fun correlation =>
      ⟨correlation.requestId, correlation.deviceId, redactedCall events callId⟩)
  seenMediaStreams : ∀ streamId, streamId ∈ state.seenMediaStreams ↔
    StreamStarted events streamId
  mediaStreams : ∀ streamId, state.mediaStreams.lookup streamId =
    openStream events streamId

/-- What an accepted event does to the state. -/
def ReplayState.advance (state : ReplayState) (event : TestEvent)
    (collected : ReferenceCollector) : ReplayState :=
  let state := { state with
    eventIds := insert event.eventId state.eventIds
    references := collected }
  match event.payload with
  | .actionStarted call =>
    { state with
      seenCalls := insert call.id state.seenCalls
      inFlight := state.inFlight.insert call.id
        ⟨event.requestId, event.deviceId, call.argumentsRedacted⟩ }
  | .actionCompleted callId _ =>
    { state with inFlight := state.inFlight.erase callId }
  | .mediaStreamStarted stream =>
    { state with
      seenMediaStreams := insert stream.id state.seenMediaStreams
      mediaStreams :=
        state.mediaStreams.insert stream.id ⟨stream.mediaType, 1⟩ }
  | .mediaFrameCaptured frame =>
    { state with
      mediaStreams := state.mediaStreams.adjust frame.streamId
        (fun stream =>
          { stream with nextFrameIndex := stream.nextFrameIndex + 1 }) }
  | .mediaStreamEnded streamId _ =>
    { state with mediaStreams := state.mediaStreams.erase streamId }
  | _ => state

variable {event : TestEvent}

section

variable {state : ReplayState} {collected : ReferenceCollector}

@[simp] theorem advance_eventIds :
    (state.advance event collected).eventIds =
      insert event.eventId state.eventIds := by
  unfold ReplayState.advance
  split <;> rfl

@[simp] theorem advance_references :
    (state.advance event collected).references = collected := by
  unfold ReplayState.advance
  split <;> rfl

theorem mem_advance_seenCalls (callId : Uuid) :
    callId ∈ (state.advance event collected).seenCalls ↔
      callId ∈ state.seenCalls ∨ event.startedCall? = some callId := by
  unfold ReplayState.advance TestEvent.startedCall?
  cases event.payload <;> simp [eq_comm, or_comm]

theorem mem_advance_seenMediaStreams (streamId : MediaStreamId) :
    streamId ∈ (state.advance event collected).seenMediaStreams ↔
      streamId ∈ state.seenMediaStreams ∨
        event.startedStream? = some streamId := by
  unfold ReplayState.advance startedStream?
  cases event.payload <;> simp [eq_comm, or_comm]

theorem lookup_advance_mediaStreams (streamId : MediaStreamId) :
    (state.advance event collected).mediaStreams.lookup streamId =
      streamStep streamId (state.mediaStreams.lookup streamId) event := by
  unfold ReplayState.advance streamStep
  cases event.payload with
  | mediaFrameCaptured frame =>
    by_cases hid : frame.streamId = streamId
    · subst hid
      simp [KeyedMap.lookup_adjust]
    · simp [KeyedMap.lookup_adjust, hid, Ne.symm hid]
  | _ => simp [KeyedMap.lookup_insert_ite, KeyedMap.lookup_erase_ite, eq_comm]

/-- The calls in flight follow the history, with the redaction of each. -/
theorem Tracks.lookup_advance_inFlight (h : Tracks state events)
    (hadmits : Admits events event) (callId : Uuid) :
    (state.advance event collected).inFlight.lookup callId =
      (openCall (events ++ [event]) callId).map (fun correlation =>
        ⟨correlation.requestId, correlation.deviceId,
          redactedCall (events ++ [event]) callId⟩) := by
  have hold := h.inFlight callId
  rw [openCall_snoc, redactedCall_snoc]
  unfold ReplayState.advance callStep startsRedacted TestEvent.startedCall?
    completedCall?
  cases hpayload : event.payload with
  | actionStarted call =>
    have hfresh : ¬CallStarted events call.id := by
      simpa [Admits, hpayload] using hadmits
    by_cases hid : call.id = callId
    · subst hid
      simp [redactedCall_of_unstarted hfresh, correlation]
    · simp [hid, Ne.symm hid, beq_false_of_ne hid, hold]
  | actionCompleted completed outcome =>
    by_cases hid : completed = callId
    · subst hid
      simp
    · simp [hid, Ne.symm hid, hold]
  | _ => simp [hold]

theorem Tracks.advance (h : Tracks state events) (hadmits : Admits events event) :
    Tracks (state.advance event collected) (events ++ [event]) where
  eventIds := by
    intro eventId
    rw [advance_eventIds, Finset.mem_insert, h.eventIds, map_append,
      mem_append, map_singleton, mem_singleton, or_comm]
  seenCalls := by
    intro callId
    rw [mem_advance_seenCalls, h.seenCalls, callStarted_snoc]
  inFlight := h.lookup_advance_inFlight hadmits
  seenMediaStreams := by
    intro streamId
    rw [mem_advance_seenMediaStreams, h.seenMediaStreams, streamStarted_snoc]
  mediaStreams := by
    intro streamId
    rw [lookup_advance_mediaStreams, h.mediaStreams, openStream_snoc]

end

/-! ## Stream declarations -/

theorem splitOnce_eq_some {separator : Char} {text before after : List Char}
    (h : splitOnce separator text = some (before, after)) :
    text = before ++ separator :: after := by
  unfold splitOnce at h
  rw [span_eq_takeWhile_dropWhile] at h
  have hsplit := takeWhile_append_dropWhile
    (p := fun c => c != separator) (l := text)
  split at h
  next => cases h
  next front found rest heq =>
    cases h
    rw [Prod.mk.injEq] at heq
    have hhead := head?_dropWhile_not (fun c => c != separator) text
    rw [heq.2, head?_cons] at hhead
    have hfound : found = separator := by simpa using hhead
    rw [heq.1, heq.2, hfound] at hsplit
    exact hsplit.symm

theorem not_isAsciiControl_of_isMediaTypeChar {c : Char}
    (h : isMediaTypeChar c = true) : isAsciiControl c = false := by
  simp only [isMediaTypeChar, Bool.and_eq_true, decide_eq_true_eq] at h
  have hlow : '!'.toNat ≤ c.toNat := h.1.1
  have hhigh : c.toNat ≤ '~'.toNat := h.1.2
  have hbang : '!'.toNat = 33 := rfl
  have htilde : '~'.toNat = 126 := rfl
  simp only [isAsciiControl, Bool.or_eq_false_iff, decide_eq_false_iff_not,
    beq_eq_false_iff_ne]
  omega

variable {stream : MediaStreamInfo}

/-- A declaration that the store records passes the bundle's tests. -/
theorem declarationRefused_eq_false (h : DeclarationValid stream) :
    declarationRefused stream = false := by
  obtain ⟨hmedia, hviewport⟩ := h
  obtain ⟨hlength, hmedia⟩ := guard_eq_ok.mp hmedia
  split at hmedia
  next => cases hmedia
  next kind subtype hsplit =>
    obtain ⟨hparts, hmedia⟩ := require_eq_ok.mp hmedia
    have htext := splitOnce_eq_some hsplit
    simp only [validMediaTypePart, Bool.and_eq_true, all_eq_true] at hparts
    have hcontrol : ∀ c ∈ stream.mediaType.toList,
        isAsciiControl c = false := by
      intro c hmem
      rw [htext, mem_append, mem_cons] at hmem
      rcases hmem with hkind | rfl | hsubtype
      · exact not_isAsciiControl_of_isMediaTypeChar (hparts.1.2 c hkind)
      · decide
      · exact not_isAsciiControl_of_isMediaTypeChar (hparts.2.2 c hsubtype)
    have hempty : stream.mediaType.toList.isEmpty = false := by
      rw [htext]
      simp
    have hany : stream.mediaType.toList.any isAsciiControl = false := by
      rw [any_eq_false]
      intro c hmem
      rw [hcontrol c hmem]
      exact Bool.false_ne_true
    have hview : stream.viewport.any (fun viewport =>
        !viewport.isUsable) = false := by
      cases hv : stream.viewport with
      | none => rfl
      | some viewport => simp [hviewport viewport hv]
    have hlong : ¬255 < stream.mediaType.utf8ByteSize := hlength
    simp [declarationRefused, hempty, hany, hview, hlong]

/-! ## One event -/

section

variable {context : ReplayContext} {state next : ReplayState}

/-- The state in which the payload is looked at. -/
def ReplayState.named (state : ReplayState) (event : TestEvent) : ReplayState :=
  { state with eventIds := insert event.eventId state.eventIds }

/-- Collect the references of an event, and take it into the tables. -/
def ReplayState.record (context : ReplayContext) (state : ReplayState)
    (event : TestEvent) : Except ModelError ReplayState := do
  let collected ←
    state.references.addAll context.limits event.typedReferences
  pure (state.advance event collected)

theorem record_eq_ok :
    state.record context event = .ok next ↔ ∃ collected,
      state.references.addAll context.limits event.typedReferences =
        .ok collected ∧ next = state.advance event collected := by
  unfold ReplayState.record
  rw [bind_eq_ok]
  simp only [pure, Except.pure, Except.ok.injEq, eq_comm]

theorem record_of_nil (hrefs : event.payload.typedReferences = []) :
    state.record context event =
      .ok (state.advance event state.references) := by
  unfold ReplayState.record TestEvent.typedReferences
  rw [hrefs]
  rfl

section

variable (h : Tracks state events)

include h

theorem Tracks.validateActionStarted_eq {call : RecordedActionCall}
    (hpayload : event.payload = .actionStarted call)
    (hadmits : Admits events event) :
    validateActionStarted context (state.named event) event call = (do
      validateArguments context.limits context.protocol call
      state.record context event) := by
  have hfresh : call.id ∉ (state.named event).seenCalls := by
    rw [ReplayState.named, h.seenCalls]
    simpa [Admits, hpayload] using hadmits
  rw [record_of_nil (by rw [hpayload]; rfl)]
  simp only [validateActionStarted, hfresh, decide_false, failIf_false,
    ok_bind, ReplayState.advance, hpayload]
  rfl

theorem Tracks.validateActionCompleted_eq {outcome : ActionOutcome}
    (hpayload : event.payload = .actionCompleted callId outcome)
    (hadmits : Admits events event) :
    validateActionCompleted context (state.named event) event callId outcome =
      (do
        validateOutcome context.limits context.protocol callId
          (redactedCall events callId) outcome
        state.record context event) := by
  simp only [Admits, hpayload] at hadmits
  have hlookup : (state.named event).inFlight.lookup callId = _ :=
    h.inFlight callId
  rw [hadmits.1, Option.map_some] at hlookup
  simp only [validateActionCompleted, hlookup, correlation, bne_self_eq_false,
    Bool.or_false, failIf_false, ok_bind, ReplayState.record,
    TestEvent.typedReferences, ReplayState.advance, hpayload]
  rfl

theorem Tracks.validateMediaStreamStarted_eq
    (hpayload : event.payload = .mediaStreamStarted stream)
    (hadmits : Admits events event) :
    validateMediaStreamStarted (state.named event) stream =
      state.record context event := by
  simp only [Admits, hpayload] at hadmits
  have hfresh : stream.id ∉ (state.named event).seenMediaStreams := by
    rw [ReplayState.named, h.seenMediaStreams]
    exact hadmits.1
  rw [record_of_nil (by rw [hpayload]; rfl)]
  simp only [validateMediaStreamStarted, declarationRefused_eq_false hadmits.2,
    hfresh, decide_false, Bool.or_false, failIf_false, ok_bind,
    ReplayState.advance, hpayload]
  rfl

theorem Tracks.validateMediaFrameCaptured_eq {frame : MediaFrame}
    (hpayload : event.payload = .mediaFrameCaptured frame)
    (hadmits : Admits events event) :
    validateMediaFrameCaptured context (state.named event) frame =
      state.record context event := by
  simp only [Admits, hpayload] at hadmits
  obtain ⟨stream, hopen, hfits⟩ := hadmits
  have hlookup : (state.named event).mediaStreams.lookup frame.streamId = _ :=
    h.mediaStreams frame.streamId
  rw [hopen] at hlookup
  have hduration : frame.durationMs.any (fun value =>
      decide (maxSafeInteger < value)) = false := by
    cases hvalue : frame.durationMs with
    | none => rfl
    | some value => simpa using hfits.duration value hvalue
  simp only [validateMediaFrameCaptured, hlookup, hfits.index,
    hfits.mediaType, bne_self_eq_false, hduration, Bool.or_false,
    failIf_false, ok_bind, ReplayState.collect, ReplayState.record,
    TestEvent.typedReferences, ReplayState.advance, hpayload]
  rw [bind_assoc]
  rfl

theorem Tracks.validateMediaStreamEnded_eq {streamId : MediaStreamId}
    {frameCount : ℕ}
    (hpayload : event.payload = .mediaStreamEnded streamId frameCount)
    (hadmits : Admits events event) :
    validateMediaStreamEnded (state.named event) streamId frameCount =
      state.record context event := by
  simp only [Admits, hpayload] at hadmits
  obtain ⟨stream, hopen, hcount⟩ := hadmits
  have hlookup : (state.named event).mediaStreams.lookup streamId = _ :=
    h.mediaStreams streamId
  rw [hopen] at hlookup
  rw [record_of_nil (by rw [hpayload]; rfl)]
  simp only [validateMediaStreamEnded, hlookup, hcount, bne_self_eq_false,
    failIf_false, ok_bind, ReplayState.advance, hpayload]
  rfl

/-- Of the tests on the payload of an event that the history admits, those on
its content are left. -/
theorem Tracks.validatePayload_eq (hadmits : Admits events event)
    (hat : event.payload.isSessionEnded = true → event.atMs = context.endedAtMs) :
    validatePayload context false event.payload.isSessionEnded
        (state.named event) event = (do
      checkContent context (redactedCall events) event.payload
      state.record context event) := by
  unfold validatePayload checkContent
  cases hpayload : event.payload with
  | sessionStarted => simp [Admits, hpayload] at hadmits
  | sessionEnded outcome reason =>
    rw [hpayload] at hat
    rw [record_of_nil (by rw [hpayload]; rfl)]
    simp only [TestEventPayload.isSessionEnded, hat rfl, Bool.not_true,
      bne_self_eq_false, Bool.or_false, failIf_false, ok_bind,
      ReplayState.advance, hpayload]
    rfl
  | observationCaptured observation =>
    simp only [ReplayState.record, TestEvent.typedReferences,
      ReplayState.advance, hpayload, bind_assoc]
    rfl
  | actionStarted call => exact h.validateActionStarted_eq hpayload hadmits
  | actionCompleted callId outcome =>
    exact h.validateActionCompleted_eq hpayload hadmits
  | mediaStreamStarted stream =>
    exact congrArg _ (funext fun _ =>
      h.validateMediaStreamStarted_eq hpayload hadmits)
  | mediaFrameCaptured frame =>
    exact congrArg _ (funext fun _ =>
      h.validateMediaFrameCaptured_eq hpayload hadmits)
  | mediaStreamEnded streamId frameCount =>
    exact congrArg _ (funext fun _ =>
      h.validateMediaStreamEnded_eq hpayload hadmits)
  | verdictRecorded verdict =>
    simp only [ReplayState.record, TestEvent.typedReferences,
      ReplayState.advance, hpayload]
    rfl
  | error error =>
    rw [record_of_nil (by rw [hpayload]; rfl)]
    simp only [ReplayState.advance, hpayload]
    rfl

end

end

/-! ## Whole histories -/

section

variable (context : ReplayContext) (index : ℕ) (state : ReplayState)

theorem validateEvents_append (first second : List TestEvent) :
    validateEvents context index state (first ++ second) = (do
      let middle ← validateEvents context index state first
      validateEvents context (index + first.length) middle second) := by
  induction first generalizing index state with
  | nil => rfl
  | cons event first ih =>
    simp only [cons_append, validateEvents]
    cases validateEvent context index state event with
    | error error => rfl
    | ok next =>
      have hindex : index + (event :: first).length =
          index + 1 + first.length := by
        rw [length_cons]
        omega
      rw [hindex]
      exact ih (index + 1) next

theorem validateEvents_singleton (event : TestEvent) :
    validateEvents context index state [event] =
      validateEvent context index state event := by
  simp only [validateEvents]
  cases validateEvent context index state event <;> rfl

end

/-- The header of the export belongs to the history. -/
structure HeaderFits (context : ReplayContext) (sessionId : SessionId)
    (events : List TestEvent) : Prop where
  id : context.session.id = sessionId
  length_le : events.length ≤ context.total
  ended : Ended events ↔ events.length = context.total
  startedAt : ∀ event ∈ events, event.payload = .sessionStarted →
    event.atMs = context.session.startedAtMs
  endedAt : ∀ event ∈ events, event.isSessionEnded = true →
    event.atMs = context.endedAtMs

/-- What is left to test on a legal history. -/
structure Acceptable (context : ReplayContext) (events : List TestEvent) :
    Prop where
  eventIds : (events.map TestEvent.eventId).Nodup
  contents : ContentsFit context events
  collected : ∃ collected, new.addAll context.limits
    (references events) = .ok collected

variable {sessionId : SessionId}

section

variable {context : ReplayContext}

theorem HeaderFits.of_snoc (h : HeaderFits context sessionId (events ++ [event]))
    (hopen : ¬Ended events) : HeaderFits context sessionId events where
  id := h.id
  length_le := by
    have hle := h.length_le
    rw [length_append] at hle
    omega
  ended := by
    have hle := h.length_le
    rw [length_append, length_singleton] at hle
    refine ⟨fun hended => absurd hended hopen, fun hlength => ?_⟩
    omega
  startedAt := fun found hmem => h.startedAt found (mem_append_left _ hmem)
  endedAt := fun found hmem => h.endedAt found (mem_append_left _ hmem)

theorem validateEvent_start (hid : event.sessionId = sessionId)
    (hsequence : event.sequence = .first)
    (hpayload : event.payload = .sessionStarted)
    (h : HeaderFits context sessionId [event]) :
    validateEvent context 0 .new event = .ok (ReplayState.new.named event) := by
  have hlast : (1 == context.total) = false := by
    have hended : ¬Ended [event] := by simp [Ended, isSessionEnded, hpayload]
    have hne := h.ended.not.mp hended
    simpa using hne
  have hat := h.startedAt event (by simp) hpayload
  have hnew : EventSequence.new 1 = some event.sequence :=
    EventSequence.new_eq_some.mpr (by rw [hsequence]; rfl)
  simp only [validateEvent, validatePayload, Nat.zero_add, hlast, hnew, hid,
    h.id, hpayload, hat, bne_self_eq_false, BEq.rfl, Bool.not_true,
    Bool.or_false, ReplayState.new, Finset.notMem_empty, decide_false, failIf,
    TestEventPayload.isSessionStarted, Bool.and_false, Bool.false_and]
  rfl

theorem tracks_start (hpayload : event.payload = .sessionStarted) :
    Tracks (ReplayState.new.named event) [event] := by
  constructor <;>
    simp [ReplayState.named, ReplayState.new, CallStarted, StreamStarted,
      openCall, callStep, openStream, streamStep, TestEvent.startedCall?,
      completedCall?, startedStream?, hpayload]

theorem acceptable_start (hpayload : event.payload = .sessionStarted) :
    Acceptable context [event] where
  eventIds := by simp
  contents := by
    intro i found hi
    rw [getElem?_singleton] at hi
    split at hi <;> cases hi
    rw [hpayload]
    trivial
  collected := by
    simp [references, TestEvent.typedReferences, hpayload,
      TestEventPayload.typedReferences, addAll]

/-- One iteration of the loop, on an event that the history admits. -/
theorem Tracks.validateEvent_eq {state : ReplayState} (h : Tracks state events)
    (hlegal : Legal sessionId events) (hopen : ¬Ended events)
    (hid : event.sessionId = sessionId)
    (hsequence : event.sequence.get = events.length + 1)
    (hadmits : Admits events event)
    (hheader : HeaderFits context sessionId (events ++ [event])) :
    validateEvent context events.length state event = (do
      failIf (decide (event.eventId ∈ state.eventIds)) .duplicateEventId
      checkContent context (redactedCall events) event.payload
      state.record context event) := by
  have hfirst : (events.length == 0) = false := by simpa using hlegal.ne_nil
  have hlast : (events.length + 1 == context.total) =
      event.payload.isSessionEnded := by
    have hended := hheader.ended
    rw [ended_snoc, length_append, length_singleton] at hended
    rw [Bool.eq_iff_iff, beq_iff_eq, ← hended]
    exact ⟨fun h => h.resolve_left hopen, Or.inr⟩
  have hnew : EventSequence.new (events.length + 1) = some event.sequence :=
    EventSequence.new_eq_some.mpr hsequence
  have hpayload := h.validatePayload_eq hadmits
    (hheader.endedAt event (by simp))
  unfold ReplayState.named at hpayload
  simp only [validateEvent, hfirst, hlast, hnew, hid, hheader.id,
    bne_self_eq_false, Bool.false_and, Bool.and_not_self, failIf_false,
    ok_bind, hpayload, bind_pure]

/-- The replay keeps its tables in step with a legal history, and collects its
references. -/
theorem tracks_of_legal (hlegal : Legal sessionId events)
    (hheader : HeaderFits context sessionId events) (state : ReplayState)
    (hstate : validateEvents context 0 .new events = .ok state) :
    Tracks state events ∧ new.addAll context.limits
      (references events) = .ok state.references := by
  induction hlegal generalizing state with
  | @start event hid hsequence hpayload _ =>
    rw [validateEvents_singleton,
      validateEvent_start hid hsequence hpayload hheader] at hstate
    cases hstate
    refine ⟨tracks_start hpayload, ?_⟩
    simp [references, TestEvent.typedReferences, hpayload,
      TestEventPayload.typedReferences, addAll,
      ReplayState.named, ReplayState.new]
  | @record events event hlegal hopen hid hsequence _ hadmits ih =>
    rw [validateEvents_append, bind_eq_ok] at hstate
    obtain ⟨middle, hmiddle, hevent⟩ := hstate
    obtain ⟨htracks, hrefs⟩ := ih (hheader.of_snoc hopen) middle hmiddle
    rw [Nat.zero_add, validateEvents_singleton, htracks.validateEvent_eq hlegal
      hopen hid hsequence hadmits hheader] at hevent
    simp only [check_bind_eq_ok, record_eq_ok] at hevent
    obtain ⟨-, -, collected, hadd, rfl⟩ := hevent
    refine ⟨htracks.advance hadmits, ?_⟩
    rw [references_snoc, addAll_append, bind_eq_ok, advance_references]
    exact ⟨_, hrefs, hadd⟩

/-- What the replay of a legal history tests of its last event. -/
theorem validateEvents_snoc (hlegal : Legal sessionId events)
    (hopen : ¬Ended events) (hid : event.sessionId = sessionId)
    (hsequence : event.sequence.get = events.length + 1)
    (hadmits : Admits events event)
    (hheader : HeaderFits context sessionId (events ++ [event])) :
    validateEvents context 0 .new (events ++ [event]) = (do
      let middle ← validateEvents context 0 .new events
      failIf (decide (event.eventId ∈ middle.eventIds)) .duplicateEventId
      checkContent context (redactedCall events) event.payload
      middle.record context event) := by
  rw [validateEvents_append]
  refine bind_congr_ok fun middle hmiddle => ?_
  rw [Nat.zero_add, validateEvents_singleton]
  exact (tracks_of_legal hlegal (hheader.of_snoc hopen) middle
    hmiddle).1.validateEvent_eq hlegal hopen hid hsequence hadmits hheader

/-- The replay accepts a legal history exactly when what is left to test
holds. -/
theorem validateEvents_of_legal (hlegal : Legal sessionId events)
    (hheader : HeaderFits context sessionId events) :
    (∃ state, validateEvents context 0 .new events = .ok state) ↔
      Acceptable context events := by
  induction hlegal with
  | @start event hid hsequence hpayload _ =>
    rw [validateEvents_singleton,
      validateEvent_start hid hsequence hpayload hheader]
    exact ⟨fun _ => acceptable_start hpayload, fun _ => ⟨_, rfl⟩⟩
  | @record events event hlegal hopen hid hsequence _ hadmits ih =>
    have hbefore := hheader.of_snoc hopen
    rw [validateEvents_snoc hlegal hopen hid hsequence hadmits hheader]
    simp only [bind_eq_ok (α := ReplayState), check_bind_eq_ok, failIf_eq_ok,
      record_eq_ok, decide_eq_false_iff_not]
    constructor
    · rintro ⟨next, middle, hmiddle, hfresh, hcontent, collected, hadd, -⟩
      obtain ⟨htracks, hrefs⟩ := tracks_of_legal hlegal hbefore middle hmiddle
      have hold := (ih hbefore).mp ⟨middle, hmiddle⟩
      refine ⟨?_, throughout_snoc.mpr ⟨hold.contents, hcontent⟩, ?_⟩
      · rw [map_append, map_singleton, ← concat_eq_append]
        exact hold.eventIds.concat fun hmem =>
          hfresh ((htracks.eventIds _).mpr hmem)
      · refine ⟨collected, ?_⟩
        rw [references_snoc, addAll_append, bind_eq_ok]
        exact ⟨_, hrefs, hadd⟩
    · intro hacceptable
      have hids := hacceptable.eventIds
      rw [map_append, map_singleton] at hids
      have hcontents := throughout_snoc.mp hacceptable.contents
      obtain ⟨collected, hadd⟩ := hacceptable.collected
      rw [references_snoc, addAll_append, bind_eq_ok] at hadd
      obtain ⟨before, hadded, hafter⟩ := hadd
      obtain ⟨middle, hmiddle⟩ := (ih hbefore).mpr
        ⟨hids.of_append_left, hcontents.1, before, hadded⟩
      obtain ⟨htracks, hrefs⟩ := tracks_of_legal hlegal hbefore middle hmiddle
      rw [hadded, Except.ok.injEq] at hrefs
      refine ⟨_, middle, hmiddle, fun hmem => ?_, hcontents.2, collected,
        hrefs ▸ hafter, rfl⟩
      exact disjoint_of_nodup_append hids ((htracks.eventIds _).mp hmem)
        (by simp)

end

/-! ## Recorded sessions -/

section

variable {log : SessionLog} {limits : BundleLimits} {protocol : ProtocolVersion}
  {endedAtMs : ℕ}

theorem endedAt_of_represents (h : log.Represents sessionId)
    (hended : log.info.state = .ended) :
    ∃ event, log.events.getLast? = some event ∧
      event.isSessionEnded = true ∧ log.info.endedAtMs = some event.atMs := by
  have hlast := h.legal.getLast?_isSessionEnded.mpr (h.ended_iff.mp hended)
  obtain ⟨event, hevent, htest⟩ := (Option.any_eq_true _ _).mp hlast
  refine ⟨event, hevent, htest, ?_⟩
  rw [h.endedAt, hevent, Option.filter_some, if_pos htest]
  rfl

section

variable (limits : BundleLimits) (protocol : ProtocolVersion)
  (h : log.Represents sessionId) (hended : log.info.state = .ended)
  (hendedAt : log.info.endedAtMs = some endedAtMs)
include h hended hendedAt

theorem headerFits_of_represents :
    HeaderFits ⟨limits, protocol, log.info, endedAtMs, log.events.length⟩
      sessionId log.events where
  id := h.id_eq
  length_le := le_refl _
  ended := ⟨fun _ => rfl, fun _ => h.ended_iff.mp hended⟩
  startedAt := by
    intro event hmem hpayload
    obtain ⟨i, hi⟩ := getElem?_of_mem hmem
    have hzero := (h.legal.sessionStarted_iff i event hi).mp hpayload
    subst hzero
    have hstarted := h.startedAt
    rw [head?_eq_getElem?, hi, Option.map_some, Option.some.injEq] at hstarted
    exact hstarted
  endedAt := by
    intro event hmem htest
    obtain ⟨last, hlast, -, hat⟩ := endedAt_of_represents h hended
    obtain ⟨i, hi⟩ := getElem?_of_mem hmem
    have hindex := h.legal.sessionEnded_last i event hi htest
    have hsame : log.events.getLast? = some event := by
      rw [getLast?_eq_getElem?, ← hi]
      congr 1
      omega
    rw [hlast, Option.some.injEq] at hsame
    rw [hendedAt, Option.some.injEq] at hat
    rw [← hsame, hat]

/-- Of the tests on a recorded session that has ended, the limit of events and
the replay are left. -/
theorem validateExport_of_represents :
    validateExport limits protocol ⟨log.info, log.events⟩ = (do
      failIf (decide (limits.maxEvents < log.events.length))
        (.limitExceeded "events" limits.maxEvents)
      let state ← validateEvents
        ⟨limits, protocol, log.info, endedAtMs, log.events.length⟩ 0 .new
        log.events
      pure state.references) := by
  have hquiet := h.legal.quiescent (h.ended_iff.mp hended)
  have hcount := EventSequence.new_eq_some.mpr h.eventCount
  have hlast := EventSequence.new_eq_some.mpr h.lastSequence
  rw [hcount] at hlast
  simp only [validateExport, hended, hendedAt, hcount, hlast,
    bne_self_eq_false, Bool.or_false, failIf_false, ok_bind]
  refine bind_congr_ok fun _ _ => bind_congr_ok fun state hstate => ?_
  obtain ⟨htracks, hrefs⟩ := tracks_of_legal h.legal
    (headerFits_of_represents limits protocol h hended hendedAt) state hstate
  have hcalls : state.inFlight.isEmpty = true := by
    rw [KeyedMap.isEmpty_iff]
    intro callId
    rw [htracks.inFlight, hquiet.1, Option.map_none]
  have hstreams : state.mediaStreams.isEmpty = true := by
    rw [KeyedMap.isEmpty_iff]
    intro streamId
    rw [htracks.mediaStreams, hquiet.2]
  have hassets : ¬limits.maxAssets < state.references.byDigest.len :=
    not_lt.mpr (addAll_len_le hrefs (Nat.zero_le _))
  simp only [hcalls, hstreams, hassets, Bool.not_true, decide_false,
    failIf_false, ok_bind]

end

/-- The bundle holds a recorded session exactly when what is left to test
holds. -/
theorem validateSource_of_represents (h : log.Represents sessionId)
    (hended : log.info.state = .ended)
    (hendedAt : log.info.endedAtMs = some endedAtMs)
    (hprotocol : protocol.major = 1 ∧ protocol.minor ≤ 5)
    (hevents : log.events.length ≤ limits.maxEvents) :
    (∃ assets, validateSource ⟨protocol, ⟨log.info, log.events⟩⟩ limits =
      .ok assets) ↔
    Acceptable ⟨limits, protocol, log.info, endedAtMs, log.events.length⟩
      log.events := by
  rw [← validateEvents_of_legal h.legal
    (headerFits_of_represents limits protocol h hended hendedAt)]
  have hversion : validateEventProtocol protocol = .ok () := if_pos hprotocol
  simp only [validateSource, hversion, ok_bind, not_lt.mpr hevents,
    validateExport_of_represents limits protocol h hended hendedAt,
    decide_false, failIf_false, bind_assoc, pure_bind, bind_eq_ok]
  constructor
  · rintro ⟨-, state, hstate, -⟩
    exact ⟨state, hstate⟩
  · rintro ⟨state, hstate⟩
    exact ⟨_, state, hstate, rfl⟩

end

end SessionBundle

end DeviceRail
