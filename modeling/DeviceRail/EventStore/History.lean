import DeviceRail.EventStore.Log
import DeviceRail.Support.Indexed

/-!
# Legal session histories

What the event list of one session may look like, independently of any
bookkeeping.  A history is built at its end: each event is legal after the
events before it.  Calls and media streams are described by replaying the
history, and the facts about whole histories are proved by induction on how
they are built.
-/

namespace DeviceRail

open List

namespace TestEventPayload

@[simp] def startedCall? : TestEventPayload → Option Uuid
  | .actionStarted call => some call.id
  | _ => none

@[simp] def completedCall? : TestEventPayload → Option Uuid
  | .actionCompleted callId _ => some callId
  | _ => none

@[simp] def startedStream? : TestEventPayload → Option MediaStreamId
  | .mediaStreamStarted stream => some stream.id
  | _ => none

@[simp] def endedStream? : TestEventPayload → Option MediaStreamId
  | .mediaStreamEnded streamId _ => some streamId
  | _ => none

/-- The index of a frame of the given stream. -/
@[simp] def frameIndexOf? (streamId : MediaStreamId) :
    TestEventPayload → Option ℕ
  | .mediaFrameCaptured frame =>
    if frame.streamId = streamId then some frame.frameIndex.get else none
  | _ => none

end TestEventPayload

namespace TestEvent

variable (event : TestEvent)

def startedCall? : Option Uuid := event.payload.startedCall?

def completedCall? : Option Uuid := event.payload.completedCall?

def startedStream? : Option MediaStreamId := event.payload.startedStream?

def endedStream? : Option MediaStreamId := event.payload.endedStream?

def frameIndexOf? (streamId : MediaStreamId) (event : TestEvent) : Option ℕ :=
  event.payload.frameIndexOf? streamId

def isSessionEnded (event : TestEvent) : Bool := event.payload.isSessionEnded

/-- The request and device of the event. -/
def correlation : ActionCorrelation := ⟨event.requestId, event.deviceId⟩

end TestEvent

namespace History

/-- The history contains its terminal event. -/
def Ended (events : List TestEvent) : Prop :=
  ∃ event ∈ events, event.isSessionEnded = true

def CallStarted (events : List TestEvent) (callId : Uuid) : Prop :=
  ∃ event ∈ events, event.startedCall? = some callId

def CallCompleted (events : List TestEvent) (callId : Uuid) : Prop :=
  ∃ event ∈ events, event.completedCall? = some callId

def StreamStarted (events : List TestEvent) (streamId : MediaStreamId) : Prop :=
  ∃ event ∈ events, event.startedStream? = some streamId

def StreamEnded (events : List TestEvent) (streamId : MediaStreamId) : Prop :=
  ∃ event ∈ events, event.endedStream? = some streamId

/-- The frame indices recorded for a stream, in order. -/
def frameIndices (events : List TestEvent) (streamId : MediaStreamId) :
    List ℕ :=
  events.filterMap (TestEvent.frameIndexOf? streamId)

/-- Effect of one event on a call: its correlation while it is open. -/
def callStep (callId : Uuid) (current : Option ActionCorrelation)
    (event : TestEvent) : Option ActionCorrelation :=
  if event.startedCall? = some callId then some event.correlation
  else if event.completedCall? = some callId then none
  else current

/-- The correlation of a call that is open at the end of the history. -/
def openCall (events : List TestEvent) (callId : Uuid) :
    Option ActionCorrelation :=
  events.foldl (callStep callId) none

/-- Effect of one event on a media stream. -/
def streamStep (streamId : MediaStreamId) (current : Option MediaStreamState)
    (event : TestEvent) : Option MediaStreamState :=
  match event.payload with
  | .mediaStreamStarted stream =>
    if stream.id = streamId then some ⟨stream.mediaType, 1⟩ else current
  | .mediaFrameCaptured frame =>
    if frame.streamId = streamId then
      current.map (fun state =>
        { state with nextFrameIndex := state.nextFrameIndex + 1 })
    else current
  | .mediaStreamEnded ended _ =>
    if ended = streamId then none else current
  | _ => current

/-- The state of a stream that is open at the end of the history. -/
def openStream (events : List TestEvent) (streamId : MediaStreamId) :
    Option MediaStreamState :=
  events.foldl (streamStep streamId) none

/-- A media stream declaration that can be recorded. -/
def DeclarationValid (stream : MediaStreamInfo) : Prop :=
  validateMediaType stream.mediaType = .ok () ∧
    ∀ viewport, stream.viewport = some viewport → viewport.isUsable = true

/-- A frame that can be recorded for a stream in the given state. -/
structure FrameFits (state : MediaStreamState) (frame : MediaFrame) :
    Prop where
  index : frame.frameIndex.get = state.nextFrameIndex
  mediaType : frame.evidence.mediaType = state.mediaType
  canonical : ∃ digest, Sha256Digest.fromAssetRef frame.evidence = .ok digest
  duration : ∀ value, frame.durationMs = some value → value ≤ maxSafeInteger

/-- The event may follow the history. -/
def Admits (events : List TestEvent) (event : TestEvent) : Prop :=
  match event.payload with
  | .sessionStarted => False
  | .sessionEnded _ _ =>
    (∀ callId, openCall events callId = none) ∧
      ∀ streamId, openStream events streamId = none
  | .actionStarted call => ¬CallStarted events call.id
  | .actionCompleted callId outcome =>
    openCall events callId = some event.correlation ∧
      outcome.namesOtherCall callId = false
  | .mediaStreamStarted stream =>
    ¬StreamStarted events stream.id ∧ DeclarationValid stream
  | .mediaFrameCaptured frame =>
    ∃ state, openStream events frame.streamId = some state ∧
      FrameFits state frame
  | .mediaStreamEnded streamId frameCount =>
    ∃ state, openStream events streamId = some state ∧
      frameCount = state.nextFrameIndex - 1
  | .observationCaptured _ => True
  | .verdictRecorded _ => True
  | .error _ => True

/-- The legal histories of a session. -/
inductive Legal (sessionId : SessionId) : List TestEvent → Prop
  | start {event} :
      event.sessionId = sessionId → event.sequence = .first →
      event.payload = .sessionStarted → event.atMs ≤ maxSafeInteger →
      Legal sessionId [event]
  | record {events event} :
      Legal sessionId events → ¬Ended events →
      event.sessionId = sessionId →
      event.sequence.get = events.length + 1 →
      event.atMs ≤ maxSafeInteger → Admits events event →
      Legal sessionId (events ++ [event])

/-! ## Replay equations -/

variable {events : List TestEvent}

section

variable {event : TestEvent}

@[simp] theorem openCall_snoc (callId : Uuid) :
    openCall (events ++ [event]) callId =
      callStep callId (openCall events callId) event := by
  simp [openCall]

variable (streamId : MediaStreamId)

@[simp] theorem openStream_snoc :
    openStream (events ++ [event]) streamId =
      streamStep streamId (openStream events streamId) event := by
  simp [openStream]

@[simp] theorem ended_snoc :
    Ended (events ++ [event]) ↔ Ended events ∨ event.isSessionEnded = true := by
  simp [Ended, or_and_right, exists_or]

@[simp] theorem callStarted_snoc (callId : Uuid) :
    CallStarted (events ++ [event]) callId ↔
      CallStarted events callId ∨ event.startedCall? = some callId := by
  simp [CallStarted, or_and_right, exists_or]

@[simp] theorem callCompleted_snoc (callId : Uuid) :
    CallCompleted (events ++ [event]) callId ↔
      CallCompleted events callId ∨ event.completedCall? = some callId := by
  simp [CallCompleted, or_and_right, exists_or]

@[simp] theorem streamStarted_snoc :
    StreamStarted (events ++ [event]) streamId ↔
      StreamStarted events streamId ∨ event.startedStream? = some streamId := by
  simp [StreamStarted, or_and_right, exists_or]

@[simp] theorem streamEnded_snoc :
    StreamEnded (events ++ [event]) streamId ↔
      StreamEnded events streamId ∨ event.endedStream? = some streamId := by
  simp [StreamEnded, or_and_right, exists_or]

theorem frameIndices_snoc :
    frameIndices (events ++ [event]) streamId =
      frameIndices events streamId ++
        (event.frameIndexOf? streamId).toList := by
  unfold frameIndices
  cases h : event.frameIndexOf? streamId <;> simp [h]

end

/-! ## Facts about whole histories -/

section

variable {sessionId : SessionId}

section

variable (h : Legal sessionId events) {event : TestEvent}

include h

theorem Legal.ne_nil : events ≠ [] := by cases h <;> simp

/-- What is known about an event of a legal history, by its position. -/
theorem Legal.event_at {i : ℕ} (hi : events[i]? = some event) :
    event.sessionId = sessionId ∧ event.sequence.get = i + 1 ∧
      event.atMs ≤ maxSafeInteger ∧
      ((i = 0 ∧ event.payload = .sessionStarted) ∨
        Legal sessionId (events.take i) ∧ Admits (events.take i) event) := by
  induction h with
  | start hid hseq hpayload hat =>
    rw [getElem?_singleton] at hi
    split at hi <;> cases hi
    next hzero => exact ⟨hid, by simp [hseq, hzero], hat, .inl ⟨hzero, hpayload⟩⟩
  | record hlegal _ hid hseq hat hadmits ih =>
    rcases Indexed.getElem?_snoc_eq_some.mp hi with hold | ⟨rfl, rfl⟩
    · rw [List.take_append_of_le_length (List.getElem?_eq_some_iff.mp hold).1.le]
      exact ih hold
    · rw [List.take_left]
      exact ⟨hid, hseq, hat, .inr ⟨hlegal, hadmits⟩⟩

/-- Every event of a legal history is of its session and in time, and all but
the first were admitted. -/
theorem Legal.admitted (hmem : event ∈ events) :
    event.sessionId = sessionId ∧ event.atMs ≤ maxSafeInteger ∧
      (event.payload = .sessionStarted ∨ ∃ before, Admits before event) := by
  obtain ⟨i, hi⟩ := getElem?_of_mem hmem
  obtain ⟨hid, -, hat, hcase⟩ := h.event_at hi
  exact ⟨hid, hat, hcase.imp And.right fun hrest => ⟨_, hrest.2⟩⟩

/-- Sequence numbers count the events. -/
theorem Legal.sequence_eq :
    ∀ i event, events[i]? = some event → event.sequence.get = i + 1 :=
  fun _ _ hi => (h.event_at hi).2.1

/-- The start event is the first event and no other. -/
theorem Legal.sessionStarted_iff :
    ∀ i event, events[i]? = some event →
      (event.payload = .sessionStarted ↔ i = 0) := by
  intro i event hi
  rcases (h.event_at hi).2.2.2 with ⟨rfl, hpayload⟩ | ⟨hlegal, hadmits⟩
  · simp [hpayload]
  · constructor
    · intro hstarted
      simp [Admits, hstarted] at hadmits
    · rintro rfl
      exact absurd rfl hlegal.ne_nil

theorem Legal.sessionEnded_last :
    ∀ i event, events[i]? = some event → event.isSessionEnded = true →
      i + 1 = events.length := by
  induction h with
  | start _ _ hpayload _ =>
    intro i event hi hended
    rw [getElem?_singleton] at hi
    split at hi <;> cases hi
    next hzero => simp [hzero]
  | record _ hopen _ _ _ _ _ =>
    intro i event hi hended
    rcases Indexed.getElem?_snoc_eq_some.mp hi with hold | ⟨rfl, rfl⟩
    · exact absurd ⟨event, mem_of_getElem? hold, hended⟩ hopen
    · simp

/-- The last event tells whether the history is complete. -/
theorem Legal.getLast?_isSessionEnded :
    events.getLast?.any (·.isSessionEnded) = true ↔ Ended events := by
  cases h with
  | start _ _ _ _ => simp [Ended]
  | record _ hopen _ _ _ _ => simp [hopen]

end

/-! ### Calls -/

variable {event : TestEvent} {callId : Uuid} {streamId : MediaStreamId}
  {current : MediaStreamState}

theorem completedCall?_of_startedCall?
    (h : event.startedCall? = some callId) : event.completedCall? = none := by
  unfold TestEvent.startedCall? at h
  unfold TestEvent.completedCall?
  cases hpayload : event.payload <;> simp_all

theorem Admits.not_callStarted
    (h : Admits events event) (hstart : event.startedCall? = some callId) :
    ¬CallStarted events callId := by
  unfold TestEvent.startedCall? at hstart
  unfold Admits at h
  cases hpayload : event.payload <;> simp_all

theorem Admits.openCall_eq
    (h : Admits events event) (hdone : event.completedCall? = some callId) :
    openCall events callId = some event.correlation := by
  unfold TestEvent.completedCall? at hdone
  unfold Admits at h
  cases hpayload : event.payload <;> simp_all

section

variable (h : Legal sessionId events)

include h

/-- A call is open exactly when it was started and not completed, and it then
carries the correlation of its start. -/
theorem Legal.openCall_eq_some_iff (callId : Uuid) :
    (CallCompleted events callId → CallStarted events callId) ∧
      ∀ correlation, openCall events callId = some correlation ↔
        (∃ event ∈ events, event.startedCall? = some callId ∧
          event.correlation = correlation) ∧
        ¬CallCompleted events callId := by
  induction h with
  | @start event _ _ hpayload _ =>
    have hstart : event.startedCall? = none := by
      simp [TestEvent.startedCall?, hpayload]
    have hdone : event.completedCall? = none := by
      simp [TestEvent.completedCall?, hpayload]
    simp [CallCompleted, openCall, callStep, hstart, hdone]
  | @record events event _ _ _ _ _ hadmits ih =>
    obtain ⟨hcompleted, hopen⟩ := ih
    rw [callCompleted_snoc, callStarted_snoc, openCall_snoc, callStep]
    split_ifs with hstart hdone
    · have hfresh := hadmits.not_callStarted hstart
      have hnot : ¬CallCompleted events callId :=
        fun hdone => hfresh (hcompleted hdone)
      have hnone := completedCall?_of_startedCall? hstart
      refine ⟨fun _ => Or.inr hstart, fun correlation => ?_⟩
      have hold : ¬∃ earlier ∈ events, earlier.startedCall? = some callId ∧
          earlier.correlation = correlation := by
        rintro ⟨earlier, hmem, hstarted, -⟩
        exact hfresh ⟨earlier, hmem, hstarted⟩
      simp [or_and_right, exists_or, hold, hstart, hnot, hnone]
    · have hcall := hadmits.openCall_eq hdone
      obtain ⟨⟨start, hmem, hstarted, -⟩, -⟩ := (hopen _).mp hcall
      refine ⟨fun _ => Or.inl ⟨start, hmem, hstarted⟩, ?_⟩
      simp [hdone]
    · refine ⟨?_, fun correlation => ?_⟩
      · rintro (hold | hnew)
        · exact Or.inl (hcompleted hold)
        · exact absurd hnew hdone
      · rw [hopen correlation]
        simp [hstart, hdone, or_and_right, exists_or]

theorem Legal.startedCalls_nodup :
    (events.filterMap TestEvent.startedCall?).Nodup := by
  induction h with
  | @start event _ _ _ _ => cases hs : event.startedCall? <;> simp [hs]
  | record _ _ _ _ _ hadmits ih =>
    apply Indexed.filterMap_nodup_snoc ih
    intro callId hstart hmem
    exact hadmits.not_callStarted hstart (by simpa [CallStarted] using hmem)

theorem Legal.completedCalls_nodup :
    (events.filterMap TestEvent.completedCall?).Nodup := by
  induction h with
  | @start event _ _ _ _ => cases hs : event.completedCall? <;> simp [hs]
  | record hlegal _ _ _ _ hadmits ih =>
    apply Indexed.filterMap_nodup_snoc ih
    intro callId hdone hmem
    have hcall := hadmits.openCall_eq hdone
    have hopen := ((hlegal.openCall_eq_some_iff callId).2 _).mp hcall
    exact hopen.2 (by simpa [CallCompleted] using hmem)

/-- Before every completion there is the start of the same call, with the same
correlation. -/
theorem Legal.start_before_completion :
    ∀ (j : ℕ) (done : TestEvent) (callId : Uuid), events[j]? = some done →
      done.completedCall? = some callId →
      ∃ (i : ℕ) (start : TestEvent), i < j ∧ events[i]? = some start ∧
        start.startedCall? = some callId ∧
        start.correlation = done.correlation := by
  intro j done callId hj hdone
  rcases (h.event_at hj).2.2.2 with ⟨-, hpayload⟩ | ⟨hlegal, hadmits⟩
  · simp [TestEvent.completedCall?, hpayload] at hdone
  · have hcall := hadmits.openCall_eq hdone
    obtain ⟨⟨start, hmem, hstart, hcorrelation⟩, -⟩ :=
      ((hlegal.openCall_eq_some_iff callId).2 _).mp hcall
    obtain ⟨i, hi⟩ := getElem?_of_mem hmem
    rw [getElem?_take, Option.ite_none_right_eq_some] at hi
    exact ⟨i, start, hi.1, hi.2, hstart, hcorrelation⟩

end

/-! ### Media streams -/

/-- The media type a stream was declared with. -/
def DeclaredAs (events : List TestEvent) (streamId : MediaStreamId)
    (mediaType : String) : Prop :=
  ∃ event ∈ events, ∃ stream, event.payload = .mediaStreamStarted stream ∧
    stream.id = streamId ∧ stream.mediaType = mediaType

theorem declaredAs_snoc (streamId : MediaStreamId) (mediaType : String) :
    DeclaredAs (events ++ [event]) streamId mediaType ↔
      DeclaredAs events streamId mediaType ∨
        ∃ stream, event.payload = .mediaStreamStarted stream ∧
          stream.id = streamId ∧ stream.mediaType = mediaType := by
  simp [DeclaredAs, or_and_right, exists_or]

theorem DeclaredAs.streamStarted
    {mediaType : String} (h : DeclaredAs events streamId mediaType) :
    StreamStarted events streamId := by
  obtain ⟨event, hmem, stream, hpayload, hid, -⟩ := h
  refine ⟨event, hmem, ?_⟩
  simp [TestEvent.startedStream?, hpayload, hid]

/-- What a history says about one stream. -/
structure StreamFacts (events : List TestEvent) (streamId : MediaStreamId) :
    Prop where
  started_of_ended : StreamEnded events streamId → StreamStarted events streamId
  unstarted : ¬StreamStarted events streamId → frameIndices events streamId = []
  indices : frameIndices events streamId =
    List.range' 1 (frameIndices events streamId).length
  open_iff : ∀ state, openStream events streamId = some state ↔
    DeclaredAs events streamId state.mediaType ∧
      ¬StreamEnded events streamId ∧
      state.nextFrameIndex = 1 + (frameIndices events streamId).length

/-- An event that neither declares, extends nor ends the stream. -/
def Unrelated (streamId : MediaStreamId) (event : TestEvent) : Prop :=
  event.startedStream? ≠ some streamId ∧
    event.endedStream? ≠ some streamId ∧
    event.frameIndexOf? streamId = none

theorem streamStep_unrelated
    (h : Unrelated streamId event) (current : Option MediaStreamState) :
    streamStep streamId current event = current := by
  obtain ⟨hstart, hend, hframe⟩ := h
  unfold TestEvent.startedStream? at hstart
  unfold TestEvent.endedStream? at hend
  unfold TestEvent.frameIndexOf? at hframe
  unfold streamStep
  cases hpayload : event.payload <;> simp_all

theorem StreamFacts.snoc_unrelated (h : StreamFacts events streamId)
    (hevent : Unrelated streamId event) :
    StreamFacts (events ++ [event]) streamId := by
  have hstep := streamStep_unrelated hevent
  obtain ⟨hstart, hend, hframe⟩ := hevent
  have hframes : frameIndices (events ++ [event]) streamId =
      frameIndices events streamId := by
    simp [frameIndices_snoc, hframe]
  have hdeclared : ∀ mediaType,
      DeclaredAs (events ++ [event]) streamId mediaType ↔
        DeclaredAs events streamId mediaType := by
    intro mediaType
    rw [declaredAs_snoc, or_iff_left]
    rintro ⟨stream, hpayload, hid, -⟩
    simp [TestEvent.startedStream?, hpayload, hid] at hstart
  constructor
  · simpa [hstart, hend] using h.started_of_ended
  · simpa [hstart, hframes] using h.unstarted
  · rw [hframes]
    exact h.indices
  · intro state
    rw [openStream_snoc, hstep, hframes, hdeclared, h.open_iff]
    simp [hend]

theorem StreamFacts.snoc_started
    {stream : MediaStreamInfo} (h : StreamFacts events stream.id)
    (hpayload : event.payload = .mediaStreamStarted stream)
    (hfresh : ¬StreamStarted events stream.id) :
    StreamFacts (events ++ [event]) stream.id := by
  have hstart : event.startedStream? = some stream.id := by
    simp [TestEvent.startedStream?, hpayload]
  have hend : event.endedStream? = none := by
    simp [TestEvent.endedStream?, hpayload]
  have hnotEnded : ¬StreamEnded events stream.id :=
    fun hended => hfresh (h.started_of_ended hended)
  have hframes : frameIndices (events ++ [event]) stream.id = [] := by
    simp [frameIndices_snoc, h.unstarted hfresh, TestEvent.frameIndexOf?,
      hpayload]
  constructor
  · simp [hstart]
  · simp [hstart]
  · rw [hframes]
    rfl
  · intro state
    have hdeclared : ∀ mediaType, ¬DeclaredAs events stream.id mediaType :=
      fun mediaType hold => hfresh hold.streamStarted
    rw [openStream_snoc, declaredAs_snoc, hframes]
    simp only [streamStep, hpayload, if_true, hdeclared, false_or,
      streamEnded_snoc, hnotEnded, hend]
    constructor
    · intro heq
      cases heq
      simp
    · rintro ⟨⟨declared, heq, -, hmedia⟩, -, hnext⟩
      cases heq
      simp only [length_nil, Nat.add_zero] at hnext
      rw [hmedia, ← hnext]

theorem StreamFacts.snoc_frame {frame : MediaFrame}
    (h : StreamFacts events frame.streamId)
    (hpayload : event.payload = .mediaFrameCaptured frame)
    (hopen : openStream events frame.streamId = some current)
    (hindex : frame.frameIndex.get = current.nextFrameIndex) :
    StreamFacts (events ++ [event]) frame.streamId := by
  obtain ⟨hdeclared, hnotEnded, hnext⟩ := (h.open_iff current).mp hopen
  have hstart : event.startedStream? = none := by
    simp [TestEvent.startedStream?, hpayload]
  have hend : event.endedStream? = none := by
    simp [TestEvent.endedStream?, hpayload]
  have hframes : frameIndices (events ++ [event]) frame.streamId =
      frameIndices events frame.streamId ++
        [1 + (frameIndices events frame.streamId).length] := by
    rw [frameIndices_snoc, ← hnext, ← hindex]
    simp [TestEvent.frameIndexOf?, hpayload]
  constructor
  · simpa [hstart, hend] using h.started_of_ended
  · intro hfresh
    rw [streamStarted_snoc] at hfresh
    exact absurd (Or.inl hdeclared.streamStarted) hfresh
  · rw [hframes, length_append, length_singleton,
      List.range'_concat, Nat.one_mul, ← h.indices]
  · intro state
    have hold := h.open_iff
    rw [openStream_snoc, declaredAs_snoc, hframes]
    simp only [streamStep, hpayload, if_true, hopen, Option.map_some,
      Option.some.injEq, streamEnded_snoc, hend, length_append,
      length_singleton]
    constructor
    · rintro rfl
      exact ⟨Or.inl hdeclared, by simp [hnotEnded], by simp [hnext]; omega⟩
    · rintro ⟨hdeclared' | ⟨stream, heq, -⟩, -, hnext'⟩
      · have hsame : openStream events frame.streamId =
            some ⟨state.mediaType, current.nextFrameIndex⟩ :=
          (hold _).mpr ⟨hdeclared', hnotEnded, hnext⟩
        rw [hopen, Option.some.injEq] at hsame
        have hmedia : current.mediaType = state.mediaType := by rw [hsame]
        rw [hmedia, hnext]
        cases state
        simp only at hnext'
        rw [hnext', Nat.add_assoc]
      · cases heq

theorem StreamFacts.snoc_ended {frameCount : ℕ}
    (h : StreamFacts events streamId)
    (hpayload : event.payload = .mediaStreamEnded streamId frameCount)
    (hopen : openStream events streamId = some current) :
    StreamFacts (events ++ [event]) streamId := by
  obtain ⟨hdeclared, -, -⟩ := (h.open_iff current).mp hopen
  have hend : event.endedStream? = some streamId := by
    simp [TestEvent.endedStream?, hpayload]
  have hframes : frameIndices (events ++ [event]) streamId =
      frameIndices events streamId := by
    simp [frameIndices_snoc, TestEvent.frameIndexOf?, hpayload]
  constructor
  · intro _
    rw [streamStarted_snoc]
    exact Or.inl hdeclared.streamStarted
  · intro hfresh
    rw [streamStarted_snoc] at hfresh
    exact absurd (Or.inl hdeclared.streamStarted) hfresh
  · rw [hframes]
    exact h.indices
  · intro state
    simp [streamStep, hpayload, hend]

theorem Legal.streamFacts (h : Legal sessionId events)
    (streamId : MediaStreamId) : StreamFacts events streamId := by
  induction h with
  | @start event _ _ hpayload _ =>
    constructor <;>
      simp [StreamEnded, StreamStarted, DeclaredAs, frameIndices, openStream,
        streamStep, TestEvent.startedStream?, TestEvent.endedStream?,
        TestEvent.frameIndexOf?, hpayload]
  | @record events event _ _ _ _ _ hadmits ih =>
    by_cases hunrelated : Unrelated streamId event
    · exact ih.snoc_unrelated hunrelated
    · unfold Admits at hadmits
      unfold Unrelated TestEvent.startedStream? TestEvent.endedStream?
        TestEvent.frameIndexOf? at hunrelated
      cases hpayload : event.payload with
      | mediaStreamStarted stream =>
        simp only [hpayload] at hadmits
        have hid : stream.id = streamId := by
          by_contra hne
          simp [hpayload, hne] at hunrelated
        subst hid
        exact ih.snoc_started hpayload hadmits.1
      | mediaFrameCaptured frame =>
        simp only [hpayload] at hadmits
        have hid : frame.streamId = streamId := by
          by_contra hne
          simp [hpayload, hne] at hunrelated
        subst hid
        obtain ⟨state, hopen, hfits⟩ := hadmits
        exact ih.snoc_frame hpayload hopen hfits.index
      | mediaStreamEnded ended frameCount =>
        simp only [hpayload] at hadmits
        have hid : ended = streamId := by
          by_contra hne
          simp [hpayload, hne] at hunrelated
        subst hid
        obtain ⟨state, hopen, -⟩ := hadmits
        exact ih.snoc_ended hpayload hopen
      | _ => simp [hpayload] at hunrelated

/-- No call and no stream is open after the terminal event. -/
theorem Legal.quiescent (h : Legal sessionId events) (hended : Ended events) :
    (∀ callId, openCall events callId = none) ∧
      ∀ streamId, openStream events streamId = none := by
  cases h with
  | start _ _ hpayload _ =>
    simp [Ended, TestEvent.isSessionEnded, hpayload] at hended
  | @record events event _ hopen _ _ _ hadmits =>
    have hlast : event.payload.isSessionEnded = true := by
      rcases ended_snoc.mp hended with hold | hnew
      · exact absurd hold hopen
      · exact hnew
    cases hpayload : event.payload <;> simp_all
    next outcome reason =>
      simp only [Admits, hpayload] at hadmits
      simp [callStep, streamStep, TestEvent.startedCall?,
        TestEvent.completedCall?, hpayload, hadmits]

end

end History

end DeviceRail
