import DeviceRail.EventStore.Invariant
import DeviceRail.Media.Writer

/-!
# What a writer records

The events of the stream in the log, the frames the writer has stored evidence
for, and the writer's own state fit together in every run, whatever appends
fail: the log has the start, a prefix of the frames and at most one end, and
the writer is at most one event behind it.
-/

namespace DeviceRail.MediaSystem

open History PendingEvent List

/-! ## The events of one stream -/

variable {event : TestEvent}

section

variable {streamId : MediaStreamId} {events : List TestEvent}

theorem contents_snoc_of_eq (h : event.payload.stream? = some streamId) :
    contents streamId (events ++ [event]) =
      contents streamId events ++ [event.content] := by
  simp [contents, filter_append, h]

theorem contents_snoc_of_ne (h : event.payload.stream? ≠ some streamId) :
    contents streamId (events ++ [event]) = contents streamId events := by
  simp [contents, filter_append, h]

theorem mem_contents (hmem : event ∈ events)
    (h : event.payload.stream? = some streamId) :
    event.content ∈ contents streamId events :=
  mem_map_of_mem (mem_filter.mpr ⟨hmem, by simp [h]⟩)

/-- The effect of what an event says on the state of a stream. -/
def contentStep (streamId : MediaStreamId) (current : Option MediaStreamState)
    (pending : PendingEvent) : Option MediaStreamState :=
  match pending.payload with
  | .mediaStreamStarted stream =>
    if stream.id = streamId then some ⟨stream.mediaType, 1⟩ else current
  | .mediaFrameCaptured frame =>
    if frame.streamId = streamId then
      current.map (fun state =>
        { state with nextFrameIndex := state.nextFrameIndex + 1 })
    else current
  | .mediaStreamEnded ended _ =>
    if ended = streamId then none else current
  | _ => current

theorem streamStep_of_ne (h : event.payload.stream? ≠ some streamId)
    (current : Option MediaStreamState) :
    streamStep streamId current event = current := by
  unfold streamStep
  unfold TestEventPayload.stream? at h
  split <;> simp_all

/-- The state of a stream is that of a replay of its own events. -/
theorem openStream_eq_contents :
    openStream events streamId =
      (contents streamId events).foldl (contentStep streamId) none := by
  induction events using List.reverseRecOn with
  | nil => rfl
  | append_singleton events event ih =>
    rw [openStream_snoc]
    by_cases h : event.payload.stream? = some streamId
    · rw [contents_snoc_of_eq h, foldl_append, ← ih]
      rfl
    · rw [contents_snoc_of_ne h, streamStep_of_ne h, ih]

theorem streamStarted_of_mem {stream : MediaStreamInfo}
    {pending : PendingEvent} (hmem : pending ∈ contents stream.id events)
    (hpayload : pending.payload = .mediaStreamStarted stream) :
    StreamStarted events stream.id := by
  obtain ⟨event, hevent, rfl⟩ := mem_map.mp hmem
  refine ⟨event, (mem_filter.mp hevent).1, ?_⟩
  have hevent : event.payload = .mediaStreamStarted stream := hpayload
  simp [TestEvent.startedStream?, hevent]

end

/-! ## What the log may say -/

variable {writer : MediaStreamWriter}

/-- The start, the first frames, and perhaps the end of the stream. -/
def recorded (writer : MediaStreamWriter) (issued : List PendingFrame)
    (count : ℕ) (terminal : Option PendingTerminal) : List PendingEvent :=
  writer.startEvent :: (issued.take count).map writer.frameEvent ++
    (terminal.map (fun terminal => writer.endEvent terminal count)).toList

/-- How the writer's state and the frames it has issued fit together. -/
structure Books (writer : MediaStreamWriter) (state : WriterState)
    (issued : List PendingFrame) : Prop where
  next_pos : 0 < state.nextFrameIndex
  settled : state.pending = none → issued.length = state.confirmed
  pending : ∀ pending, state.pending = some pending →
    ∃ before, issued = before ++ [pending] ∧ before.length = state.confirmed
  indices : issued.map (fun pending => pending.frame.frameIndex.get) =
    List.range' 1 issued.length
  streams : ∀ pending ∈ issued, pending.frame.streamId = writer.stream.id
  unstarted : state.started = false → state = .prepared
  closed : ∀ count, state.terminalFrameCount = some count →
    count = state.confirmed ∧ state.pending = none

/-- What the log may say about the stream, given where the writer is. -/
inductive Stage (writer : MediaStreamWriter) (state : WriterState)
    (issued : List PendingFrame) : List PendingEvent → Prop
  | unstarted (hstarted : state.started = false) : Stage writer state issued []
  | opened {count} (hlow : state.confirmed ≤ count)
      (hhigh : count ≤ issued.length)
      (hopen : state.terminalFrameCount = none) :
      Stage writer state issued (recorded writer issued count none)
  | ended {terminal} (hstarted : state.started = true)
      (hknown : state.terminalFrameCount = none →
        state.terminalPending = some terminal) :
      Stage writer state issued
        (recorded writer issued state.confirmed (some terminal))

/-! ### Recorded events -/

variable {issued : List PendingFrame} {count : ℕ}

section

variable {terminal : Option PendingTerminal} {pending : PendingFrame}

theorem recorded_snoc_frame {before : List PendingFrame}
    (hcount : before.length = count) :
    recorded writer (before ++ [pending]) count none ++
        [writer.frameEvent pending] =
      recorded writer (before ++ [pending]) (count + 1) none := by
  subst hcount
  have htake : (before ++ [pending]).take (before.length + 1) =
      before ++ [pending] := take_of_length_le (by simp)
  simp [recorded, htake]

theorem recorded_snoc_end (terminal : PendingTerminal) :
    recorded writer issued count none ++ [writer.endEvent terminal count] =
      recorded writer issued count (some terminal) := by
  simp [recorded]

theorem recorded_issue (hcount : count ≤ issued.length) :
    recorded writer (issued ++ [pending]) count terminal =
      recorded writer issued count terminal := by
  simp only [recorded, take_append_of_le_length hcount]

theorem mem_recorded {said : PendingEvent} :
    said ∈ recorded writer issued count terminal ↔
      said = writer.startEvent ∨
        (∃ pending ∈ issued.take count, writer.frameEvent pending = said) ∨
        ∃ last, terminal = some last ∧ said = writer.endEvent last count := by
  cases terminal <;> simp [recorded, -map_take]

theorem contentStep_frames {frames : List PendingFrame}
    (hstreams : ∀ pending ∈ frames,
      pending.frame.streamId = writer.stream.id) (state : MediaStreamState) :
    (frames.map writer.frameEvent).foldl (contentStep writer.stream.id)
        (some state) =
      some { state with
        nextFrameIndex := state.nextFrameIndex + frames.length } := by
  induction frames generalizing state with
  | nil => rfl
  | cons pending rest ih =>
    have hstep : contentStep writer.stream.id (some state)
        (writer.frameEvent pending) =
        some { state with nextFrameIndex := state.nextFrameIndex + 1 } := by
      simp [contentStep, MediaStreamWriter.frameEvent, hstreams pending]
    rw [map_cons, foldl_cons, hstep,
      ih fun other hmem => hstreams other (mem_cons_of_mem _ hmem)]
    simp [Nat.add_comm, Nat.add_left_comm]

/-- The state of a stream that is open after its recorded events. -/
theorem replay_opened (hstreams : ∀ pending ∈ issued,
      pending.frame.streamId = writer.stream.id)
    (hcount : count ≤ issued.length) :
    (recorded writer issued count none).foldl (contentStep writer.stream.id)
        none =
      some ⟨writer.stream.mediaType, 1 + count⟩ := by
  have hstart : contentStep writer.stream.id none writer.startEvent =
      some ⟨writer.stream.mediaType, 1⟩ := by
    simp [contentStep, MediaStreamWriter.startEvent]
  have htaken : ∀ pending ∈ issued.take count,
      pending.frame.streamId = writer.stream.id :=
    fun pending hmem => hstreams pending (mem_of_mem_take hmem)
  simp only [recorded, Option.map_none, Option.toList_none, append_nil,
    foldl_cons, hstart]
  rw [contentStep_frames htaken, length_take, Nat.min_eq_left hcount]

theorem replay_ended (terminal : PendingTerminal) :
    (recorded writer issued count (some terminal)).foldl
      (contentStep writer.stream.id) none = none := by
  rw [← recorded_snoc_end, foldl_append]
  simp [contentStep, MediaStreamWriter.endEvent]

end

/-! ## The effect of an append -/

/-- What a recorded event and a pending one have in common for a retry. -/
def Matches (event : TestEvent) (pending : PendingEvent) : Prop :=
  event.requestId = pending.requestId ∧ event.deviceId = pending.deviceId ∧
    event.atMs = pending.atMs ∧ (event.payload == pending.payload) = true

/-- The effect of an append on the store, and whether it was acknowledged. -/
inductive Effect (store : MemoryEventStore) (pending : PendingEvent) :
    Bool → MemoryEventStore → Prop
  | kept : Effect store pending false store
  | existing {log event}
      (hlookup : store.sessions.lookup pending.sessionId = some log)
      (hmem : event ∈ log.events) (hmatch : Matches event pending) :
      Effect store pending true store
  | recorded {log log' event} (ack : Bool)
      (hlookup : store.sessions.lookup pending.sessionId = some log)
      (hcontent : event.content = pending) (hadmits : Admits log.events event)
      (hevents : log'.events = log.events ++ [event]) :
      Effect store pending ack (store.setLog pending.sessionId log')

variable {store : MemoryEventStore} {pending : PendingEvent}

theorem Effect.used {store' : MemoryEventStore} {ack : Bool}
    (h : Effect store pending ack store') :
    store'.usedSessionIds = store.usedSessionIds := by
  cases h <;> rfl

theorem matches_of_retry {log : SessionLog} {event : TestEvent}
    (h : log.exactMediaRetry pending = some event) :
    event ∈ log.events ∧ Matches event pending := by
  refine ⟨log.exactMediaRetry_mem h, ?_⟩
  have hfound := find?_some h
  simp only [Bool.and_eq_true, beq_iff_eq] at hfound
  exact ⟨hfound.1.1.1, hfound.1.1.2, hfound.1.2, hfound.2⟩

section

variable (h : store.Consistent) (pending : PendingEvent) (eventId : EventId)
include h

theorem append_effect :
    (∃ error, store.append pending eventId = (.error error, store)) ∨
      ∃ event, (store.append pending eventId).1 = .ok event ∧
        ∀ ack, Effect store pending ack (store.append pending eventId).2 := by
  rcases store.append_cases pending eventId with ⟨error, happend⟩ |
    ⟨event, log, hlookup, hretry, happend⟩ |
    ⟨log, sequence, transition, -, hlookup, hcheck, -, -, hadmitted, happend⟩
  · exact .inl ⟨error, happend⟩
  · obtain ⟨hmem, hmatch⟩ := matches_of_retry (log.admit_eq_existing hretry)
    refine .inr ⟨event, by rw [happend], fun ack => ?_⟩
    rw [happend]
    cases ack with
    | true => exact .existing hlookup hmem hmatch
    | false => exact .kept
  · have hrep := h.represents _ log hlookup
    have hlifecycle := (MemoryEventStore.checkPending_eq_ok.mp hcheck).2
    obtain ⟨-, hadmits⟩ := hrep.admits hlifecycle hadmitted eventId sequence
    refine .inr ⟨pending.toEvent eventId sequence, by rw [happend], fun ack => ?_⟩
    rw [happend]
    exact .recorded ack hlookup rfl hadmits
      (SessionLog.record_events transition)

theorem faultyAppend_effect (fault : Fault) :
    ((∃ error, (faultyAppend store pending eventId fault).1 = .error error) ∧
      Effect store pending false (faultyAppend store pending eventId fault).2) ∨
    ((∃ event, (faultyAppend store pending eventId fault).1 = .ok event) ∧
      Effect store pending true
        (faultyAppend store pending eventId fault).2) := by
  cases fault with
  | before error => exact .inl ⟨⟨error, rfl⟩, .kept⟩
  | after error =>
    refine .inl ⟨⟨error, rfl⟩, ?_⟩
    rcases append_effect h pending eventId with ⟨error, happend⟩ |
      ⟨event, -, heffect⟩
    · simp only [faultyAppend, happend]
      exact .kept
    · exact heffect false
  | none =>
    rcases append_effect h pending eventId with ⟨error, happend⟩ |
      ⟨event, hok, heffect⟩
    · refine .inl ⟨⟨error, by simp only [faultyAppend, happend]⟩, ?_⟩
      simp only [faultyAppend, happend]
      exact .kept
    · exact .inr ⟨⟨event, hok⟩, heffect true⟩

theorem append_consistent :
    (store.append pending eventId).2.Consistent ∧
      (store.append pending eventId).2.usedSessionIds =
        store.usedSessionIds := by
  constructor
  · have hstep : MemoryEventStore.Step store (.append pending eventId)
        (store.append pending eventId).2 := ⟨trivial, rfl⟩
    exact hstep.consistent h
  · rcases append_effect h pending eventId with ⟨error, happend⟩ |
      ⟨event, -, heffect⟩
    · rw [happend]
    · exact (heffect true).used

theorem faultyAppend_consistent (fault : Fault) :
    (faultyAppend store pending eventId fault).2.Consistent ∧
      (faultyAppend store pending eventId fault).2.usedSessionIds =
        store.usedSessionIds := by
  cases fault with
  | before _ => exact ⟨h, rfl⟩
  | _ => exact append_consistent h pending eventId

end

/-! ## One append and the stage of the stream -/

section

variable {state : WriterState} {log : SessionLog} {pending : PendingFrame}
  {terminal : PendingTerminal}

theorem Books.pending_index (hbooks : Books writer state issued)
    (hpending : state.pending = some pending) :
    pending.frame.frameIndex.get = state.confirmed + 1 := by
  obtain ⟨before, hissued, hlength⟩ := hbooks.pending pending hpending
  have hindices := hbooks.indices
  rw [hissued, map_append, length_append, length_singleton,
    List.range'_concat] at hindices
  have hlast := (append_inj' hindices rfl).2
  simp only [map_cons, map_nil, List.cons.injEq, and_true] at hlast
  omega

theorem Stage.open_state (hbooks : Books writer state issued)
    (hstage : Stage writer state issued (contents writer.stream.id log.events))
    {current : MediaStreamState}
    (hopen : openStream log.events writer.stream.id = some current) :
    ∃ count, state.confirmed ≤ count ∧ count ≤ issued.length ∧
      state.terminalFrameCount = none ∧ current.nextFrameIndex = 1 + count ∧
      contents writer.stream.id log.events =
        recorded writer issued count none := by
  rw [openStream_eq_contents] at hopen
  generalize contents writer.stream.id log.events = said at hstage hopen
  cases hstage with
  | unstarted _ => cases hopen
  | @opened count hlow hhigh hcount =>
    cases (replay_opened hbooks.streams hhigh).symm.trans hopen
    exact ⟨count, hlow, hhigh, hcount, rfl, rfl⟩
  | ended _ _ =>
    rw [replay_ended] at hopen
    cases hopen

theorem Stage.record_start
    (hstage : Stage writer state issued (contents writer.stream.id log.events))
    (hcontent : event.content = writer.startEvent)
    (hadmits : Admits log.events event) :
    contents writer.stream.id (log.events ++ [event]) =
        recorded writer issued 0 none ∧ state.started = false := by
  have hpayload : event.payload = .mediaStreamStarted writer.stream :=
    congrArg payload hcontent
  have hfresh : ¬StreamStarted log.events writer.stream.id := by
    unfold Admits at hadmits
    simp only [hpayload] at hadmits
    exact hadmits.1
  have hno : writer.startEvent ∉ contents writer.stream.id log.events :=
    fun hmem => hfresh (streamStarted_of_mem hmem rfl)
  rw [contents_snoc_of_eq (by rw [hpayload]; rfl), hcontent]
  generalize contents writer.stream.id log.events = said at hstage hno
  cases hstage with
  | unstarted hstarted => exact ⟨by simp [recorded], hstarted⟩
  | _ => exact absurd mem_cons_self hno

section

variable (hbooks : Books writer state issued)
  (hstage : Stage writer state issued (contents writer.stream.id log.events))
include hbooks hstage

theorem Stage.record_frame (hpending : state.pending = some pending)
    (hcontent : event.content = writer.frameEvent pending)
    (hadmits : Admits log.events event) :
    contents writer.stream.id (log.events ++ [event]) =
        recorded writer issued (state.confirmed + 1) none ∧
      state.terminalFrameCount = none := by
  obtain ⟨before, hissued, hlength⟩ := hbooks.pending pending hpending
  have hpayload : event.payload = .mediaFrameCaptured pending.frame :=
    congrArg payload hcontent
  have hstream : pending.frame.streamId = writer.stream.id :=
    hbooks.streams pending (by rw [hissued]; simp)
  have hindex := hbooks.pending_index hpending
  unfold Admits at hadmits
  simp only [hpayload] at hadmits
  obtain ⟨current, hopen, hfits⟩ := hadmits
  rw [hstream] at hopen
  obtain ⟨count, -, -, hunclosed, hnext, hsaid⟩ :=
    hstage.open_state hbooks hopen
  have hcount : count = state.confirmed := by
    have hindex' := hfits.index
    omega
  subst hcount
  refine ⟨?_, hunclosed⟩
  rw [contents_snoc_of_eq (by rw [hpayload]; exact congrArg some hstream),
    hcontent, hsaid, hissued]
  exact recorded_snoc_frame hlength

theorem Stage.record_end
    (hcontent : event.content = writer.endEvent terminal state.confirmed)
    (hadmits : Admits log.events event) :
    contents writer.stream.id (log.events ++ [event]) =
        recorded writer issued state.confirmed (some terminal) := by
  have hpayload : event.payload =
      .mediaStreamEnded writer.stream.id state.confirmed :=
    congrArg payload hcontent
  unfold Admits at hadmits
  simp only [hpayload] at hadmits
  obtain ⟨current, hopen, hframes⟩ := hadmits
  obtain ⟨count, -, -, -, hnext, hsaid⟩ := hstage.open_state hbooks hopen
  have hcount : count = state.confirmed := by omega
  subst hcount
  rw [contents_snoc_of_eq (by rw [hpayload]; rfl), hcontent, hsaid]
  exact recorded_snoc_end terminal

end

variable {payload : TestEventPayload} {stream : MediaStreamInfo}

theorem payload_of_beq_frame {frame : MediaFrame}
    (h : (payload == .mediaFrameCaptured frame) = true) :
    payload = .mediaFrameCaptured frame := by
  cases payload with
  | mediaFrameCaptured other =>
    have hframe : (other == frame) = true := h
    rw [eq_of_beq hframe]
  | _ => cases h

theorem payload_of_beq_end {streamId : MediaStreamId}
    (h : (payload == .mediaStreamEnded streamId count) = true) :
    payload = .mediaStreamEnded streamId count := by
  cases payload with
  | mediaStreamEnded other otherCount =>
    have hboth : (other == streamId && otherCount == count) = true := h
    simp only [Bool.and_eq_true, beq_iff_eq] at hboth
    rw [hboth.1, hboth.2]
  | _ => cases h

theorem stream_id_of_beq {other : MediaStreamInfo}
    (h : (stream == other) = true) : stream.id = other.id := by
  obtain ⟨id, kind, mediaType, viewport⟩ := stream
  obtain ⟨id', kind', mediaType', viewport'⟩ := other
  have hall : (id == id' && (kind == kind' && (mediaType == mediaType' &&
      viewport == viewport'))) = true := h
  simp only [Bool.and_eq_true, beq_iff_eq] at hall
  exact hall.1

theorem payload_of_beq_start
    (h : (payload == .mediaStreamStarted stream) = true) :
    ∃ other, payload = .mediaStreamStarted other ∧ other.id = stream.id := by
  cases payload with
  | mediaStreamStarted other => exact ⟨other, rfl, stream_id_of_beq h⟩
  | _ => cases h

theorem frameIndex_le_of_mem_take (hbooks : Books writer state issued)
    (hmem : pending ∈ issued.take count) :
    pending.frame.frameIndex.get ≤ count := by
  obtain ⟨i, hi, rfl⟩ := mem_take_iff_getElem.mp hmem
  have hlt : i < issued.length := lt_of_lt_of_le hi (Nat.min_le_right _ _)
  have hindex : (issued.map fun pending => pending.frame.frameIndex.get)[i]? =
      (List.range' 1 issued.length)[i]? := by rw [hbooks.indices]
  rw [getElem?_map, getElem?_eq_getElem hlt, getElem?_range' hlt] at hindex
  simp only [Option.map_some, Option.some.injEq, Nat.one_mul] at hindex
  omega

/-- A frame that is in the log already was recorded while the stream was
open. -/
theorem Stage.existing_frame (hbooks : Books writer state issued)
    (hstage : Stage writer state issued (contents writer.stream.id log.events))
    (hpending : state.pending = some pending) (hmem : event ∈ log.events)
    (hmatch : Matches event (writer.frameEvent pending)) :
    ∃ count, state.confirmed + 1 ≤ count ∧ count ≤ issued.length ∧
      state.terminalFrameCount = none ∧
      contents writer.stream.id log.events =
        recorded writer issued count none := by
  have hpayload := payload_of_beq_frame hmatch.2.2.2
  have hindex := hbooks.pending_index hpending
  have hstream : pending.frame.streamId = writer.stream.id := by
    obtain ⟨before, hissued, -⟩ := hbooks.pending pending hpending
    exact hbooks.streams pending (by rw [hissued]; simp)
  have hsaid : event.content ∈ contents writer.stream.id log.events :=
    mem_contents hmem (by rw [hpayload]; exact congrArg some hstream)
  have hat : ∀ count terminal,
      event.content ∈ recorded writer issued count terminal →
      state.confirmed + 1 ≤ count := by
    intro count terminal hin
    rcases mem_recorded.mp hin with hstart | ⟨other, hother, hsame⟩ |
      ⟨last, -, hend⟩
    · have hcontra := hpayload.symm.trans (congrArg payload hstart)
      cases hcontra
    · have hframe := (congrArg payload hsame).trans hpayload
      injection hframe with heq
      have hle := frameIndex_le_of_mem_take hbooks hother
      rwa [heq, hindex] at hle
    · have hcontra := hpayload.symm.trans (congrArg payload hend)
      cases hcontra
  generalize contents writer.stream.id log.events = said at hstage hsaid
  cases hstage with
  | unstarted _ => cases hsaid
  | @opened count _ hhigh hopen =>
    exact ⟨count, hat count none hsaid, hhigh, hopen, rfl⟩
  | ended _ _ =>
    have hcontra := hat _ _ hsaid
    omega

theorem existing_start (hmem : event ∈ log.events)
    (hmatch : Matches event writer.startEvent) :
    contents writer.stream.id log.events ≠ [] := by
  obtain ⟨other, hpayload, hid⟩ := payload_of_beq_start hmatch.2.2.2
  exact ne_nil_of_mem (mem_contents hmem
    (by rw [hpayload]; exact congrArg some hid))

theorem Stage.existing_end
    (hstage : Stage writer state issued (contents writer.stream.id log.events))
    (hmem : event ∈ log.events)
    (hmatch : Matches event (writer.endEvent terminal count)) :
    ∃ terminal, contents writer.stream.id log.events =
      recorded writer issued state.confirmed (some terminal) := by
  have hpayload := payload_of_beq_end hmatch.2.2.2
  have hsaid : event.content ∈ contents writer.stream.id log.events :=
    mem_contents hmem (by rw [hpayload]; rfl)
  generalize contents writer.stream.id log.events = said at hstage hsaid
  cases hstage with
  | unstarted _ => cases hsaid
  | opened _ _ _ =>
    rcases mem_recorded.mp hsaid with hstart | ⟨other, -, hframe⟩ |
      ⟨last, hlast, -⟩
    · have hcontra := hpayload.symm.trans (congrArg payload hstart)
      cases hcontra
    · have hcontra := (congrArg payload hframe).trans hpayload
      cases hcontra
    · cases hlast
  | @ended last _ _ => exact ⟨last, rfl⟩

end

end DeviceRail.MediaSystem
