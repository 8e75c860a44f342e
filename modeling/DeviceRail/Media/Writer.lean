import DeviceRail.EventStore.Store
import DeviceRail.Evidence.Writer

/-!
# The media stream writer

A writer publishes the frames of one stream through an event store whose
appends may fail before they take effect or after it.  An operation holds the
lock of the writer's state from its first append to its end, so that at most
one is running; what happens between two of its waits, the store's other
clients included, is part of a run.  A run keeps the frames whose evidence was
stored and the answers the callers got, in their order.
-/

namespace DeviceRail

/-- A frame whose evidence is stored and whose event is not confirmed. -/
structure PendingFrame where
  requestId : Option RpcId
  atMs : ℕ
  frame : MediaFrame
deriving DecidableEq, Repr

/-- The request and time of the first attempt to close. -/
structure PendingTerminal where
  requestId : Option RpcId
  atMs : ℕ
deriving DecidableEq, Repr

structure WriterState where
  started : Bool
  nextFrameIndex : ℕ
  pending : Option PendingFrame
  terminalPending : Option PendingTerminal
  terminalFrameCount : Option ℕ
deriving DecidableEq, Repr

/-- What a writer is prepared with. -/
structure MediaStreamWriter where
  sessionId : SessionId
  defaultRequestId : Option RpcId
  deviceId : Option DeviceId
  stream : MediaStreamInfo
  startedAtMs : ℕ

inductive MediaStreamError where
  | event (error : EventStoreError)
  | evidence (error : EvidenceError)
  | cancelled
  | timedOut
  | ended
  | invalidFrame
deriving DecidableEq, Repr

/-- Where the evidence of a frame comes from: `push_frame` stores it and
`push_asset_frame` retains an object. -/
inductive FrameSource where
  | put (declaredSizeBytes : ℕ)
  | attach (asset : AssetRef)
deriving DecidableEq, Repr

/-- The operations of a writer; `finish` and `abort` are both `close`. -/
inductive WriterOp where
  | ensureStarted
  | push (requestId : Option RpcId) (atMs : ℕ) (keyFrame : Bool)
      (durationMs : Option ℕ) (source : FrameSource)
  | close (requestId : Option RpcId) (atMs : ℕ)
deriving DecidableEq, Repr

inductive WriterReply where
  | started
  | frame (frame : MediaFrame)
  | closed (frameCount : ℕ)
  | error (error : MediaStreamError)
deriving DecidableEq, Repr

/-- The frame of a push that returned. -/
def WriterReply.frame? : WriterReply → Option MediaFrame
  | .frame value => some value
  | _ => none

/-- `MediaStreamWriter::prepare`. -/
def WriterState.prepared : WriterState := ⟨false, 1, none, none, none⟩

/-- `next_frame_index - 1`: the number of frames the store has confirmed. -/
def WriterState.confirmed (state : WriterState) : ℕ := state.nextFrameIndex - 1

namespace MediaStreamWriter

variable (writer : MediaStreamWriter)

/-- The event of `ensure_started_locked`. -/
def startEvent : PendingEvent :=
  ⟨writer.sessionId, writer.defaultRequestId, writer.deviceId,
    writer.startedAtMs, .mediaStreamStarted writer.stream⟩

/-- The event of `flush_pending`. -/
def frameEvent (pending : PendingFrame) : PendingEvent :=
  ⟨writer.sessionId, pending.requestId, writer.deviceId, pending.atMs,
    .mediaFrameCaptured pending.frame⟩

/-- The event of `close`. -/
def endEvent (terminal : PendingTerminal) (frameCount : ℕ) : PendingEvent :=
  ⟨writer.sessionId, terminal.requestId, writer.deviceId, terminal.atMs,
    .mediaStreamEnded writer.stream.id frameCount⟩

/-- What an operation checks before it waits for the lock. -/
def check : WriterOp → Except MediaStreamError Unit
  | .push _ _ _ durationMs (.put declaredSizeBytes) =>
    if declaredSizeBytes = 0 ∨ durationMs.any (fun value =>
        decide (maxSafeInteger < value)) then .error .invalidFrame
    else .ok ()
  | .push _ _ _ durationMs (.attach asset) =>
    if asset.mediaType ≠ writer.stream.mediaType ∨ durationMs.any (fun value =>
        decide (maxSafeInteger < value)) then .error .invalidFrame
    else .ok ()
  | _ => .ok ()

end MediaStreamWriter

/-- The stream an event is about. -/
def TestEventPayload.stream? : TestEventPayload → Option MediaStreamId
  | .mediaStreamStarted stream => some stream.id
  | .mediaFrameCaptured frame => some frame.streamId
  | .mediaStreamEnded streamId _ => some streamId
  | _ => none

/-- What an event says, apart from its identity and place. -/
def TestEvent.content (event : TestEvent) : PendingEvent :=
  ⟨event.sessionId, event.requestId, event.deviceId, event.atMs, event.payload⟩

namespace MediaSystem

/-- How an append of the wrapped store goes wrong. -/
inductive Fault where
  | none
  /-- It fails and nothing happened. -/
  | before (error : EventStoreError)
  /-- It takes effect, and the acknowledgement is lost. -/
  | after (error : EventStoreError)
deriving DecidableEq, Repr

/-- An append of the wrapped store. -/
def faultyAppend (store : MemoryEventStore) (pending : PendingEvent)
    (eventId : EventId) :
    Fault → Except EventStoreError TestEvent × MemoryEventStore
  | .none => store.append pending eventId
  | .before error => (.error error, store)
  | .after error => (.error error, (store.append pending eventId).2)

/-- Where the running operation is. -/
inductive Phase where
  /-- In `ensure_started_locked`. -/
  | starting
  /-- In the first `flush_pending`. -/
  | flushing
  /-- Waits for the evidence store. -/
  | storing (frameIndex : EventSequence)
  /-- In the second `flush_pending` of a push. -/
  | committing (frame : MediaFrame)
  /-- Appends the terminal event. -/
  | ending
deriving DecidableEq, Repr

structure Running where
  op : WriterOp
  phase : Phase
deriving DecidableEq, Repr

structure System where
  store : MemoryEventStore
  state : WriterState
  current : Option Running
  /-- The frames whose evidence was stored, in order. -/
  issued : List PendingFrame
  /-- The answers of the operations, in order. -/
  replies : List WriterReply

def System.new (store : MemoryEventStore) : System :=
  ⟨store, .prepared, none, [], []⟩

inductive Label where
  /-- Another client of the store. -/
  | client (op : MemoryEventStore.Op)
  /-- An operation passes its checks and gets the lock, or fails. -/
  | call (op : WriterOp)
  /-- The running operation goes on where there is nothing to append. -/
  | proceed
  /-- The control of a push is found inactive after its flush. -/
  | inactive (error : MediaStreamError)
  | append (eventId : EventId) (fault : Fault)
  /-- The evidence store answers. -/
  | store (answer : EvidenceAnswer)
  /-- The future of the running operation is dropped. -/
  | drop

namespace System

variable (writer : MediaStreamWriter) (sys : System)

def finish (reply : WriterReply) : System :=
  { sys with current := none, replies := sys.replies ++ [reply] }

def goTo (op : WriterOp) (phase : Phase) : System :=
  { sys with current := some ⟨op, phase⟩ }

def call (op : WriterOp) : Option System :=
  match writer.check op with
  | .error error => some { sys with replies := sys.replies ++ [.error error] }
  | .ok () =>
    if sys.current.isSome then none
    else
      match op, sys.state.terminalFrameCount with
      | .close _ _, some frameCount => some (sys.finish (.closed frameCount))
      | op, _ => some (sys.goTo op .starting)

/-- The event the running operation appends next. -/
def awaits : Option PendingEvent :=
  sys.current.bind (fun running =>
    match running.phase with
    | .starting => if sys.state.started then none else some writer.startEvent
    | .flushing | .committing _ => sys.state.pending.map writer.frameEvent
    | .storing _ => none
    | .ending =>
      sys.state.terminalPending.map (fun terminal =>
        writer.endEvent terminal sys.state.confirmed))

/-- A push has got its turn: it draws the index of its frame. -/
def beginFrame (op : WriterOp) (source : FrameSource) : System :=
  match EventSequence.new sys.state.nextFrameIndex with
  | none => sys.finish (.error .invalidFrame)
  | some frameIndex =>
    match source with
    | .attach _ => sys.goTo op (.storing frameIndex)
    | .put _ =>
      match PutEvidence.new writer.sessionId writer.stream.mediaType with
      | .error error => sys.finish (.error (.evidence error))
      | .ok _ => sys.goTo op (.storing frameIndex)

def proceed : Option System :=
  match sys.current with
  | some ⟨op, .starting⟩ =>
    if sys.state.started then
      match op with
      | .ensureStarted => some (sys.finish .started)
      | .push .. =>
        if sys.state.terminalFrameCount.isSome then
          some (sys.finish (.error .ended))
        else some (sys.goTo op .flushing)
      | .close .. => some (sys.goTo op .flushing)
    else none
  | some ⟨op, .flushing⟩ =>
    if sys.state.pending.isSome then none
    else
      match op with
      | .ensureStarted => none
      | .push _ _ _ _ source => some (sys.beginFrame writer op source)
      | .close requestId atMs =>
        some ({ sys with
          state := { sys.state with
            terminalPending :=
              some (sys.state.terminalPending.getD ⟨requestId, atMs⟩) }
          }.goTo op .ending)
  | _ => none

def inactive (error : MediaStreamError) : Option System :=
  match sys.current with
  | some ⟨.push .., .flushing⟩ =>
    if sys.state.pending.isSome then none
    else some (sys.finish (.error error))
  | _ => none

/-- What an operation does when its append is acknowledged. -/
def acknowledged (running : Running) : System :=
  match running.phase with
  | .starting => { sys with state := { sys.state with started := true } }
  | .flushing =>
    { sys with
      state := { sys.state with
        pending := none, nextFrameIndex := sys.state.nextFrameIndex + 1 } }
  | .committing frame =>
    { sys with
      state := { sys.state with
        pending := none, nextFrameIndex := sys.state.nextFrameIndex + 1 }
      }.finish (.frame frame)
  | .storing _ => sys
  | .ending =>
    { sys with
      state := { sys.state with
        terminalPending := none
        terminalFrameCount := some sys.state.confirmed }
      }.finish (.closed sys.state.confirmed)

def append (eventId : EventId) (fault : Fault) : Option System :=
  match sys.current, sys.awaits writer with
  | some running, some pending =>
    let (reply, store) := faultyAppend sys.store pending eventId fault
    match reply with
    | .ok _ => some ({ sys with store := store }.acknowledged running)
    | .error error =>
      some ({ sys with store := store }.finish (.error (.event error)))
  | _, _ => none

def stored (sys : System) (answer : EvidenceAnswer) : Option System :=
  match sys.current with
  | some ⟨.push requestId atMs keyFrame durationMs source,
      .storing frameIndex⟩ =>
      match answer with
      | .error error => some (sys.finish (.error (.evidence error)))
      | .ok stored =>
        let frame : MediaFrame :=
          ⟨writer.stream.id, frameIndex, keyFrame, durationMs, stored.assetRef⟩
        let pending : PendingFrame := ⟨requestId, atMs, frame⟩
        some ({ sys with
          state := { sys.state with pending := some pending }
          issued := sys.issued ++ [pending]
          }.goTo (.push requestId atMs keyFrame durationMs source)
            (.committing frame))
  | _ => none

/-- The steps of the writer. -/
def step : Label → Option System
  | .client _ => none
  | .call op => sys.call writer op
  | .proceed => sys.proceed writer
  | .inactive error => sys.inactive error
  | .append eventId fault => sys.append writer eventId fault
  | .store answer => sys.stored writer answer
  | .drop => if sys.current.isSome then some { sys with current := none } else none

end System

/-- Other clients leave the stream of the writer alone. -/
def Foreign (writer : MediaStreamWriter) : MemoryEventStore.Op → Prop
  | .append pending _ => pending.sessionId = writer.sessionId →
      pending.payload.stream? ≠ some writer.stream.id
  | _ => True

/-- One step of the writer or of another client. -/
def Step (writer : MediaStreamWriter) (sys : System) (label : Label)
    (sys' : System) : Prop :=
  match label with
  | .client op => Foreign writer op ∧ op.Drawn sys.store ∧
      sys' = { sys with store := (sys.store.perform op).2 }
  | label => sys.step writer label = some sys'

/-- What the events of one stream say, in their order. -/
def contents (streamId : MediaStreamId) (events : List TestEvent) :
    List PendingEvent :=
  (events.filter (fun event =>
    event.payload.stream? == some streamId)).map TestEvent.content

/-- The stream does not exist yet. -/
def Unused (writer : MediaStreamWriter) (store : MemoryEventStore) : Prop :=
  ∀ log, store.sessions.lookup writer.sessionId = some log →
    contents writer.stream.id log.events = []

/-- A state of some run of a writer over a store. -/
def Reached (writer : MediaStreamWriter) (sys : System) : Prop :=
  ∃ store : MemoryEventStore, store.Reached ∧ Unused writer store ∧
    Transition.Reachable (Step writer) (System.new store) sys

def System.runLabels (writer : MediaStreamWriter) (sys : System)
    (labels : List Label) : Option System :=
  Transition.exec (System.step writer) sys labels

theorem run_of_runLabels {writer : MediaStreamWriter} {sys sys' : System}
    {labels : List Label} (h : sys.runLabels writer labels = some sys') :
    Transition.Run (Step writer) sys labels sys' := by
  refine Transition.run_of_exec (fun before label after hstep => ?_) h
  cases label with
  | client op => cases hstep
  | _ => exact hstep

end MediaSystem

end DeviceRail
