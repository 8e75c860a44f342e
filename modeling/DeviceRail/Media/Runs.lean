import DeviceRail.Media.Recording

/-!
# Runs of a media stream writer

Every step of the writer and of the other clients of its store keeps the log of
the stream, the frames the writer has issued and the writer's own state in
step.  So the log of the stream has every frame once and in order, whatever
appends fail before or after their effect.
-/

namespace DeviceRail.MediaSystem

open History List

variable {writer : MediaStreamWriter} {store : MemoryEventStore}

/-! ## The other clients of the store -/

/-- What a call of the store can do to the events of a session. -/
inductive Grows (store : MemoryEventStore) (op : MemoryEventStore.Op)
    (sessionId : SessionId) (events : List TestEvent) : Prop
  | same {log} (hlookup : store.sessions.lookup sessionId = some log)
      (hevents : events = log.events)
  | ended {log event} (hlookup : store.sessions.lookup sessionId = some log)
      (hevents : events = log.events ++ [event])
      (hpayload : event.payload.stream? = none)
  | appended {log pending eventId sequence}
      (hlookup : store.sessions.lookup sessionId = some log)
      (hop : op = .append pending eventId)
      (hsession : pending.sessionId = sessionId)
      (hevents : events = log.events ++ [pending.toEvent eventId sequence])
  | created {event} (hfresh : sessionId ∉ store.usedSessionIds)
      (hevents : events = [event])
      (hpayload : event.payload = .sessionStarted)

section

variable {sessionId : SessionId} {after : SessionLog} {op : MemoryEventStore.Op}

theorem grows_of_perform
    (hafter : (store.perform op).2.sessions.lookup sessionId = some after) :
    Grows store op sessionId after.events := by
  have hfate := store.perform_fate op sessionId
  rw [hafter] at hfate
  generalize hbefore : store.sessions.lookup sessionId = before at hfate
  cases hfate with
  | kept hevents => exact .same hbefore hevents
  | created hfresh hevents hpayload => exact .created hfresh hevents hpayload
  | added hevents hadds =>
    cases op with
    | append pending eventId =>
      obtain ⟨hsession, sequence, rfl⟩ := hadds
      exact .appended hbefore rfl hsession.symm hevents
    | endSession command eventId =>
      obtain ⟨-, sequence, rfl⟩ := hadds
      exact .ended hbefore hevents rfl
    | _ => exact hadds.elim

end

/-! ## What holds in every run -/

/-- Where the running operation can be. -/
structure Fits (state : WriterState) (running : Running) : Prop where
  started : running.phase ≠ .starting → state.started = true
  unclosed : (running.phase ≠ .starting ∨ ∃ requestId atMs,
    running.op = .close requestId atMs) → state.terminalFrameCount = none
  storing : ∀ frameIndex, running.phase = .storing frameIndex →
    state.pending = none ∧ frameIndex.get = state.nextFrameIndex
  committing : ∀ frame, running.phase = .committing frame →
    ∃ pending, state.pending = some pending ∧ pending.frame = frame
  ending : running.phase = .ending →
    state.pending = none ∧ state.terminalPending.isSome = true

/-- The facts that hold in every state of a run. -/
structure Sound (writer : MediaStreamWriter) (sys : System) : Prop where
  store : sys.store.Consistent
  books : Books writer sys.state sys.issued
  running : ∀ running, sys.current = some running → Fits sys.state running
  unborn : writer.sessionId ∉ sys.store.usedSessionIds →
    sys.state.started = false
  staged : ∀ log, sys.store.sessions.lookup writer.sessionId = some log →
    Stage writer sys.state sys.issued (contents writer.stream.id log.events)
  replied : List.Sublist (sys.replies.filterMap WriterReply.frame?)
    ((sys.issued.take sys.state.confirmed).map PendingFrame.frame)

variable {sys sys' : System} {state : WriterState} {issued : List PendingFrame}

section

variable {label : Label} {running : Running} {op : WriterOp}

/-! ## What a step does -/

/-- The references the evidence store answered with, one for each object it
stored or retained for a frame. -/
def answered (labels : List Label) : List AssetRef :=
  labels.filterMap (fun label =>
    match label with
    | .store (.ok stored) => some stored.assetRef
    | _ => none)

/-- The event that an operation appends, and why. -/
inductive Awaits (writer : MediaStreamWriter) (state : WriterState) :
    Phase → PendingEvent → Prop
  | start (hstarted : state.started = false) :
      Awaits writer state .starting writer.startEvent
  | flush {pending} (hpending : state.pending = some pending) :
      Awaits writer state .flushing (writer.frameEvent pending)
  | commit {frame pending} (hpending : state.pending = some pending) :
      Awaits writer state (.committing frame) (writer.frameEvent pending)
  | finish {terminal} (hterminal : state.terminalPending = some terminal) :
      Awaits writer state .ending (writer.endEvent terminal state.confirmed)

theorem awaits_cases {pending : PendingEvent}
    (hcurrent : sys.current = some running)
    (h : sys.awaits writer = some pending) :
    Awaits writer sys.state running.phase pending := by
  obtain ⟨op, phase⟩ := running
  simp only [System.awaits, hcurrent, Option.bind_some] at h
  cases phase with
  | starting =>
    obtain ⟨hstarted, hpending⟩ := Option.ite_none_left_eq_some.mp h
    cases hpending
    exact .start (by simpa using hstarted)
  | flushing =>
    obtain ⟨frame, hframe, rfl⟩ := Option.map_eq_some_iff.mp h
    exact .flush hframe
  | storing _ => cases h
  | committing _ =>
    obtain ⟨frame, hframe, rfl⟩ := Option.map_eq_some_iff.mp h
    exact .commit hframe
  | ending =>
    obtain ⟨terminal, hterminal, rfl⟩ := Option.map_eq_some_iff.mp h
    exact .finish hterminal

/-- The steps, with what is known when they are taken. -/
inductive Move (writer : MediaStreamWriter) (sys : System) :
    Label → System → Prop
  | client {op : MemoryEventStore.Op} (hforeign : Foreign writer op)
      (hdrawn : op.Drawn sys.store) :
      Move writer sys (.client op)
        { sys with store := (sys.store.perform op).2 }
  | refused {op error} :
      Move writer sys (.call op)
        { sys with replies := sys.replies ++ [.error error] }
  | called {op : WriterOp} (hcheck : writer.check op = .ok ())
      (hfits : Fits sys.state ⟨op, .starting⟩) :
      Move writer sys (.call op) (sys.goTo op .starting)
  | finished {label reply} (hreply : reply.frame? = none)
      (hnone : answered [label] = []) : Move writer sys label (sys.finish reply)
  | goes {op phase phase'} (hcurrent : sys.current = some ⟨op, phase⟩)
      (hfits : Fits sys.state ⟨op, phase'⟩) :
      Move writer sys .proceed (sys.goTo op phase')
  /-- The first attempt to close sets the terminal event of all later ones. -/
  | ends {requestId atMs}
      (hcurrent : sys.current = some ⟨.close requestId atMs, .flushing⟩)
      (hpending : sys.state.pending = none) :
      Move writer sys .proceed (System.goTo
        { sys with
          state := { sys.state with
            terminalPending :=
              some (sys.state.terminalPending.getD ⟨requestId, atMs⟩) } }
        (.close requestId atMs) .ending)
  /-- The frame of a push is issued when its evidence is stored. -/
  | issued {requestId atMs keyFrame durationMs source frameIndex stored}
      (hcurrent : sys.current = some
        ⟨.push requestId atMs keyFrame durationMs source,
          .storing frameIndex⟩) :
      Move writer sys (.store (.ok stored)) (System.goTo
        { sys with
          state := { sys.state with
            pending := some ⟨requestId, atMs, ⟨writer.stream.id, frameIndex,
              keyFrame, durationMs, stored.assetRef⟩⟩ }
          issued := sys.issued ++ [⟨requestId, atMs, ⟨writer.stream.id,
            frameIndex, keyFrame, durationMs, stored.assetRef⟩⟩] }
        (.push requestId atMs keyFrame durationMs source)
        (.committing ⟨writer.stream.id, frameIndex, keyFrame, durationMs,
          stored.assetRef⟩))
  | failed {running pending eventId fault store' error}
      (hcurrent : sys.current = some running)
      (hawaits : Awaits writer sys.state running.phase pending)
      (hconsistent : store'.Consistent)
      (heffect : Effect sys.store pending false store') :
      Move writer sys (.append eventId fault)
        (System.finish { sys with store := store' } (.error error))
  | acknowledged {running pending eventId fault store'}
      (hcurrent : sys.current = some running)
      (hawaits : Awaits writer sys.state running.phase pending)
      (hconsistent : store'.Consistent)
      (heffect : Effect sys.store pending true store') :
      Move writer sys (.append eventId fault)
        (System.acknowledged { sys with store := store' } running)
  | dropped : Move writer sys .drop { sys with current := none }

theorem move_call (h : sys.call writer op = some sys') :
    Move writer sys (.call op) sys' := by
  unfold System.call at h
  split at h
  next => cases h; exact .refused
  next hcheck =>
    split at h
    next => cases h
    next =>
      split at h
      next => cases h; exact .finished rfl rfl
      next hnone =>
        cases h
        refine .called hcheck ⟨fun hphase => absurd rfl hphase, ?_, nofun,
          nofun, nofun⟩
        rintro (hphase | ⟨requestId, atMs, rfl⟩)
        · exact absurd rfl hphase
        · cases hcount : sys.state.terminalFrameCount with
          | none => rfl
          | some count => exact absurd hcount (hnone requestId atMs count rfl)

theorem move_beginFrame (source : FrameSource)
    (hcurrent : sys.current = some ⟨op, .flushing⟩)
    (hfits : Fits sys.state ⟨op, .flushing⟩)
    (hpending : sys.state.pending = none) :
    Move writer sys .proceed (sys.beginFrame writer op source) := by
  unfold System.beginFrame
  split
  next => exact .finished rfl rfl
  next frameIndex hindex =>
    have hstoring : Fits sys.state ⟨op, .storing frameIndex⟩ := by
      refine ⟨fun _ => hfits.started nofun, fun _ => hfits.unclosed (.inl nofun),
        fun index hphase => ?_, nofun, nofun⟩
      cases hphase
      exact ⟨hpending, EventSequence.new_eq_some.mp hindex⟩
    split
    · exact .goes hcurrent hstoring
    split
    · exact .finished rfl rfl
    exact .goes hcurrent hstoring

section

variable (h : Sound writer sys)
include h

theorem Sound.move_proceed (hstep : sys.proceed writer = some sys') :
    Move writer sys .proceed sys' := by
  unfold System.proceed at hstep
  split at hstep
  next op hcurrent =>
    obtain ⟨hstarted, hstep⟩ := Option.ite_none_right_eq_some.mp hstep
    have hflushing : sys.state.terminalFrameCount = none →
        Fits sys.state ⟨op, .flushing⟩ := fun hopen =>
      ⟨fun _ => hstarted, fun _ => hopen, nofun, nofun, nofun⟩
    split at hstep
    next => cases hstep; exact .finished rfl rfl
    next =>
      split at hstep
      next => cases hstep; exact .finished rfl rfl
      next hopen =>
        cases hstep
        exact .goes hcurrent (hflushing (by simpa using hopen))
    next =>
      cases hstep
      exact .goes hcurrent
        (hflushing ((h.running _ hcurrent).unclosed (.inr ⟨_, _, rfl⟩)))
  next op hcurrent =>
    obtain ⟨hpending, hstep⟩ := Option.ite_none_left_eq_some.mp hstep
    have hpending : sys.state.pending = none := by simpa using hpending
    split at hstep
    next => cases hstep
    next =>
      cases hstep
      exact move_beginFrame _ hcurrent (h.running _ hcurrent) hpending
    next => cases hstep; exact .ends hcurrent hpending
  next => cases hstep

theorem Sound.move_append {eventId : EventId} {fault : Fault}
    (hstep : sys.append writer eventId fault = some sys') :
    Move writer sys (.append eventId fault) sys' := by
  unfold System.append at hstep
  split at hstep
  next running pending hcurrent hawaits =>
    have hawaits := awaits_cases hcurrent hawaits
    have hconsistent :=
      (faultyAppend_consistent h.store pending eventId fault).1
    rcases faultyAppend_effect h.store pending eventId fault with
      ⟨⟨error, herror⟩, heffect⟩ | ⟨⟨event, hok⟩, heffect⟩
    · simp only [herror] at hstep
      cases hstep
      exact .failed hcurrent hawaits hconsistent heffect
    · simp only [hok] at hstep
      cases hstep
      exact .acknowledged hcurrent hawaits hconsistent heffect
  next => cases hstep

theorem Sound.move (hstep : Step writer sys label sys') :
    Move writer sys label sys' := by
  cases label with
  | client op =>
    obtain ⟨hforeign, hdrawn, rfl⟩ := hstep
    exact .client hforeign hdrawn
  | call op => exact move_call hstep
  | proceed => exact h.move_proceed hstep
  | inactive error =>
    change sys.inactive error = some sys' at hstep
    unfold System.inactive at hstep
    split at hstep
    next =>
      obtain ⟨-, hstep⟩ := Option.ite_none_left_eq_some.mp hstep
      cases hstep
      exact .finished rfl rfl
    next => cases hstep
  | append eventId fault => exact h.move_append hstep
  | store answer =>
    change sys.stored writer answer = some sys' at hstep
    unfold System.stored at hstep
    split at hstep
    next hcurrent =>
      split at hstep
      next => cases hstep; exact .finished rfl rfl
      next => cases hstep; exact .issued hcurrent
    next => cases hstep
  | drop =>
    obtain ⟨-, hstep⟩ := Option.ite_none_right_eq_some.mp
      (show (if sys.current.isSome then some { sys with current := none }
        else none) = some sys' from hstep)
    cases hstep
    exact .dropped

/-! ## The steps keep the facts -/

theorem Sound.client {op : MemoryEventStore.Op} (hforeign : Foreign writer op)
    (hdrawn : op.Drawn sys.store) :
    Sound writer { sys with store := (sys.store.perform op).2 } := by
  have hstep : MemoryEventStore.Step sys.store op (sys.store.perform op).2 :=
    ⟨hdrawn, rfl⟩
  refine ⟨hstep.consistent h.store, h.books, h.running, ?_, ?_, h.replied⟩
  · intro hfresh
    exact h.unborn fun hused => hfresh (sys.store.used_perform op hused)
  · intro log' hlookup'
    cases grows_of_perform hlookup' with
    | same hlookup hevents =>
      rw [hevents]
      exact h.staged _ hlookup
    | ended hlookup hevents hpayload =>
      rw [hevents, contents_snoc_of_ne (by simp [hpayload])]
      exact h.staged _ hlookup
    | appended hlookup hop hsession hevents =>
      rw [hop] at hforeign
      rw [hevents, contents_snoc_of_ne (hforeign hsession)]
      exact h.staged _ hlookup
    | created hfresh hevents hpayload =>
      have hnone : contents writer.stream.id log'.events = [] := by
        simp [hevents, contents, hpayload, TestEventPayload.stream?]
      rw [hnone]
      exact .unstarted (h.unborn hfresh)

end

variable {store' : MemoryEventStore} {pending : PendingFrame}
  {terminal : PendingTerminal} {op : WriterOp} {replies : List WriterReply}

/-- The stage of the stream after an append, when the writer's state follows
the acknowledgement. -/
theorem Sound.staged_after (h : Sound writer sys) {pending : PendingEvent}
    {ack : Bool} (hsession : pending.sessionId = writer.sessionId)
    (heffect : Effect sys.store pending ack store')
    (hkept : ack = false → ∀ said, Stage writer sys.state sys.issued said →
      Stage writer state sys.issued said)
    (hexisting : ack = true → ∀ (log : SessionLog) event, event ∈ log.events →
      Matches event pending →
      Stage writer sys.state sys.issued (contents writer.stream.id log.events) →
      Stage writer state sys.issued (contents writer.stream.id log.events))
    (hrecorded : ∀ (log : SessionLog) event, event.content = pending →
      Admits log.events event →
      Stage writer sys.state sys.issued (contents writer.stream.id log.events) →
      Stage writer state sys.issued
        (contents writer.stream.id (log.events ++ [event])))
    {log' : SessionLog}
    (hlookup' : store'.sessions.lookup writer.sessionId = some log') :
    Stage writer state sys.issued (contents writer.stream.id log'.events) := by
  cases heffect with
  | kept => exact hkept rfl _ (h.staged log' hlookup')
  | @existing log event hlookup hmem hmatch =>
    rw [hsession, hlookup'] at hlookup
    cases hlookup
    exact hexisting rfl log' event hmem hmatch (h.staged log' hlookup')
  | @recorded log after event _ hlookup hcontent hadmits hevents =>
    rw [MemoryEventStore.lookup_setLog hlookup, hsession, if_pos rfl]
      at hlookup'
    cases hlookup'
    rw [hevents]
    rw [hsession] at hlookup
    exact hrecorded log event hcontent hadmits (h.staged log hlookup)

theorem Effect.used_of_ack {pending : PendingEvent}
    (h : Effect store pending true store') (hconsistent : store.Consistent) :
    pending.sessionId ∈ store'.usedSessionIds := by
  cases h with
  | existing hlookup _ _ | recorded _ hlookup _ _ _ =>
    exact hconsistent.used _ _ hlookup

section

variable (h : Sound writer sys)
include h

theorem Sound.finish {reply : WriterReply} (hreply : reply.frame? = none) :
    Sound writer (sys.finish reply) := by
  refine ⟨h.store, h.books, by rintro _ ⟨⟩, h.unborn, h.staged, ?_⟩
  simpa [System.finish, filterMap_append, hreply] using h.replied

/-- A recorded event whose acknowledgement is lost leaves the writer in step with
the log. -/
theorem Sound.staged_of_awaits (hcurrent : sys.current = some running)
    {pending : PendingEvent}
    (hawaits : Awaits writer sys.state running.phase pending) {log : SessionLog}
    {event : TestEvent} (hcontent : event.content = pending)
    (hadmits : Admits log.events event)
    (hstage : Stage writer sys.state sys.issued
      (contents writer.stream.id log.events)) :
    Stage writer sys.state sys.issued
      (contents writer.stream.id (log.events ++ [event])) := by
  have hframe : ∀ pending, sys.state.pending = some pending →
      event.content = writer.frameEvent pending →
      Stage writer sys.state sys.issued
        (contents writer.stream.id (log.events ++ [event])) := by
    intro pending hpending hcontent
    obtain ⟨hsaid, hopen⟩ :=
      hstage.record_frame h.books hpending hcontent hadmits
    obtain ⟨before, hissued, hlength⟩ := h.books.pending pending hpending
    rw [hsaid]
    refine .opened (Nat.le_succ _) ?_ hopen
    rw [hissued, length_append, hlength, length_singleton]
  generalize hphase : running.phase = phase at hawaits
  cases hawaits with
  | start hstarted =>
    rw [(hstage.record_start hcontent hadmits).1]
    refine .opened ?_ (Nat.zero_le _) ?_ <;>
      rw [h.books.unstarted hstarted] <;> rfl
  | flush hpending | commit hpending => exact hframe _ hpending hcontent
  | finish hterminal =>
    rw [hstage.record_end h.books hcontent hadmits]
    refine .ended ((h.running running hcurrent).started ?_) fun _ => hterminal
    rw [hphase]
    nofun

theorem Sound.failed (hcurrent : sys.current = some running)
    {pending : PendingEvent}
    (hawaits : Awaits writer sys.state running.phase pending)
    (hconsistent : store'.Consistent)
    (heffect : Effect sys.store pending false store') :
    Sound writer { sys with store := store' } := by
  have hsession : pending.sessionId = writer.sessionId := by
    obtain ⟨op, phase⟩ := running
    cases hawaits <;> rfl
  refine ⟨hconsistent, h.books, h.running, fun hfresh => h.unborn ?_,
    fun log' hlookup' => h.staged_after hsession heffect
      (fun _ _ hstage => hstage) nofun
      (fun log event => h.staged_of_awaits hcurrent hawaits) hlookup',
    h.replied⟩
  rwa [← heffect.used]

theorem Sound.start_confirmed (hstarted : sys.state.started = false)
    (hconsistent : store'.Consistent)
    (heffect : Effect sys.store writer.startEvent true store') :
    Sound writer
      { sys with
        store := store'
        state := { sys.state with started := true } } := by
  have hprepared := h.books.unstarted hstarted
  refine ⟨hconsistent, ?_, ?_,
    fun hfresh => absurd (heffect.used_of_ack h.store) hfresh,
    fun log' hlookup' => h.staged_after rfl heffect nofun ?_ ?_ hlookup',
    h.replied⟩
  · exact ⟨h.books.next_pos, h.books.settled, h.books.pending, h.books.indices,
      h.books.streams, nofun, h.books.closed⟩
  · intro running hrunning
    have hfits := h.running running hrunning
    exact ⟨fun _ => rfl, hfits.unclosed, hfits.storing, hfits.committing,
      hfits.ending⟩
  · intro _ log event hmem hmatch hstage
    have hsaid := existing_start hmem hmatch
    generalize contents writer.stream.id log.events = said at hstage hsaid
    cases hstage with
    | unstarted _ => exact absurd rfl hsaid
    | opened hlow hhigh hopen => exact .opened hlow hhigh hopen
    | ended hstarted' _ => cases hstarted.symm.trans hstarted'
  · intro log event hcontent hadmits hstage
    rw [(hstage.record_start hcontent hadmits).1]
    refine .opened ?_ (Nat.zero_le _) ?_ <;> rw [hprepared] <;> rfl

end

/-- The writer's state when a frame is confirmed. -/
def flushed (state : WriterState) : WriterState :=
  { state with pending := none, nextFrameIndex := state.nextFrameIndex + 1 }

theorem Books.confirmed_flushed (h : Books writer state issued) :
    (flushed state).confirmed = state.confirmed + 1 := by
  have hpos := h.next_pos
  simp only [WriterState.confirmed, flushed]
  omega

theorem Books.flushed (h : Books writer state issued)
    (hpending : state.pending = some pending) (hstarted : state.started = true)
    (hopen : state.terminalFrameCount = none) :
    Books writer (flushed state) issued := by
  obtain ⟨before, hissued, hlength⟩ := h.pending pending hpending
  refine ⟨Nat.succ_pos _, fun _ => ?_, nofun, h.indices,
    h.streams, fun hnot => ?_, fun count hcount => ?_⟩
  · rw [h.confirmed_flushed, hissued, length_append, hlength, length_singleton]
  · cases hstarted.symm.trans hnot
  · cases hopen.symm.trans hcount

section

variable (h : Sound writer sys)
include h

/-- A frame that is confirmed was recorded now or before. -/
theorem Sound.frame_confirmed (hpending : sys.state.pending = some pending)
    (hstarted : sys.state.started = true)
    (hopen : sys.state.terminalFrameCount = none)
    (hconsistent : store'.Consistent)
    (heffect : Effect sys.store (writer.frameEvent pending) true store')
    {current : Option Running} (hcurrent : ∀ running, current = some running →
      Fits (flushed sys.state) running)
    (hreplies : List.Sublist (replies.filterMap WriterReply.frame?)
      (sys.issued.map PendingFrame.frame)) :
    Sound writer ⟨store', flushed sys.state, current, sys.issued, replies⟩ := by
  obtain ⟨before, hissued, hlength⟩ := h.books.pending pending hpending
  have hlength' : sys.issued.length = sys.state.confirmed + 1 := by
    rw [hissued, length_append, hlength, length_singleton]
  have hconfirmed := h.books.confirmed_flushed
  refine ⟨hconsistent, h.books.flushed hpending hstarted hopen, hcurrent,
    fun hfresh => absurd (heffect.used_of_ack h.store) hfresh,
    fun log' hlookup' => h.staged_after rfl heffect nofun ?_ ?_ hlookup', ?_⟩
  · intro _ log event hmem hmatch hstage
    obtain ⟨count, hlow, hhigh, -, hsaid⟩ :=
      hstage.existing_frame h.books hpending hmem hmatch
    rw [hsaid]
    exact .opened (hconfirmed ▸ hlow) hhigh hopen
  · intro log event hcontent hadmits hstage
    obtain ⟨hsaid, -⟩ := hstage.record_frame h.books hpending hcontent hadmits
    rw [hsaid]
    exact .opened (le_of_eq hconfirmed) (le_of_eq hlength'.symm) hopen
  · simp only [hconfirmed]
    rwa [take_of_length_le (le_of_eq hlength')]

theorem Sound.end_confirmed (hpending : sys.state.pending = none)
    (hstarted : sys.state.started = true) (hconsistent : store'.Consistent)
    (heffect : Effect sys.store
      (writer.endEvent terminal sys.state.confirmed) true store')
    (hreplies : replies.filterMap WriterReply.frame? =
      sys.replies.filterMap WriterReply.frame?) :
    Sound writer
      ⟨store',
        { sys.state with
          terminalPending := none
          terminalFrameCount := some sys.state.confirmed },
        none, sys.issued, replies⟩ := by
  refine ⟨hconsistent, ?_, by rintro _ ⟨⟩,
    fun hfresh => absurd (heffect.used_of_ack h.store) hfresh,
    fun log' hlookup' => h.staged_after rfl heffect nofun ?_ ?_ hlookup', ?_⟩
  · refine ⟨h.books.next_pos, h.books.settled, h.books.pending, h.books.indices,
      h.books.streams, fun hnot => ?_, fun count hcount => ?_⟩
    · cases hstarted.symm.trans hnot
    · cases hcount
      exact ⟨rfl, hpending⟩
  · intro _ log event hmem hmatch hstage
    obtain ⟨last, hsaid⟩ := hstage.existing_end hmem hmatch
    rw [hsaid]
    exact .ended hstarted nofun
  · intro log event hcontent hadmits hstage
    rw [hstage.record_end h.books hcontent hadmits]
    exact .ended hstarted nofun
  · rw [hreplies]
    exact h.replied

theorem Sound.goTo {phase : Phase} (hfits : Fits sys.state ⟨op, phase⟩) :
    Sound writer (sys.goTo op phase) := by
  refine ⟨h.store, h.books, fun running hrunning => ?_, h.unborn, h.staged,
    h.replied⟩
  cases hrunning
  exact hfits

/-- The first attempt to close sets the terminal event of all later ones. -/
theorem Sound.beginEnd (hstarted : sys.state.started = true)
    (hopen : sys.state.terminalFrameCount = none)
    (hpending : sys.state.pending = none) :
    Sound writer (System.goTo
      { sys with
        state := { sys.state with
          terminalPending := some (sys.state.terminalPending.getD terminal) } }
      op .ending) := by
  refine ⟨h.store, ?_, ?_, h.unborn, ?_, h.replied⟩
  · refine ⟨h.books.next_pos, h.books.settled, h.books.pending,
      h.books.indices, h.books.streams, fun hnot => ?_, h.books.closed⟩
    cases hstarted.symm.trans hnot
  · intro running hrunning
    cases hrunning
    exact ⟨fun _ => hstarted, fun _ => hopen, nofun,
      nofun, fun _ => ⟨hpending, rfl⟩⟩
  · intro log hlookup
    have hstage := h.staged log hlookup
    generalize contents writer.stream.id log.events = said at hstage
    cases hstage with
    | unstarted hnot => exact .unstarted hnot
    | opened hlow hhigh _ => exact .opened hlow hhigh hopen
    | ended _ hknown =>
      refine .ended hstarted fun _ => ?_
      simp only [System.goTo, hknown hopen, Option.getD_some]

end

theorem Books.issue (h : Books writer state issued)
    (hstarted : state.started = true) (hopen : state.terminalFrameCount = none)
    (hnone : state.pending = none)
    (hstream : pending.frame.streamId = writer.stream.id)
    (hindex : pending.frame.frameIndex.get = state.nextFrameIndex) :
    Books writer { state with pending := some pending } (issued ++ [pending]) := by
  have hlength := h.settled hnone
  refine ⟨h.next_pos, (fun hcontra => nomatch hcontra), fun other hother => ?_,
    ?_, ?_, fun hnot => ?_, fun count hcount => ?_⟩
  · cases hother
    exact ⟨issued, rfl, hlength⟩
  · have hpos := h.next_pos
    have hnext : state.nextFrameIndex = 1 + issued.length := by
      simp only [hlength, WriterState.confirmed]
      omega
    simp [h.indices, hindex, hnext, List.range'_concat]
  · intro other hmem
    rcases mem_append.mp hmem with hin | hlast
    · exact h.streams other hin
    · rw [mem_singleton.mp hlast, hstream]
  · cases hstarted.symm.trans hnot
  · cases hopen.symm.trans hcount

theorem Sound.frame_issued (h : Sound writer sys) {frameIndex : EventSequence}
    (hcurrent : sys.current = some ⟨op, .storing frameIndex⟩)
    (hstream : pending.frame.streamId = writer.stream.id)
    (hframe : pending.frame.frameIndex = frameIndex) :
    Sound writer (System.goTo
      { sys with
        state := { sys.state with pending := some pending }
        issued := sys.issued ++ [pending] } op (.committing pending.frame)) := by
  have hfits := h.running _ hcurrent
  have hstarted := hfits.started nofun
  have hopen := hfits.unclosed (.inl nofun)
  obtain ⟨hnone, hindex⟩ := hfits.storing frameIndex rfl
  have hlength := h.books.settled hnone
  rw [← hframe] at hindex
  refine ⟨h.store, h.books.issue hstarted hopen hnone hstream hindex, ?_,
    h.unborn, ?_, ?_⟩
  · intro running hrunning
    cases hrunning
    refine ⟨fun _ => hstarted, fun _ => hopen, nofun, fun frame hphase => ?_,
      nofun⟩
    cases hphase
    exact ⟨_, rfl, rfl⟩
  · intro log hlookup
    have hstage := h.staged log hlookup
    generalize contents writer.stream.id log.events = said at hstage
    cases hstage with
    | unstarted hnot => exact .unstarted hnot
    | opened hlow hhigh _ =>
      rw [← recorded_issue hhigh]
      refine .opened hlow ?_ hopen
      rw [System.goTo, length_append]
      exact Nat.le_add_right_of_le hhigh
    | ended _ hknown =>
      rw [← recorded_issue (le_of_eq hlength.symm)]
      exact .ended hstarted hknown
  · change List.Sublist _ (((sys.issued ++ [_]).take sys.state.confirmed).map _)
    rw [take_append_of_le_length (le_of_eq hlength.symm)]
    exact h.replied

theorem Sound.acknowledged (h : Sound writer sys)
    (hcurrent : sys.current = some running) {event : PendingEvent}
    (hawaits : Awaits writer sys.state running.phase event)
    (hconsistent : store'.Consistent)
    (heffect : Effect sys.store event true store') :
    Sound writer (System.acknowledged { sys with store := store' } running) := by
  have hfits := h.running running hcurrent
  obtain ⟨op, phase⟩ := running
  cases hawaits with
  | start hstarted => exact h.start_confirmed hstarted hconsistent heffect
  | flush hpending =>
    have hopen := hfits.unclosed (.inl nofun)
    have hstarted := hfits.started nofun
    refine h.frame_confirmed hpending hstarted hopen hconsistent heffect
      (fun running hrunning => ?_)
      (h.replied.trans ((take_sublist _ _).map _))
    cases hcurrent.symm.trans hrunning
    exact ⟨fun _ => hstarted, fun _ => hopen, nofun, nofun, nofun⟩
  | @commit frame pending hpending =>
    obtain ⟨other, hother, hframe⟩ := hfits.committing frame rfl
    cases hpending.symm.trans hother
    obtain ⟨before, hissued, hlength⟩ := h.books.pending pending hpending
    refine h.frame_confirmed hpending (hfits.started nofun)
      (hfits.unclosed (.inl nofun)) hconsistent heffect (by rintro _ ⟨⟩) ?_
    have hreplied := h.replied
    rw [hissued, take_left' hlength] at hreplied
    rw [filterMap_append, hissued, map_append]
    refine hreplied.append ?_
    simp [WriterReply.frame?, hframe]
  | finish hterminal =>
    refine h.end_confirmed (hfits.ending rfl).1 (hfits.started nofun)
      hconsistent heffect ?_
    simp [filterMap_append, WriterReply.frame?]

theorem Sound.step (h : Sound writer sys) (hstep : Step writer sys label sys') :
    Sound writer sys' := by
  cases h.move hstep with
  | client hforeign hdrawn => exact h.client hforeign hdrawn
  | @refused op error =>
    refine ⟨h.store, h.books, h.running, h.unborn, h.staged, ?_⟩
    have hreply : (WriterReply.error error).frame? = none := rfl
    simpa [filterMap_append, hreply] using h.replied
  | called _ hfits | goes _ hfits => exact h.goTo hfits
  | finished hreply _ => exact h.finish hreply
  | ends hcurrent hpending =>
    have hfits := h.running _ hcurrent
    exact h.beginEnd (hfits.started nofun) (hfits.unclosed (.inl nofun))
      hpending
  | issued hcurrent => exact h.frame_issued hcurrent rfl rfl
  | failed hcurrent hawaits hconsistent heffect =>
    exact (h.failed hcurrent hawaits hconsistent heffect).finish rfl
  | acknowledged hcurrent hawaits hconsistent heffect =>
    exact h.acknowledged hcurrent hawaits hconsistent heffect
  | dropped =>
    exact ⟨h.store, h.books, by rintro _ ⟨⟩, h.unborn, h.staged, h.replied⟩

end

theorem Sound.new (hconsistent : store.Consistent)
    (hunused : Unused writer store) : Sound writer (System.new store) := by
  refine ⟨hconsistent, ?_, by rintro _ ⟨⟩, fun _ => rfl,
    fun log hlookup => ?_, nil_sublist _⟩
  · exact ⟨Nat.one_pos, fun _ => rfl, (fun _ hpending => nomatch hpending), rfl,
      (fun _ hmem => nomatch hmem), fun _ => rfl,
      (fun _ hcount => nomatch hcount)⟩
  · rw [hunused log hlookup]
    exact .unstarted rfl

theorem Reached.sound (h : Reached writer sys) : Sound writer sys := by
  obtain ⟨store, hstore, hunused, hreachable⟩ := h
  exact hreachable.invariant (I := Sound writer)
    (Sound.new hstore.consistent hunused)
    (fun _ _ _ hsound hstep => hsound.step hstep)

/-! ## The log of the stream -/

theorem Move.issued_eq {label : Label} (h : Move writer sys label sys') :
    sys'.issued.map (fun pending => pending.frame.evidence) =
      sys.issued.map (fun pending => pending.frame.evidence) ++
        answered [label] := by
  cases h with
  | finished _ hnone => rw [hnone, append_nil]; rfl
  | issued _ => simp [System.goTo, answered]
  | @acknowledged running =>
    obtain ⟨op, phase⟩ := running
    cases phase <;> exact (append_nil _).symm
  | _ => exact (append_nil _).symm

theorem issued_of_run (hstore : store.Reached) (hunused : Unused writer store)
    {labels : List Label}
    (hrun : Transition.Run (Step writer) (System.new store) labels sys) :
    sys.issued.map (fun pending => pending.frame.evidence) =
      answered labels := by
  induction hrun with
  | nil => rfl
  | snoc hrun hstep ih =>
    have hsound : Sound writer _ :=
      Reached.sound ⟨store, hstore, hunused, _, hrun⟩
    rw [(hsound.move hstep).issued_eq, ih]
    exact filterMap_append.symm

/-- What the log of one stream says: it was started once, its frames have the
indices from one on, and its end has their number. -/
structure StreamLog (writer : MediaStreamWriter) (events : List TestEvent)
    (frames : List MediaFrame) (ended : Bool) : Prop where
  payloads : (contents writer.stream.id events).map PendingEvent.payload =
    .mediaStreamStarted writer.stream :: frames.map .mediaFrameCaptured ++
      if ended then [.mediaStreamEnded writer.stream.id frames.length] else []
  indices : frames.map (fun frame => frame.frameIndex.get) =
    List.range' 1 frames.length

theorem Books.confirmed_le (h : Books writer state issued) :
    state.confirmed ≤ issued.length := by
  cases hpending : state.pending with
  | none => exact le_of_eq (h.settled hpending).symm
  | some pending =>
    obtain ⟨before, hissued, hlength⟩ := h.pending pending hpending
    rw [hissued, length_append, hlength]
    exact Nat.le_add_right _ _

theorem streamLog_of_recorded (hbooks : Books writer state issued)
    {events : List TestEvent} {count : ℕ} {terminal : Option PendingTerminal}
    (hcount : count ≤ issued.length) (hsaid : contents writer.stream.id events =
      recorded writer issued count terminal) :
    StreamLog writer events ((issued.take count).map PendingFrame.frame)
      terminal.isSome := by
  have hlength : (issued.take count).length = count := length_take_of_le hcount
  refine ⟨?_, ?_⟩
  · rw [hsaid, length_map, hlength]
    cases terminal <;> simp [recorded, MediaStreamWriter.startEvent,
      MediaStreamWriter.frameEvent, MediaStreamWriter.endEvent,
      Function.comp_def, -map_take]
  · have hindices := congrArg (List.take count) hbooks.indices
    rw [← map_take, take_range'_of_length_ge hcount] at hindices
    rwa [length_map, hlength, map_map]

/-- Whatever appends fail, the log of a stream has its start, its frames in
order and each of them once, and at most one end with their number.  The frames
of the pushes that returned are among them, and there is at most one for each
object the evidence store stored. -/
theorem stream_recorded_once (writer : MediaStreamWriter)
    (store : MemoryEventStore) (hstore : store.Reached)
    (hunused : Unused writer store) (labels : List Label) (sys : System)
    (hrun : Transition.Run (Step writer) (System.new store) labels sys)
    (log : SessionLog)
    (hlookup : sys.store.sessions.lookup writer.sessionId = some log) :
    (contents writer.stream.id log.events = [] ∧
        sys.replies.filterMap WriterReply.frame? = []) ∨
      ∃ frames ended, StreamLog writer log.events frames ended ∧
        List.Sublist (sys.replies.filterMap WriterReply.frame?) frames ∧
        frames.map MediaFrame.evidence <+: answered labels := by
  have hsound : Sound writer sys :=
    Reached.sound ⟨store, hstore, hunused, labels, hrun⟩
  have hanswered : ∀ count,
      ((sys.issued.take count).map PendingFrame.frame).map
        MediaFrame.evidence <+: answered labels := by
    intro count
    rw [← issued_of_run hstore hunused hrun, map_map]
    exact ( take_prefix _ _).map _
  have hstage := hsound.staged log hlookup
  generalize hsaid : contents writer.stream.id log.events = said at hstage
  cases hstage with
  | unstarted hstarted =>
    have hreplied := hsound.replied
    rw [hsound.books.unstarted hstarted] at hreplied
    exact .inl ⟨rfl, sublist_nil.mp hreplied⟩
  | @opened count hlow hhigh _ =>
    refine .inr ⟨_, _, streamLog_of_recorded hsound.books hhigh hsaid,
      hsound.replied.trans ?_, hanswered count⟩
    exact (take_sublist_take_left hlow).map _
  | ended _ _ =>
    exact .inr ⟨_, _, streamLog_of_recorded hsound.books
      hsound.books.confirmed_le hsaid, hsound.replied, hanswered _⟩

/-- A session without events of its own. -/
def quietStore : MemoryEventStore :=
  ((MemoryEventStore.withEventStreamConfig .default).perform
    MemoryEventStore.sampleStart).2

theorem reached_quietStore : quietStore.Reached :=
  (MemoryEventStore.reached_withEventStreamConfig .default).perform
    MemoryEventStore.sampleStart trivial

def sampleWriter : MediaStreamWriter :=
  ⟨⟨⟨1⟩⟩, none, none, ⟨⟨⟨20⟩⟩, .screenshot, "image/png", none⟩, 10⟩

def sampleStored : StoredEvidence :=
  ⟨⟨⟨String.ofList (List.replicate 64 'a'), by decide +kernel⟩, "image/png", 3,
    0, 1, validateMediaType_png⟩, false⟩

theorem unused_quietStore : Unused sampleWriter quietStore := by
  intro log hlookup
  have hnone : (quietStore.sessions.lookup sampleWriter.sessionId).map
      (fun log => (contents sampleWriter.stream.id log.events).length) =
      some 0 := by decide +kernel
  rw [hlookup] at hnone
  exact length_eq_zero_iff.mp (Option.some.inj hnone)

def lost : EventStoreError := .internal "lost acknowledgement"

def samplePush (atMs : ℕ) : WriterOp := .push none atMs true none (.put 3)

/-- The start is recorded and its acknowledgement lost, a frame fails before
its event is recorded and again after it, and the end is lost as well. -/
def retriedRun : List Label :=
  [.call (samplePush 11), .append ⟨⟨30⟩⟩ (.after lost),
    .call (samplePush 12), .append ⟨⟨31⟩⟩ .none, .proceed, .proceed,
    .store (.ok sampleStored), .append ⟨⟨32⟩⟩ (.before lost),
    .call (samplePush 13), .proceed, .append ⟨⟨33⟩⟩ (.after lost),
    .call (samplePush 14), .proceed, .append ⟨⟨34⟩⟩ .none, .proceed,
    .store (.ok sampleStored), .append ⟨⟨35⟩⟩ .none,
    .call (.close none 15), .proceed, .proceed,
    .append ⟨⟨36⟩⟩ (.after lost),
    .call (.close none 16), .proceed, .proceed, .append ⟨⟨37⟩⟩ .none]

theorem stream_recorded_once_retried :
    ∃ sys log, (System.new quietStore).runLabels sampleWriter retriedRun =
        some sys ∧
      sys.store.sessions.lookup sampleWriter.sessionId = some log ∧
      (contents sampleWriter.stream.id log.events).length = 4 ∧
      ∃ frames ended, StreamLog sampleWriter log.events frames ended ∧
        List.Sublist (sys.replies.filterMap WriterReply.frame?) frames ∧
        frames.map MediaFrame.evidence <+: answered retriedRun := by
  obtain ⟨sys, hrun, log, hlookup, hfour⟩ : ∃ sys,
      (System.new quietStore).runLabels sampleWriter retriedRun = some sys ∧
      ∃ log, sys.store.sessions.lookup sampleWriter.sessionId = some log ∧
        (contents sampleWriter.stream.id log.events).length = 4 := by
    decide +kernel
  refine ⟨sys, log, hrun, hlookup, hfour, ?_⟩
  rcases stream_recorded_once sampleWriter quietStore reached_quietStore
    unused_quietStore retriedRun sys (run_of_runLabels hrun) log hlookup with
    ⟨hnone, -⟩ | hrecorded
  · rw [hnone] at hfour
    cases hfour
  · exact hrecorded

end DeviceRail.MediaSystem
