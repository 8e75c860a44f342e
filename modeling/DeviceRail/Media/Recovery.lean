import DeviceRail.Media.Runs

/-!
# Closing a stream after failures

When appends stop failing, one more `finish` or `abort` ends the stream, from
every state in which no push was begun after a close whose acknowledgement was
lost.  A push begun there stores the evidence of a frame that can never be
recorded, and the writer cannot be closed any more.
-/

namespace DeviceRail.MediaSystem

open History DeviceRail.MediaSystem.System Transition List Option

variable {writer : MediaStreamWriter}

/-! ## Appends that succeed -/

variable {pending : PendingEvent} {log : SessionLog}
  {terminal : PendingTerminal}

section

variable {sessionId : SessionId} {event : TestEvent}

/-- The store can take one more event of the session. -/
def Able (writer : MediaStreamWriter) (store : MemoryEventStore) : Prop :=
  store.streamShutdown = false ∧
    ∃ log, store.sessions.lookup writer.sessionId = some log ∧
      log.info.state ≠ .ended ∧ log.info.lastSequence.get < maxSafeInteger

theorem exists_retry (hmem : event ∈ log.events)
    (hcontent : event.content = pending)
    (hself : (pending.payload == pending.payload) = true)
    (error : EventStoreError) :
    ∃ admission, log.retryOr pending error = .ok admission := by
  have hsome : (log.exactMediaRetry pending).isSome = true := by
    unfold SessionLog.exactMediaRetry
    rw [find?_isSome]
    refine ⟨event, mem_reverse.mpr hmem, ?_⟩
    subst hcontent
    have hpayload : (event.payload == event.payload) = true := hself
    simp [TestEvent.content, hpayload]
  obtain ⟨found, hfound⟩ := isSome_iff_exists.mp hsome
  exact ⟨.existing found, by simp only [SessionLog.retryOr, hfound]⟩

theorem exists_event_of_mem {streamId : MediaStreamId}
    (hmem : pending ∈ contents streamId log.events) :
    ∃ event ∈ log.events, event.content = pending := by
  obtain ⟨event, hevent, hcontent⟩ := mem_map.mp hmem
  exact ⟨event, (mem_filter.mp hevent).1, hcontent⟩

theorem streamInfo_beq_self {stream : MediaStreamInfo}
    (hvalid : DeclarationValid stream) : (stream == stream) = true := by
  obtain ⟨id, kind, mediaType, viewport⟩ := stream
  change (id == id && (kind == kind && (mediaType == mediaType &&
    viewport == viewport))) = true
  have hviewport : (viewport == viewport) = true := by
    cases viewport with
    | none => rfl
    | some viewport =>
      have husable := hvalid.2 viewport rfl
      obtain ⟨width, height, scaleFactor⟩ := viewport
      simp only [Viewport.isUsable, Bool.not_eq_true', Bool.or_eq_false_iff,
        Bool.not_eq_false'] at husable
      change (width == width && (height == height &&
        scaleFactor == scaleFactor)) = true
      simp [Float64.beq_self_of_isFinite husable.1.2]
  simp [hviewport]

theorem append_eq_ok {store : MemoryEventStore} (hable : Able writer store)
    (hsession : pending.sessionId = writer.sessionId)
    (hcheck : MemoryEventStore.checkPending pending = .ok ())
    (hadmitted : ∀ log,
      store.sessions.lookup writer.sessionId = some log →
      ∃ admission, log.admitEvent pending = .ok admission) (eventId : EventId) :
    ∃ event, (store.append pending eventId).1 = .ok event := by
  obtain ⟨hshutdown, log, hlookup, hactive, hroom⟩ := hable
  obtain ⟨admission, hadmission⟩ := hadmitted log hlookup
  rw [← hsession] at hlookup
  exact MemoryEventStore.append_eq_ok hcheck hshutdown hlookup hactive hroom
    hadmission eventId

theorem admits_start (hdeclared : DeclarationValid writer.stream)
    (hrep : log.Represents sessionId)
    (hsaid : contents writer.stream.id log.events = [] ∨
      contents writer.stream.id log.events = [writer.startEvent]) :
    ∃ admission, log.admitEvent writer.startEvent = .ok admission := by
  change ∃ admission, log.admitMediaStreamStarted writer.startEvent
    writer.stream = .ok admission
  rcases hsaid with hsaid | hsaid
  · have hfresh : writer.stream.id ∉ log.seenMediaStreams := by
      intro hseen
      obtain ⟨event, hmem, hevent⟩ := (hrep.seenMediaStreams _).mp hseen
      have hstream : event.payload.stream? = some writer.stream.id := by
        cases hpayload : event.payload <;>
          simp_all [TestEvent.startedStream?, TestEventPayload.stream?]
      have hcontent := mem_contents hmem hstream
      rw [hsaid] at hcontent
      cases hcontent
    have hviewport : writer.stream.viewport.any
        (fun viewport => !viewport.isUsable) = false := by
      cases hsome : writer.stream.viewport with
      | none => rfl
      | some viewport => simp [hdeclared.2 viewport hsome]
    simp [SessionLog.admitMediaStreamStarted, hfresh, PutEvidence.new,
      hdeclared.1, hviewport]
  · have hstarted : StreamStarted log.events writer.stream.id :=
      streamStarted_of_mem (by rw [hsaid]; exact mem_singleton_self _) rfl
    have hopen : log.mediaStreams.lookup writer.stream.id =
        some ⟨writer.stream.mediaType, 1⟩ := by
      rw [hrep.mediaStreams, openStream_eq_contents, hsaid]
      simp [contentStep, MediaStreamWriter.startEvent]
    obtain ⟨event, hmem, hcontent⟩ : ∃ event ∈ log.events,
        event.content = writer.startEvent :=
      exists_event_of_mem (by rw [hsaid]; exact mem_singleton_self _)
    simp only [SessionLog.admitMediaStreamStarted,
      (hrep.seenMediaStreams _).mpr hstarted, hopen, if_true,
      any_some, beq_self_eq_true]
    exact exists_retry hmem hcontent (streamInfo_beq_self hdeclared) _

theorem admits_frame {frame : PendingFrame} {state : MediaStreamState}
    (hrep : log.Represents sessionId)
    (hopen : openStream log.events frame.frame.streamId = some state)
    (hsaid : FrameFits state frame.frame ∨
      (frame.frame.frameIndex.get < state.nextFrameIndex ∧
        ∃ event ∈ log.events, event.content = writer.frameEvent frame)) :
    ∃ admission, log.admitEvent (writer.frameEvent frame) = .ok admission := by
  change ∃ admission, log.admitMediaFrameCaptured (writer.frameEvent frame)
    frame.frame = .ok admission
  rw [← hrep.mediaStreams] at hopen
  rcases hsaid with hfits | ⟨hindex, event, hmem, hcontent⟩
  · obtain ⟨digest, hdigest⟩ := hfits.canonical
    have hduration : frame.frame.durationMs.any
        (fun value => decide (maxSafeInteger < value)) = false := by
      cases hsome : frame.frame.durationMs with
      | none => rfl
      | some value =>
        have hle := hfits.duration value hsome
        simpa using hle
    simp [SessionLog.admitMediaFrameCaptured, hopen, hfits.index,
      hfits.mediaType, hdigest, hduration]
  · simp only [SessionLog.admitMediaFrameCaptured, hopen, ne_eq,
      Nat.ne_of_lt hindex, not_false_eq_true, hindex, if_true]
    exact exists_retry hmem hcontent (beq_self_eq_true frame.frame) _

theorem admits_end {count : ℕ} (hrep : log.Represents sessionId)
    (hsaid : (∃ state, openStream log.events writer.stream.id = some state ∧
        count = state.nextFrameIndex - 1) ∨
      (openStream log.events writer.stream.id = none ∧
        ∃ event ∈ log.events, event.content = writer.endEvent terminal count)) :
    ∃ admission, log.admitEvent (writer.endEvent terminal count) =
      .ok admission := by
  change ∃ admission, log.admitMediaStreamEnded (writer.endEvent terminal count)
    writer.stream.id count = .ok admission
  rw [← hrep.mediaStreams] at hsaid
  rcases hsaid with ⟨state, hopen, hcount⟩ | ⟨hclosed, event, hmem, hcontent⟩
  · simp [SessionLog.admitMediaStreamEnded, hopen, hcount]
  · have hself : (writer.stream.id == writer.stream.id && count == count) =
        true := by simp
    simp only [SessionLog.admitMediaStreamEnded, hclosed]
    exact exists_retry hmem hcontent hself _

end

/-! ## States from which a stream can be closed -/

/-- The end of the stream is in the log of the session. -/
def EndedInStore (writer : MediaStreamWriter) (store : MemoryEventStore) :
    Prop :=
  ∃ log, store.sessions.lookup writer.sessionId = some log ∧
    StreamEnded log.events writer.stream.id

/-- What a caller must respect for the stream to stay recoverable: times are in
range, the evidence store keeps to the media type of the stream, and no push
gets the lock once the stream has ended and the writer does not know it. -/
def Careful (writer : MediaStreamWriter) (sys : System) : Label → Prop
  | .call (.push requestId atMs keyFrame durationMs source) =>
      atMs ≤ maxSafeInteger ∧
      (writer.check (.push requestId atMs keyFrame durationMs source) = .ok () →
        sys.state.terminalFrameCount = none → ¬EndedInStore writer sys.store)
  | .call (.close _ atMs) => atMs ≤ maxSafeInteger
  | .store (.ok stored) => stored.metadata.mediaType = writer.stream.mediaType
  | _ => True

/-- The time of an operation is in range. -/
def InRange : WriterOp → Prop
  | .ensureStarted => True
  | .push _ atMs _ durationMs _ => atMs ≤ maxSafeInteger ∧
      ∀ value, durationMs = some value → value ≤ maxSafeInteger
  | .close _ atMs => atMs ≤ maxSafeInteger

/-- The frame can be recorded when its turn comes. -/
structure Recordable (writer : MediaStreamWriter) (pending : PendingFrame) :
    Prop where
  time : pending.atMs ≤ maxSafeInteger
  mediaType : pending.frame.evidence.mediaType = writer.stream.mediaType
  canonical : ∃ digest,
    Sha256Digest.fromAssetRef pending.frame.evidence = .ok digest
  duration : ∀ value, pending.frame.durationMs = some value →
    value ≤ maxSafeInteger

/-- What is pending can be recorded. -/
structure Recoverable (writer : MediaStreamWriter) (sys : System) : Prop where
  pending : ∀ pending, sys.state.pending = some pending →
    Recordable writer pending
  terminal : ∀ terminal, sys.state.terminalPending = some terminal →
    terminal.atMs ≤ maxSafeInteger
  /-- Nothing is pending behind an end the writer does not know of. -/
  ended : sys.state.terminalFrameCount = none →
    EndedInStore writer sys.store → sys.state.pending = none
  range : ∀ running, sys.current = some running → InRange running.op
  /-- A push is running only while the stream is open. -/
  pushing : ∀ running requestId atMs keyFrame durationMs source,
    sys.current = some running →
    running.op = .push requestId atMs keyFrame durationMs source →
    sys.state.terminalFrameCount = none → ¬EndedInStore writer sys.store

variable {sys sys' : System} {labels : List Label}

section

variable {op : WriterOp} {store : MemoryEventStore} {streamId : MediaStreamId}

theorem inRange_of_check (hcareful : Careful writer sys (.call op))
    (hcheck : writer.check op = .ok ()) : InRange op := by
  have hduration : ∀ durationMs : Option ℕ,
      durationMs.any (fun value => decide (maxSafeInteger < value)) = false →
      ∀ value, durationMs = some value → value ≤ maxSafeInteger := by
    rintro durationMs hany value rfl
    simpa using hany
  cases op with
  | ensureStarted => trivial
  | push requestId atMs keyFrame durationMs source =>
    refine ⟨hcareful.1, hduration durationMs ?_⟩
    cases source with
    | _ =>
      simp only [MediaStreamWriter.check] at hcheck
      split at hcheck
      next => cases hcheck
      next hgood =>
        rw [not_or, Bool.not_eq_true] at hgood
        exact hgood.2
  | close requestId atMs => exact hcareful

theorem streamEnded_snoc {events : List TestEvent} {event : TestEvent}
    (h : StreamEnded (events ++ [event]) streamId)
    (hother : event.endedStream? ≠ some streamId) :
    StreamEnded events streamId := by
  obtain ⟨ended, hmem, hended⟩ := h
  rcases mem_append.mp hmem with hin | hlast
  · exact ⟨ended, hin, hended⟩
  · rw [mem_singleton.mp hlast] at hended
    exact absurd hended hother

theorem stream_of_ended {payload : TestEventPayload}
    (h : payload.endedStream? = some streamId) :
    payload.stream? = some streamId := by
  cases payload <;> simp_all [TestEventPayload.stream?]

theorem EndedInStore.of_client
    {op : MemoryEventStore.Op} (hforeign : Foreign writer op)
    (h : EndedInStore writer (store.perform op).2) :
    EndedInStore writer store := by
  obtain ⟨log', hlookup', hended⟩ := h
  cases grows_of_perform hlookup' with
  | same hlookup hevents =>
    rw [hevents] at hended
    exact ⟨_, hlookup, hended⟩
  | ended hlookup hevents hpayload =>
    rw [hevents] at hended
    refine ⟨_, hlookup, streamEnded_snoc hended fun hother => ?_⟩
    cases (stream_of_ended hother).symm.trans hpayload
  | appended hlookup hop hsession hevents =>
    rw [hop] at hforeign
    rw [hevents] at hended
    refine ⟨_, hlookup, streamEnded_snoc hended fun hother => ?_⟩
    exact hforeign hsession (stream_of_ended hother)
  | created hfresh hevents hpayload =>
    rw [hevents] at hended
    obtain ⟨event, hmem, hended⟩ := hended
    rw [mem_singleton.mp hmem] at hended
    simp [TestEvent.endedStream?, hpayload] at hended

variable {store' : MemoryEventStore} {ack : Bool} {phase : Phase}
  {running : Running}

theorem EndedInStore.of_effect (heffect : Effect store pending ack store')
    (hsession : pending.sessionId = writer.sessionId)
    (hother : pending.payload.endedStream? ≠ some writer.stream.id)
    (h : EndedInStore writer store') : EndedInStore writer store := by
  cases heffect with
  | @recorded log log' event _ hlookup hcontent _ hevents =>
    obtain ⟨after, hafter, hended⟩ := h
    rw [MemoryEventStore.lookup_setLog hlookup, hsession, if_pos rfl] at hafter
    cases hafter
    rw [hevents] at hended
    rw [hsession] at hlookup
    refine ⟨log, hlookup, streamEnded_snoc hended fun hended => hother ?_⟩
    rwa [← hcontent]
  | _ => exact h

theorem recoverable_of_idle (hidle : sys.current = none)
    (hpending : ∀ pending, sys.state.pending = some pending →
      Recordable writer pending)
    (hterminal : ∀ terminal, sys.state.terminalPending = some terminal →
      terminal.atMs ≤ maxSafeInteger)
    (hended : sys.state.terminalFrameCount = none →
      EndedInStore writer sys.store → sys.state.pending = none) :
    Recoverable writer sys :=
  ⟨hpending, hterminal, hended, by simp [hidle], by simp [hidle]⟩

theorem Recoverable.finish (h : Recoverable writer sys) (reply : WriterReply) :
    Recoverable writer (sys.finish reply) :=
  recoverable_of_idle rfl h.pending h.terminal h.ended

theorem Recoverable.goTo (h : Recoverable writer sys) {phase' : Phase}
    (hcurrent : sys.current = some ⟨op, phase'⟩) :
    Recoverable writer (sys.goTo op phase) := by
  refine ⟨h.pending, h.terminal, h.ended, fun running hrunning => ?_,
    fun running _ _ _ _ _ hrunning hop => ?_⟩
  · cases hrunning
    exact h.range ⟨op, phase'⟩ hcurrent
  · cases hrunning
    exact h.pushing ⟨op, phase'⟩ _ _ _ _ _ hcurrent hop

theorem Recoverable.withStore (h : Recoverable writer sys)
    (hended : EndedInStore writer store' → EndedInStore writer sys.store) :
    Recoverable writer { sys with store := store' } :=
  ⟨h.pending, h.terminal, fun hopen hnow => h.ended hopen (hended hnow),
    h.range, fun running _ _ _ _ _ hrunning hop hopen hnow =>
      h.pushing running _ _ _ _ _ hrunning hop hopen (hended hnow)⟩

theorem Awaits.not_ended {state : WriterState}
    (h : Awaits writer state phase pending) (hphase : phase ≠ .ending) :
    pending.sessionId = writer.sessionId ∧
      pending.payload.endedStream? ≠ some writer.stream.id := by
  cases h with
  | finish _ => exact absurd rfl hphase
  | _ => exact ⟨rfl, nofun⟩

theorem Recoverable.failed (h : Recoverable writer sys)
    (hsound : Sound writer sys) (hcurrent : sys.current = some running)
    (hawaits : Awaits writer sys.state running.phase pending)
    (heffect : Effect sys.store pending ack store') (reply : WriterReply) :
    Recoverable writer (System.finish { sys with store := store' } reply) := by
  by_cases hphase : running.phase = .ending
  · have hnone := ((hsound.running running hcurrent).ending hphase).1
    exact recoverable_of_idle rfl h.pending h.terminal fun _ _ => hnone
  · obtain ⟨hsession, hother⟩ := hawaits.not_ended hphase
    exact (h.withStore
      (EndedInStore.of_effect heffect hsession hother)).finish reply

theorem Recoverable.acknowledged (h : Recoverable writer sys)
    (hawaits : Awaits writer sys.state running.phase pending)
    (heffect : Effect sys.store pending true store') :
    Recoverable writer (acknowledged { sys with store := store' } running) := by
  have hkept : running.phase ≠ .ending →
      Recoverable writer { sys with store := store' } := fun hphase =>
    h.withStore (EndedInStore.of_effect heffect (hawaits.not_ended hphase).1
      (hawaits.not_ended hphase).2)
  obtain ⟨op, phase⟩ := running
  cases hawaits with
  | start _ =>
    have hkept := hkept nofun
    exact ⟨hkept.pending, hkept.terminal, hkept.ended, hkept.range,
      hkept.pushing⟩
  | flush _ =>
    have hkept := hkept nofun
    exact ⟨by rintro _ ⟨⟩, hkept.terminal, fun _ _ => rfl, hkept.range,
      hkept.pushing⟩
  | commit _ =>
    exact recoverable_of_idle rfl (by rintro _ ⟨⟩) h.terminal fun _ _ => rfl
  | finish _ =>
    exact recoverable_of_idle rfl h.pending (by rintro _ ⟨⟩) (by rintro ⟨⟩)

theorem Recoverable.step (h : Recoverable writer sys)
    (hsound : Sound writer sys) {label : Label}
    (hcareful : Careful writer sys label) (hstep : Step writer sys label sys') :
    Recoverable writer sys' := by
  cases hsound.move hstep with
  | client hforeign _ => exact h.withStore (EndedInStore.of_client hforeign)
  | refused => exact ⟨h.pending, h.terminal, h.ended, h.range, h.pushing⟩
  | called hcheck _ =>
    refine ⟨h.pending, h.terminal, h.ended, fun running hrunning => ?_,
      fun running _ _ _ _ _ hrunning hop => ?_⟩
    · cases hrunning
      exact inRange_of_check hcareful hcheck
    · cases hrunning
      cases hop
      exact hcareful.2 hcheck
  | finished _ _ => exact h.finish _
  | goes hcurrent _ => exact h.goTo hcurrent
  | ends hcurrent _ =>
    have hrange := h.range _ hcurrent
    refine ⟨h.pending, fun terminal hterminal => ?_, h.ended, ?_, ?_⟩
    · cases hterminal
      cases hbefore : sys.state.terminalPending with
      | none => exact hrange
      | some terminal => exact h.terminal terminal hbefore
    · intro running hrunning
      cases hrunning
      exact hrange
    · intro running _ _ _ _ _ hrunning hop
      cases hrunning
      cases hop
  | @issued requestId atMs keyFrame durationMs source frameIndex stored
      hcurrent =>
    have hrange := h.range _ hcurrent
    have hopen := (hsound.running _ hcurrent).unclosed (.inl nofun)
    have hpushing := h.pushing _ _ _ _ _ _ hcurrent rfl hopen
    refine ⟨fun pending hpending => ?_, h.terminal,
      fun _ hended => absurd hended hpushing, ?_, ?_⟩
    · cases hpending
      exact ⟨hrange.1, hcareful, ⟨_, stored.fromAssetRef_assetRef⟩, hrange.2⟩
    · intro running hrunning
      cases hrunning
      exact hrange
    · intro running _ _ _ _ _ hrunning hop _
      exact hpushing
  | failed hcurrent hawaits _ heffect =>
    exact h.failed hsound hcurrent hawaits heffect _
  | acknowledged _ hawaits _ heffect => exact h.acknowledged hawaits heffect
  | dropped => exact recoverable_of_idle rfl h.pending h.terminal h.ended

/-- A careful run keeps the stream recoverable. -/
theorem recoverable_of_run (hstore : store.Reached)
    (hunused : Unused writer store)
    (hrun : Run (Guarded (Careful writer) (Step writer))
      (new store) labels sys) : Sound writer sys ∧ Recoverable writer sys := by
  refine hrun.invariant (I := fun sys => Sound writer sys ∧
    Recoverable writer sys) (fun _ _ _ hboth hstep => ?_)
    ⟨Sound.new hstore.consistent hunused, ?_⟩
  · exact ⟨hboth.1.step hstep.2, hboth.2.step hboth.1 hstep.1 hstep.2⟩
  · exact recoverable_of_idle rfl (by rintro _ ⟨⟩) (by rintro _ ⟨⟩)
      fun _ _ => rfl

end

/-! ## One more close -/

section

variable {label : Label}

theorem Sound.start_admitted (h : Sound writer sys)
    (hdeclared : DeclarationValid writer.stream)
    (hstarted : sys.state.started = false)
    (hlookup : sys.store.sessions.lookup writer.sessionId = some log) :
    ∃ admission, log.admitEvent writer.startEvent = .ok admission := by
  refine admits_start hdeclared (h.store.represents _ log hlookup) ?_
  have hprepared := h.books.unstarted hstarted
  have hlength : sys.issued.length = 0 := by
    rw [h.books.settled (by rw [hprepared]; rfl), hprepared]
    rfl
  have hissued : sys.issued = [] := length_eq_zero_iff.mp hlength
  have hstage := h.staged log hlookup
  generalize contents writer.stream.id log.events = said at hstage
  cases hstage with
  | unstarted _ => exact .inl rfl
  | opened _ _ _ => simp [recorded, hissued]
  | ended hcontra _ => cases hstarted.symm.trans hcontra

theorem exists_end_of_recorded {issued : List PendingFrame} {count : ℕ}
    (h : contents writer.stream.id log.events =
      recorded writer issued count (some terminal)) :
    ∃ event ∈ log.events, event.content = writer.endEvent terminal count :=
  exists_event_of_mem (h ▸ mem_recorded.mpr (.inr (.inr ⟨terminal, rfl, rfl⟩)))

theorem Sound.frame_admitted (h : Sound writer sys)
    (hrecoverable : Recoverable writer sys)
    (hstarted : sys.state.started = true)
    (hopen : sys.state.terminalFrameCount = none) {pending : PendingFrame}
    (hpending : sys.state.pending = some pending)
    (hlookup : sys.store.sessions.lookup writer.sessionId = some log) :
    ∃ admission, log.admitEvent (writer.frameEvent pending) =
      .ok admission := by
  obtain ⟨before, hissued, hlength⟩ := h.books.pending pending hpending
  have hstream := h.books.streams pending (by rw [hissued]; simp)
  have hindex := h.books.pending_index hpending
  have hrecordable := hrecoverable.pending pending hpending
  have hstage := h.staged log hlookup
  generalize hsaid : contents writer.stream.id log.events = said at hstage
  cases hstage with
  | unstarted hcontra => cases hstarted.symm.trans hcontra
  | @opened count hlow hhigh _ =>
    have hreplay : openStream log.events pending.frame.streamId =
        some ⟨writer.stream.mediaType, 1 + count⟩ := by
      rw [hstream, openStream_eq_contents, hsaid,
        replay_opened h.books.streams hhigh]
    refine admits_frame (h.store.represents _ log hlookup) hreplay ?_
    rcases Nat.eq_or_lt_of_le hlow with hsame | hmore
    · left
      exact ⟨by simp only; omega, hrecordable.mediaType,
        hrecordable.canonical, hrecordable.duration⟩
    · have hmem : writer.frameEvent pending ∈
          contents writer.stream.id log.events := by
        rw [hsaid]
        refine mem_recorded.mpr (.inr (.inl ⟨pending, ?_, rfl⟩))
        rw [take_of_length_le (by
          rw [hissued, length_append, hlength]
          exact hmore), hissued]
        simp
      exact .inr ⟨by simp only; omega, exists_event_of_mem hmem⟩
  | @ended terminal _ _ =>
    obtain ⟨event, hevent, hcontent⟩ := exists_end_of_recorded hsaid
    have hended : EndedInStore writer sys.store := by
      refine ⟨log, hlookup, event, hevent, ?_⟩
      have hpayload : event.payload = _ :=
        congrArg PendingEvent.payload hcontent
      simp [TestEvent.endedStream?, hpayload, MediaStreamWriter.endEvent]
    have hcontra := hrecoverable.ended hopen hended
    cases hpending.symm.trans hcontra

theorem Sound.end_admitted (h : Sound writer sys)
    (hstarted : sys.state.started = true)
    (hopen : sys.state.terminalFrameCount = none)
    (hnone : sys.state.pending = none)
    (hterminal : sys.state.terminalPending = some terminal)
    (hlookup : sys.store.sessions.lookup writer.sessionId = some log) :
    ∃ admission, log.admitEvent (writer.endEvent terminal
      sys.state.confirmed) = .ok admission := by
  refine admits_end (h.store.represents _ log hlookup) ?_
  have hstage := h.staged log hlookup
  generalize hsaid : contents writer.stream.id log.events = said at hstage
  cases hstage with
  | unstarted hcontra => cases hstarted.symm.trans hcontra
  | @opened count hlow hhigh _ =>
    have hlength := h.books.settled hnone
    refine .inl ⟨⟨writer.stream.mediaType, 1 + count⟩, ?_, by
      simp only
      omega⟩
    rw [openStream_eq_contents, hsaid, replay_opened h.books.streams hhigh]
  | ended _ hknown =>
    have hlast := hknown hopen
    rw [hterminal] at hlast
    cases hlast
    exact .inr ⟨by rw [openStream_eq_contents, hsaid, replay_ended],
      exists_end_of_recorded hsaid⟩

/-- Every append of a recoverable writer succeeds in a store that can take
it. -/
theorem Recoverable.awaited_ok (h : Recoverable writer sys)
    (hsound : Sound writer sys) (hdeclared : DeclarationValid writer.stream)
    (hstartedAt : writer.startedAtMs ≤ maxSafeInteger)
    (hable : Able writer sys.store) {running : Running}
    (hcurrent : sys.current = some running) {pending : PendingEvent}
    (hawaits : sys.awaits writer = some pending) (eventId : EventId) :
    ∃ event, (sys.store.append pending eventId).1 = .ok event := by
  have hfits := hsound.running running hcurrent
  have hflush : running.phase ≠ .starting → ∀ frame,
      sys.state.pending = some frame → ∃ event,
      (sys.store.append (writer.frameEvent frame) eventId).1 = .ok event := by
    intro hphase frame hframe
    refine append_eq_ok hable rfl ?_ (fun log hlookup =>
      hsound.frame_admitted h (hfits.started hphase)
        (hfits.unclosed (.inl hphase)) hframe hlookup) eventId
    exact MemoryEventStore.checkPending_eq_ok.mpr
      ⟨(h.pending frame hframe).time, rfl⟩
  have hawaits := awaits_cases hcurrent hawaits
  obtain ⟨op, phase⟩ := running
  cases hawaits with
  | start hstarted =>
    exact append_eq_ok hable rfl
      (MemoryEventStore.checkPending_eq_ok.mpr ⟨hstartedAt, rfl⟩)
      (fun log => hsound.start_admitted hdeclared hstarted) eventId
  | finish hterminal =>
    refine append_eq_ok hable rfl ?_ (fun log hlookup =>
      hsound.end_admitted (hfits.started nofun) (hfits.unclosed (.inl nofun))
        (hfits.ending rfl).1 hterminal hlookup) eventId
    exact MemoryEventStore.checkPending_eq_ok.mpr ⟨h.terminal _ hterminal, rfl⟩
  | flush hpending | commit hpending => exact hflush nofun _ hpending

/-- The steps of the writer, as against those of other clients. -/
def Label.own : Label → Bool
  | .client _ => false
  | _ => true

/-- A running operation goes on without a failure of the store; other clients
may do what they like. -/
def Calm (writer : MediaStreamWriter) (sys : System) : Label → Prop
  | .client _ => True
  | .proceed => True
  | .append _ fault => fault = .none ∧ Able writer sys.store
  | _ => False

/-- The steps a close has left. -/
def remaining (sys : System) : ℕ :=
  match sys.current with
  | none => 0
  | some running =>
    match running.phase with
    | .starting => if sys.state.started then 4 else 5
    | .flushing => if sys.state.pending.isSome then 3 else 2
    | .ending => 1
    | _ => 0

/-- A close is running, or has returned. -/
inductive Closing (replies : List WriterReply) (sys : System) : Prop
  | running {requestId atMs phase}
      (hcurrent : sys.current = some ⟨.close requestId atMs, phase⟩)
      (hphase : phase = .starting ∨ phase = .flushing ∨ phase = .ending)
      (hreplies : sys.replies = replies)
  | done {count} (hcurrent : sys.current = none)
      (hreplies : sys.replies = replies ++ [.closed count])
      (hcount : sys.state.terminalFrameCount = some count)

theorem careful_of_calm (h : Calm writer sys label) :
    Careful writer sys label := by
  cases label with
  | call _ => cases h
  | store _ => cases h
  | _ => trivial

variable {replies : List WriterReply}

theorem closing_proceed
    (h : Closing replies sys) (hstep : sys.proceed writer = some sys') :
    Closing replies sys' ∧ remaining sys' + 1 ≤ remaining sys := by
  cases h with
  | done hcurrent _ _ => simp [proceed, hcurrent] at hstep
  | running hcurrent hphase hreplies =>
    rcases hphase with rfl | rfl | rfl
    · simp only [proceed, hcurrent] at hstep
      obtain ⟨hstarted, hnext⟩ := ite_none_right_eq_some.mp hstep
      cases hnext
      refine ⟨.running rfl (.inr (.inl rfl)) hreplies, ?_⟩
      by_cases hpending : sys.state.pending.isSome = true <;>
        simp [remaining, hcurrent, hstarted, goTo, hpending]
    · simp only [proceed, hcurrent] at hstep
      obtain ⟨hnone, hnext⟩ := ite_none_left_eq_some.mp hstep
      cases hnext
      refine ⟨.running rfl (.inr (.inr rfl)) hreplies, ?_⟩
      simp [remaining, hcurrent, hnone, goTo]
    · simp [proceed, hcurrent] at hstep

section

variable (h : Closing replies sys) (hsound : Sound writer sys)
  (hrecoverable : Recoverable writer sys)
  (hdeclared : DeclarationValid writer.stream)
  (hstartedAt : writer.startedAtMs ≤ maxSafeInteger)
include h hsound hrecoverable hdeclared hstartedAt

theorem closing_append (hable : Able writer sys.store) {eventId : EventId}
    (hstep : sys.append writer eventId .none = some sys') :
    Closing replies sys' ∧ remaining sys' + 1 ≤ remaining sys := by
  cases h with
  | done hcurrent _ _ => simp [append, hcurrent] at hstep
  | @running requestId atMs phase hcurrent hphase hreplies =>
    cases hawaits : sys.awaits writer with
    | none => simp [append, hcurrent, hawaits] at hstep
    | some pending =>
      obtain ⟨event, hok⟩ := hrecoverable.awaited_ok hsound hdeclared
        hstartedAt hable hcurrent hawaits eventId
      simp only [append, hcurrent, hawaits, faultyAppend, hok,
        Option.some.injEq] at hstep
      subst hstep
      rcases hphase with rfl | rfl | rfl
      · refine ⟨.running rfl (.inl rfl) hreplies, ?_⟩
        simp only [awaits, hcurrent, bind_some] at hawaits
        obtain ⟨hstarted, -⟩ := ite_none_left_eq_some.mp hawaits
        simp [remaining, acknowledged, hcurrent, hstarted]
      · refine ⟨.running rfl (.inr (.inl rfl)) hreplies, ?_⟩
        simp only [awaits, hcurrent, bind_some] at hawaits
        obtain ⟨frame, hframe, -⟩ := map_eq_some_iff.mp hawaits
        simp [remaining, acknowledged, hcurrent, hframe]
      · refine ⟨.done rfl ?_ rfl, ?_⟩
        · exact congrArg (· ++ [_]) hreplies
        · simp [remaining, acknowledged, System.finish, hcurrent]

/-- A calm step keeps a close from failing, and its own steps run out. -/
theorem closing_step (hcalm : Calm writer sys label)
    (hstep : Step writer sys label sys') :
    Closing replies sys' ∧
      remaining sys' + ([label].filter Label.own).length ≤ remaining sys := by
  cases label with
  | client op =>
    obtain ⟨-, -, rfl⟩ := hstep
    refine ⟨?_, le_refl _⟩
    cases h with
    | running hcurrent hphase hreplies =>
      exact .running hcurrent hphase hreplies
    | done hcurrent hreplies hcount => exact .done hcurrent hreplies hcount
  | proceed => exact closing_proceed h hstep
  | append eventId fault =>
    obtain ⟨rfl, hable⟩ := hcalm
    exact closing_append h hsound hrecoverable hdeclared hstartedAt hable hstep
  | _ => cases hcalm

end

theorem closing_run (hdeclared : DeclarationValid writer.stream)
    (hstartedAt : writer.startedAtMs ≤ maxSafeInteger)
    (hsound : Sound writer sys) (hrecoverable : Recoverable writer sys)
    (h : Closing replies sys) (hrun : Run (Guarded (Calm writer) (Step writer))
      sys labels sys') :
    (Sound writer sys' ∧ Recoverable writer sys' ∧ Closing replies sys') ∧
      remaining sys' + (labels.filter Label.own).length ≤ remaining sys := by
  induction hrun with
  | nil => exact ⟨⟨hsound, hrecoverable, h⟩, le_refl _⟩
  | @snoc _ _ labels label _ hstep ih =>
    obtain ⟨⟨hsound', hrecoverable', hclosing⟩, hbound⟩ := ih
    obtain ⟨hnext, hless⟩ := closing_step hclosing hsound' hrecoverable'
      hdeclared hstartedAt hstep.1 hstep.2
    refine ⟨⟨hsound'.step hstep.2, hrecoverable'.step hsound'
      (careful_of_calm hstep.1) hstep.2, hnext⟩, ?_⟩
    rw [filter_append, length_append]
    omega

/-- A close that has not returned can go on. -/
theorem closing_progress (h : Closing replies sys) (hsound : Sound writer sys)
    (hrunning : sys.current ≠ none) (hable : Able writer sys.store)
    (eventId : EventId) :
    ∃ label sys', label.own = true ∧ Calm writer sys label ∧
      Step writer sys label sys' := by
  cases h with
  | done hcurrent _ _ => exact absurd hcurrent hrunning
  | running hcurrent hphase _ =>
    have happend : ∀ pending, sys.awaits writer = some pending →
        ∃ sys', sys.append writer eventId .none = some sys' := by
      intro pending hawaits
      simp only [append, hcurrent, hawaits]
      split <;> exact ⟨_, rfl⟩
    cases hawaits : sys.awaits writer with
    | some pending =>
      obtain ⟨sys', hstep⟩ := happend pending hawaits
      exact ⟨.append eventId .none, sys', rfl, ⟨rfl, hable⟩, hstep⟩
    | none =>
      suffices hproceed : ∃ sys', sys.proceed writer = some sys' by
        obtain ⟨sys', hstep⟩ := hproceed
        exact ⟨.proceed, sys', rfl, trivial, hstep⟩
      simp only [awaits, hcurrent, bind_some] at hawaits
      rcases hphase with rfl | rfl | rfl
      · have hstarted : sys.state.started = true := by
          by_contra hnot
          simp [hnot] at hawaits
        simp [proceed, hcurrent, hstarted]
      · have hnone : sys.state.pending = none := by simpa using hawaits
        simp [proceed, hcurrent, hnone]
      · have hsome := ((hsound.running _ hcurrent).ending rfl).2
        rw [map_eq_none_iff] at hawaits
        rw [hawaits] at hsome
        cases hsome

/-- What the log says once the writer knows its stream has ended. -/
theorem Sound.closed_log (h : Sound writer sys) {count : ℕ}
    (hcount : sys.state.terminalFrameCount = some count) :
    ∃ frames : List MediaFrame, frames.length = count ∧ ∀ log,
      sys.store.sessions.lookup writer.sessionId = some log →
      StreamLog writer log.events frames true := by
  obtain ⟨hconfirmed, hnone⟩ := h.books.closed count hcount
  have hlength := h.books.settled hnone
  refine ⟨(sys.issued.take sys.state.confirmed).map PendingFrame.frame, ?_,
    fun log hlookup => ?_⟩
  · rw [length_map, length_take, hlength, Nat.min_self, hconfirmed]
  · have hstage := h.staged log hlookup
    generalize hsaid : contents writer.stream.id log.events = said at hstage
    cases hstage with
    | unstarted hstarted =>
      rw [h.books.unstarted hstarted] at hcount
      cases hcount
    | opened _ _ hopen => cases hopen.symm.trans hcount
    | ended _ _ =>
      exact streamLog_of_recorded h.books h.books.confirmed_le hsaid

theorem call_close (hidle : sys.current = none) (requestId : Option RpcId)
    (atMs : ℕ) :
    ∃ sys', sys.call writer (.close requestId atMs) = some sys' ∧
      Closing sys.replies sys' ∧ remaining sys' ≤ 5 := by
  cases hcount : sys.state.terminalFrameCount with
  | none =>
    refine ⟨sys.goTo (.close requestId atMs) .starting, ?_,
      .running rfl (.inl rfl) rfl, ?_⟩
    · simp [call, MediaStreamWriter.check, hidle, hcount]
    · by_cases hstarted : sys.state.started = true <;>
        simp [remaining, goTo, hstarted]
  | some count =>
    refine ⟨sys.finish (.closed count), ?_, .done rfl rfl hcount, ?_⟩
    · simp [call, MediaStreamWriter.check, hidle, hcount]
    · simp [remaining, System.finish]

/-- What one more close comes to: it takes at most five steps of its own, it can
take its next one while the store takes events, and when it is over it has
returned the number of frames of the ended stream. -/
structure Recovers (writer : MediaStreamWriter) (replies : List WriterReply)
    (labels : List Label) (sys : System) : Prop where
  bounded : (labels.filter Label.own).length ≤ 5
  progress : sys.current ≠ none → sys.replies = replies ∧
    (Able writer sys.store → ∃ label sys', label.own = true ∧
      Calm writer sys label ∧ Step writer sys label sys')
  returned : sys.current = none → ∃ frames : List MediaFrame,
    sys.replies = replies ++ [.closed frames.length] ∧ ∀ log,
      sys.store.sessions.lookup writer.sessionId = some log →
      StreamLog writer log.events frames true

/-- After any careful run, whatever appends failed, one more close in a session
that takes events ends the stream and returns the number of its frames. -/
theorem close_recovers (writer : MediaStreamWriter)
    (hdeclared : DeclarationValid writer.stream)
    (hstartedAt : writer.startedAtMs ≤ maxSafeInteger)
    (store : MemoryEventStore) (hstore : store.Reached)
    (hunused : Unused writer store) (labels : List Label) (sys : System)
    (hrun : Run (Guarded (Careful writer) (Step writer))
      (new store) labels sys) (hidle : sys.current = none)
    (requestId : Option RpcId) (atMs : ℕ) (hatMs : atMs ≤ maxSafeInteger) :
    ∃ called, Step writer sys (.call (.close requestId atMs)) called ∧
      ∀ labels' sys', Run
        (Guarded (Calm writer) (Step writer)) called labels' sys' →
        Recovers writer sys.replies labels' sys' := by
  obtain ⟨hsound, hrecoverable⟩ := recoverable_of_run hstore hunused hrun
  obtain ⟨called, hcall, hclosing, hfive⟩ :
      ∃ called, sys.call writer (.close requestId atMs) = some called ∧
        Closing sys.replies called ∧ remaining called ≤ 5 :=
    call_close hidle requestId atMs
  have hcall : Step writer sys (.call (.close requestId atMs)) called := hcall
  refine ⟨called, hcall, fun labels' sys' hcalm => ?_⟩
  have hcareful : Careful writer sys (.call (.close requestId atMs)) := hatMs
  obtain ⟨⟨hsound', -, hclosing'⟩, hbound⟩ := closing_run hdeclared hstartedAt
    (hsound.step hcall) (hrecoverable.step hsound hcareful hcall) hclosing hcalm
  refine ⟨by omega, fun hrunning => ⟨?_, fun hable =>
    closing_progress hclosing' hsound' hrunning hable ⟨⟨0⟩⟩⟩, fun hdone => ?_⟩
  · cases hclosing' with
    | running _ _ hreplies => exact hreplies
    | done hcurrent _ _ => exact absurd hcurrent hrunning
  · cases hclosing' with
    | running hcurrent _ _ => cases hcurrent.symm.trans hdone
    | done _ hreplies hcount =>
      obtain ⟨frames, rfl, hlogs⟩ := hsound'.closed_log hcount
      exact ⟨frames, hreplies, hlogs⟩

end

/-! ## Concrete runs -/

section

variable (writer : MediaStreamWriter)

instance (events : List TestEvent) (streamId : MediaStreamId) :
    Decidable (StreamEnded events streamId) :=
  inferInstanceAs (Decidable (∃ event ∈ events,
    event.endedStream? = some streamId))

instance (store : MemoryEventStore) : Decidable (EndedInStore writer store) := by
  unfold EndedInStore
  infer_instance

instance (store : MemoryEventStore) : Decidable (Able writer store) := by
  unfold Able
  infer_instance

instance (sys : System) (label : Label) :
    Decidable (Careful writer sys label) := by
  unfold Careful
  split <;> infer_instance

instance (sys : System) (label : Label) : Decidable (Calm writer sys label) := by
  unfold Calm
  split <;> infer_instance

/-- Run labels of the writer that a guard allows. -/
def System.runGuarded (guard : System → Label → Prop)
    [∀ sys label, Decidable (guard sys label)] (sys : System)
    (labels : List Label) : Option System :=
  exec (fun sys label =>
    if guard sys label then sys.step writer label else none) sys labels

variable {writer}

theorem run_of_runGuarded {guard : System → Label → Prop}
    [∀ sys label, Decidable (guard sys label)] {sys sys' : System}
    (h : sys.runGuarded writer guard labels = some sys') :
    Run (Guarded guard (Step writer)) sys labels sys' := by
  refine run_of_exec (fun before label after hstep => ?_) h
  obtain ⟨hguard, hstep⟩ := ite_none_right_eq_some.mp hstep
  refine ⟨hguard, ?_⟩
  cases label with
  | client op => cases hstep
  | _ => exact hstep

end

/-- The event of a frame is recorded and its acknowledgement lost. -/
def lostFrame : List Label :=
  [.call (samplePush 11), .append ⟨⟨30⟩⟩ .none, .proceed, .proceed,
    .store (.ok sampleStored), .append ⟨⟨31⟩⟩ (.after lost)]

/-- A close that finds the frame and records the end. -/
def closeLater : List Label :=
  [.proceed, .append ⟨⟨32⟩⟩ .none, .proceed, .append ⟨⟨33⟩⟩ .none]

theorem close_recovers_lost_frame :
    ∃ sys called sys',
      (new quietStore).runGuarded sampleWriter (Careful sampleWriter)
        lostFrame = some sys ∧
      Step sampleWriter sys (.call (.close none 12)) called ∧
      called.runGuarded sampleWriter (Calm sampleWriter) closeLater =
        some sys' ∧
      sys'.current = none ∧ Recovers sampleWriter sys.replies closeLater sys' := by
  have hobserved : ((new quietStore).runGuarded sampleWriter
      (Careful sampleWriter) lostFrame).bind (fun sys =>
        (sys.step sampleWriter (.call (.close none 12))).bind (fun called =>
          (called.runGuarded sampleWriter (Calm sampleWriter) closeLater).map
            (fun sys' => (sys.current, sys'.current)))) =
      some (none, none) := by
    decide +kernel
  obtain ⟨sys, hsys, hrest⟩ := bind_eq_some_iff.mp hobserved
  obtain ⟨called, hcalled, hrest⟩ := bind_eq_some_iff.mp hrest
  obtain ⟨sys', hsys', hidle⟩ := map_eq_some_iff.mp hrest
  obtain ⟨hidle, hidle'⟩ := Prod.mk.inj hidle
  obtain ⟨other, hother, hrecovers⟩ := close_recovers sampleWriter
    ⟨by decide +kernel, fun _ hviewport => nomatch hviewport⟩ (by decide)
    quietStore reached_quietStore unused_quietStore lostFrame sys
    (run_of_runGuarded hsys) hidle none 12 (by decide)
  obtain rfl : other = called := Option.some.inj (hother.symm.trans hcalled)
  exact ⟨sys, other, sys', hsys, hother, hsys', hidle',
    hrecovers closeLater sys' (run_of_runGuarded hsys')⟩

/-- The end of the stream is recorded and its acknowledgement lost; then one
more frame is pushed. -/
def pushAfterEnd : List Label :=
  [.call (.close none 11), .append ⟨⟨30⟩⟩ .none, .proceed, .proceed,
    .append ⟨⟨31⟩⟩ (.after lost),
    .call (samplePush 12), .proceed, .proceed, .store (.ok sampleStored),
    .append ⟨⟨32⟩⟩ .none]

/-- After that no close succeeds, though the session is active and no append
fails spuriously: the frame stays pending for a stream that has ended. -/
theorem push_after_lost_end_sticks :
    ∃ sys sys', (new quietStore).runLabels sampleWriter pushAfterEnd =
        some sys ∧
      sys.current = none ∧ Able sampleWriter sys.store ∧
      EndedInStore sampleWriter sys.store ∧
      sys.runLabels sampleWriter
          [.call (.close none 13), .proceed, .append ⟨⟨33⟩⟩ .none,
            .call (.close none 14), .proceed, .append ⟨⟨34⟩⟩ .none] =
        some sys' ∧
      sys'.replies = sys.replies ++
        [.error (.event (.mediaStreamNotActive sampleWriter.stream.id)),
          .error (.event (.mediaStreamNotActive sampleWriter.stream.id))] := by
  simp only [exists_and_left]
  decide +kernel

end DeviceRail.MediaSystem
