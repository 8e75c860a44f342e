import DeviceRail.EventStore.Changes

/-!
# The invariant of the event store

Every retained log is the record of a legal history, and the lease table of
the store agrees with the observations its logs have in flight.  Both hold in
every state that a sequence of calls can reach.
-/

namespace DeviceRail

open History KeyedMap

section

variable {sessionId : SessionId} {log log' : SessionLog}

theorem LogChange.represents (h : LogChange sessionId log log')
    (hlog : log.Represents sessionId) : log'.Represents sessionId := by
  cases h with
  | recorded pending eventId sequence transition hid hcheck hactive hsequence
      hadmitted =>
      obtain ⟨hat, hlifecycle⟩ := MemoryEventStore.checkPending_eq_ok.mp hcheck
      obtain ⟨htransition, hadmits⟩ :=
        hlog.admits hlifecycle hadmitted eventId sequence
      subst htransition
      have hnext := EventSequence.checkedNext_eq_some.mp hsequence
      rw [hlog.lastSequence] at hnext
      have hopen : (pending.toEvent eventId sequence).isSessionEnded =
          false := by
        simp only [TestEvent.isSessionEnded, PendingEvent.toEvent]
        cases hpayload : pending.payload <;> simp_all
      exact hlog.record hactive hid hnext hat hopen hadmits
  | closed command eventId sequence hid hat hactive hobservations hcalls
      hstreams hsequence =>
      have hnext := EventSequence.checkedNext_eq_some.mp hsequence
      rw [hlog.lastSequence] at hnext
      exact hlog.close hactive hid hnext hat rfl hobservations hcalls hstreams
  | tail streamTail => exact hlog.withTail streamTail

theorem LogChange.inFlightObservations (h : LogChange sessionId log log') :
    log'.inFlightObservations = log.inFlightObservations := by
  cases h <;> simp

end

namespace MemoryEventStore

/-- The invariant of reachable stores. -/
structure Consistent (store : MemoryEventStore) : Prop where
  represents : ∀ sessionId log,
    store.sessions.lookup sessionId = some log → log.Represents sessionId
  used : ∀ sessionId log,
    store.sessions.lookup sessionId = some log →
      sessionId ∈ store.usedSessionIds
  leases : ∀ sessionId log,
    store.sessions.lookup sessionId = some log →
      ∀ lease, lease ∈ log.inFlightObservations ↔
        store.observationLeases.lookup lease = some ⟨sessionId, false⟩
  leased : ∀ lease state,
    store.observationLeases.lookup lease = some state →
      ∃ log, store.sessions.lookup state.sessionId = some log

variable {store : MemoryEventStore} {sessionId : SessionId}
  {log log' : SessionLog}

theorem lookup_setLog (h : store.sessions.lookup sessionId = some log)
    (key : SessionId) :
    (store.setLog sessionId log').sessions.lookup key =
      if key = sessionId then some log' else store.sessions.lookup key := by
  simp [setLog, lookup_adjust, h]

section

variable (store : MemoryEventStore) (sessionId : SessionId) (log : SessionLog)

@[simp] theorem setLog_observationLeases :
    (store.setLog sessionId log).observationLeases =
      store.observationLeases := rfl

@[simp] theorem setLog_usedSessionIds :
    (store.setLog sessionId log).usedSessionIds = store.usedSessionIds := rfl

end

/-! ## What happens to a session -/

/-- What an operation can do to the log of a session. -/
inductive Fate (store : MemoryEventStore) (op : Op) (sessionId : SessionId) :
    Option SessionLog → Option SessionLog → Prop
  | absent : Fate store op sessionId none none
  | kept {log log' : SessionLog} (hevents : log'.events = log.events) :
      Fate store op sessionId (some log) (some log')
  | added {log log' event} (hevents : log'.events = log.events ++ [event])
      (hadds : op.Adds sessionId event) :
      Fate store op sessionId (some log) (some log')
  | created {before log' event} (hfresh : sessionId ∉ store.usedSessionIds)
      (hevents : log'.events = [event])
      (hpayload : event.payload = .sessionStarted) :
      Fate store op sessionId before (some log')
  | deleted {log : SessionLog} (hended : log.info.state = .ended) :
      Fate store op sessionId (some log) none

section

variable {store' : MemoryEventStore} {op : Op}

theorem Fate.refl (log : Option SessionLog) :
    Fate store op sessionId log log := by
  cases log with
  | none => exact .absent
  | some log => exact .kept rfl

theorem fate_setLog (hlookup : store.sessions.lookup sessionId = some log)
    (hfate : Fate store op sessionId (some log) (some log')) (key : SessionId) :
    Fate store op key (store.sessions.lookup key)
      ((store.setLog sessionId log').sessions.lookup key) := by
  rw [lookup_setLog hlookup]
  split
  next heq => rwa [heq, hlookup]
  next => exact .refl _

theorem Change.fate (h : store.Change op store') (key : SessionId) :
    Fate store op key (store.sessions.lookup key)
      (store'.sessions.lookup key) := by
  cases h with
  | created command eventId _ hfresh =>
    rw [lookup_insert_ite]
    split
    next heq =>
      rw [heq]
      exact .created hfresh rfl rfl
    next => exact .refl _
  | updated _ log log' hlookup _ hevents =>
    refine fate_setLog hlookup ?_ key
    rcases hevents with hsame | ⟨event, hevents, hadds⟩
    · exact .kept hsame
    · exact .added hevents hadds
  | reserved _ _ _ hlookup _ => exact fate_setLog hlookup (.kept (by rfl)) key
  | released _ _ _ hlookup _ _ => exact fate_setLog hlookup (.kept (by rfl)) key
  | deleted _ log hlookup hended =>
    rw [lookup_erase_ite]
    split
    next heq =>
      rw [heq, hlookup]
      exact .deleted hended
    next => exact .refl _
  | shutdown _ =>
    rw [lookup_mapValues]
    cases store.sessions.lookup key with
    | none => exact .absent
    | some log => exact .kept rfl

theorem perform_fate (store : MemoryEventStore) (op : Op) (key : SessionId) :
    Fate store op key (store.sessions.lookup key)
      ((store.perform op).2.sessions.lookup key) := by
  rcases store.perform_cases op with hsame | ⟨-, hchange⟩
  · rw [hsame]
    exact .refl _
  · exact hchange.fate key

theorem used_perform (store : MemoryEventStore) (op : Op) :
    store.usedSessionIds ⊆ (store.perform op).2.usedSessionIds := by
  rcases store.perform_cases op with hsame | ⟨-, hchange⟩
  · rw [hsame]
  · generalize (store.perform op).2 = store' at hchange ⊢
    cases hchange with
    | created => exact Finset.subset_insert _ _
    | _ => exact Finset.Subset.refl _

end

/-! ## Preservation -/

section

variable {store : MemoryEventStore} {sessionId : SessionId}
  {lease : ObservationLease} {log : SessionLog}

section

variable (h : store.Consistent)

include h

theorem Consistent.unleased (hunused : sessionId ∉ store.usedSessionIds)
    {state : ObservationLeaseState}
    (hlease : store.observationLeases.lookup lease = some state) :
    state.sessionId ≠ sessionId := by
  obtain ⟨log, hlog⟩ := h.leased lease state hlease
  rintro rfl
  exact hunused (h.used _ log hlog)

theorem Consistent.created (command : StartSession) (eventId : EventId)
    (hat : command.atMs ≤ maxSafeInteger)
    (hfresh : command.sessionId ∉ store.usedSessionIds) :
    ({ store with
        usedSessionIds := insert command.sessionId store.usedSessionIds
        sessions := store.sessions.insert command.sessionId
          (SessionLog.start command eventId store.streamConfig.tailCapacity) } :
      MemoryEventStore).Consistent := by
  constructor
  · exact forall_insert
      (SessionLog.represents_start command eventId _ hat) h.represents
  · exact forall_insert (Finset.mem_insert_self _ _)
      fun sessionId log hlookup =>
        Finset.mem_insert_of_mem (h.used sessionId log hlookup)
  · refine forall_insert (fun lease => ⟨fun hmem => ?_, ?_⟩) h.leases
    · simp [SessionLog.start] at hmem
    · exact fun hlease => absurd rfl (h.unleased hfresh hlease)
  · intro lease state hlease
    obtain ⟨log, hlog⟩ := h.leased lease state hlease
    have hne : state.sessionId ≠ command.sessionId := h.unleased hfresh hlease
    exact ⟨log, by rw [lookup_insert_ite, if_neg hne, hlog]⟩

section

variable (hlookup : store.sessions.lookup sessionId = some log)

include hlookup

/-- Replacing one log, and the leases of its session with it, keeps the store
consistent. -/
theorem Consistent.withLog
    {leases : KeyedMap ObservationLease ObservationLeaseState}
    (hrepresents : log'.Represents sessionId)
    (hown : ∀ lease, lease ∈ log'.inFlightObservations ↔
      leases.lookup lease = some ⟨sessionId, false⟩)
    (hother : ∀ key lease released, key ≠ sessionId →
      (leases.lookup lease = some ⟨key, released⟩ ↔
        store.observationLeases.lookup lease = some ⟨key, released⟩)) :
    ({ store.setLog sessionId log' with observationLeases := leases } :
      MemoryEventStore).Consistent := by
  constructor
  · exact forall_adjust (fun _ _ => hrepresents) fun key log _ =>
      h.represents key log
  · exact forall_adjust (h.used sessionId) fun key log _ => h.used key log
  · refine forall_adjust (fun _ _ => hown) fun key log hne hlog lease => ?_
    rw [hother key lease false hne]
    exact h.leases key log hlog lease
  · rintro lease ⟨key, released⟩ hlease
    rw [lookup_setLog hlookup]
    split
    next => exact ⟨log', rfl⟩
    next hne => exact h.leased lease _ ((hother key lease released hne).mp hlease)

theorem Consistent.updated (hlog : LogChange sessionId log log') :
    (store.setLog sessionId log').Consistent := by
  refine h.withLog hlookup
    (hlog.represents (h.represents sessionId log hlookup)) ?_
    (fun key lease released _ => Iff.rfl)
  intro lease
  rw [hlog.inFlightObservations]
  exact h.leases sessionId log hlookup lease

theorem Consistent.reserved (hactive : log.info.state ≠ .ended)
    (hfresh : store.observationLeases.lookup lease = none) :
    ({ store.setLog sessionId { log with
          inFlightObservations := insert lease log.inFlightObservations } with
        observationLeases :=
          store.observationLeases.insert lease ⟨sessionId, false⟩ } :
      MemoryEventStore).Consistent := by
  refine h.withLog hlookup ((h.represents sessionId log
    hlookup).withObservations fun hended => absurd hended hactive) ?_ ?_
  · intro other
    rw [Finset.mem_insert, h.leases sessionId log hlookup, lookup_insert_ite]
    by_cases hsame : other = lease <;> simp [hsame]
  · intro key other released hne
    by_cases hsame : other = lease
    · subst hsame
      simp [hfresh, Ne.symm hne]
    · simp [hsame]

theorem Consistent.released
    (hlease : store.observationLeases.lookup lease = some ⟨sessionId, false⟩) :
    ({ store.setLog sessionId { log with
          inFlightObservations := log.inFlightObservations.erase lease } with
        observationLeases := store.observationLeases.adjust lease
          (fun state => { state with released := true }) } :
      MemoryEventStore).Consistent := by
  have hlog := h.represents sessionId log hlookup
  have hsettled : log.info.state = .ended →
      log.inFlightObservations.erase lease = ∅ := by
    intro hended
    rw [hlog.settled hended, Finset.erase_empty]
  refine h.withLog hlookup (hlog.withObservations hsettled) ?_ ?_
  · intro other
    rw [Finset.mem_erase, h.leases sessionId log hlookup, lookup_adjust, hlease]
    by_cases hsame : other = lease <;> simp [hsame]
  · intro key other released hne
    rw [lookup_adjust, hlease]
    by_cases hsame : other = lease
    · subst hsame
      simp [hlease, Ne.symm hne]
    · simp [hsame]

end

theorem Consistent.deleted (sessionId : SessionId) :
    ({ store with
        sessions := store.sessions.erase sessionId
        observationLeases := store.observationLeases.retain
          (fun lease => decide (lease.sessionId ≠ sessionId)) } :
      MemoryEventStore).Consistent := by
  constructor
  · exact forall_erase h.represents
  · exact forall_erase h.used
  · intro key log hlog lease
    rw [lookup_erase_ite] at hlog
    split at hlog
    next => cases hlog
    next hne =>
      rw [h.leases key log hlog, lookup_retain]
      simp [Option.filter_eq_some_iff, hne]
  · intro lease state hlease
    rw [lookup_retain, Option.filter_eq_some_iff] at hlease
    obtain ⟨log, hlog⟩ := h.leased lease state hlease.1
    refine ⟨log, ?_⟩
    rw [lookup_erase_ite, if_neg (by simpa using hlease.2), hlog]

theorem Consistent.shutdown :
    ({ store with
        streamShutdown := true
        sessions := store.sessions.mapValues (·.signal .storeShutdown) } :
      MemoryEventStore).Consistent := by
  constructor
  · intro key log hlog
    rw [lookup_mapValues, Option.map_eq_some_iff] at hlog
    obtain ⟨old, hold, rfl⟩ := hlog
    exact (h.represents key old hold).withTail _
  · intro key log hlog
    rw [lookup_mapValues, Option.map_eq_some_iff] at hlog
    obtain ⟨old, hold, rfl⟩ := hlog
    exact h.used key old hold
  · intro key log hlog lease
    rw [lookup_mapValues, Option.map_eq_some_iff] at hlog
    obtain ⟨old, hold, rfl⟩ := hlog
    exact h.leases key old hold lease
  · intro lease state hlease
    obtain ⟨log, hlog⟩ := h.leased lease state hlease
    exact ⟨_, by rw [lookup_mapValues, hlog]; rfl⟩

theorem Consistent.perform {op : Op} (hdrawn : op.Drawn store) :
    (store.perform op).2.Consistent := by
  rcases store.perform_cases op with hsame | ⟨-, hchange⟩
  · rwa [hsame]
  · generalize (store.perform op).2 = store' at hchange ⊢
    cases hchange with
    | created command eventId hat hfresh =>
      exact h.created command eventId hat hfresh
    | updated sessionId log log' hlookup hlog _ => exact h.updated hlookup hlog
    | reserved sessionId log lease hlookup hactive =>
      exact h.reserved hlookup hactive (AList.lookup_eq_none.mpr hdrawn)
    | released sessionId log lease hlookup hlease _ =>
      exact h.released hlookup hlease
    | deleted sessionId log _ _ => exact h.deleted sessionId
    | shutdown _ => exact h.shutdown

end

theorem Step.consistent {op : Op} {store' : MemoryEventStore}
    (hstep : Step store op store') (h : store.Consistent) :
    store'.Consistent := by
  obtain ⟨hdrawn, rfl⟩ := hstep
  exact h.perform hdrawn

/-- Every reachable store is consistent. -/
theorem Reached.consistent (h : store.Reached) : store.Consistent := by
  obtain ⟨config, hreach⟩ := h
  refine hreach.invariant ?_
    (fun _ _ _ hconsistent hstep => hstep.consistent hconsistent)
  constructor <;> simp [withEventStreamConfig]

end

end MemoryEventStore

/-! ## Coherent logs -/

/-- Everything the parts of a log say about each other. -/
structure SessionLog.Coherent (log : SessionLog) : Prop where
  sequences : ∀ (i : ℕ) (event : TestEvent), log.events[i]? = some event →
    event.sequence.get = i + 1
  counts : log.info.eventCount = log.info.lastSequence ∧
    log.info.lastSequence.get = log.events.length
  started_first : log.events ≠ [] ∧
    ∀ (i : ℕ) (event : TestEvent), log.events[i]? = some event →
      (event.payload = .sessionStarted ↔ i = 0)
  ended_iff : (∃ event ∈ log.events, event.isSessionEnded = true) ↔
    log.info.state = .ended
  ended_last : ∀ (i : ℕ) (event : TestEvent), log.events[i]? = some event →
    event.isSessionEnded = true → i + 1 = log.events.length
  seenCalls : ∀ callId, callId ∈ log.seenCalls ↔
    ∃ event ∈ log.events, event.startedCall? = some callId
  inFlight : ∀ callId correlation,
    log.inFlight.lookup callId = some correlation ↔
      (∃ start ∈ log.events, start.startedCall? = some callId ∧
        start.requestId = correlation.requestId ∧
        start.deviceId = correlation.deviceId) ∧
      ¬∃ done ∈ log.events, done.completedCall? = some callId
  completions : ∀ (j : ℕ) (done : TestEvent) (callId : Uuid),
    log.events[j]? = some done → done.completedCall? = some callId →
      (∃ (i : ℕ) (start : TestEvent), i < j ∧ log.events[i]? = some start ∧
        start.startedCall? = some callId ∧
        start.requestId = done.requestId ∧ start.deviceId = done.deviceId ∧
        ∀ (k : ℕ) (other : TestEvent), log.events[k]? = some other →
          other.startedCall? = some callId → k = i) ∧
      ∀ (k : ℕ) (other : TestEvent), log.events[k]? = some other →
        other.completedCall? = some callId → k = j
  mediaStreams : ∀ streamId state,
    log.mediaStreams.lookup streamId = some state ↔
      DeclaredAs log.events streamId state.mediaType ∧
      (¬∃ event ∈ log.events, event.endedStream? = some streamId) ∧
      state.nextFrameIndex = 1 + (frameIndices log.events streamId).length
  frames : ∀ streamId, frameIndices log.events streamId =
    List.range' 1 (frameIndices log.events streamId).length
  settled : log.info.state = .ended →
    log.inFlight = ∅ ∧ log.mediaStreams = ∅ ∧ log.inFlightObservations = ∅

theorem SessionLog.Represents.coherent {log : SessionLog}
    {sessionId : SessionId} (h : log.Represents sessionId) :
    log.Coherent where
  sequences := h.legal.sequence_eq
  counts := by
    refine ⟨?_, h.lastSequence⟩
    apply EventSequence.ext
    rw [h.eventCount, h.lastSequence]
  started_first := ⟨h.legal.ne_nil, h.legal.sessionStarted_iff⟩
  ended_iff := h.ended_iff.symm
  ended_last := h.legal.sessionEnded_last
  seenCalls := h.seenCalls
  inFlight := by
    rintro callId ⟨requestId, deviceId⟩
    rw [h.inFlight, (h.legal.openCall_eq_some_iff callId).2]
    simp only [TestEvent.correlation, ActionCorrelation.mk.injEq]
    exact Iff.rfl
  completions := by
    intro j done callId hj hdone
    obtain ⟨i, start, hlt, hi, hstart, hcorrelation⟩ :=
      h.legal.start_before_completion j done callId hj hdone
    simp only [TestEvent.correlation, ActionCorrelation.mk.injEq] at hcorrelation
    refine ⟨⟨i, start, hlt, hi, hstart, hcorrelation.1, hcorrelation.2, ?_⟩, ?_⟩
    · intro k other hk hother
      exact Indexed.eq_of_filterMap_nodup h.legal.startedCalls_nodup hk hother
        hi hstart
    · intro k other hk hother
      exact Indexed.eq_of_filterMap_nodup h.legal.completedCalls_nodup hk hother
        hj hdone
  mediaStreams := by
    intro streamId state
    rw [h.mediaStreams]
    exact (h.legal.streamFacts streamId).open_iff state
  frames := fun streamId => (h.legal.streamFacts streamId).indices
  settled := by
    intro hended
    obtain ⟨hcalls, hstreams⟩ := h.legal.quiescent (h.ended_iff.mp hended)
    refine ⟨eq_empty_of_lookup ?_, eq_empty_of_lookup ?_, h.settled hended⟩
    · intro callId
      rw [h.inFlight, hcalls]
    · intro streamId
      rw [h.mediaStreams, hstreams]

namespace MemoryEventStore

/-- In every reachable store every retained log is coherent. -/
theorem reached_log_coherent (store : MemoryEventStore) (h : store.Reached)
    (sessionId : SessionId) (log : SessionLog)
    (hlookup : store.sessions.lookup sessionId = some log) : log.Coherent :=
  (h.consistent.represents sessionId log hlookup).coherent

def sampleStart : Op := .startSession ⟨⟨⟨1⟩⟩, none, none, 5⟩ ⟨⟨2⟩⟩

def sampleAction : Op :=
  .append ⟨⟨⟨1⟩⟩, some (.number 7), none, 6,
    .actionStarted ⟨⟨9⟩, "device.tap", .null, true⟩⟩ ⟨⟨3⟩⟩

/-- A session with one action in flight. -/
def busyStore : MemoryEventStore :=
  (((withEventStreamConfig .default).perform sampleStart).2.perform
    sampleAction).2

theorem reached_busyStore : busyStore.Reached :=
  ((reached_withEventStreamConfig .default).perform sampleStart
    trivial).perform sampleAction trivial

theorem reached_log_coherent_busy :
    (busyStore.sessions.lookup ⟨⟨1⟩⟩).any
        (fun log => log.inFlight.lookup ⟨9⟩ = some ⟨some (.number 7), none⟩) ∧
      ∃ log, busyStore.sessions.lookup ⟨⟨1⟩⟩ = some log ∧ log.Coherent := by
  have hsome : (busyStore.sessions.lookup ⟨⟨1⟩⟩).isSome = true := by decide
  obtain ⟨log, hlog⟩ := Option.isSome_iff_exists.mp hsome
  exact ⟨by decide, log, hlog,
    reached_log_coherent busyStore reached_busyStore _ log hlog⟩

end MemoryEventStore

end DeviceRail
