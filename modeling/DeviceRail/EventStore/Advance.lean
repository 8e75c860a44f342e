import DeviceRail.EventStore.Invariant

/-!
# What an operation adds to the logs

The effect of one operation on every session at once: the events it can add,
and that a session only disappears when it has ended.  Clients of the store
derive from it what survives the operations of others.
-/

namespace DeviceRail

open History

namespace MemoryEventStore

/-- Every retained session keeps its events, with some of the given ones added,
or has ended and is gone for good.  A session that appears is a new one and has
only its start event. -/
structure Advances (adds : SessionId → TestEvent → Prop)
    (store store' : MemoryEventStore) : Prop where
  kept : ∀ sessionId log, store.sessions.lookup sessionId = some log →
    (∃ log' added, store'.sessions.lookup sessionId = some log' ∧
      log'.events = log.events ++ added ∧
      ∀ event ∈ added, adds sessionId event) ∨
    (store'.sessions.lookup sessionId = none ∧ Ended log.events)
  absent : ∀ sessionId, store.sessions.lookup sessionId = none →
    store'.sessions.lookup sessionId = none ∨
      sessionId ∉ store.usedSessionIds ∧ ∃ log' event,
        store'.sessions.lookup sessionId = some log' ∧
        log'.events = [event] ∧ event.payload = .sessionStarted
  used : store.usedSessionIds ⊆ store'.usedSessionIds

section

variable {adds : SessionId → TestEvent → Prop}
  {store store' : MemoryEventStore}

theorem Advances.refl (store : MemoryEventStore) :
    Advances adds store store where
  kept := by
    intro sessionId log hlog
    exact Or.inl ⟨log, [], hlog, (List.append_nil _).symm, by simp⟩
  absent := fun _ hnone => Or.inl hnone
  used := subset_rfl

theorem Advances.gone (h : Advances adds store store') {sessionId : SessionId}
    (hused : sessionId ∈ store.usedSessionIds)
    (hnone : store.sessions.lookup sessionId = none) :
    store'.sessions.lookup sessionId = none := by
  rcases h.absent sessionId hnone with hgone | ⟨hfresh, -⟩
  · exact hgone
  · exact absurd hused hfresh

theorem Advances.mono {adds' : SessionId → TestEvent → Prop}
    (h : Advances adds store store')
    (hadds : ∀ sessionId event, adds sessionId event → adds' sessionId event) :
    Advances adds' store store' where
  kept := by
    intro sessionId log hlog
    rcases h.kept sessionId log hlog with
      ⟨log', added, hlog', hevents, hall⟩ | hgone
    · exact Or.inl ⟨log', added, hlog', hevents,
        fun event hmem => hadds sessionId event (hall event hmem)⟩
    · exact Or.inr hgone
  absent := h.absent
  used := h.used

/-- Every operation adds only the events that belong to it. -/
theorem Consistent.perform_advances (h : store.Consistent) (op : Op) :
    Advances (fun sessionId event => op.Adds sessionId event) store
      (store.perform op).2 where
  kept := by
    intro sessionId log hlog
    have hfate := store.perform_fate op sessionId
    rw [hlog] at hfate
    generalize hafter : (store.perform op).2.sessions.lookup sessionId = after
      at hfate
    cases hfate with
    | kept hevents =>
      exact Or.inl ⟨_, [], rfl, by rw [hevents, List.append_nil], by simp⟩
    | added hevents hadds =>
      exact Or.inl ⟨_, _, rfl, hevents, by simpa using hadds⟩
    | created hfresh => exact absurd (h.used sessionId log hlog) hfresh
    | deleted hended =>
      exact Or.inr ⟨rfl, (h.represents sessionId log hlog).ended_iff.mp hended⟩
  absent := by
    intro sessionId hnone
    have hfate := store.perform_fate op sessionId
    rw [hnone] at hfate
    generalize (store.perform op).2.sessions.lookup sessionId = after at hfate
    cases hfate with
    | absent => exact Or.inl rfl
    | created hfresh hevents hpayload =>
      exact Or.inr ⟨hfresh, _, _, rfl, hevents, hpayload⟩
  used := store.used_perform op

theorem Consistent.advances_append (h : store.Consistent)
    (pending : PendingEvent) (eventId : EventId) :
    Advances (fun sessionId event => sessionId = pending.sessionId ∧
      ∃ sequence, event = pending.toEvent eventId sequence) store
      (store.append pending eventId).2 :=
  h.perform_advances (.append pending eventId)

section

variable (h : store.Consistent) (sessionId : SessionId)
  (lease : ObservationLease)
include h

theorem Consistent.advances_reserveObservation :
    Advances (fun _ _ => False) store
      (store.reserveObservation sessionId lease).2 :=
  h.perform_advances (.reserveObservation sessionId lease)

theorem Consistent.advances_releaseObservation :
    Advances (fun _ _ => False) store
      (store.releaseObservation sessionId lease).2 :=
  h.perform_advances (.releaseObservation sessionId lease)

end

end

end MemoryEventStore

end DeviceRail
