import DeviceRail.EventStore.Advance

/-!
# Observation leases

What the agreement of the lease table with the logs gives: a release never
meets one of its defensive errors, a valid pair can be released again as long
as its session is retained, and nothing but a release or a deletion takes a
lease away.
-/

namespace DeviceRail.MemoryEventStore

variable {store : MemoryEventStore} {sessionId : SessionId}
  {lease : ObservationLease} {released : Bool}

theorem releaseObservation_unknown (h : ∀ released,
      store.observationLeases.lookup lease ≠ some ⟨sessionId, released⟩) :
    store.releaseObservation sessionId lease =
      (.error (.invalidObservationLease sessionId lease.uuid), store) := by
  unfold releaseObservation
  split
  next => rfl
  next state hlease =>
    have hne : state.sessionId ≠ sessionId := by
      rintro rfl
      exact h state.released hlease
    rw [if_pos hne]

theorem Consistent.releaseObservation_ok (h : store.Consistent)
    (hlease : store.observationLeases.lookup lease =
      some ⟨sessionId, released⟩) :
    (store.releaseObservation sessionId lease).1 = .ok () := by
  obtain ⟨log, hlog⟩ := h.leased lease _ hlease
  unfold releaseObservation
  simp only [hlease, ne_eq, not_true_eq_false, if_false]
  cases released with
  | true => simp
  | false =>
    have hmem := (h.leases sessionId log hlog lease).mpr hlease
    simp [hlog, hmem, hlease]

theorem Consistent.releaseObservation_ne_internal (h : store.Consistent)
    (sessionId : SessionId) (lease : ObservationLease) (message : String) :
    (store.releaseObservation sessionId lease).1 ≠
      .error (.internal message) := by
  by_cases hvalid : ∃ released,
      store.observationLeases.lookup lease = some ⟨sessionId, released⟩
  · obtain ⟨released, hlease⟩ := hvalid
    rw [h.releaseObservation_ok hlease]
    simp
  · rw [releaseObservation_unknown (not_exists.mp hvalid)]
    simp

section

variable {store' : MemoryEventStore} {op : Op}

/-- A lease stays as it is, is released, or goes with its session when that is
deleted. -/
theorem perform_lease (hdrawn : op.Drawn store)
    (hlease : store.observationLeases.lookup lease =
      some ⟨sessionId, released⟩) :
    (store.perform op).2.observationLeases.lookup lease =
        some ⟨sessionId, released⟩ ∨
      (∃ key, op = .releaseObservation key lease) ∧
        (store.perform op).2.observationLeases.lookup lease =
          some ⟨sessionId, true⟩ ∨
      (store.perform op).2.sessions.lookup sessionId = none ∧
        ∃ log, store.sessions.lookup sessionId = some log ∧
          log.info.state = .ended := by
  rcases store.perform_cases op with hsame | ⟨-, hchange⟩
  · rw [hsame]
    exact Or.inl hlease
  generalize (store.perform op).2 = store' at hchange ⊢
  cases hchange with
  | reserved key log other _ _ =>
    have hne : lease ≠ other := by
      rintro rfl
      exact hdrawn ((KeyedMap.mem_iff_lookup _ _).mpr ⟨_, hlease⟩)
    exact Or.inl (by rw [KeyedMap.lookup_insert_ite, if_neg hne, hlease])
  | released key log other _ _ _ =>
    rw [KeyedMap.lookup_adjust]
    split
    next heq =>
      subst heq
      exact Or.inr (Or.inl ⟨⟨key, rfl⟩, by rw [hlease]; rfl⟩)
    next => exact Or.inl hlease
  | deleted key log hlookup hended =>
    by_cases hkey : sessionId = key
    · subst hkey
      exact Or.inr (Or.inr ⟨AList.lookup_erase _ _, log, hlookup, hended⟩)
    · left
      rw [KeyedMap.lookup_retain, hlease]
      simp [hkey]
  | _ => exact Or.inl hlease

theorem Consistent.gone_perform (h : store.Consistent) (op : Op)
    (hgone : store.sessions.lookup sessionId = none ∧
      sessionId ∈ store.usedSessionIds) :
    (store.perform op).2.sessions.lookup sessionId = none ∧
      sessionId ∈ (store.perform op).2.usedSessionIds :=
  ⟨(h.perform_advances op).gone hgone.2 hgone.1, store.used_perform op hgone.2⟩

/-- The pair is in the lease table, or its session is gone for good. -/
def LeaseKnown (sessionId : SessionId) (lease : ObservationLease)
    (store : MemoryEventStore) : Prop :=
  (∃ released,
    store.observationLeases.lookup lease = some ⟨sessionId, released⟩) ∨
  (store.sessions.lookup sessionId = none ∧ sessionId ∈ store.usedSessionIds)

theorem LeaseKnown.perform (h : LeaseKnown sessionId lease store)
    (hconsistent : store.Consistent) (hdrawn : op.Drawn store) :
    LeaseKnown sessionId lease (store.perform op).2 := by
  rcases h with ⟨released, hlease⟩ | hgone
  · rcases perform_lease hdrawn hlease with hsame | ⟨-, hreleased⟩ |
      ⟨hnone, log, hlog, -⟩
    · exact Or.inl ⟨released, hsame⟩
    · exact Or.inl ⟨true, hreleased⟩
    · exact Or.inr ⟨hnone,
        store.used_perform op (hconsistent.used sessionId log hlog)⟩
  · exact Or.inr (hconsistent.gone_perform op hgone)

theorem LeaseKnown.run {ops : List Op}
    (hrun : Transition.Run Step store ops store')
    (h : LeaseKnown sessionId lease store) (hconsistent : store.Consistent) :
    LeaseKnown sessionId lease store' := by
  suffices hboth : store'.Consistent ∧ LeaseKnown sessionId lease store' from
    hboth.2
  refine hrun.invariant (I := fun s =>
    s.Consistent ∧ LeaseKnown sessionId lease s) ?_ ⟨hconsistent, h⟩
  rintro s op t ⟨hs, hknown⟩ hstep
  refine ⟨hstep.consistent hs, ?_⟩
  obtain ⟨hdrawn, rfl⟩ := hstep
  exact hknown.perform hs hdrawn

/-- The pair was released, or its session is gone for good. -/
def LeaseSettled (sessionId : SessionId) (lease : ObservationLease)
    (store : MemoryEventStore) : Prop :=
  store.observationLeases.lookup lease = some ⟨sessionId, true⟩ ∨
  (store.sessions.lookup sessionId = none ∧ sessionId ∈ store.usedSessionIds)

theorem LeaseSettled.perform (h : LeaseSettled sessionId lease store)
    (hconsistent : store.Consistent) (hdrawn : op.Drawn store) :
    LeaseSettled sessionId lease (store.perform op).2 := by
  rcases h with hlease | hgone
  · rcases perform_lease hdrawn hlease with hsame | ⟨-, hreleased⟩ |
      ⟨hnone, log, hlog, -⟩
    · exact Or.inl hsame
    · exact Or.inl hreleased
    · exact Or.inr ⟨hnone,
        store.used_perform op (hconsistent.used sessionId log hlog)⟩
  · exact Or.inr (hconsistent.gone_perform op hgone)

theorem Consistent.unreleased_perform (h : store.Consistent)
    (hdrawn : op.Drawn store)
    (hother : ∀ key, op ≠ .releaseObservation key lease)
    (hlease : store.observationLeases.lookup lease = some ⟨sessionId, false⟩) :
    (store.perform op).2.observationLeases.lookup lease =
      some ⟨sessionId, false⟩ := by
  rcases perform_lease hdrawn hlease with hsame | ⟨⟨key, hop⟩, -⟩ |
    ⟨-, log, hlog, hended⟩
  · exact hsame
  · exact absurd hop (hother key)
  · have hmem := (h.leases sessionId log hlog lease).mpr hlease
    rw [(h.represents sessionId log hlog).settled hended] at hmem
    simp at hmem

theorem Consistent.leaseSettled_release (h : store.Consistent)
    (hlease : store.observationLeases.lookup lease = some ⟨sessionId, false⟩) :
    LeaseSettled sessionId lease
      (store.releaseObservation sessionId lease).2 := by
  have hok := h.releaseObservation_ok hlease
  rcases store.releaseObservation_cases sessionId lease with
    ⟨error, hrelease⟩ | ⟨hreleased, -⟩ | ⟨log, -, -, -, hrelease⟩
  · rw [hrelease] at hok
    cases hok
  · cases hlease.symm.trans hreleased
  · left
    rw [hrelease]
    simp only [KeyedMap.lookup_adjust, if_true, hlease]
    rfl

end

/-- The lease table of every reachable store agrees with its logs, so that
releases are total on valid pairs and everything else about leases follows. -/
theorem reached_lease_bookkeeping (store : MemoryEventStore)
    (h : store.Reached) :
    (∀ sessionId log, store.sessions.lookup sessionId = some log →
      ∀ lease, lease ∈ log.inFlightObservations ↔
        store.observationLeases.lookup lease = some ⟨sessionId, false⟩) ∧
    (∀ lease state, store.observationLeases.lookup lease = some state →
      ∃ log, store.sessions.lookup state.sessionId = some log) ∧
    (∀ sessionId lease message,
      (store.releaseObservation sessionId lease).1 ≠
        .error (.internal message)) ∧
    (∀ sessionId lease released ops store',
      store.observationLeases.lookup lease = some ⟨sessionId, released⟩ →
      Transition.Run Step store ops store' →
      store'.sessions.lookup sessionId ≠ none →
        (store'.releaseObservation sessionId lease).1 = .ok ()) ∧
    (∀ sessionId lease,
      (∀ released, store.observationLeases.lookup lease ≠
        some ⟨sessionId, released⟩) →
      store.releaseObservation sessionId lease =
        (.error (.invalidObservationLease sessionId lease.uuid), store)) ∧
    (∀ sessionId store', store.deleteEnded sessionId = (.ok (), store') →
      ∀ lease state, store'.observationLeases.lookup lease = some state ↔
        store.observationLeases.lookup lease = some state ∧
          state.sessionId ≠ sessionId) ∧
    (∀ command eventId info store',
      store.endSession command eventId = (.ok info, store') →
      ∀ lease, store.observationLeases.lookup lease ≠
        some ⟨command.sessionId, false⟩) := by
  have hconsistent := h.consistent
  refine ⟨hconsistent.leases, hconsistent.leased,
    hconsistent.releaseObservation_ne_internal, ?_, ?_, ?_, ?_⟩
  · intro sessionId lease released ops store' hlease hrun hretained
    have hconsistent' : store'.Consistent :=
      hrun.invariant (fun _ _ _ hs hstep => hstep.consistent hs) hconsistent
    rcases LeaseKnown.run hrun (Or.inl ⟨released, hlease⟩) hconsistent with
      ⟨released', hlease'⟩ | ⟨hnone, -⟩
    · exact hconsistent'.releaseObservation_ok hlease'
    · exact absurd hnone hretained
  · intro sessionId lease hunknown
    exact releaseObservation_unknown hunknown
  · intro sessionId store' hdelete lease state
    rcases store.deleteEnded_cases sessionId with ⟨error, herror⟩ |
      ⟨log, -, -, hok⟩
    · cases herror.symm.trans hdelete
    · cases hok.symm.trans hdelete
      rw [KeyedMap.lookup_retain, Option.filter_eq_some_iff]
      simp
  · intro command eventId info store' hend lease hlease
    rcases store.endSession_cases command eventId with ⟨error, herror⟩ |
      ⟨log, sequence, hlookup, -, -, hobservations, -⟩
    · rw [herror] at hend
      cases hend
    · have hmem := (hconsistent.leases _ log hlookup lease).mpr hlease
      rw [hobservations] at hmem
      simp at hmem

def sampleReserve : Op := .reserveObservation ⟨⟨1⟩⟩ ⟨⟨4⟩⟩

/-- A session with one observation in flight. -/
def leasedStore : MemoryEventStore :=
  (((withEventStreamConfig .default).perform sampleStart).2.perform
    sampleReserve).2

theorem reached_leasedStore : leasedStore.Reached :=
  ((reached_withEventStreamConfig .default).perform sampleStart
    trivial).perform sampleReserve (by simp [sampleReserve, Op.Drawn, perform,
      sampleStart, startSession, ensureTimestamp, maxSafeInteger,
      withEventStreamConfig])

theorem reached_lease_bookkeeping_leased :
    leasedStore.observationLeases.lookup ⟨⟨4⟩⟩ = some ⟨⟨⟨1⟩⟩, false⟩ ∧
      (leasedStore.releaseObservation ⟨⟨1⟩⟩ ⟨⟨4⟩⟩).1 = .ok () := by
  obtain ⟨-, -, -, hrelease, -⟩ :=
    reached_lease_bookkeeping leasedStore reached_leasedStore
  have hlease : leasedStore.observationLeases.lookup ⟨⟨4⟩⟩ =
      some ⟨⟨⟨1⟩⟩, false⟩ := by decide
  refine ⟨hlease, hrelease _ _ _ [] leasedStore hlease
    (Transition.Run.nil _) ?_⟩
  have hsome : (leasedStore.sessions.lookup ⟨⟨1⟩⟩).isSome = true := by decide
  intro hnone
  rw [hnone] at hsome
  cases hsome

end DeviceRail.MemoryEventStore
