import DeviceRail.EventStore.Advance
import DeviceRail.Support.AppendOnly

/-!
# Logs only grow

The store seen as an append-only collection of keyed lists with tombstones:
its runs extend every retained log at the end, freeze ended logs, and never
revive a used session identifier.
-/

namespace DeviceRail

open History

namespace MemoryEventStore

/-- The event lists of the retained sessions and the used identifiers. -/
def logs (store : MemoryEventStore) : AppendOnly.State SessionId TestEvent where
  retained sessionId := (store.sessions.lookup sessionId).map SessionLog.events
  used := {sessionId | sessionId ∈ store.usedSessionIds}

section

variable {store store' : MemoryEventStore} {sessionId : SessionId}
  {command : StartSession}

theorem Consistent.tombstoned (h : store.Consistent) :
    AppendOnly.Tombstoned store.logs := by
  intro sessionId events hretained
  obtain ⟨log, hlog, -⟩ := Option.map_eq_some_iff.mp hretained
  exact h.used sessionId log hlog

/-- A log is continued at its end, and not at all once it has ended. -/
theorem Advances.grows {adds : SessionId → TestEvent → Prop}
    {log log' : SessionLog} (h : Advances adds store store')
    (hconsistent : store'.Consistent)
    (hlog : store.sessions.lookup sessionId = some log)
    (hlog' : store'.sessions.lookup sessionId = some log') :
    log.events <+: log'.events ∧
      (Ended log.events → log'.events = log.events) := by
  rcases h.kept sessionId log hlog with
    ⟨found, added, hfound, hevents, -⟩ | ⟨hnone, -⟩
  · rw [hlog', Option.some.injEq] at hfound
    subst hfound
    refine ⟨⟨added, hevents.symm⟩, fun hended => ?_⟩
    obtain ⟨event, hmem, htest⟩ := hended
    obtain ⟨i, hi⟩ := List.getElem?_of_mem hmem
    have hlt := (List.getElem?_eq_some_iff.mp hi).1
    have hlast := (hconsistent.represents sessionId log'
      hlog').legal.sessionEnded_last i event
      (by rw [hevents, List.getElem?_append_left hlt, hi]) htest
    rw [hevents, List.length_append] at hlast
    have hnil : added = [] := List.eq_nil_of_length_eq_zero (by omega)
    rw [hevents, hnil, List.append_nil]
  · cases hnone.symm.trans hlog'

theorem Step.extends {op : Op} (hstep : Step store op store')
    (hconsistent : store.Consistent) :
    AppendOnly.Extends Ended store.logs store'.logs := by
  have hconsistent' := hstep.consistent hconsistent
  obtain ⟨-, rfl⟩ := hstep
  have hadvance := hconsistent.perform_advances op
  refine ⟨fun _ hused => hadvance.used hused, ?_, ?_⟩
  · intro sessionId events events' hretained hretained'
    obtain ⟨log, hlog, rfl⟩ := Option.map_eq_some_iff.mp hretained
    obtain ⟨log', hlog', rfl⟩ := Option.map_eq_some_iff.mp hretained'
    exact hadvance.grows hconsistent' hlog hlog'
  · intro sessionId hused hnone
    exact Option.map_eq_none_iff.mpr
      (hadvance.gone hused (Option.map_eq_none_iff.mp hnone))

/-- The two ends of a run are related as an append-only collection is. -/
theorem run_extends {ops : List Op}
    (hrun : Transition.Run Step store ops store')
    (hconsistent : store.Consistent) :
    AppendOnly.Extends Ended store.logs store'.logs := by
  refine hrun.relation (I := Consistent)
    (R := fun s t => AppendOnly.Extends Ended s.logs t.logs) ?_ ?_ ?_
    hconsistent
  · intro s
    exact AppendOnly.Extends.refl _ _
  · intro s t u hs hst htu
    exact hst.trans hs.tombstoned htu
  · intro s op t hs hstep
    exact ⟨hstep.consistent hs, hstep.extends hs⟩

theorem startSession_of_used (hused : command.sessionId ∈ store.usedSessionIds)
    (eventId : EventId) :
    ∃ error, store.startSession command eventId = (.error error, store) := by
  rcases store.startSession_cases command eventId with herror | ⟨-, hfresh, -⟩
  · exact herror
  · exact absurd hused hfresh

theorem used_of_startSession {eventId : EventId} {info : SessionInfo}
    (h : store.startSession command eventId = (.ok info, store')) :
    command.sessionId ∈ store'.usedSessionIds := by
  rcases store.startSession_cases command eventId with ⟨error, herror⟩ |
    ⟨-, -, hok⟩
  · cases herror.symm.trans h
  · cases hok.symm.trans h
    simp

end

/-- Over every run: logs only grow at their end, ended logs are frozen, an
identifier is started at most once, and failed calls change nothing. -/
theorem run_append_only (store : MemoryEventStore) (h : store.Reached) :
    (∀ ops store' sessionId log log', Transition.Run Step store ops store' →
      store.sessions.lookup sessionId = some log →
      store'.sessions.lookup sessionId = some log' →
        log.events <+: log'.events ∧
          ((∃ event ∈ log.events, event.isSessionEnded = true) →
            log'.events = log.events)) ∧
    (∀ command eventId info started ops store' command' eventId',
      store.startSession command eventId = (.ok info, started) →
      Transition.Run Step started ops store' →
      command'.sessionId = command.sessionId →
        ∃ error, (store'.startSession command' eventId').1 = .error error) ∧
    (∀ op, (store.perform op).1 ≠ .ok → (store.perform op).2 = store) := by
  have hconsistent := h.consistent
  refine ⟨?_, ?_, ?_⟩
  · intro ops store' sessionId log log' hrun hlog hlog'
    exact (run_extends hrun hconsistent).grows sessionId log.events log'.events
      (by simp [logs, hlog]) (by simp [logs, hlog'])
  · intro command eventId info started ops store' command' eventId' hstart hrun
      hid
    have hstarted : started.Consistent := by
      have hstep : Step store (.startSession command eventId) started :=
        ⟨trivial, by simp [perform, hstart]⟩
      exact hstep.consistent hconsistent
    have hused : command'.sessionId ∈ store'.usedSessionIds := by
      rw [hid]
      exact (run_extends hrun hstarted).used_mono (used_of_startSession hstart)
    obtain ⟨error, herror⟩ := startSession_of_used hused eventId'
    exact ⟨error, by rw [herror]⟩
  · intro op hfailed
    rcases store.perform_cases op with hsame | ⟨hok, -⟩
    · exact hsame
    · exact absurd hok hfailed

theorem run_append_only_busy :
    ∃ log log',
      ((withEventStreamConfig .default).perform
        sampleStart).2.sessions.lookup ⟨⟨1⟩⟩ = some log ∧
      busyStore.sessions.lookup ⟨⟨1⟩⟩ = some log' ∧
      log.events <+: log'.events ∧ log.events ≠ log'.events := by
  have hreached := (reached_withEventStreamConfig .default).perform sampleStart
    trivial
  have hrun : Transition.Run Step
      ((withEventStreamConfig .default).perform sampleStart).2 [sampleAction]
      busyStore := .single ⟨trivial, rfl⟩
  refine ⟨_, _, rfl, rfl, ((run_append_only _ hreached).1 _ _ ⟨⟨1⟩⟩ _ _ hrun rfl
    rfl).1, fun heq => ?_⟩
  cases congrArg List.length heq

end MemoryEventStore

end DeviceRail
