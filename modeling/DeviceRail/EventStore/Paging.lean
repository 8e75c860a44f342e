import DeviceRail.EventStore.Growth

/-!
# Pages of a session

Listing and exporting a session page by page.  The next cursor is the sequence
of the last event of a page, so the pages of an ended session follow one
another without a gap or an overlap.
-/

namespace DeviceRail

open List

def maxEventsListPageSize : ℕ := 1000

/-- The errors of `export_session_page`. -/
inductive ExportPageError where
  | store (error : EventStoreError)
  | cursorAhead (sessionId : SessionId) (after lastSequence : EventSequence)
  | invalidPageLimit (limit maximum : ℕ)

def ensureCursor (session : SessionInfo) :
    Option EventSequence → Except ExportPageError Unit
  | none => .ok ()
  | some after =>
    if session.lastSequence.get < after.get then
      .error (.cursorAhead session.id after session.lastSequence)
    else .ok ()

/-- The bounds of a page in the log.  Counts and cursors fit a 64-bit
`usize`. -/
def exportPageRange (session : SessionInfo) (eventCount : ℕ)
    (after : Option EventSequence) (limit : ℕ) :
    Except ExportPageError (ℕ × ℕ) := do
  if limit < 1 ∨ maxEventsListPageSize < limit then
    throw (.invalidPageLimit limit maxEventsListPageSize)
  if session.state ≠ .ended then
    throw (.store (.sessionActive session.id))
  ensureCursor session after
  if session.eventCount.get ≠ eventCount ∨
      session.eventCount ≠ session.lastSequence then
    throw (.store (.internal ("session " ++ session.id.uuid.toText ++
      " metadata does not match its append-only log")))
  return (cursorPosition after, min (cursorPosition after + limit) eventCount)

namespace MemoryEventStore

section

variable (store : MemoryEventStore) (sessionId : SessionId)

def listAfter (after : Option EventSequence) :
    Except EventStoreError (List TestEvent) :=
  match store.sessions.lookup sessionId with
  | none => .error (.sessionNotFound sessionId)
  | some log => .ok (log.events.drop (cursorPosition after))

def listPage (after : Option EventSequence) (limit : ℕ) :
    Except EventStoreError (List TestEvent) :=
  match store.sessions.lookup sessionId with
  | none => .error (.sessionNotFound sessionId)
  | some log => .ok ((log.events.drop (cursorPosition after)).take limit)

def exportSessionPage (after : Option EventSequence) (limit : ℕ) :
    Except ExportPageError SessionExport :=
  match store.sessions.lookup sessionId with
  | none => .error (.store (.sessionNotFound sessionId))
  | some log => do
    let (start, stop) ← exportPageRange log.info log.events.length after limit
    return ⟨log.info, (log.events.take stop).drop start⟩

/-- Export page after page, with the last sequence returned as the cursor,
until a page is empty.  There is no answer when the limits run out first. -/
def exportPages : Option EventSequence → List ℕ →
    Option (Except ExportPageError (List SessionExport))
  | _, [] => none
  | after, limit :: limits =>
    match store.exportSessionPage sessionId after limit with
    | .error error => some (.error error)
    | .ok page =>
      match page.events.getLast? with
      | none => some (.ok [page])
      | some event =>
        (exportPages (some event.sequence) limits).map (Except.map (page :: ·))

end

section

variable {store : MemoryEventStore} {sessionId : SessionId} {log : SessionLog}
  (hlookup : store.sessions.lookup sessionId = some log)
  (hrep : log.Represents sessionId) (hended : log.info.state = .ended)

include hlookup hrep hended

theorem exportSessionPage_eq {after : Option EventSequence} {limit : ℕ}
    (hafter : cursorPosition after ≤ log.events.length)
    (hlimit : 1 ≤ limit ∧ limit ≤ maxEventsListPageSize) :
    store.exportSessionPage sessionId after limit =
      .ok ⟨log.info, (log.events.take (min (cursorPosition after + limit)
        log.events.length)).drop (cursorPosition after)⟩ := by
  have hcursor : ensureCursor log.info after = .ok () := by
    cases after with
    | none => rfl
    | some sequence => exact if_neg (by rw [hrep.lastSequence]; exact hafter.not_gt)
  have hcount : log.info.eventCount = log.info.lastSequence :=
    EventSequence.ext (hrep.eventCount.trans hrep.lastSequence.symm)
  have hrange : ¬(limit < 1 ∨ maxEventsListPageSize < limit) := by omega
  have hsame : ¬(log.info.eventCount.get ≠ log.events.length ∨
      log.info.eventCount ≠ log.info.lastSequence) :=
    not_or.mpr ⟨not_not.mpr hrep.eventCount, not_not.mpr hcount⟩
  unfold exportSessionPage exportPageRange
  rw [hlookup]
  simp only [if_neg hrange, hended, hcursor, if_neg hsame]
  rfl

/-- From any cursor, the pages are answered and bring what follows it. -/
theorem exportPages_from (limits : List ℕ)
    (hlimits : ∀ limit ∈ limits, 1 ≤ limit ∧ limit ≤ maxEventsListPageSize)
    (after : Option EventSequence)
    (hafter : cursorPosition after ≤ log.events.length) :
    (store.exportPages sessionId after limits = none ∧
        cursorPosition after + limits.length ≤ log.events.length) ∨
      ∃ pages, store.exportPages sessionId after limits = some (.ok pages) ∧
        (∀ page ∈ pages, page.session = log.info) ∧
        pages.flatMap SessionExport.events =
          log.events.drop (cursorPosition after) := by
  induction limits generalizing after with
  | nil => exact .inl ⟨rfl, hafter⟩
  | cons limit limits ih =>
    obtain ⟨hlimit, hlimits⟩ := forall_mem_cons.mp hlimits
    have hpage := exportSessionPage_eq hlookup hrep hended hafter hlimit
    rw [exportPages, hpage]
    generalize hstop : min (cursorPosition after + limit) log.events.length =
      stop
    dsimp only
    split
    next hempty =>
      rw [getLast?_eq_none_iff] at hempty
      refine .inr ⟨_, rfl, by simp, ?_⟩
      have hlength := congrArg List.length hempty
      simp only [length_drop, length_take, length_nil] at hlength
      rw [flatMap_singleton, hempty, drop_eq_nil_of_le (by omega)]
    next event hlast =>
      rw [getLast?_eq_getElem?, getElem?_drop, length_drop,
        length_take, getElem?_take] at hlast
      split at hlast
      next hlt =>
        have hposition : cursorPosition (some event.sequence) = stop := by
          have hsequence := hrep.legal.sequence_eq _ event hlast
          simp only [cursorPosition_some]
          omega
        rcases ih hlimits (some event.sequence) (by omega) with
          ⟨hnone, hlength⟩ | ⟨pages, hpages, hsession, hevents⟩
        · rw [hnone, length_cons]
          exact .inl ⟨rfl, by omega⟩
        · rw [hpages]
          refine .inr ⟨_, rfl, forall_mem_cons.mpr ⟨rfl, hsession⟩, ?_⟩
          rw [flatMap_cons, hevents, hposition, drop_take]
          have hsplit := drop_take_append_drop log.events
            (cursorPosition after) (stop - cursorPosition after)
          rwa [Nat.add_sub_cancel' (by omega)] at hsplit
      next => cases hlast

end

/-- The pages of an ended session, with any limits, are answered until one of
them is empty, and then are the whole export; and a page of a list is the
beginning of the list. -/
theorem session_pages_exact {store : MemoryEventStore} {sessionId : SessionId}
    {log : SessionLog} (hreached : store.Reached)
    (hlookup : store.sessions.lookup sessionId = some log) :
    (log.info.state = .ended → ∀ limits : List ℕ,
      (∀ limit ∈ limits, 1 ≤ limit ∧ limit ≤ maxEventsListPageSize) →
      (store.exportPages sessionId none limits = none ∧
          limits.length ≤ log.events.length) ∨
        ∃ pages, store.exportPages sessionId none limits = some (.ok pages) ∧
          (∀ page ∈ pages, page.session = log.info) ∧
          store.exportSession sessionId =
            .ok ⟨log.info, pages.flatMap SessionExport.events⟩) ∧
    ∀ after limit, ∃ events, store.listAfter sessionId after = .ok events ∧
      store.listPage sessionId after limit = .ok (events.take limit) := by
  have hrep := hreached.consistent.represents sessionId log hlookup
  refine ⟨fun hended limits hlimits => ?_, fun after limit => ?_⟩
  · rcases exportPages_from hlookup hrep hended limits hlimits none
      (Nat.zero_le _) with ⟨hnone, hlength⟩ | ⟨pages, hpages, hsession, hevents⟩
    · exact .inl ⟨hnone, by simpa using hlength⟩
    · refine .inr ⟨pages, hpages, hsession, ?_⟩
      rw [exportSession, hlookup, hevents]
      rfl
  · rw [listAfter, listPage, hlookup]
    exact ⟨_, rfl, rfl⟩

def sampleEnd : Op := .endSession ⟨⟨⟨1⟩⟩, none, none, 7, .completed, none⟩ ⟨⟨4⟩⟩

/-- A session of two events is exported in two pages and an empty one. -/
theorem session_pages_exact_two :
    ∃ pages, (((withEventStreamConfig .default).perform sampleStart).2.perform
      sampleEnd).2.exportPages ⟨⟨1⟩⟩ none [1, 1, 1] = some (.ok pages) := by
  have hreached := ((reached_withEventStreamConfig .default).perform sampleStart
    trivial).perform sampleEnd trivial
  have hexact := session_pages_exact hreached
    (rfl : AList.lookup (⟨⟨1⟩⟩ : SessionId) _ = some _)
  rcases hexact.1 rfl [1, 1, 1] (by decide) with
    ⟨-, hlength⟩ | ⟨pages, hpages, -⟩
  · exact absurd hlength (by decide)
  · exact ⟨pages, hpages⟩

/-- The events of pages that are listed one by one, each after the last event
before it, with the calls of others in between. -/
inductive Listed (sessionId : SessionId) :
    List TestEvent → MemoryEventStore → Prop
  | first {store page} (limit : ℕ) (hreached : store.Reached)
      (hpage : store.listPage sessionId none limit = .ok page) :
      Listed sessionId page store
  | next {store store' events page} (ops : List Op) (limit : ℕ)
      (hlisted : Listed sessionId events store)
      (hrun : Transition.Run Step store ops store')
      (hpage : store'.listPage sessionId
        (events.getLast?.map TestEvent.sequence) limit = .ok page) :
      Listed sessionId (events ++ page) store'

theorem listPage_eq_ok {store : MemoryEventStore} {sessionId : SessionId}
    {after : Option EventSequence} {limit : ℕ} {page : List TestEvent}
    (h : store.listPage sessionId after limit = .ok page) :
    ∃ log, store.sessions.lookup sessionId = some log ∧
      page = (log.events.drop (cursorPosition after)).take limit := by
  unfold listPage at h
  split at h <;> cases h
  exact ⟨_, ‹_›, rfl⟩

/-- Pages of a session that goes on growing bring its events from the first on,
each of them once and in order. -/
theorem listed_pages_exact {store : MemoryEventStore} {sessionId : SessionId}
    {events : List TestEvent} (h : Listed sessionId events store) :
    ∃ log, store.sessions.lookup sessionId = some log ∧
      events <+: log.events := by
  suffices hall : store.Consistent ∧ ∃ log,
      store.sessions.lookup sessionId = some log ∧ events <+: log.events from
    hall.2
  induction h with
  | first _ hreached hpage =>
    obtain ⟨log, hlog, rfl⟩ := listPage_eq_ok hpage
    exact ⟨hreached.consistent, log, hlog, take_prefix _ _⟩
  | @next store store' events page ops limit _ hrun hpage ih =>
    obtain ⟨hstore, log, hlog, hlisted⟩ := ih
    obtain ⟨log', hlog', rfl⟩ := listPage_eq_ok hpage
    have hstore' : store'.Consistent := hrun.invariant
      (fun _ _ _ h hstep => hstep.consistent h) hstore
    have hgrown : log.events <+: log'.events :=
      ((run_extends hrun hstore).grows sessionId _ _ (by simp [logs, hlog])
        (by simp [logs, hlog'])).1
    obtain ⟨rest, hrest⟩ := hlisted.trans hgrown
    have hcursor : cursorPosition (events.getLast?.map TestEvent.sequence) =
        events.length := by
      rcases eq_nil_or_concat events with rfl | ⟨before, event, rfl⟩
      · rfl
      · simpa using (hstore'.represents sessionId log' hlog').legal.sequence_eq
          before.length event (by simp [← hrest])
    refine ⟨hstore', log', hlog', ?_⟩
    rw [hcursor, ← hrest, drop_left]
    exact (prefix_append_right_inj _).mpr ( take_prefix _ _)

theorem listed_pages_exact_busy : ∃ events log,
    busyStore.sessions.lookup ⟨⟨1⟩⟩ = some log ∧ events <+: log.events ∧
      events.length = 2 := by
  have hfirst : Listed ⟨⟨1⟩⟩ _ _ :=
    .first 1 ((reached_withEventStreamConfig .default).perform sampleStart
      trivial) rfl
  have hnext : Listed ⟨⟨1⟩⟩ _ busyStore :=
    .next [sampleAction] 5 hfirst (.single ⟨trivial, rfl⟩) rfl
  obtain ⟨log, hlog, hevents⟩ := listed_pages_exact hnext
  exact ⟨_, log, hlog, hevents, rfl⟩

end MemoryEventStore

end DeviceRail
