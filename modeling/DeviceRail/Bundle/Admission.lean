import DeviceRail.Bundle.Recordable
import DeviceRail.Runtime.Provenance

/-!
# Recorded sessions in bundles

Sessions whose events come from a strict runtime and from media streams.  An
invariant of concurrent runs says that every event of such a session is
recordable, so that the bundle format holds the ended session exactly when the
driver kept to what the runtime does not check.
-/

namespace DeviceRail.RuntimeSystem

open MemoryEventStore SessionBundle History Transition List

/-! ## `execute` -/

/-- Only the arguments of standard actions are recorded. -/
def redacts (protection : Option ActionProtection) : Bool :=
  !(protection == some .standard)

variable {protection : Option ActionProtection}
  {context : DriverOperationContext}

theorem typedReferences_of_evidenced {runtime : DeviceRuntime}
    {result : ActionResult} {expected : Option ScreenshotOmissionReason}
    (h : runtime.Evidenced context result expected)
    (hexpected : expected.isSome = true) : result.typedReferences = [] := by
  have hscreenshots : result.observations.filterMap Observation.screenshot =
      [] := by
    rw [filterMap_eq_nil_iff]
    exact fun observation hmem =>
      (h.reports observation hmem).screenshot hexpected
  have hsnapshots : result.observations.filterMap Observation.uiSnapshot =
      [] := by
    rw [filterMap_eq_nil_iff]
    exact fun observation hmem =>
      (h.reports observation hmem).uiSnapshot hexpected
  simp [ActionResult.typedReferences, hscreenshots, hsnapshots,
    h.omitted hexpected]

variable {store store' : MemoryEventStore}

namespace ExecuteTask

variable {task task' : ExecuteTask} {value : ActionResult}

theorem omission_of_standard :
    task.omission (some .standard) ≠ some .protectedAction := by
  unfold omission expectedOmission
  split
  next heq =>
    split
    next => simp
    next => simp
  next heq => cases heq
  next heq => cases heq

theorem validateSuccessOmission_of_evidenced
    (h : task.runtime.Evidenced context value (task.omission protection)) :
    validateSuccessOmission protocol15 (redacts protection) value = .ok () := by
  by_cases hstandard : protection = some .standard
  · subst hstandard
    have hany : value.observations.any reportsProtectedAction = false := by
      rw [any_eq_false]
      intro observation hmem
      rw [not_reportsProtectedAction (h.reports observation hmem)
        omission_of_standard]
      exact Bool.false_ne_true
    simp [validateSuccessOmission, redacts, hany]
  · rw [omission_of_ne_standard hstandard] at h
    obtain ⟨before, hbefore⟩ := Option.ne_none_iff_exists'.mp (h.before rfl)
    obtain ⟨after, hafter⟩ := Option.ne_none_iff_exists'.mp (h.after rfl)
    have hfirst := h.reports before (by simp [ActionResult.observations, hbefore])
    have hsecond := h.reports after (by simp [ActionResult.observations, hafter])
    have hredacts : redacts protection = true := by simp [redacts, hstandard]
    simp only [validateSuccessOmission, hredacts, if_true,
      failIf_eq_ok, h.omitted rfl, hbefore, hafter,
      protectedObservation_of_reports hfirst,
      protectedObservation_of_reports hsecond]
    rfl

theorem resultRecordable_of_check {derivedAt : ℕ} {uses : List EvidenceUse}
    (hstrict : task.runtime.strictEvidenceReceipts = true)
    (hcheck : task.check (task.omission protection)
      (usedContext (task.driverContext protection derivedAt) uses) value =
        .ok value) : ResultRecordable (redacts protection) value := by
  obtain ⟨-, hvalid, hevidence⟩ := check_eq_ok hcheck
  have hevidenced := DeviceRuntime.evidenced_of_validateActionEvidence hevidence
  refine ⟨?_, execution_of_validateActionResult hvalid,
    validateSuccessOmission_of_evidenced hevidenced, ?_⟩
  · exact fun observation hmem =>
      observationRecordable_of_reports (hevidenced.reports observation hmem)
  · intro reference hmem
    by_cases homission : task.omission protection = none
    · exact canonical_of_receipts (hevidenced.receipts homission hstrict)
        (asset_mem_of_result hmem)
    · rw [typedReferences_of_evidenced hevidenced
        (Option.isSome_iff_ne_none.mpr homission)] at hmem
      cases hmem

/-- A success that is about to be recorded is recordable. -/
def Vouched (task : ExecuteTask) : Prop :=
  ∀ value, task.pc = .completing (.ok value) → ∃ protection,
    task.classified = some protection ∧
      ResultRecordable (redacts protection) value

theorem Move.vouched (h : task.Move store task' store')
    (hstrict : task.runtime.strictEvidenceReceipts = true)
    (hcovered : task.Covered) : task'.Vouched := by
  intro value hpc'
  cases h with
  | interrupted protection error hpc => cases hpc'
  | finished expected context uses result hpc hresult =>
    cases hpc'
    simp only [Covered, hpc] at hcovered
    obtain ⟨protection, derivedAt, hclassified, rfl, rfl⟩ := hcovered
    exact ⟨protection, hclassified,
      resultRecordable_of_check hstrict (hresult value rfl)⟩
  | _ => cases hpc'

/-- What the call recorded tells whether its arguments were redacted. -/
def Flagged (task : ExecuteTask) : Prop :=
  ∀ protection, task.classified = some protection → task.recorded ≠ [] →
    redactedCall task.recorded task.call.id = redacts protection

theorem Move.flagged (h : task.Move store task' store')
    (hconsistent : store.Consistent) (hshape : task.Shape)
    (hcovered : task.Covered) (hflagged : task.Flagged) : task'.Flagged := by
  cases h with
  | classified protection hpc =>
    intro _ _ hrecorded
    simp only [Shape, hpc] at hshape
    exact absurd hshape.1 hrecorded
  | started protection clock eventId event _ hpc happend =>
    intro found hfound _
    simp only [Shape, hpc] at hshape
    simp only [Covered, hpc] at hcovered
    have hsame : found = protection :=
      Option.some.inj (hfound.symm.trans hcovered)
    obtain ⟨-, -, sequence, -, -, -, rfl, -, -⟩ :=
      hconsistent.append_action rfl happend
    simp [hshape.1, hsame, redactedCall, startsRedacted,
      PendingEvent.toEvent, startedEvent, PendingEvent.forOperation,
      RecordedActionCall.fromActionCall, redacts]
  | completed result clock eventId event _ hpc happend =>
    intro found hfound _
    obtain ⟨hcompletes, -⟩ := completed_events hconsistent happend
    have hold : task.recorded ≠ [] := by
      apply hshape.recorded_ne_nil
      rw [hpc]
      trivial
    have hquiet : startsRedacted task.call.id event = false := by
      simp [startsRedacted, hcompletes.payload]
    rw [redactedCall_snoc, hflagged found hfound hold, hquiet, Bool.or_false]
  | _ => exact hflagged

end ExecuteTask

/-! ## `observe` -/

namespace ObserveTask

variable {task task' : ObserveTask}

/-- An observation that is about to be recorded is recordable. -/
def Vouched (task : ObserveTask) : Prop :=
  ∀ lease observation, task.pc = .recording lease (.ok observation) →
    ∀ redacted, Recordable redacted (.observationCaptured observation)

theorem omission_ne_protectedAction :
    task.omission ≠ some .protectedAction := by
  unfold omission
  split <;> simp

theorem Move.vouched (h : task.Move store task' store')
    (hstrict : task.runtime.strictEvidenceReceipts = true) : task'.Vouched := by
  intro lease' observation hpc' redacted
  cases h with
  | observed lease uses operation hpc hoperation =>
    cases hpc'
    obtain ⟨hreports, hreceipts⟩ :=
      DeviceRuntime.validateObservationEvidence_eq_ok
        (hoperation observation rfl)
    refine ⟨observationRecordable_of_reports hreports,
      not_reportsProtectedAction hreports omission_ne_protectedAction, ?_⟩
    intro reference hmem
    exact canonical_of_receipts (hreceipts hstrict)
      (asset_mem_of_observation hmem)
  | retained lease attempt result pc hnext hpc hrelease =>
    exact absurd hpc' (hnext _ _)
  | _ => cases hpc'

theorem Move.same (h : task.Move store task' store') :
    task'.runtime = task.runtime ∧ task'.context = task.context := by
  cases h <;> exact ⟨rfl, rfl⟩

end ObserveTask

/-! ## Runs -/

/-- Everything recorded in the session comes from a strict runtime or belongs
to a media stream. -/
def Label.Backed (sessionId : SessionId) : Label → Prop
  | .client (.append pending _) =>
    pending.sessionId = sessionId → pending.payload.isMedia = true
  | .newExecute _ runtime context _ => context.sessionId = sessionId →
      runtime.strictEvidenceReceipts = true
  | .newObserve _ runtime context => context.sessionId = sessionId →
      runtime.strictEvidenceReceipts = true
  | _ => True

/-- What holds in a run whose labels back the session. -/
structure Backed (sessionId : SessionId) (sys : System) : Prop where
  reached : sys.store.Reached
  recording : Recording sys
  covered : ∀ key task, sys.executes.lookup key = some task → task.Covered
  flagged : ∀ key task, sys.executes.lookup key = some task → task.Flagged
  executes : ∀ key task, sys.executes.lookup key = some task →
    task.context.sessionId = sessionId →
      task.runtime.strictEvidenceReceipts = true ∧ task.Vouched
  observes : ∀ key task, sys.observes.lookup key = some task →
    task.context.sessionId = sessionId →
      task.runtime.strictEvidenceReceipts = true ∧ task.Vouched
  history : ∀ log, sys.store.sessions.lookup sessionId = some log →
    Throughout Recordable log.events

theorem redactedCall_callEvents (events : List TestEvent) (callId : Uuid) :
    redactedCall (callEvents events callId) callId =
      redactedCall events callId := by
  unfold redactedCall callEvents
  rw [any_filter]
  congr 1
  funext event
  unfold concerns startsRedacted TestEvent.startedCall?
  cases event.payload with
  | actionStarted call => by_cases hid : call.id = callId <;> simp [hid]
  | _ => exact Bool.and_false _

variable {sessionId : SessionId}

section

variable {sys sys' : System}

/-- The events of the session are recordable. -/
def RecordableIn (sessionId : SessionId) (store : MemoryEventStore) : Prop :=
  ∀ log, store.sessions.lookup sessionId = some log →
    Throughout Recordable log.events

/-- Events that are recordable in any case keep the history recordable. -/
theorem throughout_of_advances {adds : SessionId → TestEvent → Prop}
    (hadvance : Advances adds store store')
    (hadds : ∀ event, adds sessionId event →
      ∀ redacted, Recordable redacted event.payload)
    (h : RecordableIn sessionId store) : RecordableIn sessionId store' := by
  intro log' hlog'
  cases hlog : store.sessions.lookup sessionId with
  | none =>
    rcases hadvance.absent sessionId hlog with hnone |
      ⟨-, found, event, hfound, hevents, hpayload⟩
    · cases hnone.symm.trans hlog'
    · rw [hlog', Option.some.injEq] at hfound
      subst hfound
      rw [hevents]
      intro i other hi
      rw [getElem?_singleton] at hi
      split at hi <;> cases hi
      rw [hpayload]
      trivial
  | some log =>
    rcases hadvance.kept sessionId log hlog with
      ⟨found, added, hfound, hevents, hall⟩ | ⟨hnone, -⟩
    · rw [hlog', Option.some.injEq] at hfound
      subst hfound
      rw [hevents]
      exact (h log hlog).append
        (fun event hmem => hadds event (hall event hmem))
    · cases hnone.symm.trans hlog'

theorem recordable_of_isMedia {payload : TestEventPayload}
    (h : payload.isMedia = true) (redacted : Uuid → Bool) :
    Recordable redacted payload := by
  cases payload <;> trivial

/-- Other clients record only media events in the session. -/
theorem recordable_of_adds {op : Op}
    (hlabel : Label.Backed sessionId (.client op)) {event : TestEvent}
    (hadds : op.Adds sessionId event) (redacted : Uuid → Bool) :
    Recordable redacted event.payload := by
  cases op with
  | append pending eventId =>
    obtain ⟨hid, sequence, rfl⟩ := hadds
    exact recordable_of_isMedia (hlabel hid.symm) redacted
  | endSession command eventId =>
    obtain ⟨-, sequence, rfl⟩ := hadds
    trivial
  | _ => exact hadds.elim

theorem ExecuteTask.recordable_startedEvent (task : ExecuteTask)
    (protection : Option ActionProtection) (clock : ℕ)
    (redacted : Uuid → Bool) :
    Recordable redacted (task.startedEvent protection clock).payload := by
  intro hredacted
  have hne : ¬protection = some .standard := by
    simpa [RecordedActionCall.fromActionCall] using hredacted
  simp [RecordedActionCall.fromActionCall, hne, Value.isNull]

variable {key : TaskId} {task : ExecuteTask}

section

variable (h : Backed sessionId sys)
  (hlookup : sys.executes.lookup key = some task)
include h hlookup

/-- The outcome of a call is recordable where the store records it. -/
theorem Backed.recordable_outcome
    (hsession : task.context.sessionId = sessionId)
    {result : RuntimeResult ActionResult} (hpc : task.pc = .completing result)
    {log : SessionLog} (hlog : sys.store.sessions.lookup sessionId = some log) :
    Recordable (redactedCall log.events)
      (.actionCompleted task.call.id (.ofResult result)) := by
  cases result with
  | error error => cases error <;> trivial
  | ok value =>
    obtain ⟨protection, hclassified, hrecordable⟩ :=
      (h.executes key task hlookup hsession).2 value hpc
    have hfits := h.recording.fits key task hlookup
    have hrecorded : task.recorded ≠ [] := by
      apply hfits.shape.recorded_ne_nil
      rw [hpc]
      trivial
    have hflag : redactedCall log.events task.call.id = redacts protection := by
      rw [← redactedCall_callEvents, hfits.traced hrecorded log
        (by rw [hsession, hlog])]
      exact h.flagged key task hlookup protection hclassified hrecorded
    change ResultRecordable (redactedCall log.events task.call.id) value
    rw [hflag]
    exact hrecordable

theorem Backed.history_execute {task' : ExecuteTask}
    (hmove : task.Move sys.store task' store') :
    RecordableIn sessionId store' := by
  by_cases hsession : task.context.sessionId = sessionId
  · cases hmove with
    | started protection clock eventId event _ hpc happend =>
      obtain rfl : (sys.store.append _ eventId).2 = _ :=
        congrArg Prod.snd happend
      refine throughout_of_advances
        (h.reached.consistent.advances_append _ _) ?_ h.history
      rintro added ⟨-, sequence, rfl⟩ redacted
      exact task.recordable_startedEvent protection clock redacted
    | completed result clock eventId event _ hpc happend =>
      obtain ⟨log, log', sequence, hlog, hlog', hevents, rfl, -, -⟩ :=
        h.reached.consistent.append_action rfl happend
      intro found hfound
      have hid : (task.completedEvent result clock).sessionId =
          sessionId := hsession
      rw [hid] at hlog hlog'
      rw [hlog', Option.some.injEq] at hfound
      subst hfound
      rw [hevents, throughout_snoc]
      exact ⟨h.history log hlog, h.recordable_outcome hlookup hsession hpc hlog⟩
    | _ => exact h.history
  · refine throughout_of_advances (hmove.advances h.reached.consistent) ?_
      h.history
    rintro event ⟨hid, -⟩
    exact absurd hid.symm hsession

end

theorem Backed.history_observe (h : Backed sessionId sys)
    {task task' : ObserveTask} (hlookup : sys.observes.lookup key = some task)
    (hmove : task.Move sys.store task' store') :
    RecordableIn sessionId store' := by
  have hconsistent := h.reached.consistent
  have hquiet : ∀ next, Advances (fun _ _ => False) sys.store next →
      RecordableIn sessionId next :=
    fun next hadvance => throughout_of_advances hadvance
      (fun _ hadds => hadds.elim) h.history
  cases hmove with
  | refused | observed => exact h.history
  | reserved lease =>
    exact hquiet _ (hconsistent.advances_reserveObservation _ _)
  | recorded lease operation clock eventId result hpc =>
    refine throughout_of_advances (hconsistent.advances_append _ _) ?_ h.history
    rintro event ⟨hid, sequence, rfl⟩ redacted
    cases operation with
    | error error => trivial
    | ok observation =>
      exact (h.observes key task hlookup hid.symm).2 lease observation hpc
        redacted
  | _ => exact hquiet _ (hconsistent.advances_releaseObservation _ _)

theorem backed_new (sessionId : SessionId) (config : EventStreamConfig) :
    Backed sessionId (System.new config) := by
  refine ⟨reached_withEventStreamConfig config, recording_new config, ?_, ?_,
    ?_, ?_, ?_⟩ <;> simp [System.new, withEventStreamConfig]

theorem Step.backed {label : Label} (hstep : Step sys label sys')
    (hlabel : label.Backed sessionId) (h : Backed sessionId sys) :
    Backed sessionId sys' := by
  have hreached := hstep.store_reached h.reached
  have hrecording := hstep.recording h.reached.consistent h.recording
  have hcovered := hstep.covered h.covered
  cases hstep.move with
  | client op hexternal hdrawn =>
    refine ⟨hreached, hrecording, hcovered, h.flagged, h.executes,
      h.observes, ?_⟩
    exact throughout_of_advances
      (h.reached.consistent.perform_advances op)
      (fun event hadds => recordable_of_adds hlabel hadds) h.history
  | newExecute tid runtime context call hnew =>
    refine ⟨hreached, hrecording, hcovered, ?_, ?_, h.observes, h.history⟩
    · refine KeyedMap.forall_insert ?_ h.flagged
      exact fun _ hclassified => nomatch hclassified
    · refine KeyedMap.forall_insert (fun hsession => ?_) h.executes
      exact ⟨hlabel hsession, fun _ hpc => by cases hpc⟩
  | execute tid input task task' store' hlookup hmove =>
    have htask := h.covered tid task hlookup
    refine ⟨hreached, hrecording, hcovered, ?_, ?_, h.observes,
      h.history_execute hlookup hmove⟩
    · refine KeyedMap.forall_insert ?_ h.flagged
      exact hmove.flagged h.reached.consistent
        (h.recording.fits tid task hlookup).shape htask
        (h.flagged tid task hlookup)
    · refine KeyedMap.forall_insert (fun hsession => ?_) h.executes
      obtain ⟨hruntime, hcontext, -⟩ := hmove.same
      rw [hcontext] at hsession
      have hstrict := (h.executes tid task hlookup hsession).1
      exact ⟨hruntime ▸ hstrict, hmove.vouched hstrict htask⟩
  | newObserve tid runtime context hnew =>
    refine ⟨hreached, hrecording, hcovered, h.flagged, h.executes, ?_,
      h.history⟩
    refine KeyedMap.forall_insert (fun hsession => ?_) h.observes
    exact ⟨hlabel hsession, fun _ _ hpc => by cases hpc⟩
  | observe tid input task task' store' hlookup hmove =>
    refine ⟨hreached, hrecording, hcovered, h.flagged, h.executes, ?_,
      h.history_observe hlookup hmove⟩
    refine KeyedMap.forall_insert (fun hsession => ?_) h.observes
    obtain ⟨hruntime, hcontext⟩ := hmove.same
    rw [hcontext] at hsession
    have hstrict := (h.observes tid task hlookup hsession).1
    exact ⟨hruntime ▸ hstrict, hmove.vouched hstrict⟩

theorem backed_run {config : EventStreamConfig} {labels : List Label}
    (hrun : Run Step (System.new config) labels sys)
    (hlabels : ∀ label ∈ labels, label.Backed sessionId) :
    Backed sessionId sys := by
  refine (hrun.guarded hlabels).invariant ?_ (backed_new sessionId config)
  intro s label t hs hstep
  exact hstep.2.backed hstep.1 hs

end

/-! ## Export and bundle -/

/-- What the runtime leaves to the driver and to the evidence store: finite
viewports, results that do not end before they start, and one media type and
one UI snapshot length for each digest. -/
structure Presentable (events : List TestEvent) : Prop where
  viewports : ∀ event ∈ events,
    ∀ observation ∈ payloadObservations event.payload,
      observation.viewport.scaleFactor.isFinite = true
  times : ∀ event ∈ events, ∀ callId result,
    event.payload = .actionCompleted callId (.succeeded result) →
      result.startedAtMs ≤ result.finishedAtMs
  mediaTypes : ∀ reference ∈ references events, ∀ other ∈ references events,
    other.digest? = reference.digest? →
      other.asset.mediaType = reference.asset.mediaType
  byteLengths : ∀ reference ∈ references events, ∀ other ∈ references events,
    other.digest? = reference.digest? →
    ∀ length length', other.byteLength = some length →
      reference.byteLength = some length' → length = length'

section

variable {events : List TestEvent}

/-- Recorded successes name their call, and recorded frames have canonical
evidence. -/
theorem legal_payload (h : Legal sessionId events) :
    ∀ event ∈ events,
      (∀ callId result,
        event.payload = .actionCompleted callId (.succeeded result) →
          result.callId = callId) ∧
      ∀ frame, event.payload = .mediaFrameCaptured frame →
        ∃ digest, Sha256Digest.fromAssetRef frame.evidence = .ok digest := by
  intro event hmem
  rcases (h.admitted hmem).2.2 with hstart | ⟨before, hadmits⟩
  · rw [hstart]
    exact ⟨by simp, by simp⟩
  · refine ⟨fun callId result hpayload => ?_, fun frame hpayload => ?_⟩
    · simp only [Admits, hpayload] at hadmits
      simpa [ActionOutcome.namesOtherCall] using hadmits.2
    · simp only [Admits, hpayload] at hadmits
      obtain ⟨state, -, hfits⟩ := hadmits
      exact hfits.canonical

theorem canonical_of_recordable (hlegal : Legal sessionId events)
    (h : Throughout Recordable events) :
    ∀ reference ∈ references events, reference.digest?.isSome = true := by
  intro reference hmem
  obtain ⟨event, hevent, href⟩ := mem_flatMap.mp hmem
  obtain ⟨i, hi⟩ := getElem?_of_mem hevent
  have hrecordable := h i event hi
  have hframe := (legal_payload hlegal event hevent).2
  unfold TestEvent.typedReferences at href
  cases hpayload : event.payload with
  | observationCaptured observation =>
    rw [hpayload] at hrecordable href
    exact hrecordable.2.2 reference href
  | actionCompleted callId outcome =>
    rw [hpayload] at hrecordable href
    cases outcome with
    | succeeded result => exact hrecordable.canonical reference href
    | _ => cases href
  | mediaFrameCaptured frame =>
    rw [hpayload] at href
    obtain ⟨digest, hdigest⟩ := hframe frame hpayload
    rw [mem_singleton.mp href, TypedReference.digest?_eq_some.mpr hdigest]
    rfl
  | verdictRecorded verdict =>
    rw [hpayload] at hrecordable
    exact hrecordable.elim
  | _ =>
    rw [hpayload] at href
    cases href

/-- What the bundle tests on a recordable history is what the runtime leaves
to others. -/
theorem acceptable_iff {context : ReplayContext}
    (hprotocol : context.protocol = protocol15)
    (hlegal : Legal sessionId events) (h : Throughout Recordable events)
    (hids : (events.map TestEvent.eventId).Nodup)
    (hlimits : LargeEnough context.limits events) :
    Acceptable context events ↔ Presentable events := by
  have hcontent : ∀ i event, events[i]? = some event →
      (ContentFits context (redactedCall (events.take i)) event.payload ↔
        PayloadPresentable event.payload) := by
    intro i event hi
    have hmem := mem_of_getElem? hi
    exact contentFits_iff hprotocol (h i event hi)
      (legal_payload hlegal event hmem).1 (hlimits.json event hmem)
  have hcoherent := ReferenceCollector.addAll_new hlimits.room
  constructor
  · intro hacceptable
    have hpayload : ∀ event ∈ events, PayloadPresentable event.payload := by
      intro event hmem
      obtain ⟨i, hi⟩ := getElem?_of_mem hmem
      exact (hcontent i event hi).mp (hacceptable.contents i event hi)
    have hrefs := hcoherent.mp hacceptable.collected
    exact ⟨fun event hmem => (hpayload event hmem).viewports,
      fun event hmem => (hpayload event hmem).times, hrefs.mediaType,
      hrefs.byteLength⟩
  · intro hpresentable
    refine ⟨hids, ?_, hcoherent.mpr ⟨canonical_of_recordable hlegal h,
      hpresentable.mediaTypes, hpresentable.byteLengths⟩⟩
    intro i event hi
    have hmem := mem_of_getElem? hi
    exact (hcontent i event hi).mpr ⟨hpresentable.viewports event hmem,
      hpresentable.times event hmem⟩

end

/-- An ended session that was recorded through strict runtimes and media
streams is held by the bundle format exactly when it is presentable. -/
theorem recorded_session_bundles (config : EventStreamConfig)
    (sessionId : SessionId) (labels : List Label) (sys : System)
    (hrun : Run Step (System.new config) labels sys)
    (hlabels : ∀ label ∈ labels, label.Backed sessionId)
    (sessionExport : SessionExport)
    (hexport : sys.store.exportSession sessionId = .ok sessionExport)
    (hended : sessionExport.session.state = .ended)
    (hids : (sessionExport.events.map TestEvent.eventId).Nodup)
    (limits : BundleLimits)
    (hlimits : LargeEnough limits sessionExport.events) :
    (∃ assets, validateSource ⟨protocol15, sessionExport⟩ limits =
      .ok assets) ↔ Presentable sessionExport.events := by
  have hbacked := backed_run hrun hlabels
  unfold exportSession at hexport
  split at hexport
  next => cases hexport
  next log hlog =>
    cases hexport
    have hrepresents := hbacked.reached.consistent.represents sessionId log hlog
    obtain ⟨last, -, -, hendedAt⟩ := endedAt_of_represents hrepresents hended
    rw [validateSource_of_represents hrepresents hended hendedAt
      ⟨rfl, le_refl 5⟩ hlimits.count]
    exact acceptable_iff rfl hrepresents.legal (hbacked.history log hlog) hids
      hlimits

/-! ### A session with one screenshot -/

def bundleExport (scaleFactor : Float64) : SessionExport :=
  ⟨⟨⟨⟨1⟩⟩, .ended, 5, some 40, .third, .third⟩,
    [⟨⟨⟨2⟩⟩, ⟨⟨1⟩⟩, .first, none, none, 5, .sessionStarted⟩,
      ⟨⟨⟨3⟩⟩, ⟨⟨1⟩⟩, .second, some (.number 7),
        some ⟨"device-1"⟩, 12,
        .observationCaptured (bundleObservation scaleFactor)⟩,
      ⟨⟨⟨6⟩⟩, ⟨⟨1⟩⟩, .third, none, none, 40, .sessionEnded .completed none⟩]⟩

variable (scaleFactor : Float64)

theorem bundleSchedule_export :
    ((System.new .default).runLabels (bundleSchedule scaleFactor)).map
      (fun sys => sys.store.exportSession ⟨⟨1⟩⟩) =
      some (.ok (bundleExport scaleFactor)) := by
  rfl

theorem bundleSchedule_backed :
    ∀ label ∈ bundleSchedule scaleFactor, label.Backed ⟨⟨1⟩⟩ := by
  simp only [bundleSchedule, forall_mem_cons]
  exact ⟨trivial, fun _ => rfl, trivial, trivial, trivial, trivial, trivial,
    by simp⟩

theorem bundleExport_ids :
    ((bundleExport scaleFactor).events.map TestEvent.eventId).Nodup := by
  have hids : (bundleExport scaleFactor).events.map TestEvent.eventId =
      [⟨⟨2⟩⟩, ⟨⟨3⟩⟩, ⟨⟨6⟩⟩] := rfl
  rw [hids]
  decide

theorem bundleExport_references :
    references (bundleExport scaleFactor).events =
      [.plain bundleScreenshot.assetRef] := rfl

theorem bundleExport_largeEnough :
    LargeEnough .default (bundleExport scaleFactor).events where
  count := by
    change 3 ≤ 100000
    decide
  room := by
    rw [bundleExport_references]
    refine ⟨by decide, ?_⟩
    decide
  json := by
    simp only [bundleExport, forall_mem_cons]
    simp [payloadValues, observationValues, bundleObservation]

/-- A driver that reports an infinite scale factor gets a history recorded that
no bundle holds. -/
theorem infinite_viewport_not_bundled :
    (∀ label ∈ bundleSchedule .infinity, label.Backed ⟨⟨1⟩⟩) ∧
    ∃ sys sessionExport,
      Run Step (System.new .default) (bundleSchedule .infinity) sys ∧
      sys.store.exportSession ⟨⟨1⟩⟩ = .ok sessionExport ∧
      sessionExport.session.state = .ended ∧
      (sessionExport.events.map TestEvent.eventId).Nodup ∧
      LargeEnough .default sessionExport.events ∧
      validateSource ⟨protocol15, sessionExport⟩ .default =
        .error .invalidObservationViewport := by
  refine ⟨bundleSchedule_backed .infinity, ?_⟩
  obtain ⟨sys, hexec, hexport⟩ :=
    Option.map_eq_some_iff.mp (bundleSchedule_export .infinity)
  exact ⟨sys, bundleExport .infinity,
    run_of_exec (fun _ _ _ h => h) hexec, hexport, rfl,
    bundleExport_ids _, bundleExport_largeEnough _, rfl⟩

theorem bundleExport_presentable : Presentable (bundleExport .one).events where
  viewports := by decide
  times := by
    simp only [bundleExport, forall_mem_cons]
    simp
  mediaTypes := by
    rw [bundleExport_references]
    simp
  byteLengths := by
    rw [bundleExport_references]
    simp [TypedReference.plain]

theorem recorded_session_bundles_screenshot :
    ∃ sys, Run Step (System.new .default) (bundleSchedule .one)
      sys ∧
      sys.store.exportSession ⟨⟨1⟩⟩ = .ok (bundleExport .one) ∧
      ∃ assets, validateSource ⟨protocol15, bundleExport .one⟩ .default =
        .ok assets := by
  obtain ⟨sys, hexec, hexport⟩ :=
    Option.map_eq_some_iff.mp (bundleSchedule_export .one)
  have hrun : Run Step (System.new .default) (bundleSchedule .one)
      sys := run_of_exec (fun _ _ _ h => h) hexec
  refine ⟨sys, hrun, hexport, ?_⟩
  exact (recorded_session_bundles .default ⟨⟨1⟩⟩ _ sys hrun
    (bundleSchedule_backed .one) _ hexport rfl (bundleExport_ids _) .default
    (bundleExport_largeEnough _)).mpr bundleExport_presentable

end DeviceRail.RuntimeSystem
