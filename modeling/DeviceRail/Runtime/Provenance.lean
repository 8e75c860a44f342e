import DeviceRail.Runtime.Protection

/-!
# Where recorded references come from

A runtime with an evidence store records an observation, or the success of an
action whose captures are not omitted, only with the references that the
writer of that operation stored or attached, and with all of them.
-/

namespace DeviceRail

open Transition

/-- The references among the answers of a writer. -/
def Issued (answers : List EvidenceAnswer) (asset : AssetRef) : Prop :=
  ∃ stored, .ok stored ∈ answers ∧ stored.assetRef = asset

namespace SessionEvidenceWriter

theorem mem_receipts_performAll (writer : SessionEvidenceWriter)
    (uses : List EvidenceUse) (receipt : EvidenceReceipt) :
    receipt ∈ (writer.performAll uses).2.receipts ↔
      receipt ∈ writer.receipts ∨ ∃ asset,
        Issued (writer.performAll uses).1 asset ∧
          .fromAssetRef asset = receipt := by
  induction uses generalizing writer with
  | nil => simp [performAll, Issued]
  | cons use uses ih =>
    simp only [performAll]
    rw [ih]
    rcases writer.perform_cases use with ⟨error, hperform⟩ |
      ⟨-, stored, hperform⟩
    · simp [hperform, Issued]
    · simp only [hperform, record, Finset.mem_insert, Issued,
        List.mem_cons, Except.ok.injEq]
      constructor
      · rintro ((rfl | hold) | ⟨asset, ⟨later, hmem, hasset⟩, heq⟩)
        · exact .inr ⟨_, ⟨stored, .inl rfl, rfl⟩, rfl⟩
        · exact .inl hold
        · exact .inr ⟨asset, ⟨later, .inr hmem, hasset⟩, heq⟩
      · rintro (hold | ⟨asset, ⟨later, rfl | hmem, rfl⟩, rfl⟩)
        · exact .inl (.inr hold)
        · exact .inl (.inl rfl)
        · exact .inr ⟨_, ⟨later, hmem, rfl⟩, rfl⟩

/-- References that match the receipts are those that were issued. -/
theorem mem_iff_issued {sessionId : SessionId} {store : EvidenceBackend}
    {uses : List EvidenceUse} {returned : List AssetRef}
    (h : ((new sessionId store).performAll uses).2.receiptsMatch returned =
      true) (asset : AssetRef) :
    asset ∈ returned ↔
      Issued ((new sessionId store).performAll uses).1 asset := by
  have hreceipt := mem_receipts_performAll (new sessionId store) uses
    (.fromAssetRef asset)
  rw [of_decide_eq_true h, List.mem_toFinset,
    List.mem_map_of_injective EvidenceReceipt.fromAssetRef_injective]
    at hreceipt
  simpa [new, EvidenceReceipt.fromAssetRef_injective.eq_iff] using hreceipt

end SessionEvidenceWriter

namespace RuntimeSystem

open MemoryEventStore

variable {store store' : MemoryEventStore}

namespace ExecuteTask

variable {task task' : ExecuteTask}

/-- A success without omissions carries what the writer issued. -/
def Sourced (task : ExecuteTask) : Prop :=
  ∀ protection value,
    task.pc = .completing (.ok value) ∨ task.pc = .done (.ok value) →
    task.classified = some protection → task.omission protection = none →
    task.runtime.strictEvidenceReceipts = true →
      ∀ asset, asset ∈ value.assetRefs ↔ Issued task.written.1 asset

theorem Move.sourced (h : task.Move store task' store')
    (hcovered : task.Covered) (hsourced : task.Sourced) : task'.Sourced := by
  intro protection value hpc' hclassified homission hstrict
  cases h with
  | finished expected context uses result hpc hresult =>
    simp only [Covered, hpc] at hcovered
    obtain ⟨found, derivedAt, hfound, rfl, rfl⟩ := hcovered
    cases hfound.symm.trans hclassified
    obtain rfl : result = .ok value := by simpa using hpc'
    obtain ⟨-, -, hevidence⟩ := check_eq_ok (hresult value rfl)
    exact SessionEvidenceWriter.mem_iff_issued
      ((DeviceRuntime.evidenced_of_validateActionEvidence hevidence).receipts
        homission hstrict)
  | completed result clock eventId event _ hpc happend =>
    obtain rfl : result = .ok value := by simpa using hpc'
    exact hsourced protection value (.inl hpc) hclassified homission hstrict
  | _ => simp at hpc'

end ExecuteTask

namespace ObserveTask

variable {task task' : ObserveTask}

/-- An observation that is about to be recorded was checked against the uses
of the call's own writer. -/
def Checked (labels : List Label) (tid : TaskId) (task : ObserveTask) : Prop :=
  ∀ lease observation, task.pc = .recording lease (.ok observation) →
    ∃ entry uses ending, .observe tid (.observe entry uses ending) ∈ labels ∧
      task.runtime.validateObservationEvidence
        (ExecuteTask.usedContext task.driverContext uses) observation
        task.omission = .ok ()

theorem checked_of_step {labels : List Label} {tid : TaskId}
    {input : ObserveInput} (h : task.step store input = some (task', store')) :
    task'.Checked (labels ++ [.observe tid input]) tid := by
  intro lease observation hpc'
  have hmove := move_of_step h
  cases input with
  | observe entry uses ending =>
    refine ⟨entry, uses, ending, by simp, ?_⟩
    dsimp only [step] at h
    split at h
    next held hpc =>
      obtain ⟨next, hobserve, heq⟩ := Option.map_eq_some_iff.mp h
      cases heq
      obtain ⟨operation, rfl, hvalid⟩ := observe_eq_some hobserve
      cases hpc'
      exact hvalid observation rfl
    next => cases h
  | _ =>
    cases hmove with
    | observed held uses operation hpc =>
      dsimp only [step] at h
      rw [hpc] at h
      cases h
    | retained held attempt result pc hnext => exact absurd hpc' (hnext _ _)
    | _ => cases hpc'

/-- An event that a step of the call appends is the one it was recording. -/
theorem payload_of_appended {clock : ℕ} {eventId : EventId}
    {log log' : SessionLog} {event : TestEvent}
    (h : task.step store (.record clock eventId) = some (task', store'))
    (hlog : store.sessions.lookup task.context.sessionId = some log)
    (hlog' : store'.sessions.lookup task.context.sessionId = some log')
    (hevents : log'.events = log.events ++ [event]) :
    ∃ lease operation, task.pc = .recording lease operation ∧
      event.payload = recordedPayload operation := by
  dsimp only [step] at h
  split at h
  next lease operation hpc =>
    refine ⟨lease, operation, hpc, ?_⟩
    have hstore : (store.append (task.recordedEvent operation clock)
        eventId).2 = store' := by
      unfold record at h
      dsimp only at h
      split at h <;> next happend =>
        cases h
        rw [recordedEvent, happend]
    have hsame : store' ≠ store := by
      rintro rfl
      cases hlog.symm.trans hlog'
      simp at hevents
    rcases store.append_cases (task.recordedEvent operation clock) eventId
      with ⟨_, heq⟩ | ⟨_, _, -, -, heq⟩ | ⟨_, _, _, -, hold, -, -, -, -, heq⟩
    · exact absurd (hstore.symm.trans (congrArg Prod.snd heq)) hsame
    · exact absurd (hstore.symm.trans (congrArg Prod.snd heq)) hsame
    · cases hlog.symm.trans hold
      rw [← hstore, heq, lookup_setLog hold] at hlog'
      cases (if_pos rfl).symm.trans hlog'
      rw [SessionLog.record_events] at hevents
      cases List.append_cancel_left hevents
      rfl
  next => cases h

end ObserveTask

/-- What holds in every run. -/
structure Traced (labels : List Label) (sys : System) : Prop where
  reached : sys.store.Reached
  recording : Recording sys
  covered : ∀ key task, sys.executes.lookup key = some task → task.Covered
  sourced : ∀ key task, sys.executes.lookup key = some task → task.Sourced
  checked : ∀ tid task, sys.observes.lookup tid = some task →
    task.Checked labels tid

variable {config : EventStreamConfig} {labels : List Label} {sys : System}

theorem traced_run (hrun : Run Step (System.new config) labels sys) :
    Traced labels sys := by
  induction hrun with
  | nil =>
    refine ⟨reached_withEventStreamConfig config, recording_new config, ?_, ?_,
      ?_⟩ <;> simp [System.new]
  | @snoc s t ls label _ hstep ih =>
    have hchecked : ∀ tid task, s.observes.lookup tid = some task →
        task.Checked (ls ++ [label]) tid := by
      intro tid task hlookup lease observation hpc
      obtain ⟨entry, uses, ending, hmem, hvalid⟩ :=
        ih.checked tid task hlookup lease observation hpc
      exact ⟨entry, uses, ending, List.mem_append_left _ hmem, hvalid⟩
    refine ⟨hstep.store_reached ih.reached,
      hstep.recording ih.reached.consistent ih.recording,
      hstep.covered ih.covered, ?_, ?_⟩
    · cases hstep.move with
      | newExecute =>
        refine KeyedMap.forall_insert ?_ ih.sourced
        rintro _ _ (hpc | hpc) <;> cases hpc
      | execute tid input task task' store' hlookup hmove =>
        exact KeyedMap.forall_insert (hmove.sourced
          (ih.covered tid task hlookup) (ih.sourced tid task hlookup))
          ih.sourced
      | _ => exact ih.sourced
    · cases label with
      | observe tid input =>
        dsimp only [Step, System.step] at hstep
        split at hstep
        next => cases hstep
        next task hlookup =>
          obtain ⟨⟨task', store'⟩, htask, heq⟩ :=
            Option.map_eq_some_iff.mp hstep
          cases heq
          exact KeyedMap.forall_insert (ObserveTask.checked_of_step htask)
            hchecked
      | newObserve tid runtime context =>
        cases hstep.move
        refine KeyedMap.forall_insert (fun _ _ hpc => ?_) hchecked
        cases hpc
      | _ =>
        cases hstep.move
        exact hchecked

/-- A call of the driver's `observe` under the task issued the references of
the observation, and no others. -/
def ObserveTask.IssuedBy (task : ObserveTask) (tid : TaskId)
    (labels : List Label) (observation : Observation) : Prop :=
  ∃ entry uses ending, .observe tid (.observe entry uses ending) ∈ labels ∧
    ∀ asset, asset ∈ observation.assetRefs ↔
      Issued ((SessionEvidenceWriter.new task.context.sessionId
        task.runtime.evidence).performAll uses).1 asset

theorem issuedBy_of_recording (hrun : Run Step (System.new config) labels sys)
    (tid : TaskId) (task : ObserveTask) (lease : ObservationLease)
    (operation : RuntimeResult Observation) (observation : Observation)
    (hlookup : sys.observes.lookup tid = some task)
    (hpc : task.pc = .recording lease operation)
    (hpayload : ObserveTask.recordedPayload operation =
      .observationCaptured observation) (homission : task.omission = none)
    (hstrict : task.runtime.strictEvidenceReceipts = true) :
    task.IssuedBy tid labels observation := by
  obtain rfl : operation = .ok observation := by
    cases operation with
    | error error => cases hpayload
    | ok value =>
      cases hpayload
      rfl
  obtain ⟨entry, uses, ending, hmem, hvalid⟩ :=
    (traced_run hrun).checked tid task hlookup lease observation hpc
  refine ⟨entry, uses, ending, hmem, ?_⟩
  have hmatch :=
    (DeviceRuntime.validateObservationEvidence_eq_ok hvalid).2 hstrict
  have hcapture : task.context.effectiveScreenshotPolicy
      task.runtime.screenshotPolicy = .capture := by
    unfold ObserveTask.omission at homission
    split at homission
    next hpolicy => exact hpolicy
    next => cases homission
  rw [ExecuteTask.usedContext, ObserveTask.driverContext, hcapture] at hmatch
  exact SessionEvidenceWriter.mem_iff_issued hmatch

/-- What a runtime with an evidence store records without omissions refers to
exactly what the writer of that operation stored or attached: the completions
of `execute`, and what an `observe` call is about to append and appends. -/
theorem recorded_references_issued
    (hrun : Run Step (System.new config) labels sys) :
    (∀ tid task event callId value protection,
      sys.executes.lookup tid = some task → event ∈ task.recorded →
      event.payload = .actionCompleted callId (.succeeded value) →
      task.classified = some protection → task.omission protection = none →
      task.runtime.strictEvidenceReceipts = true →
        ∀ asset, asset ∈ value.assetRefs ↔ Issued task.written.1 asset) ∧
    (∀ tid task lease operation observation,
      sys.observes.lookup tid = some task →
      task.pc = .recording lease operation →
      ObserveTask.recordedPayload operation = .observationCaptured observation →
      task.omission = none → task.runtime.strictEvidenceReceipts = true →
        task.IssuedBy tid labels observation) ∧
    ∀ tid task clock eventId sys' log log' event observation,
      sys.observes.lookup tid = some task →
      Step sys (.observe tid (.record clock eventId)) sys' →
      sys.store.sessions.lookup task.context.sessionId = some log →
      sys'.store.sessions.lookup task.context.sessionId = some log' →
      log'.events = log.events ++ [event] →
      event.payload = .observationCaptured observation →
      task.omission = none → task.runtime.strictEvidenceReceipts = true →
        task.IssuedBy tid labels observation := by
  have hissued := issuedBy_of_recording hrun
  refine ⟨?_, hissued, ?_⟩
  · intro tid task event callId value protection hlookup hmem hpayload
    have htraced := traced_run hrun
    have hshape := (htraced.recording.fits tid task hlookup).shape
    exact htraced.sourced tid task hlookup protection value
      (.inr (hshape.done_of_succeeded hmem hpayload))
  · intro tid task clock eventId sys' log log' event observation hlookup hstep
      hlog hlog' hevents hpayload
    simp only [Step, System.step, hlookup] at hstep
    obtain ⟨⟨task', store'⟩, htask, heq⟩ := Option.map_eq_some_iff.mp hstep
    cases heq
    obtain ⟨lease, operation, hpc, hrecorded⟩ :=
      ObserveTask.payload_of_appended htask hlog hlog' hevents
    exact hissued tid task lease operation observation hlookup hpc
      (hrecorded.symm.trans hpayload)

/-! ### A session with one screenshot -/

def bundleRuntime : DeviceRuntime := .withEvidence ⟨"device-1"⟩ .injected

/-- A stored screenshot. -/
def bundleScreenshot : StoredEvidence :=
  ⟨⟨⟨"0123456789abcdef0123456789abcdef0123456789abcdef0123456789abcdef",
    by decide +kernel⟩, "image/png", 64, 20, 1, validateMediaType_png⟩, false⟩

def bundleObservation (scaleFactor : Float64) : Observation :=
  ⟨⟨11⟩, ⟨"device-1"⟩, 30, ⟨1080, 1920, scaleFactor⟩,
    some bundleScreenshot.assetRef, none, none, none, []⟩

/-- A session with one observation of a strict runtime. -/
def bundleSchedule (scaleFactor : Float64) : List Label :=
  [.client sampleStart,
    .newObserve 0 bundleRuntime sampleContext,
    .observe 0 (.reserve ⟨⟨4⟩⟩),
    .observe 0 (.observe sampleMoment [.put "image/png" (.ok bundleScreenshot)]
      (.returned sampleMoment (.ok (bundleObservation scaleFactor)))),
    .observe 0 (.record 12 ⟨⟨3⟩⟩),
    .observe 0 .release,
    .client (.endSession ⟨⟨⟨1⟩⟩, none, none, 40, .completed, none⟩ ⟨⟨6⟩⟩)]

theorem recorded_references_issued_screenshot :
    ∃ sys sys' event, ∃ task : ObserveTask,
      Run Step (System.new .default) ((bundleSchedule .one).take 4)
        sys ∧ sys.observes.lookup 0 = some task ∧
      Step sys (.observe 0 (.record 12 ⟨⟨3⟩⟩)) sys' ∧
      (sys'.store.sessions.lookup ⟨⟨1⟩⟩).map (·.events.getLast?) =
        some (some event) ∧
      event.payload = .observationCaptured (bundleObservation .one) ∧
      task.IssuedBy 0 ((bundleSchedule .one).take 4)
        (bundleObservation .one) := by
  have hrun : Run Step (System.new .default) ((bundleSchedule .one).take 4) _ :=
    run_of_exec (fun _ _ _ h => h) rfl
  exact ⟨_, _, _, _, hrun, rfl, rfl, rfl, rfl,
    (recorded_references_issued hrun).2.2 0 _ 12 ⟨⟨3⟩⟩ _ _ _ _ _ rfl rfl rfl
      rfl rfl rfl rfl rfl⟩

end RuntimeSystem

end DeviceRail
