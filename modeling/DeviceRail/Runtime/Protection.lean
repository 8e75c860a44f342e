import DeviceRail.Runtime.Checks
import DeviceRail.Runtime.Noninterference

/-!
# Protected actions

Two guarantees for an action that is not classified as standard.  Its arguments
do not reach the log.  And a recorded success carries no captured data: the
observations on both sides of the action report the omission, and nothing was
written through the operation's evidence writer.
-/

namespace DeviceRail.RuntimeSystem

open MemoryEventStore Transition

/-! ## What a recorded success can carry -/

/-- The observation reports that it was withheld, and carries nothing. -/
structure ObservationWithheld (observation : Observation) : Prop where
  omission : observation.screenshotOmission = some .protectedAction
  screenshot : observation.screenshot = none
  uiSnapshot : observation.uiSnapshot = none
  uiOmission : ∀ reason, observation.uiSnapshotOmission = some reason →
    reason = .protectedAction

/-- The result carries nothing captured, and the operation's writer stored and
attached nothing. -/
structure ResultWithheld (result : ActionResult)
    (written : List EvidenceAnswer × Finset EvidenceReceipt) : Prop where
  before : ∃ observation, result.before = some observation ∧
    ObservationWithheld observation
  after : ∃ observation, result.after = some observation ∧
    ObservationWithheld observation
  evidence : result.evidence = []
  answers : ∀ answer ∈ written.1, ∃ error, answer = .error error
  receipts : written.2 = ∅

theorem withheld_of_reports {observation : Observation}
    (h : observation.Reports (some .protectedAction)) :
    ObservationWithheld observation :=
  ⟨h.omission, h.screenshot rfl, h.uiSnapshot rfl,
    uiOmissionError_eq_none h.uiOmission⟩

variable {result : ActionResult}

/-- What the validators let through for a protected action. -/
theorem withheld_of_evidenced {runtime : DeviceRuntime}
    {context : DriverOperationContext}
    (h : runtime.Evidenced context result (some .protectedAction)) :
    (∃ observation, result.before = some observation ∧
      ObservationWithheld observation) ∧
    (∃ observation, result.after = some observation ∧
      ObservationWithheld observation) ∧ result.evidence = [] := by
  have hsome : ∀ observation : Option Observation, observation ≠ none →
      observation.toList ⊆ result.observations →
      ∃ value, observation = some value ∧ ObservationWithheld value := by
    intro observation hne hsubset
    obtain ⟨value, rfl⟩ := Option.ne_none_iff_exists'.mp hne
    exact ⟨value, rfl, withheld_of_reports
      (h.reports value (hsubset (by simp)))⟩
  exact ⟨hsome _ (h.before rfl) (List.subset_append_left _ _),
    hsome _ (h.after rfl) (List.subset_append_right _ _), h.omitted rfl⟩

/-! ## The invariant of a protected call -/

namespace ExecuteTask

/-- The classification a call acts on, and what a success carries. -/
def Covered (task : ExecuteTask) : Prop :=
  match task.pc with
  | .ready => True
  | .classifying => True
  | .starting protection => task.classified = some protection
  | .calling protection => task.classified = some protection
  | .waiting expected context => ∃ protection derivedAt,
      task.classified = some protection ∧
        expected = task.omission protection ∧
        context = task.driverContext protection derivedAt
  | .completing result => ∀ value, result = .ok value → ∃ protection,
      task.classified = some protection ∧
        (protection ≠ some .standard → ResultWithheld value task.written)
  | .done result => ∀ value, result = .ok value → ∃ protection,
      task.classified = some protection ∧
        (protection ≠ some .standard → ResultWithheld value task.written)

section

variable {task task' : ExecuteTask} {store store' : MemoryEventStore}
  {protection : Option ActionProtection}

section

variable (h : protection ≠ some .standard)
include h

theorem omission_of_ne_standard :
    task.omission protection = some .protectedAction := by
  cases protection with
  | none => rfl
  | some protection =>
    cases protection with
    | standard => exact absurd rfl h
    | «protected» => rfl

/-- A protected call writes through a writer without a store. -/
theorem driverContext_unavailable (derivedAt : ℕ) :
    (task.driverContext protection derivedAt).evidence =
      .new task.context.sessionId .unavailable := by
  unfold driverContext
  rw [omission_of_ne_standard h]
  rfl

theorem withheld_of_check {derivedAt : ℕ} {uses : List EvidenceUse}
    {value : ActionResult} (hcheck : task.check (task.omission protection)
      (usedContext (task.driverContext protection derivedAt) uses) value =
        .ok value) :
    ResultWithheld value
      (((task.driverContext protection derivedAt).evidence.performAll uses).1,
        ((task.driverContext protection derivedAt).evidence.performAll
          uses).2.receipts) := by
  obtain ⟨-, -, hevidence⟩ := check_eq_ok hcheck
  rw [omission_of_ne_standard h] at hevidence
  obtain ⟨hbefore, hafter, hnone⟩ :=
    withheld_of_evidenced
      (DeviceRuntime.evidenced_of_validateActionEvidence hevidence)
  rw [driverContext_unavailable h]
  have hstore : (SessionEvidenceWriter.new task.context.sessionId
      .unavailable).store = .unavailable := rfl
  obtain ⟨hsame, hanswers⟩ :=
    SessionEvidenceWriter.performAll_unavailable hstore uses
  exact ⟨hbefore, hafter, hnone, hanswers, by rw [hsame]; rfl⟩

end

theorem Move.covered (h : task.Move store task' store')
    (hcovered : task.Covered) : task'.Covered := by
  cases h with
  | entered hpc => trivial
  | classified protection hpc => rfl
  | started protection clock eventId event _ hpc happend
  | completed result clock eventId event _ hpc happend =>
    simp only [Covered, hpc] at hcovered
    exact hcovered
  | called protection derivedAt hpc =>
    simp only [Covered, hpc] at hcovered
    exact ⟨protection, derivedAt, hcovered, rfl, rfl⟩
  | finished expected context uses result hpc hresult =>
    simp only [Covered, hpc] at hcovered
    obtain ⟨protection, derivedAt, hclassified, rfl, rfl⟩ := hcovered
    intro value hvalue
    refine ⟨protection, hclassified, ?_⟩
    intro hne
    exact withheld_of_check hne (hresult value hvalue)
  | _ =>
    intro value hvalue
    cases hvalue

/-- Only a call that returned it has recorded a success. -/
theorem Shape.done_of_succeeded (h : task.Shape) {event : TestEvent}
    {callId : Uuid} (hmem : event ∈ task.recorded)
    (hpayload : event.payload = .actionCompleted callId (.succeeded result)) :
    task.pc = .done (.ok result) := by
  have hstart : ¬task.StartRecorded := by
    rintro ⟨started, heq, hstarts⟩
    rw [heq, List.mem_singleton] at hmem
    subst hmem
    obtain ⟨protection, hstarted⟩ := hstarts.payload
    cases hstarted.symm.trans hpayload
  have hnil : task.recorded ≠ [] := List.ne_nil_of_mem hmem
  unfold Shape at h
  split at h
  iterate 3 next => exact absurd h.1 hnil
  next => exact absurd h.1 hstart
  next => exact absurd h.1 hstart
  next => exact absurd h.1.1 hstart
  next returned hpc =>
    rcases h with ⟨huntouched, -⟩ |
      ⟨-, started, completed, heq, hstarts, hcompletes⟩ | ⟨hbad, -⟩
    · exact absurd huntouched.1 hnil
    · rw [heq] at hmem
      rcases List.mem_cons.mp hmem with rfl | hlast
      · obtain ⟨protection, hstarted⟩ := hstarts.payload
        rw [hstarted] at hpayload
        cases hpayload
      · rw [List.mem_singleton] at hlast
        subst hlast
        rw [hcompletes.payload] at hpayload
        have houtcome := (TestEventPayload.actionCompleted.inj hpayload).2
        rw [hpc, ((reflects_ofResult returned).succeeded result).mp houtcome]
    · exact absurd hbad hstart

end

end ExecuteTask

/-! ## Runs -/

/-- The driver's answers to one call make its action a sensitive one. -/
def Label.Protects (tid : TaskId) (name : String) : Label → Prop
  | .execute other input => other = tid → input.Protects name
  | _ => True

/-- What holds in a run in which one action is sensitive. -/
structure Shielded (tid : TaskId) (name : String) (sys : System) : Prop where
  reached : sys.store.Reached
  recording : Recording sys
  covered : ∀ key task, sys.executes.lookup key = some task → task.Covered
  classified : ∀ task protection, sys.executes.lookup tid = some task →
    task.call.name = name → task.classified = some protection →
      protection ≠ some .standard

/-- A protecting answer never leads to a standard classification. -/
theorem ExecuteTask.step_classified {task task' : ExecuteTask}
    {store store' : MemoryEventStore} {input : ExecuteInput}
    (hstep : task.step store input = some (task', store'))
    (hprotects : input.Protects task.call.name)
    {protection : Option ActionProtection}
    (hclassified : task'.classified = some protection) :
    task.classified = some protection ∨ protection ≠ some .standard := by
  cases ExecuteTask.move_of_step hstep with
  | classified found hpc =>
    right
    cases input with
    | classify entry ending actionProtection =>
      dsimp only [ExecuteTask.step] at hstep
      rw [hpc] at hstep
      obtain ⟨next, hnext, heq⟩ := Option.map_eq_some_iff.mp hstep
      rcases classify_sensitive rfl hprotects hnext with
        ⟨error, rfl⟩ | ⟨chosen, hne, rfl⟩
      · cases heq
      · cases heq
        cases hclassified
        exact hne
    | _ =>
      dsimp only [ExecuteTask.step] at hstep
      rw [hpc] at hstep
      cases hstep
  | _ => exact Or.inl hclassified

section

variable {tid : TaskId} {name : String} {sys sys' : System} {label : Label}

theorem shielded_new (config : EventStreamConfig) :
    Shielded tid name (System.new config) := by
  refine ⟨reached_withEventStreamConfig config, recording_new config, ?_, ?_⟩ <;>
    simp [System.new]

theorem Step.covered (hstep : Step sys label sys')
    (h : ∀ key task, sys.executes.lookup key = some task → task.Covered) :
    ∀ key task, sys'.executes.lookup key = some task → task.Covered := by
  cases hstep.move with
  | newExecute other runtime context call _ =>
    exact KeyedMap.forall_insert trivial h
  | execute other input task task' store' hlookup hmove =>
    exact KeyedMap.forall_insert (hmove.covered (h other task hlookup)) h
  | _ => exact h

theorem Step.classified (hstep : Step sys label sys')
    (hprotects : label.Protects tid name)
    (h : ∀ task protection, sys.executes.lookup tid = some task →
      task.call.name = name → task.classified = some protection →
        protection ≠ some .standard) :
    ∀ task protection, sys'.executes.lookup tid = some task →
      task.call.name = name → task.classified = some protection →
        protection ≠ some .standard := by
  cases label with
  | newExecute other runtime context call =>
    cases hstep.move
    intro task protection hlookup hname hclassified
    rw [KeyedMap.lookup_insert_ite] at hlookup
    split at hlookup
    next =>
      cases hlookup
      cases hclassified
    next => exact h task protection hlookup hname hclassified
  | execute other input =>
    dsimp only [Step, System.step] at hstep
    split at hstep
    next => cases hstep
    next task hlookup =>
      obtain ⟨⟨task', store'⟩, hmove, heq⟩ := Option.map_eq_some_iff.mp hstep
      cases heq
      intro found protection hfound hname hclassified
      rw [KeyedMap.lookup_insert_ite] at hfound
      split at hfound
      next hsame =>
        subst hsame
        cases hfound
        have hcall : task.call.name = name := by
          rwa [← (ExecuteTask.move_of_step hmove).same.2.2]
        have hinput : input.Protects task.call.name := by
          rw [hcall]
          exact hprotects rfl
        rcases ExecuteTask.step_classified hmove hinput hclassified with
          hold | hne
        · exact h task protection hlookup hcall hold
        · exact hne
      next => exact h found protection hfound hname hclassified
  | _ =>
    cases hstep.move
    exact h

theorem shielded_run {config : EventStreamConfig} {labels : List Label}
    (hrun : Run Step (System.new config) labels sys)
    (hprotects : ∀ label ∈ labels, Label.Protects tid name label) :
    Shielded tid name sys := by
  refine (hrun.guarded hprotects).invariant ?_ (shielded_new config)
  intro s label t hs hstep
  exact ⟨hstep.2.store_reached hs.reached,
    hstep.2.recording hs.reached.consistent hs.recording,
    hstep.2.covered hs.covered, hstep.2.classified hstep.1 hs.classified⟩

end

/-- For an action that the driver's answers do not classify as standard:
changing the arguments of the call, event identities and runtime timestamps
changes nothing else in any log or in what any call returns; and a recorded
success withholds everything captured. -/
theorem protected_action_confined (config : EventStreamConfig) :
    (∀ tid call call' labels labels' sys,
      call'.id = call.id → call'.name = call.name →
      List.Forall₂ (Label.Twin tid call call') labels labels' →
      Run Step (System.new config) labels sys →
      ∃ twin, Run Step (System.new config) labels' twin ∧
        (∀ other, Run Step (System.new config) labels' other → other = twin) ∧
        (∀ sessionId,
          (sys.store.sessions.lookup sessionId).map
              (fun log => log.events.map TestEvent.erase) =
            (twin.store.sessions.lookup sessionId).map
              (fun log => log.events.map TestEvent.erase)) ∧
        ∀ key,
          (sys.executes.lookup key).map
              (fun task => (task.pc, task.recorded.map TestEvent.erase)) =
            (twin.executes.lookup key).map
              (fun task => (task.pc, task.recorded.map TestEvent.erase))) ∧
    (∀ labels sys tid task,
      Run Step (System.new config) labels sys →
      sys.executes.lookup tid = some task →
      (∀ label ∈ labels, Label.Protects tid task.call.name label) →
      ∀ event callId result, event ∈ task.recorded →
        event.payload = .actionCompleted callId (.succeeded result) →
          ResultWithheld result task.written) := by
  refine ⟨?_, ?_⟩
  · intro tid call call' labels labels' sys hid hname hlabels hrun
    obtain ⟨twin, hrun', hunique, htwin⟩ := twin_run hid hname hlabels hrun
    refine ⟨twin, hrun', hunique, ?_, ?_⟩
    · intro sessionId
      rcases Fallible.rel_cases (htwin.store.sessions sessionId) with
        ⟨hfirst, hsecond⟩ | ⟨log, log', hfirst, hsecond, hlog⟩ <;>
        rw [hfirst, hsecond]
      exact congrArg some hlog.events
    · intro key
      rcases Fallible.rel_cases (htwin.executes key) with
        ⟨hfirst, hsecond⟩ | ⟨task, task', hfirst, hsecond, htask⟩
      · rw [hfirst, hsecond]
      · rw [hfirst, hsecond, Option.map_some, Option.map_some, htask.pc_eq,
          htask.recorded]
  · intro labels sys tid task hrun hlookup hprotects event callId result hmem
      hpayload
    have hshielded := shielded_run hrun hprotects
    have hfits := hshielded.recording.fits tid task hlookup
    have hdone := hfits.shape.done_of_succeeded hmem hpayload
    have hcovered := hshielded.covered tid task hlookup
    simp only [ExecuteTask.Covered, hdone] at hcovered
    obtain ⟨protection, hclassified, hwithheld⟩ := hcovered result rfl
    exact hwithheld (hshielded.classified task protection hlookup rfl
      hclassified)

/-! ### A protected call with two sets of arguments -/

def secretCall (text : String) : ActionCall :=
  ⟨⟨9⟩, "device.input_text", .string text⟩

def secretDefinition : ActionDefinition :=
  ⟨"device.input_text", "Types text", .null, .«protected»⟩

def withheldObservation (id : Uuid) : Observation :=
  ⟨id, ⟨"device-1"⟩, 30, ⟨1080, 1920, .one⟩, none, some .protectedAction, none,
    none, []⟩

def secretResult : ActionResult :=
  ⟨⟨9⟩, 10, 20, .null, some (withheldObservation ⟨11⟩),
    some (withheldObservation ⟨12⟩), [], none⟩

/-- The driver's classifier agrees with its capability list. -/
def secretProtection (name : String) : Option ActionProtection :=
  if name = "device.input_text" then some .«protected» else none

def secretClassify : ExecuteInput :=
  .classify sampleMoment (.returned sampleMoment (.ok [secretDefinition]))
    secretProtection

def secretSchedule (text : String) (clock : ℕ) (eventId : EventId) :
    List Label :=
  [.client sampleStart,
    .newExecute 0 sampleRuntime sampleContext (secretCall text),
    .execute 0 (.enter sampleMoment),
    .execute 0 secretClassify,
    .execute 0 (.start clock eventId),
    .execute 0 (.call 0 sampleMoment),
    .execute 0 (.finish [] (.returned sampleMoment (.ok secretResult))),
    .execute 0 (.complete (clock + 1) ⟨⟨7⟩⟩)]

theorem secretSchedule_twin (text text' : String) (clock clock' : ℕ)
    (eventId eventId' : EventId) :
    List.Forall₂ (Label.Twin 0 (secretCall text) (secretCall text'))
      (secretSchedule text clock eventId)
      (secretSchedule text' clock' eventId') := by
  refine .cons (.client (.startSession _ _ _)) (.cons (.newSecret _ _)
    (.cons (.execute 0 (.enter _) fun _ => trivial)
    (.cons (.execute 0 (.classify _ _ _) fun _ => rfl)
    (.cons (.execute 0 (.start _ _ _ _) fun _ => trivial)
    (.cons (.execute 0 (.call _ _) fun _ => trivial)
    (.cons (.execute 0 (.finish _ _) fun _ => trivial)
    (.cons (.execute 0 (.complete _ _ _ _) fun _ => trivial) .nil)))))))

theorem secretSchedule_protects (text : String) (clock : ℕ)
    (eventId : EventId) : ∀ label ∈ secretSchedule text clock eventId,
      Label.Protects 0 "device.input_text" label := by
  simp only [secretSchedule, List.forall_mem_cons]
  exact ⟨trivial, trivial, fun _ => trivial, fun _ => rfl,
    fun _ => trivial, fun _ => trivial, fun _ => trivial, fun _ => trivial,
    by simp⟩

/-- The recorded success of the call, if there is one. -/
def ExecuteTask.recordedSuccess? (task : ExecuteTask) :
    Option (TestEvent × Uuid × ActionResult) :=
  task.recorded.findSome? (fun event =>
    match event.payload with
    | .actionCompleted callId (.succeeded result) => some (event, callId, result)
    | _ => none)

theorem protected_action_confined_text :
    ∃ sys twin task result,
      Run Step (System.new .default)
        (secretSchedule "correct horse" 12 ⟨⟨3⟩⟩) sys ∧
      Run Step (System.new .default)
        (secretSchedule "battery staple" 99 ⟨⟨5⟩⟩) twin ∧
      (sys.store.sessions.lookup ⟨⟨1⟩⟩).map
          (fun log => log.events.map TestEvent.erase) =
        (twin.store.sessions.lookup ⟨⟨1⟩⟩).map
          (fun log => log.events.map TestEvent.erase) ∧
      sys.executes.lookup 0 = some task ∧ task.recorded.length = 2 ∧
      ResultWithheld result task.written := by
  obtain ⟨sys, hexec, task, hlookup, hlength, hsome, hname⟩ : ∃ sys,
      (System.new .default).runLabels
        (secretSchedule "correct horse" 12 ⟨⟨3⟩⟩) = some sys ∧
      ∃ task, sys.executes.lookup 0 = some task ∧ task.recorded.length = 2 ∧
        task.recordedSuccess?.isSome = true ∧
        task.call.name = "device.input_text" := by
    decide +kernel
  obtain ⟨⟨event, callId, result⟩, hfound⟩ := Option.isSome_iff_exists.mp hsome
  have hrun : Run Step (System.new .default)
      (secretSchedule "correct horse" 12 ⟨⟨3⟩⟩) sys :=
    run_of_exec (fun _ _ _ h => h) hexec
  obtain ⟨twin, hrun', -, hlogs, -⟩ := (protected_action_confined .default).1 0
    (secretCall "correct horse") (secretCall "battery staple") _
    (secretSchedule "battery staple" 99 ⟨⟨5⟩⟩) sys rfl rfl
    (secretSchedule_twin _ _ _ _ _ _) hrun
  refine ⟨sys, twin, task, result, hrun, hrun', hlogs _, hlookup, hlength, ?_⟩
  obtain ⟨found, hmem, hmatch⟩ := List.exists_of_findSome?_eq_some hfound
  split at hmatch
  next foundId foundResult hpayload =>
    cases hmatch
    refine (protected_action_confined .default).2 _ sys 0 task hrun hlookup ?_
      event callId result hmem hpayload
    rw [hname]
    exact secretSchedule_protects _ _ _
  next => cases hmatch

end DeviceRail.RuntimeSystem
