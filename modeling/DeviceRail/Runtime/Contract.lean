import DeviceRail.EventStore.Leases
import DeviceRail.Runtime.Recording

/-!
# The contract of the runtime operations

The leases of concurrent `observe` calls, and the two guarantees together:
over a store that keeps accepting events, a finished `execute` recorded nothing
and called no driver, or it recorded one start and the outcome it returned; and
a finished `observe` released its lease.
-/

namespace DeviceRail

open History Transition

namespace RuntimeSystem

open MemoryEventStore

/-! ## Leases of `observe` -/

/-- Every call holds a lease of its own until it has released it. -/
structure Leasing (sys : System) : Prop where
  held : ∀ tid task lease, sys.observes.lookup tid = some task →
    task.pc.held? = some lease →
      sys.store.observationLeases.lookup lease =
        some ⟨task.context.sessionId, false⟩
  distinct : ∀ tid tid' task task' lease,
    sys.observes.lookup tid = some task →
    sys.observes.lookup tid' = some task' → tid ≠ tid' →
    task.pc.held? = some lease → task'.pc.held? ≠ some lease
  settled : ∀ tid task lease result, sys.observes.lookup tid = some task →
    task.pc = .done (some lease) result →
      LeaseSettled task.context.sessionId lease sys.store

variable {sys sys' : System}

section

/-- Operations that release none of the leases held by `observe` calls. -/
theorem Leasing.perform (h : Leasing sys) (hconsistent : sys.store.Consistent)
    {op : Op} (hdrawn : op.Drawn sys.store)
    (hother : ∀ tid task lease key, sys.observes.lookup tid = some task →
      task.pc.held? = some lease → op ≠ .releaseObservation key lease)
    (hstore : sys'.store = (sys.store.perform op).2)
    (hobserves : sys'.observes = sys.observes) : Leasing sys' where
  held := by
    intro tid task lease hlookup hheld
    rw [hobserves] at hlookup
    rw [hstore]
    exact hconsistent.unreleased_perform hdrawn
      (fun key => hother tid task lease key hlookup hheld)
      (h.held tid task lease hlookup hheld)
  distinct := by
    rw [hobserves]
    exact h.distinct
  settled := by
    intro tid task lease result hlookup hpc
    rw [hobserves] at hlookup
    rw [hstore]
    exact (h.settled tid task lease result hlookup hpc).perform hconsistent
      hdrawn

variable {tid : TaskId} {task' : ObserveTask} {store' : MemoryEventStore}

theorem Leasing.update (h : Leasing sys)
    (hkept : ∀ other task lease, sys.observes.lookup other = some task →
      other ≠ tid → task.pc.held? = some lease →
        store'.observationLeases.lookup lease =
          some ⟨task.context.sessionId, false⟩)
    (hsettled : ∀ sessionId lease, LeaseSettled sessionId lease sys.store →
      LeaseSettled sessionId lease store')
    (hown : ∀ lease, task'.pc.held? = some lease →
      store'.observationLeases.lookup lease =
          some ⟨task'.context.sessionId, false⟩ ∧
        ∀ other task, sys.observes.lookup other = some task → other ≠ tid →
          task.pc.held? ≠ some lease)
    (hdone : ∀ lease result, task'.pc = .done (some lease) result →
      LeaseSettled task'.context.sessionId lease store') :
    Leasing { sys with
      store := store'
      observes := sys.observes.insert tid task' } where
  held := by
    intro key task lease
    exact KeyedMap.forall_update (KeyedMap.lookup_insert_ite _ _ · _)
      (fun hheld => (hown lease hheld).1)
      (fun key task hne hlookup => hkept key task lease hlookup hne) key task
  distinct := by
    intro key key' task other lease
    refine KeyedMap.pairwise_insert (fun _ _ h h₁ h₂ => h h₂ h₁) ?_
      (fun _ _ _ _ => h.distinct _ _ _ _ lease) key key' task other
    exact fun key' other hlookup' hother hheld =>
      (hown lease hheld).2 key' other hlookup' hother
  settled := by
    intro key task lease result
    exact KeyedMap.forall_insert (hdone lease result) (fun key task h' hpc =>
      hsettled _ _ (h.settled key task lease result h' hpc)) key task

theorem Leasing.observe (h : Leasing sys) (hconsistent : sys.store.Consistent)
    {task : ObserveTask} (hlookup : sys.observes.lookup tid = some task)
    (hmove : task.Move sys.store task' store') :
    Leasing { sys with
      store := store'
      observes := sys.observes.insert tid task' } := by
  have hothers : ∀ lease, task.pc.held? = some lease →
      ∀ other otherTask, sys.observes.lookup other = some otherTask →
        other ≠ tid → otherTask.pc.held? ≠ some lease :=
    fun lease hheld other otherTask hother hne =>
      h.distinct tid other task otherTask lease hlookup hother hne.symm hheld
  have hmine : ∀ lease, task.pc.held? = some lease →
      sys.store.observationLeases.lookup lease =
        some ⟨task.context.sessionId, false⟩ :=
    fun lease => h.held tid task lease hlookup
  cases hmove with
  | refused error hpc =>
    exact h.update (fun other otherTask lease hother _ =>
        h.held other otherTask lease hother)
      (fun _ _ hsettled => hsettled) (by simp [ObservePc.held?]) (by simp)
  | reserved lease log hpc hfresh hlog hreserve =>
    have hdrawn : (Op.reserveObservation task.context.sessionId
        lease).Drawn sys.store := hfresh
    refine h.update ?_ ?_ ?_ (by simp)
    · intro other otherTask held hother _ hheld
      exact hconsistent.unreleased_perform hdrawn (by simp)
        (h.held other otherTask held hother hheld)
    · exact fun _ _ hsettled => hsettled.perform hconsistent hdrawn
    · intro own hown
      cases hown
      refine ⟨?_, ?_⟩
      · rw [hreserve, KeyedMap.lookup_insert_ite, if_pos rfl]
      · intro other otherTask hother _ hheld
        exact hfresh ((KeyedMap.mem_iff_lookup _ _).mpr
          ⟨_, h.held other otherTask lease hother hheld⟩)
  | observed lease uses operation hpc _ =>
    have hheld : task.pc.held? = some lease := by rw [hpc]; rfl
    refine h.update (fun other otherTask lease hother _ =>
        h.held other otherTask lease hother)
      (fun _ _ hsettled => hsettled) ?_ (by simp)
    intro own hown
    cases hown
    exact ⟨hmine lease hheld, hothers lease hheld⟩
  | recorded lease operation clock eventId result hpc =>
    have hheld : task.pc.held? = some lease := by rw [hpc]; rfl
    have hdrawn : (Op.append (task.recordedEvent operation clock)
        eventId).Drawn sys.store := trivial
    refine h.update ?_ ?_ ?_ (by simp)
    · intro other otherTask held hother _ hheld
      exact hconsistent.unreleased_perform hdrawn (by simp)
        (h.held other otherTask held hother hheld)
    · exact fun _ _ hsettled => hsettled.perform hconsistent hdrawn
    · intro own hown
      cases hown
      exact ⟨hconsistent.unreleased_perform hdrawn (by simp)
        (hmine lease hheld), hothers lease hheld⟩
  | released lease attempt result hpc hrelease =>
    have hheld : task.pc.held? = some lease := by rw [hpc]; rfl
    have hdrawn : (Op.releaseObservation task.context.sessionId
        lease).Drawn sys.store := trivial
    refine h.update ?_ ?_ (by simp [ObservePc.held?]) ?_
    · intro other otherTask held hother hne hother'
      refine hconsistent.unreleased_perform hdrawn ?_
        (h.held other otherTask held hother hother')
      rintro key heq
      cases heq
      exact hothers lease hheld other otherTask hother hne hother'
    · exact fun _ _ hsettled => hsettled.perform hconsistent hdrawn
    · intro own _ hown
      cases hown
      exact hconsistent.leaseSettled_release (hmine lease hheld)
  | retained lease attempt result pc _ hpc hrelease =>
    have hheld : task.pc.held? = some lease := by rw [hpc]; rfl
    exact absurd (hconsistent.releaseObservation_ok (hmine lease hheld))
      hrelease

theorem Leasing.newObserve (h : Leasing sys) (tid : TaskId)
    (runtime : DeviceRuntime) (context : OperationContext) :
    Leasing { sys with
      observes := sys.observes.insert tid (.new runtime context) } :=
  h.update (fun other otherTask lease hother _ =>
      h.held other otherTask lease hother)
    (fun _ _ hsettled => hsettled) (by simp [ObserveTask.new, ObservePc.held?])
    (by simp [ObserveTask.new])

theorem Step.leasing {label : Label} (hstep : Step sys label sys')
    (hconsistent : sys.store.Consistent) (h : Leasing sys) : Leasing sys' := by
  cases hstep.move with
  | client op hexternal hdrawn =>
    refine h.perform hconsistent hdrawn ?_ rfl rfl
    intro tid task lease key hlookup hheld
    rintro rfl
    have hall := List.all_eq_true.mp hexternal task
      (KeyedMap.mem_values_of_lookup hlookup)
    simp [hheld] at hall
  | newExecute tid runtime context call _ => exact ⟨h.held, h.distinct, h.settled⟩
  | execute tid input task task' store' _ hmove =>
    rcases hmove.store_cases with hsame | ⟨pending, eventId, happend⟩
    · subst hsame
      exact ⟨h.held, h.distinct, h.settled⟩
    · have hdrawn : (Op.append pending eventId).Drawn sys.store := trivial
      exact h.perform hconsistent hdrawn (by simp) happend rfl
  | newObserve tid runtime context _ => exact h.newObserve tid runtime context
  | observe tid input task task' store' hlookup hmove =>
    exact h.observe hconsistent hlookup hmove

end

/-! ## Outcomes -/

/-- The outcome tells what `execute` returned. -/
structure Reflects (outcome : ActionOutcome)
    (result : RuntimeResult ActionResult) : Prop where
  succeeded : ∀ value, outcome = .succeeded value ↔ result = .ok value
  cancelled : (∃ info, outcome = .cancelled info) ↔
    ∃ reason, result = .error (.cancelled reason)
  timedOut : (∃ info timeoutMs, outcome = .timedOut info timeoutMs) ↔
    ∃ scope timeoutMs, result = .error (.timedOut scope timeoutMs)
  failed : (∃ info, outcome = .failed info) ↔
    ∃ error, result = .error error ∧
      (∀ reason, error ≠ .cancelled reason) ∧
      ∀ scope timeoutMs, error ≠ .timedOut scope timeoutMs

theorem reflects_ofResult (result : RuntimeResult ActionResult) :
    Reflects (.ofResult result) result := by
  cases result with
  | ok value => constructor <;> simp [ActionOutcome.ofResult]
  | error error => cases error <;> constructor <;> simp [ActionOutcome.ofResult]

/-- A start and the completion that belongs to it. -/
structure ExecuteTask.Reports (task : ExecuteTask)
    (result : RuntimeResult ActionResult) (started completed : TestEvent) :
    Prop where
  starts : task.Starts started
  sessionId : completed.sessionId = started.sessionId
  requestId : completed.requestId = started.requestId
  deviceId : completed.deviceId = started.deviceId
  outcome : ∃ outcome,
    completed.payload = .actionCompleted task.call.id outcome ∧
      Reflects outcome result

variable {task : ExecuteTask} {result : RuntimeResult ActionResult}
  {store : MemoryEventStore}

theorem ExecuteTask.reports {started completed : TestEvent}
    (hstarts : task.Starts started)
    (hcompletes : task.Completes result completed) :
    task.Reports result started completed where
  starts := hstarts
  sessionId := hcompletes.sessionId.trans hstarts.sessionId.symm
  requestId := hcompletes.requestId.trans hstarts.requestId.symm
  deviceId := hcompletes.deviceId.trans hstarts.deviceId.symm
  outcome := ⟨_, hcompletes.payload, reflects_ofResult result⟩

/-! ## Stores that keep accepting -/

/-- When a call is about to record its outcome, the store takes events of the
session. -/
def System.keepsAccepting (sys : System) : Label → Bool
  | .execute tid _ =>
    match sys.executes.lookup tid with
    | none => true
    | some task =>
      match task.pc with
      | .completing _ => sys.store.accepts task.context.sessionId
      | _ => true
  | _ => true

def Accepting (sys : System) (label : Label) : Prop :=
  sys.keepsAccepting label = true

theorem namesOtherCall_ofResult
    {callId : Uuid} (h : ∀ value, result = .ok value → value.callId = callId) :
    (ActionOutcome.ofResult result).namesOtherCall callId = false := by
  cases result with
  | ok value =>
    simp [ActionOutcome.ofResult, ActionOutcome.namesOtherCall, h value rfl]
  | error error => cases error <;> rfl

/-- An accepting store does not refuse an outcome. -/
theorem ExecuteTask.Fits.complete_ok (h : task.Fits store)
    (hconsistent : store.Consistent) (hpc : task.pc = .completing result)
    (haccepts : store.accepts task.context.sessionId = true) (clock : ℕ)
    (eventId : EventId) :
    ∃ event, (store.append (task.completedEvent result clock) eventId).1 =
      .ok event := by
  have hbusy : task.pc.busy := by
    rw [hpc]
    trivial
  obtain ⟨log, hlog⟩ := h.live hbusy
  have hshape := h.shape
  simp only [ExecuteTask.Shape, hpc] at hshape
  exact hconsistent.append_completed_ok rfl hlog (h.openCall_eq hbusy hlog)
    (namesOtherCall_ofResult hshape.2) (min_le_right _ _) haccepts

/-- Every finished call recorded nothing or everything. -/
def Conclusive (sys : System) : Prop :=
  ∀ tid task result, sys.executes.lookup tid = some task →
    task.pc = .done result →
      (task.Untouched ∧ ∃ error, result = .error error) ∨ task.Concluded result

section

variable {label : Label}

theorem ExecuteTask.Move.conclusive {task' : ExecuteTask}
    {store' : MemoryEventStore} (h : task.Move store task' store')
    (hconsistent : store.Consistent) (hfits : task.Fits store)
    (haccepts : ∀ result, task.pc = .completing result →
      store.accepts task.context.sessionId = true)
    (hdone : task'.pc = .done result) :
    (task'.Untouched ∧ ∃ error, result = .error error) ∨
      task'.Concluded result := by
  have hshape := h.shape hconsistent hfits.shape
  have hthree := hshape
  simp only [ExecuteTask.Shape, hdone] at hthree
  rcases hthree with huntouched | hconcluded | ⟨⟨event, heq, -⟩, hcalls⟩
  · exact Or.inl huntouched
  · exact Or.inr hconcluded
  · exfalso
    cases h with
    | refused error hpc =>
      have hold := (hfits.shape.untouched hpc).1
      simp [hold] at heq
    | completed _ _ _ _ _ hpc _ =>
      have hold := hfits.shape
      simp only [ExecuteTask.Shape, hpc] at hold
      obtain ⟨⟨⟨started, hstarted, -⟩, -⟩, -⟩ := hold
      simp [hstarted] at heq
    | stranded outcome clock eventId error hpc happend =>
      obtain ⟨event, hok⟩ := hfits.complete_ok hconsistent hpc
        (haccepts outcome hpc) clock eventId
      rw [happend] at hok
      cases hok
    | _ => cases hdone

theorem Step.conclusive (hstep : Step sys label sys')
    (haccepting : Accepting sys label) (hconsistent : sys.store.Consistent)
    (hrecording : Recording sys) (h : Conclusive sys) : Conclusive sys' := by
  cases hstep.move with
  | newExecute tid runtime context call _ =>
    intro key task result
    refine KeyedMap.forall_insert (fun hdone => ?_) (h · · result) key task
    cases hdone
  | execute tid input task task' store' hlookup hmove =>
    intro key finished result
    refine KeyedMap.forall_insert (hmove.conclusive hconsistent
      (hrecording.fits tid task hlookup) ?_) (h · · result) key finished
    intro outcome hpc
    simpa [Accepting, System.keepsAccepting, hlookup, hpc] using haccepting
  | _ => exact h

/-- What holds of every system reached over an accepting store. -/
structure Sound (sys : System) : Prop where
  reached : sys.store.Reached
  recording : Recording sys
  leasing : Leasing sys
  conclusive : Conclusive sys

theorem sound_new (config : EventStreamConfig) : Sound (System.new config) where
  reached := reached_withEventStreamConfig config
  recording := recording_new config
  leasing := by constructor <;> simp [System.new]
  conclusive := by simp [Conclusive, System.new]

theorem sound_step (hstep : Guarded Accepting Step sys label sys')
    (h : Sound sys) : Sound sys' where
  reached := hstep.2.store_reached h.reached
  recording := hstep.2.recording h.reached.consistent h.recording
  leasing := hstep.2.leasing h.reached.consistent h.leasing
  conclusive := hstep.2.conclusive hstep.1 h.reached.consistent h.recording
    h.conclusive

theorem sound_run {config : EventStreamConfig} {labels : List Label}
    (hrun : Run (Guarded Accepting Step)
      (System.new config) labels sys) : Sound sys :=
  hrun.invariant (fun _ _ _ hsound hstep => sound_step hstep hsound)
    (sound_new config)

end

/-! ## The contract -/

theorem ExecuteTask.Shape.driverCalls_le
    (h : task.Shape) : task.driverCalls ≤ 1 := by
  unfold ExecuteTask.Shape at h
  split at h
  iterate 4 next => exact h.2.le.trans (Nat.zero_le 1)
  next => exact h.2.le
  next => exact h.1.2.le
  next =>
    rcases h with ⟨huntouched, -⟩ | ⟨hcalls, -⟩ | ⟨-, hcalls⟩
    · exact huntouched.2.le.trans (Nat.zero_le 1)
    · exact hcalls.le
    · exact hcalls.le

/-- Only a call that recorded its start calls the driver. -/
theorem ExecuteTask.Shape.driverCalls_eq_zero (h : task.Shape)
    (hrecorded : task.recorded = []) : task.driverCalls = 0 := by
  have hnot : ¬task.StartRecorded := by
    rintro ⟨event, heq, -⟩
    cases hrecorded.symm.trans heq
  unfold ExecuteTask.Shape at h
  split at h
  iterate 4 next => exact h.2
  next => exact absurd h.1 hnot
  next => exact absurd h.1.1 hnot
  next =>
    rcases h with ⟨huntouched, -⟩ | ⟨-, started, completed, heq, -⟩ |
      ⟨hstart, -⟩
    · exact huntouched.2
    · cases hrecorded.symm.trans heq
    · exact absurd hstart hnot

/-- Over a store that keeps accepting events, for any number of concurrent
calls, any driver and any cancellations and deadlines: a finished `execute`
recorded nothing and called no driver, or one start followed by the completion
that tells what it returned, which are all events about its action; an action
of a session reaches the driver at most once; and a finished `observe` has
released its lease. -/
theorem run_operation_contract (config : EventStreamConfig)
    (labels : List Label) (sys : System) (hrun : Run (Guarded Accepting Step)
      (System.new config) labels sys) :
    (∀ tid task result, sys.executes.lookup tid = some task →
      task.pc = .done result →
      (task.recorded = [] ∧ task.driverCalls = 0 ∧
        ∃ error, result = .error error) ∨
      (task.driverCalls = 1 ∧ ∃ started completed,
        task.recorded = [started, completed] ∧
        task.Reports result started completed ∧
        ∀ log, sys.store.sessions.lookup task.context.sessionId = some log →
          callEvents log.events task.call.id = [started, completed])) ∧
    (∀ tid task, sys.executes.lookup tid = some task → task.driverCalls ≤ 1) ∧
    (∀ tid tid' task task', sys.executes.lookup tid = some task →
      sys.executes.lookup tid' = some task' → tid ≠ tid' →
      task.context.sessionId = task'.context.sessionId →
      task.call.id = task'.call.id →
        task.driverCalls = 0 ∨ task'.driverCalls = 0) ∧
    (∀ tid task lease result, sys.observes.lookup tid = some task →
      task.pc = .done (some lease) result →
      LeaseSettled task.context.sessionId lease sys.store ∧
      ∀ log, sys.store.sessions.lookup task.context.sessionId = some log →
        lease ∉ log.inFlightObservations) := by
  have hsound := sound_run hrun
  have hconsistent := hsound.reached.consistent
  refine ⟨?_, ?_, ?_, ?_⟩
  · intro tid task result hlookup hdone
    have hfits := hsound.recording.fits tid task hlookup
    rcases hsound.conclusive tid task result hlookup hdone with
      ⟨huntouched, herror⟩ |
      ⟨hcalls, started, completed, heq, hstarts, hcompletes⟩
    · exact Or.inl ⟨huntouched.1, huntouched.2, herror⟩
    · refine Or.inr ⟨hcalls, started, completed, heq,
        ExecuteTask.reports hstarts hcompletes, ?_⟩
      intro log hlog
      rw [hfits.traced (by rw [heq]; simp) log hlog, heq]
  · intro tid task hlookup
    exact (hsound.recording.fits tid task hlookup).shape.driverCalls_le
  · intro tid tid' task task' hlookup hlookup' hne hsession hcall
    by_cases hrecorded : task.recorded = []
    · exact Or.inl ((hsound.recording.fits tid task
        hlookup).shape.driverCalls_eq_zero hrecorded)
    · right
      apply (hsound.recording.fits tid' task'
        hlookup').shape.driverCalls_eq_zero
      by_contra hrecorded'
      refine hsound.recording.distinct tid tid' task task' hlookup hlookup' hne
        hrecorded hrecorded' ?_
      rw [ExecuteTask.key, ExecuteTask.key, hsession, hcall]
  · intro tid task lease result hlookup hdone
    have hsettled := hsound.leasing.settled tid task lease result hlookup hdone
    refine ⟨hsettled, ?_⟩
    intro log hlog hmem
    have hlease := (hconsistent.leases _ log hlog lease).mp hmem
    rcases hsettled with hreleased | ⟨hnone, -⟩
    · cases hreleased.symm.trans hlease
    · cases hnone.symm.trans hlog

/-! ### Two calls of one action and an observation -/

def sampleRuntime : DeviceRuntime := .new ⟨"device-1"⟩

def sampleContext : OperationContext :=
  ⟨⟨⟨1⟩⟩, some (.number 7), .unbounded, none, none, false, false⟩

def sampleCall : ActionCall := ⟨⟨9⟩, "device.tap", .null⟩

def sampleMoment : Moment := ⟨0, none⟩

def sampleResult : ActionResult := ⟨⟨9⟩, 10, 20, .null, none, none, [], none⟩

def sampleObservation : Observation :=
  ⟨⟨11⟩, ⟨"device-1"⟩, 30, ⟨1080, 1920, .one⟩, none, none, none, none, []⟩

/-- The driver knows the action as a standard one. -/
def sampleProtection (name : String) : Option ActionProtection :=
  if name = "device.tap" then some .standard else none

def sampleSchedule : List Label :=
  [.client sampleStart,
    .newExecute 0 sampleRuntime sampleContext sampleCall,
    .newExecute 1 sampleRuntime sampleContext sampleCall,
    .execute 0 (.enter sampleMoment),
    .execute 1 (.enter sampleMoment),
    .execute 0 (.classify sampleMoment (.returned sampleMoment (.ok []))
      sampleProtection),
    .execute 1 (.classify sampleMoment (.returned sampleMoment (.ok []))
      sampleProtection),
    .newObserve 0 sampleRuntime sampleContext,
    .observe 0 (.reserve ⟨⟨4⟩⟩),
    .execute 0 (.start 12 ⟨⟨3⟩⟩),
    .execute 1 (.start 13 ⟨⟨5⟩⟩),
    .execute 0 (.call 0 sampleMoment),
    .observe 0 (.observe sampleMoment []
      (.returned sampleMoment (.ok sampleObservation))),
    .execute 0 (.finish [] (.returned sampleMoment (.ok sampleResult))),
    .observe 0 (.record 14 ⟨⟨6⟩⟩),
    .observe 0 .release,
    .execute 0 (.complete 15 ⟨⟨7⟩⟩)]

/-- The guarded step, executable. -/
def System.acceptingStep (sys : System) (label : Label) : Option System :=
  if sys.keepsAccepting label then sys.step label else none

/-- One call ran the driver, the other was refused, the lease is released. -/
def System.isSampleEnd (sys : System) : Bool :=
  (sys.executes.lookup 0).any (fun task => task.driverCalls == 1 &&
    task.recorded.length == 2) &&
  (sys.executes.lookup 1).any (fun task => task.driverCalls == 0 &&
    task.recorded.isEmpty) &&
  (sys.store.observationLeases.lookup ⟨⟨4⟩⟩ == some ⟨⟨⟨1⟩⟩, true⟩)

theorem run_operation_contract_sample :
    ∃ sys, exec System.acceptingStep (System.new .default) sampleSchedule =
        some sys ∧
      sys.isSampleEnd = true ∧
      ∀ tid tid' task task', sys.executes.lookup tid = some task →
        sys.executes.lookup tid' = some task' → tid ≠ tid' →
        task.context.sessionId = task'.context.sessionId →
        task.call.id = task'.call.id →
          task.driverCalls = 0 ∨ task'.driverCalls = 0 := by
  refine exists_some_and (by decide +kernel) fun sys hexec => ?_
  exact (run_operation_contract .default sampleSchedule sys
    (run_of_exec (fun _ _ _ => Option.ite_none_right_eq_some.mp) hexec)).2.2.1

end RuntimeSystem

end DeviceRail
