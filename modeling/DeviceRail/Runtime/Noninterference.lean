import DeviceRail.EventStore.Alike
import DeviceRail.Runtime.Contract

/-!
# Arguments of protected actions

Two runs that differ only in the arguments of one call, in event identities and
in the timestamps of the runtime go in step as long as the driver's answers
classify the action as anything but standard: the arguments reach neither the
log nor any decision.
-/

namespace DeviceRail.RuntimeSystem

open MemoryEventStore Option

/-! ## Sensitive actions -/

/-- The capability list marks the action as protected, or does not list it and
the classifier does not call it standard. -/
def Sensitive (actionProtection : String → Option ActionProtection)
    (definitions : List ActionDefinition) (name : String) : Prop :=
  match definitions.find? (fun definition => definition.name == name) with
  | some definition => definition.protection = .«protected»
  | none => actionProtection name ≠ some .standard

variable {actionProtection : String → Option ActionProtection} {name : String}
  {protection : Option ActionProtection} {task task' : ExecuteTask}
  {entry : Moment} {ending : Ending CapabilitiesAnswer}

theorem Sensitive.classifyAction {definitions : List ActionDefinition}
    (h : Sensitive actionProtection definitions name)
    (hclassify : classifyAction actionProtection definitions name =
      .ok protection) : protection ≠ some .standard := by
  unfold DeviceRail.classifyAction at hclassify
  unfold Sensitive at h
  split at hclassify
  next => cases hclassify
  next =>
    split at hclassify
    next definition hfind =>
      rw [hfind] at h
      cases hclassify
      intro heq
      cases heq.symm.trans (congrArg some h)
    next hfind =>
      rw [hfind] at h
      cases hclassify
      exact h

/-- The driver's answer makes the action a sensitive one. -/
def ExecuteInput.Protects (name : String) : ExecuteInput → Prop
  | .classify _ (.returned _ (.ok definitions)) actionProtection =>
    Sensitive actionProtection definitions name
  | _ => True

theorem ExecuteTask.classify_sensitive (hname : task.call.name = name)
    (hprotects : ExecuteInput.Protects name
      (.classify entry ending actionProtection))
    (h : task.classify entry ending actionProtection = some task') :
    (∃ error, task' = { task with pc := .done (.error error) }) ∨
      ∃ protection, protection ≠ some .standard ∧
        task' = { task with
          pc := .starting protection
          classified := some protection } := by
  unfold ExecuteTask.classify at h
  dsimp only at h
  split at h
  next => cases h
  next error _ =>
    cases h
    exact Or.inl ⟨error, rfl⟩
  next definitions hresolved =>
    split at h
    next error _ =>
      cases h
      exact Or.inl ⟨error, rfl⟩
    next protection hclassify =>
      cases h
      refine Or.inr ⟨protection, ?_, rfl⟩
      split at hresolved
      next => cases hresolved
      next =>
        obtain ⟨moment, answer, rfl, hanswer⟩ := Ending.resolve_eq_ok hresolved
        have hlisted := normalizeDriverResult_eq_ok hanswer
        subst hlisted
        rw [hname] at hclassify
        exact Sensitive.classifyAction hprotects hclassify

/-! ## Twin calls -/

inductive ExecuteInput.Alike : ExecuteInput → ExecuteInput → Prop
  | enter (moment : Moment) : Alike (.enter moment) (.enter moment)
  | classify (entry : Moment) (ending : Ending CapabilitiesAnswer)
      (actionProtection : String → Option ActionProtection) :
      Alike (.classify entry ending actionProtection)
        (.classify entry ending actionProtection)
  | start (clock clock' : ℕ) (eventId eventId' : EventId) :
      Alike (.start clock eventId) (.start clock' eventId')
  | call (derivedAt : ℕ) (entry : Moment) :
      Alike (.call derivedAt entry) (.call derivedAt entry)
  | finish (uses : List EvidenceUse) (ending : Ending ExecuteAnswer) :
      Alike (.finish uses ending) (.finish uses ending)
  | complete (clock clock' : ℕ) (eventId eventId' : EventId) :
      Alike (.complete clock eventId) (.complete clock' eventId')

variable {call : ActionCall} {store store' : MemoryEventStore}

namespace ExecuteTask

/-- The same point of a call with another invocation and other records. -/
def recast (task : ExecuteTask) (call : ActionCall)
    (recorded : List TestEvent) : ExecuteTask :=
  { task with call := call, recorded := recorded }

section

variable {task : ExecuteTask} (recorded : List TestEvent)

@[simp] theorem recast_context :
    (task.recast call recorded).context = task.context := rfl

@[simp] theorem recast_call : (task.recast call recorded).call = call := rfl

@[simp] theorem recast_runtime :
    (task.recast call recorded).runtime = task.runtime := rfl

@[simp] theorem recast_pc : (task.recast call recorded).pc = task.pc := rfl

theorem enter_recast (hname : call.name = task.call.name) (moment : Moment) :
    (task.recast call recorded).enter moment =
      (task.enter moment).recast call recorded := by
  have hsemantic : (task.recast call recorded).semanticAction =
      task.semanticAction := by
    rw [semanticAction, semanticAction, recast_call, hname]
  unfold enter
  rw [hsemantic, recast_context]
  cases inactiveControlError task.context.control moment with
  | some error => rfl
  | none => split_ifs <;> rfl

theorem classify_recast (hname : call.name = task.call.name) (entry : Moment)
    (ending : Ending CapabilitiesAnswer)
    (actionProtection : String → Option ActionProtection) :
    (task.recast call recorded).classify entry ending actionProtection =
      (task.classify entry ending actionProtection).map
        (·.recast call recorded) := by
  simp only [classify, recast_context, recast_call, hname]
  split
  next => rfl
  next => rfl
  next => split <;> rfl

theorem callDriver_recast (protection : Option ActionProtection)
    (derivedAt : ℕ) (entry : Moment) :
    (task.recast call recorded).callDriver protection derivedAt entry =
      (task.callDriver protection derivedAt entry).recast call recorded := by
  simp only [callDriver, recast_context, recast_runtime]
  split <;> rfl

theorem finish_recast (hid : call.id = task.call.id)
    (hname : call.name = task.call.name)
    (expected : Option ScreenshotOmissionReason)
    (context : DriverOperationContext) (uses : List EvidenceUse)
    (ending : Ending ExecuteAnswer) :
    (task.recast call recorded).finish expected context uses ending =
      (task.finish expected context uses ending).map
        (·.recast call recorded) := by
  simp only [finish, check, semanticAction, recast_call, recast_runtime, hid,
    hname, map_map]
  rfl

end

/-! Moves without an append keep the invocation and the records. -/

section

variable {task next : ExecuteTask}

theorem enter_same (task : ExecuteTask) (moment : Moment) :
    (task.enter moment).call = task.call ∧
      (task.enter moment).recorded = task.recorded ∧
      ∀ protection, (task.enter moment).pc ≠ .starting protection := by
  unfold enter
  split
  next => exact ⟨rfl, rfl, by simp⟩
  next => split <;> exact ⟨rfl, rfl, by simp⟩

theorem classify_same
    (h : task.classify entry ending actionProtection = some next) :
    next.call = task.call ∧ next.recorded = task.recorded := by
  unfold classify at h
  dsimp only at h
  split at h
  next => cases h
  next =>
    cases h
    exact ⟨rfl, rfl⟩
  next => split at h <;> cases h <;> exact ⟨rfl, rfl⟩

theorem callDriver_same (task : ExecuteTask)
    (protection : Option ActionProtection) (derivedAt : ℕ) (entry : Moment) :
    (task.callDriver protection derivedAt entry).call = task.call ∧
      (task.callDriver protection derivedAt entry).recorded = task.recorded ∧
      ∀ found, (task.callDriver protection derivedAt entry).pc ≠
        .starting found := by
  unfold callDriver
  dsimp only
  split <;> exact ⟨rfl, rfl, by simp⟩

end

/-- The same call in two runs; a secret one may have other arguments. -/
structure Twin (secret : Prop) (name : String) (task task' : ExecuteTask) :
    Prop where
  same : task' = task.recast task'.call task'.recorded
  callId : task'.call.id = task.call.id
  callName : task'.call.name = task.call.name
  arguments : ¬secret → task'.call.arguments = task.call.arguments
  recorded : task.recorded.map TestEvent.erase =
    task'.recorded.map TestEvent.erase
  named : secret → task.call.name = name
  covered : secret → ∀ protection, task.pc = .starting protection →
    protection ≠ some .standard

section

variable {secret : Prop} {task : ExecuteTask}

section

variable (h : Twin secret name task task')

include h

theorem Twin.pc_eq : task'.pc = task.pc := by
  rw [h.same]
  rfl

theorem Twin.move (next : ExecuteTask) (hcall : next.call = task.call)
    (hrecorded : next.recorded = task.recorded)
    (hcovered : secret → ∀ protection, next.pc = .starting protection →
      protection ≠ some .standard) :
    Twin secret name next (next.recast task'.call task'.recorded) where
  same := rfl
  callId := by
    rw [hcall]
    exact h.callId
  callName := by
    rw [hcall]
    exact h.callName
  arguments := by
    rw [hcall]
    exact h.arguments
  recorded := by
    rw [hrecorded]
    exact h.recorded
  named := by
    rw [hcall]
    exact h.named
  covered := hcovered

theorem Twin.record {pc : ExecutePc}
    (hpc : ∀ protection, pc ≠ .starting protection) {event event' : TestEvent}
    (hevent : event.erase = event'.erase) :
    Twin secret name
      { task with pc := pc, recorded := task.recorded ++ [event] }
      { task' with pc := pc, recorded := task'.recorded ++ [event'] } where
  same := by
    rw [h.same]
    rfl
  callId := h.callId
  callName := h.callName
  arguments := h.arguments
  recorded := by
    rw [List.map_append, List.map_append, h.recorded, List.map_singleton,
      List.map_singleton, hevent]
  named := h.named
  covered := fun _ protection heq => absurd heq (hpc protection)

theorem Twin.fail (error : RuntimeError) :
    Twin secret name { task with pc := .done (.error error) }
      { task' with pc := .done (.error error) } := by
  have hmove := h.move { task with pc := .done (.error error) } rfl rfl
    (by simp)
  rwa [h.same]

/-- The recorded call does not show the arguments of a secret call. -/
theorem Twin.fromActionCall (hpc : task.pc = .starting protection) :
    RecordedActionCall.fromActionCall task'.call protection =
      RecordedActionCall.fromActionCall task.call protection := by
  unfold RecordedActionCall.fromActionCall
  rw [h.callId, h.callName]
  by_cases hsecret : secret
  · have hne : (protection == some .standard) = false := by
      simpa using h.covered hsecret protection hpc
    simp only [hne, Bool.false_eq_true, if_false]
  · rw [h.arguments hsecret]

end

theorem alike_forOperation (context : OperationContext)
    (deviceId : Option DeviceId) (clock clock' : ℕ)
    {payload : TestEventPayload} (hmedia : payload.isMedia = false) :
    (PendingEvent.forOperation context deviceId (nowMs clock) payload).Alike
      (.forOperation context deviceId (nowMs clock') payload) where
  sessionId := rfl
  requestId := rfl
  deviceId := rfl
  payload := rfl
  inRange := by
    have hfirst : nowMs clock ≤ maxSafeInteger := min_le_right _ _
    have hsecond : nowMs clock' ≤ maxSafeInteger := min_le_right _ _
    exact iff_of_true hfirst hsecond
  atMs := by
    intro htrue
    rw [show (PendingEvent.forOperation context deviceId (nowMs clock)
      payload).payload = payload from rfl, hmedia] at htrue
    cases htrue

/-- Appends of alike events on alike stores succeed alike. -/
theorem append_alike_cases (hstore : store.Alike store')
    {pending pending' : PendingEvent} (hpending : pending.Alike pending')
    (eventId eventId' : EventId) :
    (∃ error, store.append pending eventId =
        (.error error, (store.append pending eventId).2) ∧
      store'.append pending' eventId' =
        (.error error, (store'.append pending' eventId').2)) ∨
    ∃ event event', event.erase = event'.erase ∧
      store.append pending eventId =
        (.ok event, (store.append pending eventId).2) ∧
      store'.append pending' eventId' =
        (.ok event', (store'.append pending' eventId').2) := by
  rcases Fallible.map_eq_map (hstore.append hpending eventId eventId').1 with
    ⟨error, hfirst, hsecond⟩ | ⟨event, event', hfirst, hsecond, hevent⟩
  · exact .inl ⟨error, Prod.ext hfirst rfl, Prod.ext hsecond rfl⟩
  · exact .inr ⟨event, event', hevent, Prod.ext hfirst rfl,
      Prod.ext hsecond rfl⟩

section

variable (h : Twin secret name task task') (hstore : store.Alike store')
include h hstore

/-- Twin calls that append alike events stay twins. -/
theorem Twin.append (pc : ExecutePc)
    (hpc : ∀ protection, pc ≠ .starting protection)
    {pending pending' : PendingEvent} (hpending : pending.Alike pending')
    (eventId eventId' : EventId) :
    Twin secret name (task.record pending pc store eventId).1
        (task'.record pending' pc store' eventId').1 ∧
      (task.record pending pc store eventId).2.Alike
        (task'.record pending' pc store' eventId').2 := by
  have hstores := (hstore.append hpending eventId eventId').2
  unfold ExecuteTask.record
  rcases append_alike_cases hstore hpending eventId eventId' with
    ⟨error, hfirst, hsecond⟩ | ⟨event, event', hevent, hfirst, hsecond⟩ <;>
    rw [hfirst, hsecond]
  · exact ⟨h.fail _, hstores⟩
  · exact ⟨h.record hpc hevent, hstores⟩

/-- Twin calls move in step. -/
theorem Twin.step {input input' : ExecuteInput} (hinput : input.Alike input')
    (hprotects : secret → input.Protects name) {next : ExecuteTask}
    {nextStore : MemoryEventStore}
    (hstep : task.step store input = some (next, nextStore)) :
    ∃ next' nextStore', task'.step store' input' = some (next', nextStore') ∧
      Twin secret name next next' ∧ nextStore.Alike nextStore' := by
  unfold ExecuteTask.step at hstep ⊢
  rw [h.pc_eq]
  cases hinput <;> dsimp only at hstep ⊢ <;> split at hstep
  any_goals contradiction
  next moment _ hpc =>
    cases hstep
    refine ⟨_, _, rfl, ?_, hstore⟩
    rw [h.same, enter_recast _ h.callName]
    obtain ⟨hcall, hrecorded, hpcs⟩ := task.enter_same moment
    exact h.move _ hcall hrecorded
      (fun _ found hstarting => absurd hstarting (hpcs found))
  next hpc =>
    obtain ⟨found, hfound, heq⟩ := map_eq_some_iff.mp hstep
    cases heq
    refine ⟨next.recast task'.call task'.recorded, store', ?_, ?_, hstore⟩
    · rw [h.same, classify_recast _ h.callName, hfound]
      rfl
    · obtain ⟨hcall, hrecorded⟩ := classify_same hfound
      refine h.move _ hcall hrecorded ?_
      intro hsecret protection hstarting
      rcases classify_sensitive (h.named hsecret) (hprotects hsecret)
        hfound with ⟨error, rfl⟩ | ⟨found, hne, rfl⟩
      · cases hstarting
      · cases hstarting
        exact hne
  next clock clock' eventId eventId' _ protection hpc =>
    have hpending : (task.startedEvent protection clock).Alike
        (task'.startedEvent protection clock') := by
      rw [startedEvent, startedEvent, h.fromActionCall hpc, h.same]
      exact alike_forOperation _ _ clock clock' rfl
    have hnext : task.record _ _ _ _ = _ := Option.some.inj hstep
    have hboth := h.append hstore (.calling protection) (by simp) hpending
      eventId eventId'
    rw [hnext] at hboth
    exact ⟨_, _, rfl, hboth⟩
  next derivedAt entry _ protection hpc =>
    cases hstep
    refine ⟨_, _, rfl, ?_, hstore⟩
    rw [h.same, callDriver_recast]
    obtain ⟨hcall, hrecorded, hpcs⟩ :=
      task.callDriver_same protection derivedAt entry
    exact h.move _ hcall hrecorded
      (fun _ found hstarting => absurd hstarting (hpcs found))
  next hpc =>
    obtain ⟨found, hfound, heq⟩ := map_eq_some_iff.mp hstep
    cases heq
    refine ⟨next.recast task'.call task'.recorded, store', ?_, ?_, hstore⟩
    · rw [h.same, finish_recast _ h.callId h.callName, hfound]
      rfl
    · obtain ⟨resolved, -, rfl⟩ := map_eq_some_iff.mp hfound
      exact h.move _ rfl rfl (by simp)
  next clock clock' eventId eventId' _ result hpc =>
    have hpending : (task.completedEvent result clock).Alike
        (task'.completedEvent result clock') := by
      rw [completedEvent, completedEvent, h.callId, h.same]
      exact alike_forOperation _ _ clock clock' rfl
    have hnext : task.record _ _ _ _ = _ := Option.some.inj hstep
    have hboth := h.append hstore (.done result) (by simp) hpending eventId
      eventId'
    rw [hnext] at hboth
    exact ⟨_, _, rfl, hboth⟩

end

end

end ExecuteTask

/-! ## Observations on alike stores -/

inductive ObserveInput.Alike : ObserveInput → ObserveInput → Prop
  | reserve (lease : ObservationLease) : Alike (.reserve lease) (.reserve lease)
  | observe (entry : Moment) (uses : List EvidenceUse)
      (ending : Ending ObserveAnswer) :
      Alike (.observe entry uses ending) (.observe entry uses ending)
  | record (clock clock' : ℕ) (eventId eventId' : EventId) :
      Alike (.record clock eventId) (.record clock' eventId')
  | release : Alike .release .release

namespace ObserveTask

section

variable {task next : ObserveTask} {nextStore : MemoryEventStore}

theorem exists_alike {α : Type} {p q : α × MemoryEventStore}
    (h : p.1 = q.1 ∧ p.2.Alike q.2) :
    ∃ reply first second, p = (reply, first) ∧ q = (reply, second) ∧
      first.Alike second :=
  ⟨p.1, p.2, q.2, rfl, Prod.ext h.1.symm rfl, h.2⟩

theorem reserve_alike (hstore : store.Alike store') {lease : ObservationLease}
    (h : task.reserve store lease = some (next, nextStore)) :
    ∃ nextStore', task.reserve store' lease = some (next, nextStore') ∧
      nextStore.Alike nextStore' := by
  obtain ⟨reply, _, _, hfirst, hsecond, hstores⟩ :=
    exists_alike (hstore.reserveObservation task.context.sessionId lease)
  unfold reserve at h ⊢
  rw [← hstore.observationLeases]
  split at h
  next => cases h
  next hfresh =>
    rw [hfirst] at h
    rw [if_neg hfresh, hsecond]
    cases reply <;> cases h <;> exact ⟨_, rfl, hstores⟩

section

variable (task : ObserveTask) (hstore : store.Alike store')
  (lease : ObservationLease)
include hstore

theorem record_alike (operation : RuntimeResult Observation) (clock clock' : ℕ)
    (eventId eventId' : EventId) :
    (task.record lease operation store clock eventId).1 =
        (task.record lease operation store' clock' eventId').1 ∧
      (task.record lease operation store clock eventId).2.Alike
        (task.record lease operation store' clock' eventId').2 := by
  have hmedia : (recordedPayload operation).isMedia = false := by
    cases operation <;> rfl
  have hpending := ExecuteTask.alike_forOperation task.context
    (some task.runtime.driverId) clock clock' hmedia
  have hstores := (hstore.append hpending eventId eventId').2
  unfold record
  rcases ExecuteTask.append_alike_cases hstore hpending eventId eventId' with
    ⟨error, hfirst, hsecond⟩ | ⟨event, event', hevent, hfirst, hsecond⟩
  all_goals
    dsimp only
    rw [hfirst, hsecond]
    exact ⟨rfl, hstores⟩

theorem release_alike (attempt : ℕ) (result : RuntimeResult Observation) :
    (task.release lease attempt result store).1 =
        (task.release lease attempt result store').1 ∧
      (task.release lease attempt result store).2.Alike
        (task.release lease attempt result store').2 := by
  obtain ⟨reply, _, _, hfirst, hsecond, hstores⟩ :=
    exists_alike (hstore.releaseObservation task.context.sessionId lease)
  unfold release
  rw [hfirst, hsecond]
  cases reply with
  | ok => exact ⟨rfl, hstores⟩
  | error error =>
    dsimp only
    split <;> exact ⟨rfl, hstores⟩

end

theorem step_alike (hstore : store.Alike store') {input input' : ObserveInput}
    (hinput : input.Alike input')
    (h : task.step store input = some (next, nextStore)) :
    ∃ nextStore', task.step store' input' = some (next, nextStore') ∧
      nextStore.Alike nextStore' := by
  cases hinput <;> dsimp only [step] at h ⊢ <;> split at h
  any_goals contradiction
  next => exact reserve_alike hstore h
  next =>
    obtain ⟨found, hfound, heq⟩ := map_eq_some_iff.mp h
    cases heq
    exact ⟨store', by rw [hfound]; rfl, hstore⟩
  next clock clock' eventId eventId' _ lease operation _ =>
    obtain ⟨_, _, _, hfirst, hsecond, hstores⟩ := exists_alike
      (task.record_alike hstore lease operation clock clock' eventId eventId')
    cases hfirst.symm.trans (Option.some.inj h)
    exact ⟨_, congrArg some hsecond, hstores⟩
  next lease attempt result _ =>
    obtain ⟨_, _, _, hfirst, hsecond, hstores⟩ := exists_alike
      (task.release_alike hstore lease attempt result)
    cases hfirst.symm.trans (Option.some.inj h)
    exact ⟨_, congrArg some hsecond, hstores⟩

end

end ObserveTask

/-! ## Twin runs -/

/-- Labels of two runs that differ in the arguments of one call, whose action
the driver's answers make sensitive, in event identities and in the
timestamps of the runtime. -/
inductive Label.Twin (tid : TaskId) (call call' : ActionCall) :
    Label → Label → Prop
  | client {op op'} (hop : op.Alike op') :
      Twin tid call call' (.client op) (.client op')
  | newExecute (other : TaskId) (runtime : DeviceRuntime)
      (context : OperationContext) (otherCall : ActionCall)
      (hne : other ≠ tid) :
      Twin tid call call' (.newExecute other runtime context otherCall)
        (.newExecute other runtime context otherCall)
  | newSecret (runtime : DeviceRuntime) (context : OperationContext) :
      Twin tid call call' (.newExecute tid runtime context call)
        (.newExecute tid runtime context call')
  | execute (other : TaskId) {input input' : ExecuteInput}
      (hinput : input.Alike input')
      (hprotects : other = tid → input.Protects call.name) :
      Twin tid call call' (.execute other input) (.execute other input')
  | newObserve (other : TaskId) (runtime : DeviceRuntime)
      (context : OperationContext) :
      Twin tid call call' (.newObserve other runtime context)
        (.newObserve other runtime context)
  | observe (other : TaskId) {input input' : ObserveInput}
      (hinput : input.Alike input') :
      Twin tid call call' (.observe other input) (.observe other input')

/-- Systems in which only the secret arguments, event identities and
timestamps differ. -/
structure System.Twin (tid : TaskId) (name : String) (sys sys' : System) :
    Prop where
  store : sys.store.Alike sys'.store
  executes : ∀ key, Option.Rel (ExecuteTask.Twin (key = tid) name)
    (sys.executes.lookup key) (sys'.executes.lookup key)
  observes : sys.observes = sys'.observes

section

variable {tid : TaskId} {sys sys' : System} {op op' : Op} {call' : ActionCall}

theorem System.Twin.isNone (h : sys.Twin tid name sys') (key : TaskId) :
    (sys.executes.lookup key).isNone = (sys'.executes.lookup key).isNone :=
  Option.Rel.casesOn (h.executes key) (fun _ => rfl) rfl

theorem System.Twin.insert (h : sys.Twin tid name sys') {key : TaskId}
    (htask : ExecuteTask.Twin (key = tid) name task task')
    (hstore : store.Alike store') :
    System.Twin tid name
      { sys with store := store, executes := sys.executes.insert key task }
      { sys' with
        store := store'
        executes := sys'.executes.insert key task' } where
  store := hstore
  executes := by
    intro other
    simp only [KeyedMap.lookup_insert_ite]
    split
    next heq =>
      subst heq
      exact Option.Rel.some htask
    next => exact h.executes other
  observes := h.observes

theorem isExternal_alike (hop : op.Alike op')
    (hobserves : sys.observes = sys'.observes) :
    sys.isExternal op = sys'.isExternal op' := by
  cases hop <;> simp only [System.isExternal, hobserves]

theorem isDrawn_alike (hstore : store.Alike store') (hop : op.Alike op') :
    isDrawn store op = isDrawn store' op' := by
  cases hop <;> simp only [isDrawn, hstore.observationLeases]

theorem System.Twin.step (hid : call'.id = call.id)
    (hname : call'.name = call.name) {label label' : Label}
    (h : sys.Twin tid call.name sys')
    (hlabel : label.Twin tid call call' label') {next : System}
    (hstep : Step sys label next) :
    ∃ next', Step sys' label' next' ∧ next.Twin tid call.name next' := by
  cases hlabel with
  | @client op op' hop =>
    obtain ⟨hguard, heq⟩ := ite_none_right_eq_some.mp hstep
    cases heq
    refine ⟨{ sys' with store := (sys'.store.perform op').2 }, ?_,
      ⟨h.store.perform hop, h.executes, h.observes⟩⟩
    rw [isExternal_alike hop h.observes, isDrawn_alike h.store hop] at hguard
    exact if_pos hguard
  | newExecute other runtime context otherCall hne =>
    obtain ⟨hnew, heq⟩ := ite_none_right_eq_some.mp hstep
    cases heq
    have htask : ExecuteTask.Twin (other = tid) call.name
        (.new runtime context otherCall) (.new runtime context otherCall) :=
      ⟨rfl, rfl, rfl, fun _ => rfl, rfl, fun heq => absurd heq hne,
        fun heq => absurd heq hne⟩
    rw [h.isNone] at hnew
    exact ⟨_, if_pos hnew, h.insert htask h.store⟩
  | newSecret runtime context =>
    obtain ⟨hnew, heq⟩ := ite_none_right_eq_some.mp hstep
    cases heq
    have htask : ExecuteTask.Twin (tid = tid) call.name
        (.new runtime context call) (.new runtime context call') :=
      ⟨rfl, hid, hname, fun hne => absurd rfl hne, rfl, fun _ => rfl,
        fun _ protection hpc => by cases hpc⟩
    rw [h.isNone] at hnew
    exact ⟨_, if_pos hnew, h.insert htask h.store⟩
  | @execute other input input' hinput hprotects =>
    dsimp only [Step, System.step] at hstep ⊢
    rcases Fallible.rel_cases (h.executes other) with ⟨hnone, -⟩ |
      ⟨task, task', hsome, hsome', htask⟩
    · rw [hnone] at hstep
      cases hstep
    · rw [hsome] at hstep
      obtain ⟨⟨moved, store⟩, hmoved, heq⟩ := map_eq_some_iff.mp hstep
      cases heq
      obtain ⟨moved', store', hmoved', htwin, hstores⟩ :=
        htask.step h.store hinput hprotects hmoved
      refine ⟨_, ?_, h.insert htwin hstores⟩
      rw [hsome']
      simp only [hmoved', map_some]
  | newObserve other runtime context =>
    obtain ⟨hnew, heq⟩ := ite_none_right_eq_some.mp hstep
    cases heq
    refine ⟨{ sys' with
        observes := sys'.observes.insert other (.new runtime context) }, ?_,
      ⟨h.store, h.executes, by rw [h.observes]⟩⟩
    rw [h.observes] at hnew
    exact if_pos hnew
  | @observe other input input' hinput =>
    dsimp only [Step, System.step] at hstep ⊢
    rw [← h.observes]
    split at hstep
    next => cases hstep
    next task hlookup =>
      obtain ⟨⟨moved, store⟩, hmoved, heq⟩ := map_eq_some_iff.mp hstep
      cases heq
      obtain ⟨store', hmoved', hstores⟩ :=
        ObserveTask.step_alike h.store hinput hmoved
      refine ⟨{ sys' with
          store := store'
          observes := sys.observes.insert other moved }, ?_,
        ⟨hstores, h.executes, rfl⟩⟩
      simp only [hmoved', map_some]

/-- A twin of a run exists, is determined by its labels, and is alike. -/
theorem twin_run (hid : call'.id = call.id) (hname : call'.name = call.name)
    {config : EventStreamConfig} {labels labels' : List Label}
    (hlabels : List.Forall₂ (Label.Twin tid call call') labels labels')
    (hrun : Transition.Run Step (System.new config) labels sys) :
    ∃ twin, Transition.Run Step (System.new config) labels' twin ∧
      (∀ other, Transition.Run Step (System.new config) labels' other →
        other = twin) ∧
      sys.Twin tid call.name twin := by
  have hstep : ∀ s s' l l' t, System.Twin tid call.name s s' →
      Label.Twin tid call call' l l' → Step s l t →
        ∃ t', Step s' l' t' ∧ System.Twin tid call.name t t' :=
    fun _ _ _ _ _ hsys hlabel hnext => hsys.step hid hname hlabel hnext
  obtain ⟨twin, hrun', htwin⟩ := Transition.Run.lockstep hstep hlabels hrun
    ⟨⟨fun _ => Option.Rel.none, rfl, rfl, rfl⟩, fun _ => Option.Rel.none, rfl⟩
  exact ⟨twin, hrun', fun other hother => hother.unique
    (fun _ _ _ _ h h' => Option.some.inj (h.symm.trans h')) hrun', htwin⟩

end

end DeviceRail.RuntimeSystem
