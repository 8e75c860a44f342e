import DeviceRail.Runtime.Errors

/-!
# YAML plans against the daemon

`executeYamlPlan` sends the steps of a compiled plan over one connection.  A
`device.execute` step first selects its device again, which the daemon refuses
while a session is active.
-/

namespace DeviceRail.YamlPlan

inductive PlanMethod where
  | deviceCapabilities
  | deviceConnect
  | deviceDisconnect
  | deviceExecute
  | deviceObserve
  | deviceSelect
  | devicesList
  | eventsClear
  | eventsList
  | eventsStreamOpen
  | sessionCurrent
  | sessionEnd
  | sessionExport
  | sessionStart
  | sessionsList
  | systemDescribe
deriving DecidableEq

/-- A compiled step.  `Params` are its parameters, which the adapter does not
read except for the name of an action. -/
structure YamlPlanStep (Params : Type) where
  id : String
  method : PlanMethod
  params : Option Params
  boundDeviceId : Option DeviceId

/-! ## The daemon -/

/-- What the daemon keeps for a connection. -/
structure ConnectionContext where
  activeSession : Option SessionId
  deviceLease : Option Uuid
  selectedDeviceId : Option DeviceId

/-- A lease is held for a session, with which it is taken and given back. -/
def ConnectionContext.Leased (context : ConnectionContext) : Prop :=
  context.deviceLease.isSome = true → context.activeSession.isSome = true

/-- The handlers of the daemon beyond the rules of sessions and leases, and
what the adapter reads from their answers. -/
structure Daemon (Params Value : Type) where
  answer : PlanMethod → Option Params → ConnectionContext →
    Except ErrorInfo Value × ConnectionContext
  resolve : DeviceId → Except ErrorInfo Value
  deviceParam : Option Params → Except ErrorInfo DeviceId
  selected : Value → Option DeviceId
  isStandard : Value → String → Bool
  actionName : Option Params → Option String

variable {Params Value : Type} (daemon : Daemon Params Value)

def leaseActive (sessionId : SessionId) : ErrorInfo :=
  ⟨"device_lease_active",
    "end the active session before selecting another device", false,
    stringDetail "sessionId" sessionId.uuid.toText⟩

def sessionRequired : ErrorInfo :=
  ⟨"session_required", "start a session before recording device operations",
    true, stringDetail "requiredMethod" "session.start"⟩

def selectDevice (deviceId : Except ErrorInfo DeviceId)
    (context : ConnectionContext) :
    Except ErrorInfo Value × ConnectionContext :=
  match context.activeSession with
  | some sessionId => (.error (leaseActive sessionId), context)
  | none =>
    match deviceId with
    | .error error => (.error error, context)
    | .ok deviceId =>
      match daemon.resolve deviceId with
      | .error error => (.error error, context)
      | .ok device =>
        (.ok device, { context with selectedDeviceId := some deviceId })

def respond (method : PlanMethod) (params : Option Params)
    (context : ConnectionContext) :
    Except ErrorInfo Value × ConnectionContext :=
  match method with
  | .deviceSelect => selectDevice daemon (daemon.deviceParam params) context
  | .deviceExecute =>
    if context.deviceLease.isNone then (.error sessionRequired, context)
    else daemon.answer .deviceExecute params context
  | method => daemon.answer method params context

/-! ## The adapter -/

/-- The connection, and the methods that were dispatched to the daemon. -/
structure World where
  context : ConnectionContext
  dispatched : List PlanMethod

def World.after (world : World) (method : PlanMethod)
    (context : ConnectionContext) : World :=
  ⟨context, world.dispatched ++ [method]⟩

def call (method : PlanMethod) (params : Option Params) (world : World) :
    Except ErrorInfo Value × World :=
  let (result, context) := respond daemon method params world.context
  (result, world.after method context)

def planError (code message : String) : ErrorInfo := ⟨code, message, false, none⟩

def executeVerifiedAction (step : YamlPlanStep Params) (world : World) :
    Except ErrorInfo Value × World :=
  match step.boundDeviceId with
  | none =>
    (.error (planError "yaml_plan_corrupt"
      "compiled action route binding is missing"), world)
  | some deviceId =>
    match selectDevice daemon (.ok deviceId) world.context with
    | (.error error, context) =>
      (.error error, world.after .deviceSelect context)
    | (.ok _, context) =>
      let world := world.after .deviceSelect context
      match call daemon .devicesList none world with
      | (.error error, world) => (.error error, world)
      | (.ok inventory, world) =>
        if daemon.selected inventory ≠ some deviceId then
          (.error (planError "yaml_action_route_changed"
            "selected device route changed"), world)
        else
          match call daemon .deviceCapabilities none world with
          | (.error error, world) => (.error error, world)
          | (.ok capabilities, world) =>
            match daemon.actionName step.params with
            | none =>
              (.error (planError "yaml_plan_corrupt"
                "compiled action name is missing"), world)
            | some name =>
              if daemon.isStandard capabilities name then
                call daemon .deviceExecute step.params world
              else
                (.error (planError "yaml_action_runtime_forbidden"
                  "action is missing or protected on the selected device"),
                  world)

def executeStep (step : YamlPlanStep Params) (world : World) :
    Except ErrorInfo Value × World :=
  if step.method = .deviceExecute then executeVerifiedAction daemon step world
  else call daemon step.method step.params world

/-- `executeYamlPlan` without an abort signal: the completed steps, or the step
that failed and why. -/
def executeYamlPlan (completed : List (String × Value)) :
    List (YamlPlanStep Params) → World →
      Except (String × ErrorInfo) (List (String × Value)) × World
  | [], world => (.ok completed, world)
  | step :: steps, world =>
    match executeStep daemon step world with
    | (.error cause, world) => (.error (step.id, cause), world)
    | (.ok result, world) =>
      executeYamlPlan (completed ++ [(step.id, result)]) steps world

/-! ## Plans -/

/-- The daemon answers each step of a plan when it runs. -/
def Serves : List (YamlPlanStep Params) → ConnectionContext → Prop
  | [], _ => True
  | step :: steps, context => ∃ value next,
      respond daemon step.method step.params context = (.ok value, next) ∧
        Serves steps next

variable {daemon} {world : World}

theorem executeStep_of_answer {step : YamlPlanStep Params} {value : Value}
    {next : ConnectionContext} (hmethod : step.method ≠ .deviceExecute)
    (hanswer : respond daemon step.method step.params world.context =
      (.ok value, next)) :
    executeStep daemon step world = (.ok value, world.after step.method next) := by
  rw [executeStep, if_neg hmethod, call, hanswer]

theorem executeYamlPlan_of_serves {steps : List (YamlPlanStep Params)}
    (hactions : ∀ step ∈ steps, step.method ≠ .deviceExecute)
    (completed : List (String × Value)) (world : World)
    (hserves : Serves daemon steps world.context) :
    ∃ results context,
      executeYamlPlan daemon completed steps world =
        (.ok (completed ++ results),
          ⟨context, world.dispatched ++ steps.map YamlPlanStep.method⟩) ∧
        results.map Prod.fst = steps.map YamlPlanStep.id := by
  induction steps generalizing world completed with
  | nil => exact ⟨[], world.context, by simp [executeYamlPlan], rfl⟩
  | cons step steps ih =>
    obtain ⟨value, next, hanswer, hrest⟩ := hserves
    have hstep := executeStep_of_answer (hactions step List.mem_cons_self) hanswer
    obtain ⟨results, context, hrun, hids⟩ :=
      ih (fun later hlater => hactions later (List.mem_cons_of_mem _ hlater))
        (completed ++ [(step.id, value)]) (world.after step.method next) hrest
    refine ⟨(step.id, value) :: results, context, ?_, by simp [hids]⟩
    rw [executeYamlPlan, hstep]
    simpa [World.after] using hrun

/-- The handlers keep a lease with its session. -/
def Daemon.KeepsLeases (daemon : Daemon Params Value) : Prop :=
  ∀ method params context, context.Leased →
    (daemon.answer method params context).2.Leased

theorem Daemon.KeepsLeases.respond (h : daemon.KeepsLeases)
    (method : PlanMethod) (params : Option Params)
    {context : ConnectionContext} (hleased : context.Leased) :
    (YamlPlan.respond daemon method params context).2.Leased := by
  unfold YamlPlan.respond
  split
  next =>
    unfold selectDevice
    repeat' split
    all_goals exact hleased
  next =>
    split
    next => exact hleased
    next => exact h _ _ _ hleased
  next => exact h _ _ _ hleased

theorem executeVerifiedAction_of_active {step : YamlPlanStep Params}
    {deviceId : DeviceId} {sessionId : SessionId}
    (hbound : step.boundDeviceId = some deviceId)
    (hactive : world.context.activeSession = some sessionId) :
    executeVerifiedAction daemon step world =
      (.error (leaseActive sessionId),
        world.after .deviceSelect world.context) := by
  simp [executeVerifiedAction, hbound, selectDevice, hactive]

/-- Where the daemon would run an action, the adapter's selection fails. -/
theorem executeVerifiedAction_of_served {step : YamlPlanStep Params}
    {value : Value} {next : ConnectionContext}
    (hleased : world.context.Leased)
    (hserved : respond daemon .deviceExecute step.params world.context =
      (.ok value, next)) :
    ∃ cause last, executeVerifiedAction daemon step world =
      (.error cause, last) ∧
      (.deviceExecute ∉ world.dispatched →
        .deviceExecute ∉ last.dispatched) := by
  have hlease : world.context.deviceLease.isSome = true := by
    cases hnone : world.context.deviceLease with
    | none => simp [respond, hnone] at hserved
    | some lease => rfl
  obtain ⟨sessionId, hsession⟩ := Option.isSome_iff_exists.mp (hleased hlease)
  cases hbound : step.boundDeviceId with
  | none =>
    refine ⟨planError "yaml_plan_corrupt"
      "compiled action route binding is missing", world, ?_, id⟩
    rw [executeVerifiedAction, hbound]
  | some deviceId =>
    refine ⟨_, _, executeVerifiedAction_of_active hbound hsession, ?_⟩
    simp [World.after]

theorem executeYamlPlan_of_action (hkeeps : daemon.KeepsLeases)
    {steps : List (YamlPlanStep Params)} (completed : List (String × Value))
    (hserves : Serves daemon steps world.context)
    (hleased : world.context.Leased)
    (hnone : .deviceExecute ∉ world.dispatched)
    (haction : ∃ step ∈ steps, step.method = .deviceExecute) :
    ∃ failure last, executeYamlPlan daemon completed steps world =
      (.error failure, last) ∧ .deviceExecute ∉ last.dispatched := by
  induction steps generalizing world completed with
  | nil => simp at haction
  | cons step steps ih =>
    obtain ⟨value, next, hanswer, hrest⟩ := hserves
    by_cases hmethod : step.method = .deviceExecute
    · rw [hmethod] at hanswer
      obtain ⟨cause, last, hstep, hlast⟩ :=
        executeVerifiedAction_of_served hleased hanswer
      refine ⟨(step.id, cause), last, ?_, hlast hnone⟩
      rw [executeYamlPlan, executeStep, if_pos hmethod, hstep]
    · have hnext : next.Leased := by
        simpa [hanswer] using hkeeps.respond step.method step.params hleased
      rw [executeYamlPlan, executeStep_of_answer hmethod hanswer]
      refine ih _ hrest hnext ?_ (by simpa [hmethod] using haction)
      simpa [World.after, hnone] using Ne.symm hmethod

/-- A plan without actions that the daemon serves dispatches its steps and
returns one result for each; an action on a connection with an active session
is never dispatched, and no plan with an action completes. -/
theorem plan_without_actions_completes (steps : List (YamlPlanStep Params))
    (context : ConnectionContext) (hserves : Serves daemon steps context) :
    ((∀ step ∈ steps, step.method ≠ .deviceExecute) → ∃ results last,
      executeYamlPlan daemon [] steps ⟨context, []⟩ =
        (.ok results, ⟨last, steps.map YamlPlanStep.method⟩) ∧
        results.map Prod.fst = steps.map YamlPlanStep.id) ∧
    (∀ (step : YamlPlanStep Params) deviceId (world : World) sessionId,
      step.boundDeviceId = some deviceId →
      world.context.activeSession = some sessionId →
        executeVerifiedAction daemon step world =
          (.error (leaseActive sessionId),
            world.after .deviceSelect world.context)) ∧
    (daemon.KeepsLeases → context.Leased →
      (∃ step ∈ steps, step.method = .deviceExecute) →
        ∃ failure last, executeYamlPlan daemon [] steps ⟨context, []⟩ =
          (.error failure, last) ∧ .deviceExecute ∉ last.dispatched) := by
  refine ⟨fun hactions => ?_, fun step deviceId world sessionId =>
    executeVerifiedAction_of_active, fun hkeeps hleased haction => ?_⟩
  · obtain ⟨results, last, hrun, hids⟩ :=
      executeYamlPlan_of_serves hactions [] ⟨context, []⟩ hserves
    exact ⟨results, last, hrun, hids⟩
  · exact executeYamlPlan_of_action hkeeps [] hserves hleased (by simp) haction

/-! ### An action in a session -/

/-- A daemon that answers everything, and starts a session when asked to. -/
def sampleDaemon : Daemon Unit Unit where
  answer method _ context := (.ok (), match method with
    | .sessionStart => ⟨some ⟨⟨1⟩⟩, some ⟨2⟩, context.selectedDeviceId⟩
    | _ => context)
  resolve _ := .ok ()
  deviceParam _ := .ok ⟨"device-1"⟩
  selected _ := some ⟨"device-1"⟩
  isStandard _ _ := true
  actionName _ := some "tap"

def samplePlan : List (YamlPlanStep Unit) :=
  [⟨"select", .deviceSelect, none, none⟩, ⟨"start", .sessionStart, none, none⟩,
    ⟨"tap", .deviceExecute, none, some ⟨"device-1"⟩⟩]

/-- The daemon would serve the action, and the plan fails without sending
it. -/
theorem action_never_dispatched :
    Serves sampleDaemon samplePlan ⟨none, none, none⟩ ∧
    ∃ world, executeYamlPlan sampleDaemon [] samplePlan
        ⟨⟨none, none, none⟩, []⟩ = (.error ("tap", leaseActive ⟨⟨1⟩⟩), world) ∧
      .deviceExecute ∉ world.dispatched :=
  ⟨⟨_, _, rfl, _, _, rfl, _, _, rfl, trivial⟩, _, rfl, by decide⟩

theorem plan_without_actions_completes_start :
    ∃ results last,
      executeYamlPlan sampleDaemon [] (samplePlan.take 2)
        ⟨⟨none, none, none⟩, []⟩ = (.ok results, last) ∧
      results.length = 2 := by
  have hserves : Serves sampleDaemon (samplePlan.take 2) ⟨none, none, none⟩ :=
    ⟨_, _, rfl, _, _, rfl, trivial⟩
  obtain ⟨results, last, hrun, hids⟩ :=
    (plan_without_actions_completes _ _ hserves).1 (by decide)
  have hlength := congrArg List.length hids
  exact ⟨results, _, hrun, by simpa [samplePlan] using hlength⟩

end DeviceRail.YamlPlan
