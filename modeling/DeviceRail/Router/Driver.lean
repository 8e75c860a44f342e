import DeviceRail.Router.Outcome

/-!
# The remote driver's lease and connection

A driver stores its lease and whether its device is connected, and calls on it
take turns.  A call first makes sure of a lease: it uses a fresh one, renews an
ageing one and acquires another one when the stored one has lapsed.  Replies
are arbitrary.  A call that is dropped half way is one whose exchange failed,
but for a disconnect that is dropped during the release of its lease: it has
left the device and still stores the lease.  A call refused before it looks at
the lease changes nothing.
-/

namespace DeviceRail.Router

structure RemoteDriverConfig where
  leaseTtlMs : ℕ
  renewBeforeMs : ℕ

structure DriverState where
  lease : Option PeerLease
  leaseReceivedAt : Option ℕ
  connected : Bool
deriving DecidableEq

structure RemoteDeviceDriver where
  id : DeviceId
  nodeId : NodeId
  nodeEpoch : ℕ
  deviceKey : String
  ownerId : String
  config : RemoteDriverConfig

/-- One exchange: the ids drawn for its request, and its outcome. -/
structure Exchanged where
  requestId : Uuid
  traceId : Uuid
  outcome : Except TransportError PeerResponse

/-- What making sure of a lease meets: the clock, the exchange if there is
one, and the clock when its reply is stored. -/
structure Leasing where
  now : ℕ
  exchanged : Exchanged
  receivedAt : ℕ

/-- What a driver does that concerns the lease in use. -/
inductive DriverEvent where
  | connectSucceeded (leaseId : Uuid)
  | connectReturned (leaseId : Uuid)
  | operationSent (leaseId : Uuid)
deriving DecidableEq, Repr

namespace RemoteDeviceDriver

variable (driver : RemoteDeviceDriver)

def exchange (operation : PeerOperation) (lease : Option PeerLease)
    (mutation : Bool) (exchanged : Exchanged) :
    Except DriverError PeerResult :=
  exchangeRaw exchanged.outcome
    { PeerRequest.new exchanged.requestId exchanged.traceId driver.nodeId
        (some driver.nodeEpoch) operation with lease := lease } mutation

/-- The stored lease was received less than the given time ago. -/
def youngerThan (state : DriverState) (now ms : ℕ) : Bool :=
  (state.leaseReceivedAt.map (now - ·)).any (· < fromMillis ms)

def leaseOperation (state : DriverState) (now : ℕ) : PeerOperation :=
  let ttlMs := driver.config.leaseTtlMs
  let acquire := .leaseAcquire driver.deviceKey driver.ownerId ttlMs
  match state.lease with
  | some lease =>
    if youngerThan state now ttlMs then .leaseRenew lease ttlMs
    else acquire
  | none => acquire

def requestLease (state : DriverState) (leasing : Leasing) :
    Except DriverError PeerLease := do
  let operation := driver.leaseOperation state leasing.now
  let lease := match operation with
    | .leaseRenew lease _ => some lease
    | _ => none
  match ← driver.exchange operation lease false leasing.exchanged with
  | .lease lease =>
    require lease.validate.isOk (.protocol "peer lease is invalid")
    require (lease.deviceKey == driver.deviceKey &&
      lease.ownerId == driver.ownerId &&
      lease.nodeEpoch == driver.nodeEpoch)
      (.protocol "peer lease does not match the route")
    return lease
  | _ => .error (.protocol "peer returned the wrong lease result")

def ensureLease (state : DriverState) (leasing : Leasing) :
    Except DriverError (PeerLease × DriverState) :=
  match state.lease.filter fun _ => youngerThan state leasing.now
      (driver.config.leaseTtlMs - driver.config.renewBeforeMs) with
  | some current => .ok (current, state)
  | none => do
      let lease ← driver.requestLease state leasing
      return (lease, { state with
        lease := some lease, leaseReceivedAt := some leasing.receivedAt })

def connectDevice (lease : PeerLease) (exchanged : Exchanged) :
    Except DriverError Unit := do
  match ← driver.exchange (.connect driver.deviceKey) (some lease) true
      exchanged with
  | .device id connected =>
    require (id.text == driver.deviceKey || id == driver.id)
      (.protocol "peer connected another device")
    require connected (.protocol "peer connect result is disconnected")
  | _ => .error (.protocol "peer returned the wrong connect result")

def expectAck : PeerResult → Except DriverError Unit
  | .ack => .ok ()
  | _ => .error (.protocol "peer returned the wrong acknowledgement")

end RemoteDeviceDriver

/-! ## Calls -/

/-- A driver's state and what it has done, the latest first. -/
structure DriverRun where
  state : DriverState
  events : List DriverEvent
deriving DecidableEq

/-- The calls on a driver.  An observation, an action and every asset of their
results ask for a lease of their own; reads of an asset do not. -/
inductive DriverCall where
  | connect (leasing : Leasing) (connect : Exchanged)
  | disconnect (disconnect release : Exchanged)
  /-- A disconnect that is dropped before the reply to its release. -/
  | dropRelease (disconnect : Exchanged)
  | operate (leasing : Leasing)
  | importAsset (leasing : Leasing)

namespace DriverRun

open RemoteDeviceDriver

variable (driver : RemoteDeviceDriver)

def initial : DriverRun := ⟨⟨none, none, false⟩, []⟩

def connect (run : DriverRun) (leasing : Leasing) (exchanged : Exchanged) :
    Except DriverError Unit × DriverRun :=
  match driver.ensureLease run.state leasing with
  | .error error => (.error error, run)
  | .ok (lease, state) =>
    if run.state.connected then
      (.ok (), ⟨state, .connectReturned lease.leaseId :: run.events⟩)
    else
      match driver.connectDevice lease exchanged with
      | .error error => (.error error, ⟨state, run.events⟩)
      | .ok () =>
        (.ok (), ⟨{ state with connected := true },
          .connectReturned lease.leaseId ::
            .connectSucceeded lease.leaseId :: run.events⟩)

def disconnectDevice (run : DriverRun) (lease : PeerLease)
    (disconnected : Exchanged) : Except DriverError Unit :=
  if run.state.connected then
    driver.exchange (.disconnect driver.deviceKey) (some lease) true
      disconnected >>= expectAck
  else .ok ()

def disconnect (run : DriverRun) (disconnected released : Exchanged) :
    Except DriverError Unit × DriverRun :=
  match run.state.lease with
  | none =>
    (.ok (), { run with state := { run.state with connected := false } })
  | some lease =>
    match run.disconnectDevice driver lease disconnected with
    | .error error => (.error error, run)
    | .ok () =>
      (driver.exchange (.leaseRelease lease) (some lease) false
        released >>= expectAck, { run with state := ⟨none, none, false⟩ })

def dropRelease (run : DriverRun) (disconnected : Exchanged) : DriverRun :=
  if (run.state.lease.map (run.disconnectDevice driver · disconnected)).all
      (·.isOk) then
    { run with state := { run.state with connected := false } }
  else run

/-- `observe` and `execute`, up to the request they send under their lease. -/
def operate (run : DriverRun) (leasing : Leasing) : DriverRun :=
  if run.state.connected then
    match driver.ensureLease run.state leasing with
    | .error _ => run
    | .ok (lease, state) => ⟨state, .operationSent lease.leaseId :: run.events⟩
  else run

def importAsset (run : DriverRun) (leasing : Leasing) : DriverRun :=
  match driver.ensureLease run.state leasing with
  | .error _ => run
  | .ok (_, state) => { run with state := state }

def next (run : DriverRun) : DriverCall → DriverRun
  | .connect leasing exchanged => (run.connect driver leasing exchanged).2
  | .disconnect disconnected released =>
    (run.disconnect driver disconnected released).2
  | .dropRelease disconnected => run.dropRelease driver disconnected
  | .operate leasing => run.operate driver leasing
  | .importAsset leasing => run.importAsset driver leasing

end DriverRun

def DriverCall.leasing? : DriverCall → Option Leasing
  | .connect leasing _ | .operate leasing | .importAsset leasing => some leasing
  | .disconnect _ _ | .dropRelease _ => none

/-! ## Which leases are connected -/

variable {driver : RemoteDeviceDriver} {state after : DriverState}
  {lease stored : PeerLease} {leasing : Leasing} {run : DriverRun}

theorem exchange_eq_ok {operation : PeerOperation} {sent : Option PeerLease}
    {mutation : Bool} {exchanged : Exchanged} {result : PeerResult}
    (h : driver.exchange operation sent mutation exchanged = .ok result) :
    ∃ request epoch, request.operation = operation ∧
      result.matchesRequest request epoch = true := by
  unfold RemoteDeviceDriver.exchange at h
  cases houtcome : exchanged.outcome with
  | error error =>
    rw [houtcome] at h
    cases error <;> cases h
  | ok response =>
    simp only [houtcome, exchangeRaw, responseToResult] at h
    split at h
    · cases h
    · next hvalid =>
        rcases validateFor_cases hvalid with
          ⟨hok, -, found, hfound, hmatches⟩ | ⟨hok, error, herror⟩
        · simp only [hok, if_true, hfound] at h
          cases h
          exact ⟨_, _, rfl, hmatches⟩
        · simp only [hok, herror, Bool.false_eq_true, if_false] at h
          cases h

theorem ensureLease_leaseId (hstored : state.lease = some stored)
    (hyoung : RemoteDeviceDriver.youngerThan state leasing.now
      driver.config.leaseTtlMs = true)
    (h : driver.ensureLease state leasing = .ok (lease, after)) :
    lease.leaseId = stored.leaseId := by
  unfold RemoteDeviceDriver.ensureLease at h
  split at h
  next current hcurrent =>
    cases h
    rw [hstored, Option.filter_eq_some_iff] at hcurrent
    rw [Option.some.inj hcurrent.1]
  next =>
    obtain ⟨granted, hgranted, hend⟩ := Fallible.bind_eq_ok.mp h
    cases hend
    simp only [RemoteDeviceDriver.requestLease,
      RemoteDeviceDriver.leaseOperation, hstored, hyoung, if_true] at hgranted
    obtain ⟨result, hresult, hrest⟩ := Fallible.bind_eq_ok.mp hgranted
    obtain ⟨request, epoch, hoperation, hmatches⟩ := exchange_eq_ok hresult
    cases result with
    | lease renewed =>
      obtain ⟨_, -, hrest⟩ := Fallible.bind_eq_ok.mp hrest
      obtain ⟨_, -, hrest⟩ := Fallible.bind_eq_ok.mp hrest
      cases hrest
      simp only [PeerResult.matchesRequest, hoperation, Bool.and_eq_true,
        beq_iff_eq] at hmatches
      exact hmatches.1.1.1.2
    | _ => cases hrest

theorem ensureLease_eq_ok
    (h : driver.ensureLease state leasing = .ok (lease, after)) :
    after.lease = some lease ∧ after.connected = state.connected := by
  unfold RemoteDeviceDriver.ensureLease at h
  split at h
  next current hcurrent =>
    cases h
    exact ⟨(Option.filter_eq_some_iff.mp hcurrent).1, rfl⟩
  next =>
    obtain ⟨granted, -, hend⟩ := Fallible.bind_eq_ok.mp h
    cases hend
    exact ⟨rfl, rfl⟩

/-- A Connect succeeded under every lease id in use before it was used. -/
def Justified : List DriverEvent → Prop
  | [] => True
  | .connectSucceeded _ :: earlier => Justified earlier
  | .connectReturned leaseId :: earlier | .operationSent leaseId :: earlier =>
    .connectSucceeded leaseId ∈ earlier ∧ Justified earlier

/-- A connected driver's lease was connected under its id. -/
structure DriverRun.Sound (run : DriverRun) : Prop where
  connected : run.state.connected = true → ∃ lease,
    run.state.lease = some lease ∧ .connectSucceeded lease.leaseId ∈ run.events
  justified : Justified run.events

/-- While the driver is connected, a call that needs the lease comes before
the stored one lapses. -/
def DriverCall.Timely (driver : RemoteDeviceDriver) (run : DriverRun)
    (call : DriverCall) : Prop :=
  run.state.connected = true → ∀ leasing, call.leasing? = some leasing →
    RemoteDeviceDriver.youngerThan run.state leasing.now
      driver.config.leaseTtlMs = true

/-- In a connected driver a timely request for a lease leaves one that was
connected. -/
theorem DriverRun.Sound.ensureLease (h : run.Sound)
    (hyoung : run.state.connected = true →
      RemoteDeviceDriver.youngerThan run.state leasing.now
        driver.config.leaseTtlMs = true)
    (hlease : driver.ensureLease run.state leasing = .ok (lease, after)) :
    DriverRun.Sound ⟨after, run.events⟩ ∧
      (run.state.connected = true →
        .connectSucceeded lease.leaseId ∈ run.events) := by
  obtain ⟨hafter, hconnected⟩ := ensureLease_eq_ok hlease
  have hmem : run.state.connected = true →
      .connectSucceeded lease.leaseId ∈ run.events := by
    intro hup
    obtain ⟨stored, hstored, hevent⟩ := h.connected hup
    rwa [ensureLease_leaseId hstored (hyoung hup) hlease]
  refine ⟨⟨fun hup => ⟨lease, hafter, hmem ?_⟩, h.justified⟩, hmem⟩
  exact hconnected ▸ hup

theorem DriverRun.Sound.cons {event : DriverEvent}
    {events : List DriverEvent} (h : DriverRun.Sound ⟨state, events⟩)
    (hevent : Justified (event :: events)) :
    DriverRun.Sound ⟨state, event :: events⟩ := by
  refine ⟨fun hup => ?_, hevent⟩
  obtain ⟨lease, hlease, hmem⟩ := h.connected hup
  exact ⟨lease, hlease, List.mem_cons_of_mem _ hmem⟩

theorem DriverRun.Sound.next {call : DriverCall} (h : run.Sound)
    (htimely : call.Timely driver run) : (run.next driver call).Sound := by
  cases call with
  | connect leasing exchanged =>
    simp only [DriverRun.next, DriverRun.connect]
    split
    next => exact h
    next lease after hlease =>
      obtain ⟨hsound, hmem⟩ :=
        h.ensureLease (fun hup => htimely hup leasing rfl) hlease
      split
      next hup => exact hsound.cons ⟨hmem hup, h.justified⟩
      next =>
        split
        next => exact hsound
        next =>
          refine ⟨fun _ => ⟨lease, (ensureLease_eq_ok hlease).1, ?_⟩, ?_,
            h.justified⟩
          · exact List.mem_cons_of_mem _ List.mem_cons_self
          · exact List.mem_cons_self
  | disconnect disconnected released =>
    simp only [DriverRun.next, DriverRun.disconnect]
    split
    · exact ⟨nofun, h.justified⟩
    split
    · exact h
    exact ⟨nofun, h.justified⟩
  | dropRelease disconnected =>
    simp only [DriverRun.next, DriverRun.dropRelease]
    split
    · exact ⟨nofun, h.justified⟩
    · exact h
  | operate leasing =>
    simp only [DriverRun.next, DriverRun.operate]
    split
    next hup =>
      split
      next => exact h
      next lease after hlease =>
        obtain ⟨hsound, hmem⟩ :=
          h.ensureLease (fun hup => htimely hup leasing rfl) hlease
        exact hsound.cons ⟨hmem hup, h.justified⟩
    next => exact h
  | importAsset leasing =>
    simp only [DriverRun.next, DriverRun.importAsset]
    split
    next => exact h
    next lease after hlease =>
      exact (h.ensureLease (fun hup => htimely hup leasing rfl) hlease).1

/-- As long as no lease lapses while the driver is connected, a connected
driver's lease is one under whose id a Connect succeeded, and nothing is
returned or sent under another one. -/
theorem connected_under_lease {driver : RemoteDeviceDriver}
    {calls : List DriverCall} {run : DriverRun}
    (hrun : Transition.Run (Transition.Guarded
      (fun run call => call.Timely driver run)
      (fun run call after => after = run.next driver call))
      DriverRun.initial calls run) :
    (run.state.connected = true → ∃ lease, run.state.lease = some lease ∧
      .connectSucceeded lease.leaseId ∈ run.events) ∧
    Justified run.events := by
  have hsound : run.Sound := by
    refine hrun.invariant (fun run call after h hstep => ?_) ⟨nofun, trivial⟩
    rw [hstep.2]
    exact h.next hstep.1
  exact ⟨hsound.connected, hsound.justified⟩

def sampleDriver : RemoteDeviceDriver :=
  ⟨⟨"remote:lab:phone"⟩, sampleTap.nodeId, 1, "phone", "owner", ⟨30000, 5000⟩⟩

def sampleExchanged (result : PeerResult) : Exchanged :=
  ⟨⟨1⟩, ⟨2⟩, .ok ⟨distributedProtocolVersion, ⟨1⟩, sampleTap.nodeId, 1, true,
    some result, none⟩⟩

/-- A lease with the given id is granted at the given time. -/
def sampleLeasing (now : ℕ) (leaseId : Uuid) : Leasing :=
  ⟨now, sampleExchanged (.lease ⟨leaseId, "phone", "owner", 1, 60000⟩), now⟩

def sampleConnect (now : ℕ) (leaseId : Uuid) : DriverCall :=
  .connect (sampleLeasing now leaseId)
    (sampleExchanged (.device ⟨"phone"⟩ true))

/-- A device connected under lease 7. -/
def sampleConnected : DriverRun :=
  DriverRun.initial.next sampleDriver (sampleConnect 0 ⟨7⟩)

theorem connected_under_lease_observed :
    (sampleConnected.next sampleDriver
      (.operate (sampleLeasing 1 ⟨7⟩))).state.connected = true ∧
    Justified (sampleConnected.next sampleDriver
      (.operate (sampleLeasing 1 ⟨7⟩))).events := by
  refine ⟨by decide +kernel, (connected_under_lease ((Transition.Run.snoc
    (.single ⟨nofun, rfl⟩) ⟨?_, rfl⟩ : Transition.Run _ _
      ([sampleConnect 0 ⟨7⟩] ++ [.operate (sampleLeasing 1 ⟨7⟩)]) _))).2⟩
  rintro - leasing ⟨⟩
  decide +kernel

/-- Once lease 7 has lapsed, the next connect returns under lease 8 without
connecting the device, and the device counts as connected under it. -/
theorem lapsed_lease_counts_as_connected :
    (sampleConnected.connect sampleDriver
      (sampleLeasing (fromMillis 30000) ⟨8⟩)
      (sampleExchanged (.device ⟨"phone"⟩ true))).1.isOk = true ∧
    (sampleConnected.connect sampleDriver
      (sampleLeasing (fromMillis 30000) ⟨8⟩)
      (sampleExchanged (.device ⟨"phone"⟩ true))).2 =
      ⟨⟨some ⟨⟨8⟩, "phone", "owner", 1, 60000⟩, some (fromMillis 30000), true⟩,
        [.connectReturned ⟨8⟩, .connectReturned ⟨7⟩,
          .connectSucceeded ⟨7⟩]⟩ := by
  decide +kernel

end DeviceRail.Router
