import DeviceRail.EventStore.Changes
import DeviceRail.Support.RwLock

/-!
# The event store at lock granularity

Calls of the store as threads that take and give up the store's locks.  A
thread moves in the steps between which others can run: it takes the state
lock, reads the shutdown flag and the session map, takes the log's lock, gives
up the state lock, reads the flag again where the source does, and works on the
log.  Logs live on a heap that deletion does not free, because receivers keep
reading the channel of a deleted log.
-/

namespace DeviceRail.StreamSystem

open Option (bind_eq_some_iff)

/-- Identity of one call, and of the receiver that a subscribing call
registers. -/
abbrev ThreadId := ReceiverId

/-- The calls that write event lists or channels. -/
inductive Call where
  | startSession (command : StartSession) (eventId : EventId)
  | append (pending : PendingEvent) (eventId : EventId)
  | endSession (command : EndSession) (eventId : EventId)
  | deleteEnded (sessionId : SessionId)
  | subscribeAfter (sessionId : SessionId) (after : Option EventSequence)
  | beginStreamShutdown

inductive Reply where
  | ok
  | storeError (error : EventStoreError)
  | streamError (error : EventStreamError)
  | shutdown (first : Bool)

def Reply.ofStore {α : Type*} : Except EventStoreError α → Reply
  | .ok _ => .ok
  | .error e => .storeError e

/-- Where a thread stands, and which locks it holds there. -/
inductive Pc where
  /-- Nothing done yet. -/
  | ready
  /-- Waits for the state lock. -/
  | wantState
  /-- Holds the state lock. -/
  | inState
  /-- Holds the state lock, waits for the log's lock. -/
  | wantLog (sessionId : SessionId)
  /-- Holds the state lock and the log's lock. -/
  | inBoth (sessionId : SessionId)
  /-- Holds the log's lock. -/
  | inLog (sessionId : SessionId)
  /-- Holds the log's lock and has found the flag unset a second time. -/
  | cleared (sessionId : SessionId)
  /-- Shutdown holding the state lock, with the logs still to signal. -/
  | sweeping (remaining : Finset SessionId)
  /-- Shutdown holding the state lock and the lock of one log. -/
  | sweepingLog (sessionId : SessionId) (remaining : Finset SessionId)
  | done (reply : Reply)

structure Thread where
  call : Call
  pc : Pc

/-- A registered subscription with the results its `next` calls have returned
so far.  `late` records whether its log had already been signalled by the
shutdown sweep when it registered. -/
structure Subscriber where
  subscription : EventSubscription
  after : Option EventSequence
  returned : List (Option EventStreamItem)
  waiting : Bool
  late : Bool

structure System where
  logs : KeyedMap SessionId SessionLog
  sessions : Finset SessionId
  used : Finset SessionId
  streamShutdown : Bool
  config : EventStreamConfig
  stateLock : RwLock ThreadId
  logLocks : KeyedMap SessionId ThreadId
  threads : KeyedMap ThreadId Thread
  subscribers : KeyedMap ReceiverId Subscriber
  swept : Finset SessionId

namespace System

def new (config : EventStreamConfig) : System :=
  { logs := ∅
    sessions := ∅
    used := ∅
    streamShutdown := false
    config := config
    stateLock := .free
    logLocks := ∅
    threads := ∅
    subscribers := ∅
    swept := ∅ }

end System

/-- The calls that take the state lock exclusively. -/
def Call.exclusive : Call → Bool
  | .startSession _ _ => true
  | .deleteEnded _ => true
  | _ => false

/-- The tests made before any lock is taken. -/
def Call.check : Call → Except EventStoreError Unit
  | .startSession command _ => ensureTimestamp command.atMs
  | .append pending _ => MemoryEventStore.checkPending pending
  | .endSession command _ => ensureTimestamp command.atMs
  | _ => .ok ()

/-- Whether the call reads the flag again under the log's lock. -/
def Call.rechecks : Call → Bool
  | .append _ _ => true
  | .endSession _ _ => true
  | _ => false

namespace System

variable (sys : System) (tid : ThreadId)

def setPc (call : Call) (pc : Pc) : System :=
  { sys with threads := sys.threads.insert tid ⟨call, pc⟩ }

def setLog (sessionId : SessionId) (log : SessionLog) : System :=
  { sys with logs := sys.logs.adjust sessionId (fun _ => log) }

def acquireState (call : Call) : Option (RwLock ThreadId) :=
  if call.exclusive then sys.stateLock.tryWrite tid
  else sys.stateLock.tryRead tid

def releaseState (call : Call) : System :=
  { sys with stateLock :=
      if call.exclusive then sys.stateLock.releaseWrite
      else sys.stateLock.releaseRead tid }

def releaseLog (sessionId : SessionId) : System :=
  { sys with logLocks := sys.logLocks.erase sessionId }

/-- Return while holding the state lock. -/
def leave (call : Call) (reply : Reply) : System :=
  (sys.releaseState tid call).setPc tid call (.done reply)

/-- The first step of a call: the swap of the flag for a shutdown, the checks
on the arguments for the others. -/
def begin (call : Call) : System :=
  match call with
  | .beginStreamShutdown =>
    if sys.streamShutdown then sys.setPc tid call (.done (.shutdown false))
    else
      { sys with streamShutdown := true }.setPc tid call .wantState
  | _ =>
    match call.check with
    | .error e => sys.setPc tid call (.done (.storeError e))
    | .ok () => sys.setPc tid call .wantState

/-- What a call does between taking the state lock and asking for a log's
lock. -/
def enter (call : Call) : System :=
  match call with
  | .startSession command eventId =>
    if sys.streamShutdown then
      sys.leave tid call (.storeError .shuttingDown)
    else if command.sessionId ∈ sys.used then
      sys.leave tid call (.storeError (.sessionAlreadyExists command.sessionId))
    else
      { sys with
        used := insert command.sessionId sys.used
        sessions := insert command.sessionId sys.sessions
        logs := sys.logs.insert command.sessionId
          (SessionLog.start command eventId
            sys.config.tailCapacity) }.leave tid call .ok
  | .append pending _ =>
    if sys.streamShutdown then
      sys.leave tid call (.storeError .shuttingDown)
    else if pending.sessionId ∈ sys.sessions then
      sys.setPc tid call (.wantLog pending.sessionId)
    else
      sys.leave tid call (.storeError (.sessionNotFound pending.sessionId))
  | .endSession command _ =>
    if sys.streamShutdown then
      sys.leave tid call (.storeError .shuttingDown)
    else if command.sessionId ∈ sys.sessions then
      sys.setPc tid call (.wantLog command.sessionId)
    else
      sys.leave tid call (.storeError (.sessionNotFound command.sessionId))
  | .deleteEnded sessionId =>
    if sessionId ∈ sys.sessions then
      sys.setPc tid call (.wantLog sessionId)
    else sys.leave tid call (.storeError (.sessionNotFound sessionId))
  | .subscribeAfter sessionId _ =>
    if sys.streamShutdown then
      sys.leave tid call (.streamError .storeShutdown)
    else if sessionId ∈ sys.sessions then
      sys.setPc tid call (.wantLog sessionId)
    else if sessionId ∈ sys.used then
      sys.leave tid call (.streamError (.sessionDeleted sessionId))
    else sys.leave tid call (.streamError (.sessionNotFound sessionId))
  | .beginStreamShutdown => sys.setPc tid call (.sweeping sys.sessions)

/-- Return while holding a log's lock. -/
def leaveLog (call : Call) (sessionId : SessionId) (reply : Reply) : System :=
  (sys.releaseLog sessionId).setPc tid call (.done reply)

/-- The second reading of the flag. -/
def recheck (call : Call) (sessionId : SessionId) : System :=
  if sys.streamShutdown then
    sys.leaveLog tid call sessionId (.storeError .shuttingDown)
  else sys.setPc tid call (.cleared sessionId)

/-- `append` on its log. -/
def commitAppend (pending : PendingEvent) (eventId : EventId)
    (log : SessionLog) : System :=
  let result := log.append pending eventId
  (sys.setLog pending.sessionId result.2).leaveLog tid
    (.append pending eventId) pending.sessionId (.ofStore result.1)

/-- `end_session` on its log. -/
def commitEnd (command : EndSession) (eventId : EventId)
    (log : SessionLog) : System :=
  let result := log.endSession command eventId
  (sys.setLog command.sessionId result.2).leaveLog tid
    (.endSession command eventId) command.sessionId (.ofStore result.1)

/-- `subscribe_after` on its log: registration and snapshot. -/
def commitSubscribe (sessionId : SessionId) (after : Option EventSequence)
    (log : SessionLog) : System :=
  let call := Call.subscribeAfter sessionId after
  match log.subscribeAfter sys.config sessionId after tid with
  | (.error e, log) =>
    (sys.setLog sessionId log).leaveLog tid call sessionId (.streamError e)
  | (.ok subscription, log) =>
    { sys.setLog sessionId log with
      subscribers := sys.subscribers.insert tid
        ⟨subscription, after, [], false,
          decide (sessionId ∈ sys.swept)⟩ }.leaveLog tid call sessionId .ok

/-- `delete_ended` on its log. -/
def commitDelete (sessionId : SessionId) (log : SessionLog) : System :=
  let call := Call.deleteEnded sessionId
  if log.info.state = .active then
    (sys.releaseLog sessionId).leave tid call
      (.storeError (.sessionActive sessionId))
  else
    let log := log.signal (.sessionDeleted sessionId log.info.lastSequence)
    let sys := sys.setLog sessionId log
    ({ sys with sessions := sys.sessions.erase sessionId }.releaseLog
      sessionId).leave tid call .ok

/-- The send of the shutdown sweep to one log. -/
def sweepSend (sessionId : SessionId) (remaining : Finset SessionId)
    (log : SessionLog) : System :=
  ({ sys.setLog sessionId (log.signal .storeShutdown) with
      swept := insert sessionId sys.swept }.releaseLog sessionId).setPc tid
    .beginStreamShutdown (.sweeping remaining)

/-! ### Subscribers -/

/-- Drop a receiver from the channel of its session. -/
def dropReceiver (sessionId : SessionId) (receiver : ReceiverId) : System :=
  { sys with logs := sys.logs.adjust sessionId (fun log =>
      { log with streamTail := log.streamTail.unsubscribe receiver }) }

/-- Store what a poll of `next` did.  A subscription that gave up its receiver
leaves the channel. -/
def polled (receiver : ReceiverId) (subscriber : Subscriber) :
    NextOutcome → System
  | .returned item subscription =>
    let sys :=
      if subscription.tail.isNone then
        sys.dropReceiver subscription.sessionId receiver
      else sys
    { sys with
      subscribers := sys.subscribers.insert receiver
        { subscriber with
          subscription := subscription
          returned := subscriber.returned ++ [item]
          waiting := false } }
  | .waiting =>
    { sys with
      subscribers := sys.subscribers.insert receiver
        { subscriber with waiting := true } }
  | .panicked => sys

/-- The sender of a session's channel is gone. -/
def closed (sessionId : SessionId) : Bool := decide (sessionId ∉ sys.sessions)

end System

/-! ## Steps -/

inductive Label where
  | invoke (tid : ThreadId) (call : Call)
  | begin (tid : ThreadId)
  | lockState (tid : ThreadId)
  | enter (tid : ThreadId)
  | lockLog (tid : ThreadId)
  | dropState (tid : ThreadId)
  | recheck (tid : ThreadId)
  | commit (tid : ThreadId)
  | sweepLock (tid : ThreadId) (sessionId : SessionId)
  | sweepSend (tid : ThreadId)
  | sweepDone (tid : ThreadId)
  | observe (sessionId : SessionId) (leases : Finset ObservationLease)
  | next (receiver : ReceiverId)
  | wake (receiver : ReceiverId)
  | drop (receiver : ReceiverId)

/-- The steps of the system. -/
inductive Step (sys : System) : Label → System → Prop
  | invoke {tid call} (hfresh : sys.threads.lookup tid = none) :
      Step sys (.invoke tid call) (sys.setPc tid call .ready)
  | begin {tid call} (hthread : sys.threads.lookup tid = some ⟨call, .ready⟩) :
      Step sys (.begin tid) (sys.begin tid call)
  | lockState {tid call lock}
      (hthread : sys.threads.lookup tid = some ⟨call, .wantState⟩)
      (hlock : sys.acquireState tid call = some lock) :
      Step sys (.lockState tid)
        ({ sys with stateLock := lock }.setPc tid call .inState)
  | enter {tid call}
      (hthread : sys.threads.lookup tid = some ⟨call, .inState⟩) :
      Step sys (.enter tid) (sys.enter tid call)
  | lockLog {tid call sessionId}
      (hthread : sys.threads.lookup tid = some ⟨call, .wantLog sessionId⟩)
      (hfree : sys.logLocks.lookup sessionId = none) :
      Step sys (.lockLog tid)
        ({ sys with logLocks := sys.logLocks.insert sessionId tid }.setPc tid
          call (.inBoth sessionId))
  | dropState {tid call sessionId}
      (hthread : sys.threads.lookup tid = some ⟨call, .inBoth sessionId⟩)
      (hshared : call.exclusive = false) :
      Step sys (.dropState tid)
        ((sys.releaseState tid call).setPc tid call (.inLog sessionId))
  | recheck {tid call sessionId}
      (hthread : sys.threads.lookup tid = some ⟨call, .inLog sessionId⟩)
      (hrechecks : call.rechecks = true) :
      Step sys (.recheck tid) (sys.recheck tid call sessionId)
  | append {tid pending eventId log} (hthread : sys.threads.lookup tid =
        some ⟨.append pending eventId, .cleared pending.sessionId⟩)
      (hlog : sys.logs.lookup pending.sessionId = some log) :
      Step sys (.commit tid) (sys.commitAppend tid pending eventId log)
  | endSession {tid command eventId log} (hthread : sys.threads.lookup tid =
        some ⟨.endSession command eventId, .cleared command.sessionId⟩)
      (hlog : sys.logs.lookup command.sessionId = some log) :
      Step sys (.commit tid) (sys.commitEnd tid command eventId log)
  | subscribe {tid after sessionId log} (hthread : sys.threads.lookup tid =
        some ⟨.subscribeAfter sessionId after, .inLog sessionId⟩)
      (hlog : sys.logs.lookup sessionId = some log) :
      Step sys (.commit tid) (sys.commitSubscribe tid sessionId after log)
  | deleteEnded {tid sessionId log} (hthread : sys.threads.lookup tid =
        some ⟨.deleteEnded sessionId, .inBoth sessionId⟩)
      (hlog : sys.logs.lookup sessionId = some log) :
      Step sys (.commit tid) (sys.commitDelete tid sessionId log)
  | sweepLock {tid sessionId remaining} (hthread : sys.threads.lookup tid =
        some ⟨.beginStreamShutdown, .sweeping remaining⟩)
      (hmem : sessionId ∈ remaining)
      (hfree : sys.logLocks.lookup sessionId = none) :
      Step sys (.sweepLock tid sessionId)
        ({ sys with logLocks := sys.logLocks.insert sessionId tid }.setPc tid
          .beginStreamShutdown
          (.sweepingLog sessionId (remaining.erase sessionId)))
  | sweepSend {tid sessionId remaining log} (hthread : sys.threads.lookup tid =
        some ⟨.beginStreamShutdown, .sweepingLog sessionId remaining⟩)
      (hlog : sys.logs.lookup sessionId = some log) :
      Step sys (.sweepSend tid) (sys.sweepSend tid sessionId remaining log)
  | sweepDone {tid} (hthread : sys.threads.lookup tid =
        some ⟨.beginStreamShutdown, .sweeping ∅⟩) :
      Step sys (.sweepDone tid)
        (sys.leave tid .beginStreamShutdown (.shutdown true))
  | observe {sessionId leases log}
      (hlog : sys.logs.lookup sessionId = some log)
      (hfree : sys.logLocks.lookup sessionId = none)
      (hactive : log.info.state ≠ .ended) :
      Step sys (.observe sessionId leases)
        (sys.setLog sessionId { log with inFlightObservations := leases })
  | next {receiver subscriber log}
      (hsubscriber : sys.subscribers.lookup receiver = some subscriber)
      (hidle : subscriber.waiting = false)
      (hlog : sys.logs.lookup subscriber.subscription.sessionId = some log) :
      Step sys (.next receiver)
        (sys.polled receiver subscriber
          (subscriber.subscription.next log.streamTail
            (sys.closed subscriber.subscription.sessionId)))
  | wake {receiver subscriber log}
      (hsubscriber : sys.subscribers.lookup receiver = some subscriber)
      (hwaiting : subscriber.waiting = true)
      (hlog : sys.logs.lookup subscriber.subscription.sessionId = some log) :
      Step sys (.wake receiver)
        (sys.polled receiver subscriber
          (subscriber.subscription.wake log.streamTail
            (sys.closed subscriber.subscription.sessionId)))
  | drop {receiver subscriber}
      (hsubscriber : sys.subscribers.lookup receiver = some subscriber) :
      Step sys (.drop receiver)
        { sys.dropReceiver subscriber.subscription.sessionId receiver with
          subscribers := sys.subscribers.erase receiver }

/-- The states of every interleaving. -/
def Reached (sys : System) : Prop :=
  ∃ config, Transition.Reachable Step (System.new config) sys

/-! ## Execution -/

/-- Take the labelled step, when it is possible. -/
def System.execute (sys : System) : Label → Option System
  | .invoke tid call => do
    guard (sys.threads.lookup tid = none)
    return sys.setPc tid call .ready
  | .begin tid => do
    let ⟨call, .ready⟩ ← sys.threads.lookup tid | none
    return sys.begin tid call
  | .lockState tid => do
    let ⟨call, .wantState⟩ ← sys.threads.lookup tid | none
    let lock ← sys.acquireState tid call
    return { sys with stateLock := lock }.setPc tid call .inState
  | .enter tid => do
    let ⟨call, .inState⟩ ← sys.threads.lookup tid | none
    return sys.enter tid call
  | .lockLog tid => do
    let ⟨call, .wantLog sessionId⟩ ← sys.threads.lookup tid | none
    guard (sys.logLocks.lookup sessionId = none)
    return { sys with logLocks := sys.logLocks.insert sessionId tid }.setPc tid
      call (.inBoth sessionId)
  | .dropState tid => do
    let ⟨call, .inBoth sessionId⟩ ← sys.threads.lookup tid | none
    guard (call.exclusive = false)
    return (sys.releaseState tid call).setPc tid call (.inLog sessionId)
  | .recheck tid => do
    let ⟨call, .inLog sessionId⟩ ← sys.threads.lookup tid | none
    guard (call.rechecks = true)
    return sys.recheck tid call sessionId
  | .commit tid => do
    match ← sys.threads.lookup tid with
    | ⟨.append pending eventId, .cleared sessionId⟩ =>
      guard (pending.sessionId = sessionId)
      return sys.commitAppend tid pending eventId
        (← sys.logs.lookup pending.sessionId)
    | ⟨.endSession command eventId, .cleared sessionId⟩ =>
      guard (command.sessionId = sessionId)
      return sys.commitEnd tid command eventId
        (← sys.logs.lookup command.sessionId)
    | ⟨.subscribeAfter requested after, .inLog sessionId⟩ =>
      guard (requested = sessionId)
      return sys.commitSubscribe tid requested after
        (← sys.logs.lookup requested)
    | ⟨.deleteEnded requested, .inBoth sessionId⟩ =>
      guard (requested = sessionId)
      return sys.commitDelete tid requested (← sys.logs.lookup requested)
    | _ => none
  | .sweepLock tid sessionId => do
    let ⟨.beginStreamShutdown, .sweeping remaining⟩ ← sys.threads.lookup tid
      | none
    guard (sessionId ∈ remaining ∧ sys.logLocks.lookup sessionId = none)
    return { sys with logLocks := sys.logLocks.insert sessionId tid }.setPc tid
      .beginStreamShutdown (.sweepingLog sessionId (remaining.erase sessionId))
  | .sweepSend tid => do
    let ⟨.beginStreamShutdown, .sweepingLog sessionId remaining⟩ ←
      sys.threads.lookup tid | none
    return sys.sweepSend tid sessionId remaining (← sys.logs.lookup sessionId)
  | .sweepDone tid => do
    let ⟨.beginStreamShutdown, .sweeping remaining⟩ ← sys.threads.lookup tid
      | none
    guard (remaining = ∅)
    return sys.leave tid .beginStreamShutdown (.shutdown true)
  | .observe sessionId leases => do
    let log ← sys.logs.lookup sessionId
    guard (sys.logLocks.lookup sessionId = none ∧ log.info.state ≠ .ended)
    return sys.setLog sessionId { log with inFlightObservations := leases }
  | .next receiver => do
    let subscriber ← sys.subscribers.lookup receiver
    guard (subscriber.waiting = false)
    let log ← sys.logs.lookup subscriber.subscription.sessionId
    return sys.polled receiver subscriber
      (subscriber.subscription.next log.streamTail
        (sys.closed subscriber.subscription.sessionId))
  | .wake receiver => do
    let subscriber ← sys.subscribers.lookup receiver
    guard (subscriber.waiting = true)
    let log ← sys.logs.lookup subscriber.subscription.sessionId
    return sys.polled receiver subscriber
      (subscriber.subscription.wake log.streamTail
        (sys.closed subscriber.subscription.sessionId))
  | .drop receiver => do
    let subscriber ← sys.subscribers.lookup receiver
    return { sys.dropReceiver subscriber.subscription.sessionId receiver with
      subscribers := sys.subscribers.erase receiver }

/-- Run a schedule. -/
def System.runLabels (sys : System) (labels : List Label) : Option System :=
  Transition.exec System.execute sys labels

/-- The steps of a call that nobody else interrupts. -/
def Call.schedule (tid : ThreadId) (call : Call) : List Label :=
  [.invoke tid call, .begin tid, .lockState tid, .enter tid] ++
    match call with
    | .append _ _ | .endSession _ _ =>
      [.lockLog tid, .dropState tid, .recheck tid, .commit tid]
    | .subscribeAfter _ _ => [.lockLog tid, .dropState tid, .commit tid]
    | .deleteEnded _ => [.lockLog tid, .commit tid]
    | _ => []

section

variable {sys sys' : System} {label : Label}

theorem guard_bind_eq_some {p : Prop} [Decidable p] {rest : Option System} :
    ((guard p : Option Unit) >>= fun _ => rest) = some sys' ↔
      p ∧ rest = some sys' := by
  by_cases hp : p <;> simp [guard, hp]

theorem step_of_execute (h : sys.execute label = some sys') :
    Step sys label sys' := by
  unfold System.execute at h
  cases label with
  | invoke tid call =>
    obtain ⟨hfresh, h⟩ := guard_bind_eq_some.mp h
    cases h
    exact .invoke hfresh
  | begin tid =>
    obtain ⟨⟨call, pc⟩, hthread, h⟩ := bind_eq_some_iff.mp h
    cases pc <;> cases h
    exact .begin hthread
  | lockState tid =>
    obtain ⟨⟨call, pc⟩, hthread, h⟩ := bind_eq_some_iff.mp h
    cases pc <;> try cases h
    obtain ⟨lock, hlock, h⟩ := bind_eq_some_iff.mp h
    cases h
    exact .lockState hthread hlock
  | enter tid =>
    obtain ⟨⟨call, pc⟩, hthread, h⟩ := bind_eq_some_iff.mp h
    cases pc <;> cases h
    exact .enter hthread
  | lockLog tid =>
    obtain ⟨⟨call, pc⟩, hthread, h⟩ := bind_eq_some_iff.mp h
    cases pc <;> try cases h
    obtain ⟨hfree, h⟩ := guard_bind_eq_some.mp h
    cases h
    exact .lockLog hthread hfree
  | dropState tid =>
    obtain ⟨⟨call, pc⟩, hthread, h⟩ := bind_eq_some_iff.mp h
    cases pc <;> try cases h
    obtain ⟨hshared, h⟩ := guard_bind_eq_some.mp h
    cases h
    exact .dropState hthread hshared
  | recheck tid =>
    obtain ⟨⟨call, pc⟩, hthread, h⟩ := bind_eq_some_iff.mp h
    cases pc <;> try cases h
    obtain ⟨hrechecks, h⟩ := guard_bind_eq_some.mp h
    cases h
    exact .recheck hthread hrechecks
  | commit tid =>
    obtain ⟨thread, hthread, h⟩ := bind_eq_some_iff.mp h
    split at h <;> try cases h
    all_goals
      obtain ⟨rfl, hmap⟩ := guard_bind_eq_some.mp h
      obtain ⟨log, hlog, hend⟩ := bind_eq_some_iff.mp hmap
      cases hend
    · exact .append hthread hlog
    · exact .endSession hthread hlog
    · exact .subscribe hthread hlog
    · exact .deleteEnded hthread hlog
  | sweepLock tid sessionId =>
    obtain ⟨⟨call, pc⟩, hthread, h⟩ := bind_eq_some_iff.mp h
    cases call <;> cases pc <;> try cases h
    obtain ⟨⟨hmem, hfree⟩, h⟩ := guard_bind_eq_some.mp h
    cases h
    exact .sweepLock hthread hmem hfree
  | sweepSend tid =>
    obtain ⟨⟨call, pc⟩, hthread, h⟩ := bind_eq_some_iff.mp h
    cases call <;> cases pc <;> try cases h
    obtain ⟨log, hlog, h⟩ := bind_eq_some_iff.mp h
    cases h
    exact .sweepSend hthread hlog
  | sweepDone tid =>
    obtain ⟨⟨call, pc⟩, hthread, h⟩ := bind_eq_some_iff.mp h
    cases call <;> cases pc <;> try cases h
    obtain ⟨rfl, h⟩ := guard_bind_eq_some.mp h
    cases h
    exact .sweepDone hthread
  | observe sessionId leases =>
    obtain ⟨log, hlog, h⟩ := bind_eq_some_iff.mp h
    obtain ⟨⟨hfree, hactive⟩, h⟩ := guard_bind_eq_some.mp h
    cases h
    exact .observe hlog hfree hactive
  | next receiver =>
    obtain ⟨subscriber, hsubscriber, h⟩ := bind_eq_some_iff.mp h
    obtain ⟨hidle, h⟩ := guard_bind_eq_some.mp h
    obtain ⟨log, hlog, h⟩ := bind_eq_some_iff.mp h
    cases h
    exact .next hsubscriber hidle hlog
  | wake receiver =>
    obtain ⟨subscriber, hsubscriber, h⟩ := bind_eq_some_iff.mp h
    obtain ⟨hwaiting, h⟩ := guard_bind_eq_some.mp h
    obtain ⟨log, hlog, h⟩ := bind_eq_some_iff.mp h
    cases h
    exact .wake hsubscriber hwaiting hlog
  | drop receiver =>
    obtain ⟨subscriber, hsubscriber, h⟩ := bind_eq_some_iff.mp h
    cases h
    exact .drop hsubscriber

theorem reached_of_runLabels {config : EventStreamConfig} {labels : List Label}
    (h : (System.new config).runLabels labels = some sys) : Reached sys :=
  ⟨config, labels, Transition.run_of_exec (fun _ _ _ => step_of_execute) h⟩

end

end DeviceRail.StreamSystem
