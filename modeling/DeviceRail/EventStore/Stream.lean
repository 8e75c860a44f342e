import DeviceRail.Protocol.Wire
import DeviceRail.Support.Broadcast

/-!
# Event subscriptions

The subscription a store hands out: a replay snapshot, then the tail of the
session's broadcast channel, then exactly one terminal.  Every operation of the
subscription is given the channel it reads as an argument, so that the same
functions serve any interleaving of senders and receivers.
-/

namespace DeviceRail

def maxEventStreamReplayEvents : ℕ := 100000
def maxEventStreamTailEvents : ℕ := 4096
def maxEventStreamSubscribersPerSession : ℕ := 128

inductive EventStreamError where
  | invalidConfig (field : String) (value maximum : ℕ)
  | sessionNotFound (sessionId : SessionId)
  | sessionDeleted (sessionId : SessionId)
  | cursorAhead (sessionId : SessionId) (after lastSequence : EventSequence)
  | replayLimitExceeded (sessionId : SessionId) (requested maximum : ℕ)
  | tooManySubscribers (sessionId : SessionId) (maximum : ℕ)
  | storeShutdown
  | internal (message : String)
deriving DecidableEq, Repr

/-- Memory and fan-out limits of subscriptions, within their maxima. -/
structure EventStreamConfig where
  maxReplayEvents : ℕ
  tailCapacity : ℕ
  maxSubscribersPerSession : ℕ
  replay_bounds : 0 < maxReplayEvents ∧
    maxReplayEvents ≤ maxEventStreamReplayEvents
  tail_bounds : 0 < tailCapacity ∧ tailCapacity ≤ maxEventStreamTailEvents
  subscriber_bounds : 0 < maxSubscribersPerSession ∧
    maxSubscribersPerSession ≤ maxEventStreamSubscribersPerSession

namespace EventStreamConfig

/-- `EventStreamConfig::new`; the limits are checked in declaration order. -/
def new (maxReplayEvents tailCapacity maxSubscribersPerSession : ℕ) :
    Except EventStreamError EventStreamConfig :=
  if hreplay : 0 < maxReplayEvents ∧
      maxReplayEvents ≤ maxEventStreamReplayEvents then
    if htail : 0 < tailCapacity ∧ tailCapacity ≤ maxEventStreamTailEvents then
      if hsubscribers : 0 < maxSubscribersPerSession ∧
          maxSubscribersPerSession ≤ maxEventStreamSubscribersPerSession then
        .ok ⟨maxReplayEvents, tailCapacity, maxSubscribersPerSession,
          hreplay, htail, hsubscribers⟩
      else
        .error (.invalidConfig "maxSubscribersPerSession"
          maxSubscribersPerSession maxEventStreamSubscribersPerSession)
    else
      .error (.invalidConfig "tailCapacity" tailCapacity
        maxEventStreamTailEvents)
  else
    .error (.invalidConfig "maxReplayEvents" maxReplayEvents
      maxEventStreamReplayEvents)

def default : EventStreamConfig :=
  ⟨maxEventStreamReplayEvents, maxEventStreamTailEvents,
    maxEventStreamSubscribersPerSession, by decide, by decide, by decide⟩

end EventStreamConfig

/-! ## Signals and items -/

inductive EventStreamTerminal where
  | sessionEnded (lastSequence : EventSequence)
  | sessionDeleted (lastSequence : EventSequence)
  | tailLagged (lastDelivered : Option EventSequence) (missedEvents : ℕ)
  | storeShutdown
  | sessionMismatch (expected actual : SessionId)
  | sequenceGap (expected : ℕ) (actual : EventSequence)
deriving DecidableEq, Repr

inductive EventStreamItem where
  | event (event : TestEvent)
  | terminal (terminal : EventStreamTerminal)
deriving Repr

inductive EventStreamSignal where
  | event (event : TestEvent)
  | sessionDeleted (sessionId : SessionId) (lastSequence : EventSequence)
  | storeShutdown
deriving Repr

/-- The event a signal publishes. -/
def EventStreamSignal.event? : EventStreamSignal → Option TestEvent
  | .event published => some published
  | .sessionDeleted _ _ => none
  | .storeShutdown => none

/-- Identity of one registered receiver. -/
abbrev ReceiverId := ℕ

/-- A broadcast receiver: its identity and its position in the channel. -/
structure Receiver where
  id : ReceiverId
  position : ℕ
deriving DecidableEq, Repr

/-- The channel of one session. -/
abbrev StreamTail := Broadcast EventStreamSignal ReceiverId

/-! ## Subscriptions -/

/-- One continuous session event suffix followed by exactly one terminal. -/
structure EventSubscription where
  sessionId : SessionId
  snapshot : List TestEvent
  tail : Option Receiver
  lastDelivered : Option EventSequence
  replayThrough : EventSequence
  sessionState : SessionState
  knownEnded : Option EventSequence
  done : Bool
deriving Repr

/-- What a call to `next` does: it returns, or it waits on the tail, or its
receiver is gone although the subscription is unfinished. -/
inductive NextOutcome where
  | returned (item : Option EventStreamItem) (subscription : EventSubscription)
  | waiting
  | panicked
deriving Repr

@[simp] def TestEventPayload.isSessionEnded : TestEventPayload → Bool
  | .sessionEnded _ _ => true
  | _ => false

namespace EventSubscription

def new (sessionId : SessionId) (snapshot : List TestEvent) (tail : Receiver)
    (after : Option EventSequence) (replayThrough : EventSequence)
    (sessionState : SessionState) : EventSubscription :=
  { sessionId := sessionId
    snapshot := snapshot
    tail := some tail
    lastDelivered := after
    replayThrough := replayThrough
    sessionState := sessionState
    knownEnded := if sessionState = .ended then some replayThrough else none
    done := false }

variable (subscription : EventSubscription)

def finish (terminal : EventStreamTerminal) :
    EventStreamItem × EventSubscription :=
  (.terminal terminal,
    { subscription with done := true, snapshot := [], tail := none })

/-- The sequence number the next event must carry. -/
def expected : ℕ :=
  subscription.lastDelivered.elim 1 (fun sequence => sequence.get + 1)

def validateEvent (event : TestEvent) : EventStreamItem × EventSubscription :=
  if event.sessionId ≠ subscription.sessionId then
    subscription.finish
      (.sessionMismatch subscription.sessionId event.sessionId)
  else if event.sequence.get ≠ subscription.expected then
    subscription.finish (.sequenceGap subscription.expected event.sequence)
  else
    (.event event,
      { subscription with
        lastDelivered := some event.sequence
        knownEnded :=
          if event.payload.isSessionEnded then some event.sequence
          else subscription.knownEnded })

def handleSignal :
    EventStreamSignal → EventStreamItem × EventSubscription
  | .event event => subscription.validateEvent event
  | .sessionDeleted sessionId lastSequence =>
    if sessionId ≠ subscription.sessionId then
      subscription.finish (.sessionMismatch subscription.sessionId sessionId)
    else
      subscription.finish (.sessionDeleted lastSequence)
  | .storeShutdown => subscription.finish .storeShutdown

/-- The part of `next` after a receive: `none` when nothing was received.
`closed` says that the sender is gone. -/
def receive (receiver : Receiver) (channel : StreamTail) (closed : Bool) :
    Option (EventStreamItem × EventSubscription) :=
  match channel.tryRecv receiver.position with
  | (.value signal, position) =>
    some (handleSignal
      { subscription with tail := some { receiver with position := position } }
      signal)
  | (.lagged missedEvents, _) =>
    some (subscription.finish
      (.tailLagged subscription.lastDelivered missedEvents))
  | (.empty, _) =>
    if closed then some (subscription.finish .storeShutdown) else none

/-- The first poll of `next`. -/
def next (subscription : EventSubscription) (channel : StreamTail)
    (closed : Bool) : NextOutcome :=
  if subscription.done then .returned none subscription
  else
    match subscription.snapshot with
    | event :: rest =>
      let (item, subscription) :=
        validateEvent { subscription with snapshot := rest } event
      .returned (some item) subscription
    | [] =>
      match subscription.tail with
      | none => .panicked
      | some receiver =>
        match subscription.receive receiver channel closed with
        | some (item, subscription) => .returned (some item) subscription
        | none =>
          match subscription.knownEnded with
          | some lastSequence =>
            let (item, subscription) :=
              subscription.finish (.sessionEnded lastSequence)
            .returned (some item) subscription
          | none => .waiting

/-- A later poll of a `next` that waits on its tail. -/
def wake (channel : StreamTail) (closed : Bool) : NextOutcome :=
  match subscription.tail with
  | none => .panicked
  | some receiver =>
    match subscription.receive receiver channel closed with
    | some (item, subscription) => .returned (some item) subscription
    | none => .waiting

end EventSubscription

end DeviceRail
