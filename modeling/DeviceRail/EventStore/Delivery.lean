import DeviceRail.EventStore.Invariant
import DeviceRail.EventStore.StreamSystem

/-!
# Delivery to one subscriber

A subscriber receives a contiguous part of its session's log, starting after
its cursor, and then one terminal.  The invariant behind it: what the snapshot
and the unread part of the channel still hold is exactly the part of the log
that has not been delivered.
-/

namespace DeviceRail

open History Broadcast List

namespace StreamSystem

/-- The event a call of `next` returned. -/
def deliveredEvent? : Option EventStreamItem → Option TestEvent
  | some (.event event) => some event
  | _ => none

namespace Subscriber

/-- The events returned so far. -/
def delivered (subscriber : Subscriber) : List TestEvent :=
  subscriber.returned.filterMap deliveredEvent?

/-- The position up to which the log has been delivered. -/
def cursor (subscriber : Subscriber) : ℕ :=
  cursorPosition subscriber.subscription.lastDelivered

/-- The items of an unfinished subscription. -/
def asItems (events : List TestEvent) : List (Option EventStreamItem) :=
  events.map (fun event => some (.event event))

/-- The terminals a subscription may end with. -/
def TerminalFits (subscriber : Subscriber) (log : SessionLog) :
    EventStreamTerminal → Prop
  | .sessionEnded lastSequence =>
    Ended log.events ∧ lastSequence.get = log.events.length ∧
      subscriber.cursor = log.events.length
  | .tailLagged lastDelivered _ =>
    lastDelivered = subscriber.subscription.lastDelivered
  | .sessionDeleted _ => True
  | .storeShutdown => True
  | .sessionMismatch _ _ => False
  | .sequenceGap _ _ => False

/-- What an unfinished subscription still holds. -/
structure Running (receiver : ReceiverId) (subscriber : Subscriber)
    (log : SessionLog) (position : ℕ) : Prop where
  tail : subscriber.subscription.tail = some ⟨receiver, position⟩
  registered : receiver ∈ log.streamTail.receivers
  bound : position ≤ log.streamTail.position
  rest : subscriber.subscription.snapshot ++
      (log.streamTail.unread position).filterMap EventStreamSignal.event? =
    log.events.drop subscriber.cursor
  deleted : ∀ sessionId lastSequence,
    EventStreamSignal.sessionDeleted sessionId lastSequence ∈
      log.streamTail.unread position →
    sessionId = subscriber.subscription.sessionId

/-- The invariant of one subscriber against its log. -/
structure Valid (receiver : ReceiverId) (subscriber : Subscriber)
    (log : SessionLog) : Prop where
  cursor_eq : subscriber.cursor =
    cursorPosition subscriber.after + subscriber.delivered.length
  cursor_le : subscriber.cursor ≤ log.events.length
  contiguous : subscriber.delivered ++ log.events.drop subscriber.cursor =
    log.events.drop (cursorPosition subscriber.after)
  known : ∀ lastSequence,
    subscriber.subscription.knownEnded = some lastSequence →
      Ended log.events ∧ lastSequence.get = log.events.length
  final : Ended log.events → subscriber.cursor = log.events.length →
    subscriber.subscription.knownEnded ≠ none
  idle : subscriber.waiting = true →
    subscriber.subscription.snapshot = [] ∧
      subscriber.subscription.done = false ∧
      subscriber.subscription.knownEnded = none
  running : subscriber.subscription.done = false →
    subscriber.returned = asItems subscriber.delivered ∧
      ∃ position, subscriber.Running receiver log position
  finished : subscriber.subscription.done = true →
    subscriber.subscription.tail = none ∧
      ∃ terminal count, subscriber.TerminalFits log terminal ∧
        subscriber.returned = asItems subscriber.delivered ++
          some (.terminal terminal) :: List.replicate count none

end Subscriber

/-! ## One poll of `next` -/

variable {receiver : ReceiverId} {subscriber : Subscriber} {log : SessionLog}

section

open Subscriber

variable {event : TestEvent} {rest : List TestEvent}

/-- The subscriber after a poll that returned. -/
def Subscriber.returning (subscriber : Subscriber)
    (item : Option EventStreamItem) (subscription : EventSubscription) :
    Subscriber :=
  { subscriber with
    subscription := subscription
    returned := subscriber.returned ++ [item]
    waiting := false }

theorem validateEvent_next (subscription : EventSubscription)
    (hlog : log.Represents subscription.sessionId)
    (hdrop : log.events.drop (cursorPosition subscription.lastDelivered) =
      event :: rest) :
    event.sequence.get = cursorPosition subscription.lastDelivered + 1 ∧
    subscription.validateEvent event =
      (.event event,
        { subscription with
          lastDelivered := some event.sequence
          knownEnded :=
            if event.payload.isSessionEnded then some event.sequence
            else subscription.knownEnded }) := by
  have hget : log.events[cursorPosition subscription.lastDelivered]? =
      some event := by
    rw [← head?_drop, hdrop]
    rfl
  obtain ⟨hid, -⟩ := hlog.legal.admitted (mem_of_getElem? hget)
  have hsequence := hlog.legal.sequence_eq _ event hget
  have hexpected : subscription.expected =
      cursorPosition subscription.lastDelivered + 1 := by
    unfold EventSubscription.expected cursorPosition
    cases subscription.lastDelivered <;> rfl
  refine ⟨hsequence, ?_⟩
  unfold EventSubscription.validateEvent
  rw [if_neg (by simp [hid]), if_neg (by simp [hexpected, hsequence])]

variable {position : ℕ}

/-- The subscription after it has passed on an event. -/
def passing (subscription : EventSubscription) (event : TestEvent)
    (snapshot : List TestEvent) (tail : Receiver) : EventSubscription :=
  { subscription with
    snapshot := snapshot
    tail := some tail
    lastDelivered := some event.sequence
    knownEnded :=
      if event.payload.isSessionEnded then some event.sequence
      else subscription.knownEnded }

section

variable (h : subscriber.Valid receiver log)

include h

theorem Subscriber.Valid.deliver
    (hlog : log.Represents subscriber.subscription.sessionId)
    (hopen : subscriber.subscription.done = false) (snapshot : List TestEvent)
    (hdrop : log.events.drop subscriber.cursor = event :: rest)
    (hregistered : receiver ∈ log.streamTail.receivers)
    (hbound : position ≤ log.streamTail.position) (hrest : snapshot ++
      (log.streamTail.unread position).filterMap EventStreamSignal.event? =
        rest) (hdeleted : ∀ sessionId lastSequence,
      EventStreamSignal.sessionDeleted sessionId lastSequence ∈
        log.streamTail.unread position →
      sessionId = subscriber.subscription.sessionId) :
    (subscriber.returning (some (.event event))
      (passing subscriber.subscription event snapshot
        ⟨receiver, position⟩)).Valid receiver log := by
  have hsequence : event.sequence.get = subscriber.cursor + 1 :=
    (validateEvent_next subscriber.subscription hlog hdrop).1
  have hlength := congrArg List.length hdrop
  rw [length_drop, length_cons] at hlength
  have hnext : log.events.drop event.sequence.get = rest := by
    rw [hsequence, ← drop_drop, hdrop]
    rfl
  have hdelivered : ∀ subscription, (subscriber.returning
      (some (.event event)) subscription).delivered =
        subscriber.delivered ++ [event] := by
    simp [returning, delivered, deliveredEvent?]
  constructor
  · rw [hdelivered]
    have hcursor := h.cursor_eq
    simp only [cursor, returning, passing, cursorPosition_some, length_append,
      length_singleton] at hcursor ⊢
    rw [hsequence]
    simp only [cursor]
    omega
  · simp only [cursor, returning, passing, cursorPosition_some]
    omega
  · rw [hdelivered]
    simp only [cursor, returning, passing, cursorPosition_some]
    rw [hnext, append_assoc, singleton_append, ← hdrop]
    exact h.contiguous
  · intro lastSequence hknown
    simp only [returning, passing] at hknown
    split at hknown
    next hended =>
      cases hknown
      have hget : log.events[subscriber.cursor]? = some event := by
        rw [← head?_drop, hdrop]
        rfl
      refine ⟨⟨event, mem_of_getElem? hget, hended⟩, ?_⟩
      rw [hsequence]
      exact hlog.legal.sessionEnded_last _ event hget hended
    next => exact h.known lastSequence hknown
  · rintro ⟨last, hlast, hended⟩ hcursor
    simp only [cursor, returning, passing, cursorPosition_some] at hcursor
    obtain ⟨i, hi⟩ := getElem?_of_mem hlast
    have hlength := hlog.legal.sessionEnded_last i last hi hended
    have heq : last = event := by
      rw [show i = subscriber.cursor by omega, ← head?_drop, hdrop] at hi
      exact (Option.some.inj hi).symm
    have hpayload : event.payload.isSessionEnded = true := heq ▸ hended
    simp only [returning, passing, if_pos hpayload, ne_eq, reduceCtorEq,
      not_false_eq_true]
  · intro hwaiting
    simp [returning] at hwaiting
  · intro _
    refine ⟨?_, position, rfl, hregistered, hbound, ?_, hdeleted⟩
    · rw [hdelivered]
      simp only [returning, (h.running hopen).1, asItems, map_append,
        map_cons, map_nil]
    · simp only [cursor, returning, passing, cursorPosition_some, hnext]
      exact hrest
  · intro hdone
    simp only [returning, passing, hopen] at hdone
    cases hdone

theorem Subscriber.Valid.finish (hopen : subscriber.subscription.done = false)
    {terminal : EventStreamTerminal}
    (hfits : subscriber.TerminalFits log terminal) :
    (subscriber.returning (some (.terminal terminal))
      (subscriber.subscription.finish terminal).2).Valid receiver log := by
  have hdelivered : ∀ subscription, (subscriber.returning
      (some (.terminal terminal)) subscription).delivered =
        subscriber.delivered := by
    simp [returning, delivered, deliveredEvent?]
  constructor
  · rw [hdelivered]
    exact h.cursor_eq
  · exact h.cursor_le
  · rw [hdelivered]
    exact h.contiguous
  · exact h.known
  · exact h.final
  · intro hwaiting
    simp [returning] at hwaiting
  · intro hdone
    simp [returning, EventSubscription.finish] at hdone
  · intro _
    refine ⟨rfl, terminal, 0, ?_, ?_⟩
    · cases terminal <;> exact hfits
    · rw [hdelivered]
      simp only [returning, (h.running hopen).1, replicate_zero]

theorem Subscriber.Valid.again (hdone : subscriber.subscription.done = true) :
    (subscriber.returning none subscriber.subscription).Valid receiver log := by
  have hdelivered : (subscriber.returning none
      subscriber.subscription).delivered = subscriber.delivered := by
    simp [returning, delivered, deliveredEvent?]
  constructor
  · rw [hdelivered]
    exact h.cursor_eq
  · exact h.cursor_le
  · rw [hdelivered]
    exact h.contiguous
  · exact h.known
  · exact h.final
  · intro hwaiting
    simp [returning] at hwaiting
  · intro hopen
    simp only [returning, hdone] at hopen
    cases hopen
  · intro _
    obtain ⟨htail, terminal, count, hfits, hreturned⟩ := h.finished hdone
    refine ⟨htail, terminal, count + 1, ?_, ?_⟩
    · cases terminal <;> exact hfits
    · rw [hdelivered]
      simp only [returning, hreturned, append_assoc, cons_append,
        replicate_succ']

theorem Subscriber.Valid.setWaiting
    (hopen : subscriber.subscription.done = false)
    (hsnapshot : subscriber.subscription.snapshot = [])
    (hknown : subscriber.subscription.knownEnded = none) :
    ({ subscriber with waiting := true } : Subscriber).Valid receiver log := by
  obtain ⟨hreturned, position, hrunning⟩ := h.running hopen
  refine ⟨h.cursor_eq, h.cursor_le, h.contiguous, h.known, h.final,
    fun _ => ⟨hsnapshot, hopen, hknown⟩, fun _ => ⟨hreturned, position, ?_⟩, ?_⟩
  · exact ⟨hrunning.tail, hrunning.registered, hrunning.bound, hrunning.rest,
      hrunning.deleted⟩
  · intro hdone
    exact absurd (hdone.symm.trans hopen) (by simp)

/-- Everything is delivered once nothing is left to read. -/
theorem Subscriber.Valid.cursor_of_nothing
    (hrunning : subscriber.Running receiver log position)
    (hsnapshot : subscriber.subscription.snapshot = [])
    (hunread : log.streamTail.unread position = []) :
    subscriber.cursor = log.events.length := by
  have hdrop := hrunning.rest
  rw [hsnapshot, hunread] at hdrop
  exact le_antisymm h.cursor_le (drop_eq_nil_iff.mp hdrop.symm)

end

/-- What a poll of an unfinished subscription that reads its channel at
`position` comes to. -/
inductive Reading (receiver : ReceiverId) (subscriber : Subscriber)
    (log : SessionLog) (closed : Bool) (position : ℕ) : NextOutcome → Prop
  | replayed {event : TestEvent} {rest : List TestEvent}
      (hsnapshot : subscriber.subscription.snapshot = event :: rest) :
      Reading receiver subscriber log closed position
        (.returned (some (.event event))
          (passing subscriber.subscription event rest ⟨receiver, position⟩))
  | received {event : TestEvent}
      (hsnapshot : subscriber.subscription.snapshot = [])
      (hunread : log.streamTail.unread position =
        .event event :: log.streamTail.unread (position + 1)) :
      Reading receiver subscriber log closed position
        (.returned (some (.event event))
          (passing subscriber.subscription event [] ⟨receiver, position + 1⟩))
  | finished {terminal} (hfits : subscriber.TerminalFits log terminal)
      (hcause : log.streamTail.unread position ≠ [] ∨ closed = true ∨
        Ended log.events) :
      Reading receiver subscriber log closed position
        (.returned (some (.terminal terminal))
          (subscriber.subscription.finish terminal).2)
  | waiting (hsnapshot : subscriber.subscription.snapshot = [])
      (hunread : log.streamTail.unread position = []) (hclosed : closed = false)
      (hknown : subscriber.subscription.knownEnded = none) :
      Reading receiver subscriber log closed position .waiting

/-- What a poll comes to. -/
inductive Poll (receiver : ReceiverId) (subscriber : Subscriber)
    (log : SessionLog) (closed : Bool) : NextOutcome → Prop
  | again (hdone : subscriber.subscription.done = true) :
      Poll receiver subscriber log closed
        (.returned none subscriber.subscription)
  | reads {position outcome} (hopen : subscriber.subscription.done = false)
      (hrunning : subscriber.Running receiver log position)
      (hreading : Reading receiver subscriber log closed position outcome) :
      Poll receiver subscriber log closed outcome

theorem Subscriber.Running.receive
    (hrunning : subscriber.Running receiver log position)
    (hlog : log.Represents subscriber.subscription.sessionId)
    (hsnapshot : subscriber.subscription.snapshot = []) (closed : Bool) :
    (∃ item subscription, subscriber.subscription.receive
        ⟨receiver, position⟩ log.streamTail closed = some (item, subscription) ∧
      Reading receiver subscriber log closed position
        (.returned (some item) subscription)) ∨
    (subscriber.subscription.receive ⟨receiver, position⟩ log.streamTail
        closed = none ∧ log.streamTail.unread position = [] ∧
      closed = false) := by
  unfold EventSubscription.receive tryRecv
  by_cases hlag : log.streamTail.Lagging position
  · simp only [hlag, if_true]
    refine .inl ⟨_, _, rfl, .finished rfl (.inl ?_)⟩
    intro hnil
    exact not_lagging_of_unread_nil hnil hlag
  · simp only [hlag, if_false]
    cases hunread : log.streamTail.unread position with
    | nil =>
      cases closed with
      | true => exact .inl ⟨_, _, rfl, .finished trivial (.inr (.inl rfl))⟩
      | false => exact .inr ⟨rfl, rfl, rfl⟩
    | cons signal later =>
      left
      have hsome : log.streamTail.unread position ≠ [] := by
        rw [hunread]
        exact cons_ne_nil _ _
      cases signal with
      | event event =>
        have hlater := unread_succ hunread
        have hdrop := hrunning.rest.symm
        rw [hsnapshot, hunread] at hdrop
        have hvalidate := (validateEvent_next
          { subscriber.subscription with
            tail := some ⟨receiver, position + 1⟩ } hlog hdrop).2
        refine ⟨_, _, (congrArg some hvalidate).trans ?_,
          .received hsnapshot (by rw [hunread, hlater])⟩
        simp only [passing, hsnapshot]
      | sessionDeleted sessionId lastSequence =>
        have hid := hrunning.deleted sessionId lastSequence
          (by rw [hunread]; exact mem_cons_self)
        refine ⟨.terminal (.sessionDeleted lastSequence), _, ?_,
          .finished trivial (.inl hsome)⟩
        simp only [EventSubscription.handleSignal, hid, ne_eq,
          not_true_eq_false, if_false]
        rfl
      | storeShutdown => exact ⟨_, _, rfl, .finished trivial (.inl hsome)⟩

/-- A `next` that waits goes on as a new one would. -/
theorem EventSubscription.next_eq_wake {subscription : EventSubscription}
    (hsnapshot : subscription.snapshot = []) (hopen : subscription.done = false)
    (hknown : subscription.knownEnded = none) (channel : StreamTail)
    (closed : Bool) :
    subscription.next channel closed = subscription.wake channel closed := by
  simp only [EventSubscription.next, EventSubscription.wake, hopen, hsnapshot,
    hknown, Bool.false_eq_true, if_false]

section

variable (h : subscriber.Valid receiver log)
  (hlog : log.Represents subscriber.subscription.sessionId)
include h hlog

theorem Subscriber.Valid.next (closed : Bool) :
    Poll receiver subscriber log closed
      (subscriber.subscription.next log.streamTail closed) := by
  unfold EventSubscription.next
  split
  next hdone => exact .again hdone
  next hdone =>
    have hopen : subscriber.subscription.done = false := by simpa using hdone
    obtain ⟨-, position, hrunning⟩ := h.running hopen
    refine .reads hopen hrunning ?_
    split
    next event rest hsnapshot =>
      have hdrop := hrunning.rest.symm
      rw [hsnapshot, cons_append] at hdrop
      have hvalidate := (validateEvent_next
        { subscriber.subscription with snapshot := rest } hlog hdrop).2
      have hreading : Reading receiver subscriber log closed position _ :=
        .replayed hsnapshot
      rw [passing, ← hrunning.tail] at hreading
      simp only [hvalidate]
      exact hreading
    next hsnapshot =>
      simp only [hrunning.tail]
      rcases hrunning.receive hlog hsnapshot closed with
        ⟨item, subscription, hreceive, hreading⟩ | ⟨hreceive, hunread, hopened⟩
      · simp only [hreceive]
        exact hreading
      · simp only [hreceive]
        split
        next lastSequence hknown =>
          obtain ⟨hended, hlast⟩ := h.known lastSequence hknown
          exact .finished ⟨hended, hlast,
            h.cursor_of_nothing hrunning hsnapshot hunread⟩ (.inr (.inr hended))
        next hknown => exact .waiting hsnapshot hunread hopened hknown

theorem Subscriber.Valid.wake (hwaiting : subscriber.waiting = true)
    (closed : Bool) :
    Poll receiver subscriber log closed
      (subscriber.subscription.wake log.streamTail closed) := by
  obtain ⟨hsnapshot, hopen, hknown⟩ := h.idle hwaiting
  rw [← EventSubscription.next_eq_wake hsnapshot hopen hknown]
  exact h.next hlog closed

end

variable {closed : Bool} {item : Option EventStreamItem}
  {subscription : EventSubscription}

theorem Poll.sessionId
    (h : Poll receiver subscriber log closed (.returned item subscription)) :
    subscription.sessionId = subscriber.subscription.sessionId := by
  cases h with
  | again => rfl
  | reads _ _ hreading => cases hreading <;> rfl

theorem Poll.ne_panicked {outcome : NextOutcome}
    (h : Poll receiver subscriber log closed outcome) :
    outcome ≠ .panicked := by
  rintro rfl
  cases h with
  | reads _ _ hreading => cases hreading

theorem Subscriber.Valid.returned (h : subscriber.Valid receiver log)
    (hlog : log.Represents subscriber.subscription.sessionId)
    (hpoll : Poll receiver subscriber log closed
      (.returned item subscription)) :
    (subscriber.returning item subscription).Valid receiver log := by
  cases hpoll with
  | again hdone => exact h.again hdone
  | @reads position _ hopen hrunning hreading =>
    have hdrop := hrunning.rest.symm
    cases hreading with
    | replayed hsnapshot =>
      rw [hsnapshot, cons_append] at hdrop
      exact h.deliver hlog hopen _ hdrop hrunning.registered hrunning.bound rfl
        hrunning.deleted
    | received hsnapshot hunread =>
      rw [hsnapshot, hunread] at hdrop
      refine h.deliver hlog hopen [] hdrop hrunning.registered ?_ rfl ?_
      · have hlength := congrArg List.length hunread
        simp only [unread, length_drop, length_cons] at hlength
        unfold Broadcast.position
        omega
      · intro sessionId lastSequence hmem
        refine hrunning.deleted sessionId lastSequence ?_
        rw [hunread]
        exact mem_cons_of_mem _ hmem
    | finished hfits _ => exact h.finish hopen hfits

end

/-! ## Changes of the log under a subscriber -/

section

open Subscriber

variable {log' : SessionLog} {signal : EventStreamSignal}

/-- A subscriber stays valid when its log keeps its events and its channel
keeps its history and the subscriber's registration. -/
theorem Subscriber.Valid.sameEvents (h : subscriber.Valid receiver log)
    (hevents : log'.events = log.events)
    (hhistory : log'.streamTail.history = log.streamTail.history)
    (hreceivers : subscriber.subscription.done = false →
      receiver ∈ log.streamTail.receivers →
      receiver ∈ log'.streamTail.receivers) :
    subscriber.Valid receiver log' := by
  have hunread : ∀ position, log'.streamTail.unread position =
      log.streamTail.unread position := by
    simp [unread, hhistory]
  refine ⟨h.cursor_eq, ?_, ?_, ?_, ?_, h.idle, ?_, ?_⟩
  · rw [hevents]
    exact h.cursor_le
  · rw [hevents]
    exact h.contiguous
  · rw [hevents]
    exact h.known
  · rw [hevents]
    exact h.final
  · intro hopen
    obtain ⟨hreturned, position, hrunning⟩ := h.running hopen
    refine ⟨hreturned, position, hrunning.tail,
      hreceivers hopen hrunning.registered, ?_, ?_, ?_⟩
    · rw [Broadcast.position, hhistory]
      exact hrunning.bound
    · rw [hunread, hevents]
      exact hrunning.rest
    · rw [hunread]
      exact hrunning.deleted
  · intro hdone
    obtain ⟨htail, terminal, count, hfits, hreturned⟩ := h.finished hdone
    refine ⟨htail, terminal, count, ?_, hreturned⟩
    cases terminal with
    | sessionEnded lastSequence =>
      simp only [TerminalFits, hevents] at hfits ⊢
      exact hfits
    | _ => exact hfits

theorem Subscriber.Running.send {position : ℕ}
    (h : subscriber.Running receiver log position)
    (htail : log'.streamTail = log.streamTail.send signal)
    (hevents : log'.events.drop subscriber.cursor =
      log.events.drop subscriber.cursor ++ [signal].filterMap (·.event?))
    (hid : ∀ sessionId lastSequence,
      signal = .sessionDeleted sessionId lastSequence →
        sessionId = subscriber.subscription.sessionId) :
    subscriber.Running receiver log' position := by
  have hunread := unread_send h.registered h.bound signal
  refine ⟨h.tail, ?_, ?_, ?_, ?_⟩
  · rw [htail, send_receivers]
    exact h.registered
  · rw [htail]
    exact h.bound.trans (history_prefix_send log.streamTail signal).length_le
  · rw [htail, hunread, hevents, filterMap_append, ← append_assoc, h.rest]
  · intro sessionId lastSequence hmem
    rw [htail, hunread, mem_append] at hmem
    rcases hmem with hold | hnew
    · exact h.deleted sessionId lastSequence hold
    · exact hid sessionId lastSequence (mem_singleton.mp hnew).symm

theorem Subscriber.Valid.recorded (h : subscriber.Valid receiver log)
    {event : TestEvent} (hopenLog : ¬Ended log.events)
    (hevents : log'.events = log.events ++ [event])
    (htail : log'.streamTail = log.streamTail.send (.event event)) :
    subscriber.Valid receiver log' := by
  have hafter : cursorPosition subscriber.after ≤ log.events.length := by
    have hcursor := h.cursor_eq
    have hle := h.cursor_le
    omega
  refine ⟨h.cursor_eq, ?_, ?_, ?_, ?_, h.idle, ?_, ?_⟩
  · rw [hevents, length_append]
    exact Nat.le_add_right_of_le h.cursor_le
  · rw [hevents, drop_append_of_le_length h.cursor_le,
      drop_append_of_le_length hafter, ← append_assoc, h.contiguous]
  · intro lastSequence hknown
    exact absurd (h.known lastSequence hknown).1 hopenLog
  · intro _ hcursor
    rw [hevents, length_append, length_singleton] at hcursor
    have hle := h.cursor_le
    omega
  · intro hopen
    obtain ⟨hreturned, position, hrunning⟩ := h.running hopen
    refine ⟨hreturned, position, hrunning.send htail ?_ (by simp)⟩
    rw [hevents, drop_append_of_le_length h.cursor_le]
    rfl
  · intro hdone
    obtain ⟨hnone, terminal, count, hfits, hreturned⟩ := h.finished hdone
    refine ⟨hnone, terminal, count, ?_, hreturned⟩
    cases terminal with
    | sessionEnded lastSequence => exact absurd hfits.1 hopenLog
    | _ => exact hfits

theorem Subscriber.Valid.signalled (h : subscriber.Valid receiver log)
    (hevent : signal.event? = none) (hid : ∀ sessionId lastSequence,
      signal = .sessionDeleted sessionId lastSequence →
        sessionId = subscriber.subscription.sessionId) :
    subscriber.Valid receiver (log.signal signal) := by
  refine ⟨h.cursor_eq, h.cursor_le, h.contiguous, h.known, h.final, h.idle,
    ?_, ?_⟩
  · intro hopen
    obtain ⟨hreturned, position, hrunning⟩ := h.running hopen
    refine ⟨hreturned, position, hrunning.send rfl ?_ hid⟩
    simp [SessionLog.signal, hevent]
  · intro hdone
    obtain ⟨hnone, terminal, count, hfits, hreturned⟩ := h.finished hdone
    exact ⟨hnone, terminal, count, by cases terminal <;> exact hfits, hreturned⟩

theorem valid_registered {sessionId : SessionId}
    {after : Option EventSequence} (late : Bool)
    (hlog : log.Represents sessionId)
    (hafter : cursorPosition after ≤ log.events.length) :
    Subscriber.Valid receiver
      ⟨EventSubscription.new sessionId
        (log.events.drop (cursorPosition after))
        ⟨receiver, log.streamTail.position⟩ after log.info.lastSequence
        log.info.state, after, [], false, late⟩
      { log with streamTail := log.streamTail.subscribe receiver } := by
  refine ⟨rfl, hafter, rfl, ?_, ?_, ?_, ?_, ?_⟩
  · intro lastSequence hknown
    simp only [EventSubscription.new] at hknown
    split at hknown
    next hended =>
      cases hknown
      exact ⟨hlog.ended_iff.mp hended, hlog.lastSequence⟩
    next => cases hknown
  · intro hended _
    simp [EventSubscription.new, hlog.ended_iff.mpr hended]
  · intro hwaiting
    cases hwaiting
  · intro _
    refine ⟨rfl, log.streamTail.position, rfl, Finset.mem_insert_self _ _,
      le_refl _, ?_, ?_⟩
    · have hunread := log.streamTail.unread_position
      change _ ++ (log.streamTail.unread _).filterMap _ = _
      rw [hunread]
      simp [EventSubscription.new, cursor]
    · intro id lastSequence hmem
      change _ ∈ log.streamTail.unread _ at hmem
      rw [log.streamTail.unread_position] at hmem
      cases hmem
  · intro hdone
    cases hdone

end

/-! ## What subscribers receive -/

section

open Subscriber

/-- Why a subscription waits: everything is delivered, nothing is left in the
channel, such as the signal of a shutdown, and the session is neither ended nor
deleted. -/
structure Subscriber.CaughtUp (subscriber : Subscriber) (log : SessionLog)
    (closed : Bool) : Prop where
  all : subscriber.delivered = log.events.drop (cursorPosition subscriber.after)
  nothing : ∃ tail, subscriber.subscription.tail = some tail ∧
    log.streamTail.unread tail.position = []
  active : log.info.state ≠ .ended
  kept : closed = false

/-- What a subscription has returned so far, against the log of its session
and the channel it reads. -/
structure Subscriber.Faithful (subscriber : Subscriber) (log : SessionLog)
    (closed : Bool) : Prop where
  contiguous : subscriber.delivered <+:
    log.events.drop (cursorPosition subscriber.after)
  sequences : ∀ (i : ℕ) (event : TestEvent),
    subscriber.delivered[i]? = some event →
      event.sequence.get = cursorPosition subscriber.after + i + 1
  shape : subscriber.returned = asItems subscriber.delivered ∨
    ∃ terminal count, subscriber.returned = asItems subscriber.delivered ++
      some (.terminal terminal) :: List.replicate count none
  same_session : ∀ expected actual,
    some (.terminal (.sessionMismatch expected actual)) ∉ subscriber.returned
  no_gap : ∀ expected actual,
    some (.terminal (.sequenceGap expected actual)) ∉ subscriber.returned
  ended : ∀ lastSequence,
    some (.terminal (.sessionEnded lastSequence)) ∈ subscriber.returned →
      log.info.state = .ended ∧ lastSequence = log.info.lastSequence ∧
        subscriber.delivered = log.events.drop (cursorPosition subscriber.after)
  lagged : ∀ lastDelivered missedEvents,
    some (.terminal (.tailLagged lastDelivered missedEvents)) ∈
      subscriber.returned →
      cursorPosition lastDelivered =
        cursorPosition subscriber.after + subscriber.delivered.length
  total : subscriber.subscription.next log.streamTail closed ≠ .panicked
  resumes : subscriber.waiting = true →
    subscriber.subscription.wake log.streamTail closed ≠ .panicked
  next_waits :
    subscriber.subscription.next log.streamTail closed = .waiting →
      subscriber.CaughtUp log closed
  wake_waits : subscriber.waiting = true →
    subscriber.subscription.wake log.streamTail closed = .waiting →
      subscriber.CaughtUp log closed

theorem terminal_not_mem_asItems (terminal : EventStreamTerminal)
    (events : List TestEvent) :
    some (.terminal terminal) ∉ Subscriber.asItems events := by
  simp [Subscriber.asItems]

section

variable (h : subscriber.Valid receiver log)
include h

theorem Subscriber.Valid.terminalFits {terminal : EventStreamTerminal}
    (hmem : some (.terminal terminal) ∈ subscriber.returned) :
    subscriber.TerminalFits log terminal := by
  by_cases hdone : subscriber.subscription.done = true
  · obtain ⟨-, last, count, hfits, hreturned⟩ := h.finished hdone
    rw [hreturned, mem_append, mem_cons] at hmem
    rcases hmem with hitem | hlast | hnone
    · exact absurd hitem (terminal_not_mem_asItems terminal _)
    · cases hlast
      exact hfits
    · have hcontra := eq_of_mem_replicate hnone
      cases hcontra
  · have hopen : subscriber.subscription.done = false := by simpa using hdone
    rw [(h.running hopen).1] at hmem
    exact absurd hmem (terminal_not_mem_asItems terminal _)

theorem Subscriber.Valid.delivered_all
    (hcursor : subscriber.cursor = log.events.length) :
    subscriber.delivered =
      log.events.drop (cursorPosition subscriber.after) := by
  have hcontiguous := h.contiguous
  rwa [hcursor, drop_length, append_nil] at hcontiguous

theorem Subscriber.Valid.caughtUp {closed : Bool}
    (hlog : log.Represents subscriber.subscription.sessionId)
    (hpoll : Poll receiver subscriber log closed .waiting) :
    subscriber.CaughtUp log closed := by
  cases hpoll with
  | reads _ hrunning hreading =>
    cases hreading with
    | waiting hsnapshot hunread hclosed hknown =>
      have hcursor := h.cursor_of_nothing hrunning hsnapshot hunread
      exact ⟨h.delivered_all hcursor, ⟨_, hrunning.tail, hunread⟩,
        fun hended => h.final (hlog.ended_iff.mp hended) hcursor hknown,
        hclosed⟩

theorem Subscriber.Valid.faithful
    (hlog : log.Represents subscriber.subscription.sessionId) (closed : Bool) :
    subscriber.Faithful log closed := by
  have hinitial : subscriber.delivered <+:
      log.events.drop (cursorPosition subscriber.after) :=
    ⟨_, h.contiguous⟩
  refine ⟨hinitial, ?_, ?_, ?_, ?_, ?_, ?_, ?_, ?_, ?_, ?_⟩
  · intro i event hget
    obtain ⟨hlt, -⟩ := List.getElem?_eq_some_iff.mp hget
    have hmem : (log.events.drop (cursorPosition subscriber.after))[i]? =
        some event := by
      rwa [← h.contiguous, List.getElem?_append_left hlt]
    rw [List.getElem?_drop] at hmem
    exact hlog.legal.sequence_eq _ event hmem
  · by_cases hdone : subscriber.subscription.done = true
    · obtain ⟨-, terminal, count, -, hreturned⟩ := h.finished hdone
      exact Or.inr ⟨terminal, count, hreturned⟩
    · exact Or.inl (h.running (by simpa using hdone)).1
  · intro expected actual hmem
    exact h.terminalFits hmem
  · intro expected actual hmem
    exact h.terminalFits hmem
  · intro lastSequence hmem
    obtain ⟨hended, hlast, hcursor⟩ := h.terminalFits hmem
    refine ⟨hlog.ended_iff.mpr hended, ?_, h.delivered_all hcursor⟩
    exact EventSequence.ext (hlast.trans hlog.lastSequence.symm)
  · intro lastDelivered missedEvents hmem
    have hfits : lastDelivered = _ := h.terminalFits hmem
    rw [hfits]
    exact h.cursor_eq
  · exact (h.next hlog closed).ne_panicked
  · intro hwaiting
    exact (h.wake hlog hwaiting closed).ne_panicked
  · intro hwaits
    exact h.caughtUp hlog (hwaits ▸ h.next hlog closed)
  · intro hwaiting hwaits
    exact h.caughtUp hlog (hwaits ▸ h.wake hlog hwaiting closed)

end

end

end StreamSystem

end DeviceRail
