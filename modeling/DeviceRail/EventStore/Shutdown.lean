import DeviceRail.EventStore.Subscribers

/-!
# What subscribers learn of a shutdown

Calls that append read the flag again under the log's lock, so nothing follows
the sweep's signal in a channel.  Subscribing does not, and a subscription that
registers after the sweep has passed its log is never told.
-/

namespace DeviceRail

open History

namespace StreamSystem

/-! ## Shutdown and the end of a stream -/

/-- The terminal that one of the first `n` calls of `next` returns while the
channel stays as it is. -/
def terminalWithin (channel : StreamTail) (closed : Bool) :
    ℕ → EventSubscription → Option EventStreamTerminal
  | 0, _ => none
  | n + 1, subscription =>
    match subscription.next channel closed with
    | .returned (some (.terminal terminal)) _ => some terminal
    | .returned _ subscription => terminalWithin channel closed n subscription
    | .waiting => none
    | .panicked => none

section

open Subscriber

variable {receiver : ReceiverId} {subscriber : Subscriber} {log : SessionLog}
  {closed : Bool}

/-- An unfinished subscription with something unread that is not an event
reaches a terminal. -/
theorem terminalWithin_of_unread (h : subscriber.Valid receiver log)
    (hlog : log.Represents subscriber.subscription.sessionId)
    (hopen : subscriber.subscription.done = false) {position : ℕ}
    (htail : subscriber.subscription.tail = some ⟨receiver, position⟩)
    (htold : EventStreamSignal.storeShutdown ∈ log.streamTail.unread position) :
    ∃ n terminal, terminalWithin log.streamTail closed n
      subscriber.subscription = some terminal := by
  generalize hsize : subscriber.subscription.snapshot.length +
    (log.streamTail.unread position).length = size
  induction size using Nat.strong_induction_on generalizing subscriber position
    with
  | _ size ih =>
    have hpoll := h.next hlog closed
    cases hnext : subscriber.subscription.next log.streamTail closed with
    | returned item subscription =>
      rw [hnext] at hpoll
      have hvalid := h.returned hlog hpoll
      have hlog' : log.Represents subscription.sessionId :=
        hpoll.sessionId ▸ hlog
      cases hpoll with
      | again hdone => exact absurd (hdone.symm.trans hopen) (by simp)
      | reads _ hrunning hreading =>
        have hposition := htail.symm.trans hrunning.tail
        cases hposition
        cases hreading with
        | @replayed event rest hsnapshot =>
          obtain ⟨n, terminal, hn⟩ := ih _ (by
            rw [← hsize, hsnapshot, List.length_cons]
            exact Nat.add_lt_add_right (Nat.lt_succ_self _) _) hvalid hlog'
            hopen rfl htold rfl
          refine ⟨n + 1, terminal, ?_⟩
          simp only [terminalWithin, hnext]
          exact hn
        | @received event hsnapshot hunread =>
          have htold' : EventStreamSignal.storeShutdown ∈
              log.streamTail.unread (position + 1) := by
            rw [hunread] at htold
            simpa using htold
          obtain ⟨n, terminal, hn⟩ := ih _ (by
            rw [← hsize, hunread, List.length_cons, hsnapshot]
            exact Nat.add_lt_add_left (Nat.lt_succ_self _) _) hvalid hlog'
            hopen rfl htold' rfl
          refine ⟨n + 1, terminal, ?_⟩
          simp only [terminalWithin, hnext]
          exact hn
        | @finished terminal _ _ =>
          refine ⟨1, terminal, ?_⟩
          simp only [terminalWithin, hnext]
    | waiting =>
      rw [hnext] at hpoll
      cases hpoll with
      | reads _ hrunning hreading =>
        have hposition := htail.symm.trans hrunning.tail
        cases hposition
        cases hreading with
        | waiting _ hunread _ _ =>
          rw [hunread] at htold
          cases htold
    | panicked => exact absurd hnext hpoll.ne_panicked

/-- A late subscription of an active session returns no terminal. -/
theorem terminalWithin_of_late {swept : Prop}
    (h : subscriber.Valid receiver log)
    (hinformed : subscriber.Informed receiver log swept)
    (hlog : log.Represents subscriber.subscription.sessionId)
    (hclosed : closed = false) (hlate : subscriber.late = true)
    (hactive : log.info.state = .active) (n : ℕ) :
    terminalWithin log.streamTail closed n subscriber.subscription = none := by
  induction n generalizing subscriber with
  | zero => rfl
  | succ n ih =>
    have hpoll := h.next hlog closed
    cases hnext : subscriber.subscription.next log.streamTail closed with
    | returned item subscription =>
      rw [hnext] at hpoll
      have hrec := ih (h.returned hlog hpoll)
        (hinformed.returned hlog (fun _ => hclosed) hpoll)
        (hpoll.sessionId ▸ hlog) hlate
      cases hpoll with
      | again hdone =>
        have hopen := hinformed.unfinished hlate hactive
        exact absurd (hdone.symm.trans hopen) (by simp)
      | reads _ hrunning hreading =>
        cases hreading with
        | finished _ hcause =>
          exact absurd hcause (hinformed.no_cause hlog hrunning.tail
            (fun _ => hclosed) hlate hactive)
        | _ =>
          simp only [terminalWithin, hnext]
          exact hrec
    | _ => simp only [terminalWithin, hnext]

end

/-- The subscription has the shutdown's signal or a lag indication in its tail,
and its `next` comes to a terminal. -/
def Subscriber.Told (receiver : ReceiverId) (subscriber : Subscriber)
    (log : SessionLog) (closed : Bool) : Prop :=
  (∃ position, subscriber.subscription.tail = some ⟨receiver, position⟩ ∧
    (log.streamTail.Lagging position ∨
      .storeShutdown ∈ log.streamTail.unread position)) ∧
  ∃ n terminal, terminalWithin log.streamTail closed n
    subscriber.subscription = some terminal

variable {sys : System}

/-- Once a shutdown has returned, an unfinished subscription of an active
session is told exactly when it registered before the sweep signalled its
log. -/
theorem Reached.told_iff (h : Reached sys) {tid : ThreadId}
    (hshutdown : sys.threads.lookup tid =
      some ⟨.beginStreamShutdown, .done (.shutdown true)⟩)
    {receiver : ReceiverId} {subscriber : Subscriber} {log : SessionLog}
    (hsubscriber : sys.subscribers.lookup receiver = some subscriber)
    (hopen : subscriber.subscription.done = false)
    (hlog : sys.logs.lookup subscriber.subscription.sessionId = some log)
    (hactive : log.info.state = .active) :
    subscriber.Told receiver log
        (sys.closed subscriber.subscription.sessionId) ↔
      subscriber.late = false := by
  have hserving := h.kept.serving
  have hrepresents := hserving.represents _ log hlog
  obtain ⟨hvalid, hinformed⟩ := hserving.served_of_lookup hsubscriber hlog
  constructor
  · rintro ⟨-, n, terminal, hn⟩
    by_contra hlate
    have hnone := terminalWithin_of_late hvalid hinformed hrepresents
      (hserving.not_closed hlog hactive) (by simpa using hlate) hactive n
    cases hnone.symm.trans hn
  · intro hearly
    have hswept : subscriber.subscription.sessionId ∈ sys.swept := by
      obtain ⟨-, hcovered⟩ :=
        (h.kept.orderly.fits tid _ hshutdown).sweeping ⟨rfl, rfl⟩
      exact hcovered (hserving.retained _ log hlog hactive)
    obtain ⟨-, position, hrunning⟩ := hvalid.running hopen
    have htold := hinformed.told position hopen hrunning.tail hearly hswept
    exact ⟨⟨position, hrunning.tail, Or.inr htold⟩,
      terminalWithin_of_unread hvalid hrepresents hopen hrunning.tail htold⟩

/-- Once a shutdown has returned, every unfinished subscription of an active
session is told. -/
def ShutdownTold (sys : System) : Prop :=
  ∀ tid, sys.threads.lookup tid =
      some ⟨.beginStreamShutdown, .done (.shutdown true)⟩ →
    ∀ receiver subscriber log,
      sys.subscribers.lookup receiver = some subscriber →
      subscriber.subscription.done = false →
      sys.logs.lookup subscriber.subscription.sessionId = some log →
      log.info.state = .active →
        subscriber.Told receiver log
          (sys.closed subscriber.subscription.sessionId)

/-- A step registers a subscription only with a log that the sweep has not
signalled yet. -/
def Timely (sys : System) (label : Label) : Prop :=
  ∀ tid sessionId after, label = .commit tid →
    sys.threads.lookup tid =
      some ⟨.subscribeAfter sessionId after, .inLog sessionId⟩ →
    sessionId ∉ sys.swept

section

variable {sys' : System}

/-- No subscription has registered late. -/
def Punctual (sys : System) : Prop :=
  ∀ receiver subscriber, sys.subscribers.lookup receiver = some subscriber →
    subscriber.late = false

theorem Effect.punctual {label : Label} (heffect : Effect sys label sys')
    (htimely : Timely sys label) (h : Punctual sys) : Punctual sys' := by
  cases heffect with
  | subscribed _ hthread =>
    exact KeyedMap.forall_insert (decide_eq_false (htimely _ _ _ rfl hthread)) h
  | returned hsubscriber =>
    have hlate := h _ _ hsubscriber
    simp only [System.polled]
    split
    next => exact KeyedMap.forall_insert hlate h
    next => exact KeyedMap.forall_insert hlate h
  | waits hsubscriber =>
    have hlate := h _ _ hsubscriber
    exact KeyedMap.forall_insert hlate h
  | dropped => exact KeyedMap.forall_erase h
  | _ => exact h

end

/-- In every run whose registrations are timely a shutdown tells every
subscription; in every run a subscription is told exactly when its own
registration was. -/
theorem shutdown_told_of_timely (config : EventStreamConfig) :
    (∀ labels sys,
      Transition.Run (Transition.Guarded Timely Step) (System.new config)
        labels sys → ShutdownTold sys) ∧
    (∀ sys, Reached sys →
      ∀ tid, sys.threads.lookup tid =
          some ⟨.beginStreamShutdown, .done (.shutdown true)⟩ →
      ∀ receiver subscriber log,
        sys.subscribers.lookup receiver = some subscriber →
        subscriber.subscription.done = false →
        sys.logs.lookup subscriber.subscription.sessionId = some log →
        log.info.state = .active →
          (subscriber.Told receiver log
              (sys.closed subscriber.subscription.sessionId) ↔
            subscriber.late = false)) := by
  refine ⟨?_, ?_⟩
  · intro labels sys hrun
    have hreached : Reached sys := ⟨config, labels, hrun.of_guarded⟩
    have hpunctual : Punctual sys := by
      refine (hrun.invariant (I := fun s => Kept s ∧ Punctual s) ?_ ?_).2
      · rintro s label t ⟨hkept, hs⟩ ⟨htimely, hstep⟩
        exact ⟨hstep.kept hkept, (hstep.effect hkept.checked hkept.orderly
          hkept.serving).punctual htimely hs⟩
      · exact ⟨kept_new config, by simp [Punctual, System.new]⟩
    intro tid hshutdown receiver subscriber log hsubscriber hopen hlog hactive
    exact (hreached.told_iff hshutdown hsubscriber hopen hlog hactive).mpr
      (hpunctual receiver subscriber hsubscriber)
  · intro sys h tid hshutdown receiver subscriber log hsubscriber hopen hlog
      hactive
    exact h.told_iff hshutdown hsubscriber hopen hlog hactive

/-- The first session, and a subscriber that registers before the shutdown. -/
def earlySchedule : List Label :=
  Call.schedule 0 (.startSession ⟨⟨⟨1⟩⟩, none, none, 5⟩ ⟨⟨2⟩⟩) ++
  Call.schedule 1 (.subscribeAfter ⟨⟨1⟩⟩ none) ++
  Call.schedule 2 .beginStreamShutdown ++
  [.sweepLock 2 ⟨⟨1⟩⟩, .sweepSend 2, .sweepDone 2]

/-- The subscriber reads the flag, the shutdown runs to its end, and then the
subscriber takes the log's lock and registers. -/
def lateSchedule : List Label :=
  Call.schedule 0 (.startSession ⟨⟨⟨1⟩⟩, none, none, 5⟩ ⟨⟨2⟩⟩) ++
  [.invoke 1 (.subscribeAfter ⟨⟨1⟩⟩ none), .begin 1, .lockState 1, .enter 1] ++
  Call.schedule 2 .beginStreamShutdown ++
  [.sweepLock 2 ⟨⟨1⟩⟩, .sweepSend 2, .sweepDone 2] ++
  [.lockLog 1, .dropState 1, .commit 1]

def Thread.hasShutDown : Thread → Bool
  | ⟨.beginStreamShutdown, .done (.shutdown true)⟩ => true
  | _ => false

theorem Thread.eq_of_hasShutDown {thread : Thread}
    (h : thread.hasShutDown = true) :
    thread = ⟨.beginStreamShutdown, .done (.shutdown true)⟩ := by
  unfold hasShutDown at h
  split at h
  next => rfl
  next => cases h

/-- Thread 2 has shut the store down, and subscriber 1 of an active session
has registered at the given side of the sweep. -/
abbrev ShutDownWith (late : Bool) (sys : System) : Prop :=
  (∃ thread, sys.threads.lookup 2 = some thread ∧ thread.hasShutDown = true) ∧
  ∃ subscriber, sys.subscribers.lookup 1 = some subscriber ∧
  ∃ log, sys.logs.lookup subscriber.subscription.sessionId = some log ∧
    subscriber.late = late ∧ subscriber.subscription.done = false ∧
    log.info.state = .active

/-- A subscription that registers in time is told. -/
theorem shutdown_told_of_timely_early :
    ∃ sys subscriber log,
      (System.new .default).runLabels earlySchedule = some sys ∧
      sys.subscribers.lookup 1 = some subscriber ∧
      sys.logs.lookup subscriber.subscription.sessionId = some log ∧
      log.info.state = .active ∧
      subscriber.Told 1 log (sys.closed subscriber.subscription.sessionId) := by
  obtain ⟨sys, hsys, ⟨thread, hshutdown, hthread⟩, subscriber, hsubscriber, log,
      hlog, hearly, hopen, hactive⟩ :
      ∃ sys, (System.new .default).runLabels earlySchedule = some sys ∧
        ShutDownWith false sys := by
    decide +kernel
  obtain rfl := Thread.eq_of_hasShutDown hthread
  exact ⟨sys, subscriber, log, hsys, hsubscriber, hlog, hactive,
    ((shutdown_told_of_timely .default).2 sys (reached_of_runLabels hsys) 2
      hshutdown 1 subscriber log hsubscriber hopen hlog hactive).mpr hearly⟩

/-- A subscription that succeeded waits forever after the shutdown. -/
theorem late_subscriber_never_told :
    ∃ sys subscriber log,
      (System.new .default).runLabels lateSchedule = some sys ∧
      Reached sys ∧
      sys.threads.lookup 2 =
        some ⟨.beginStreamShutdown, .done (.shutdown true)⟩ ∧
      sys.subscribers.lookup 1 = some subscriber ∧
      subscriber.subscription.done = false ∧
      sys.logs.lookup subscriber.subscription.sessionId = some log ∧
      log.info.state = .active ∧
      (∀ position, subscriber.subscription.tail = some ⟨1, position⟩ →
        ¬log.streamTail.Lagging position ∧
        .storeShutdown ∉ log.streamTail.unread position) ∧
      (∀ n, terminalWithin log.streamTail
        (sys.closed subscriber.subscription.sessionId) n
          subscriber.subscription = none) ∧
      ¬ShutdownTold sys := by
  obtain ⟨sys, hsys, ⟨thread, hshutdown, hthread⟩, subscriber, hsubscriber, log,
      hlog, hlate, hopen, hactive⟩ :
      ∃ sys, (System.new .default).runLabels lateSchedule = some sys ∧
        ShutDownWith true sys := by
    decide +kernel
  obtain rfl := Thread.eq_of_hasShutDown hthread
  have hreached : Reached sys := reached_of_runLabels hsys
  have hserving := hreached.kept.serving
  obtain ⟨hvalid, hinformed⟩ := hserving.served_of_lookup hsubscriber hlog
  have hnever := terminalWithin_of_late hvalid hinformed
    (hserving.represents _ log hlog)
    (hserving.not_closed hlog hactive) hlate hactive
  refine ⟨sys, subscriber, log, hsys, hreached, hshutdown, hsubscriber, hopen,
    hlog, hactive, ?_, hnever, ?_⟩
  · intro position htail
    have hsilent := hinformed.silent position htail hlate hactive
    refine ⟨Broadcast.not_lagging_of_unread_nil hsilent, ?_⟩
    rw [hsilent]
    exact List.not_mem_nil
  · intro htold
    obtain ⟨-, n, terminal, hn⟩ :=
      htold 2 hshutdown 1 subscriber log hsubscriber hopen hlog hactive
    cases (hnever n).symm.trans hn

end StreamSystem

end DeviceRail
