import DeviceRail.EventStore.Delivery
import DeviceRail.EventStore.Sweep

/-!
# Subscribers and the steps of the store

Every step of the system keeps every subscriber valid against its log and keeps
what it has been told of the shutdown sweep.  Steps are first sorted by what
they do to logs and subscribers; threads and locks only matter for what they
exclude.
-/

namespace DeviceRail

open History KeyedMap

namespace StreamSystem

/-! ## What subscribers learn of the sweep -/

/-- What the sweep means for one subscriber; `swept` says that its log has
been signalled. -/
structure Subscriber.Informed (receiver : ReceiverId) (subscriber : Subscriber)
    (log : SessionLog) (swept : Prop) : Prop where
  late_swept : subscriber.late = true → swept
  told : ∀ position, subscriber.subscription.done = false →
    subscriber.subscription.tail = some ⟨receiver, position⟩ →
    subscriber.late = false → swept →
      EventStreamSignal.storeShutdown ∈ log.streamTail.unread position
  silent : ∀ position, subscriber.subscription.tail = some ⟨receiver, position⟩ →
    subscriber.late = true → log.info.state = .active →
      log.streamTail.unread position = []
  unfinished : subscriber.late = true → log.info.state = .active →
    subscriber.subscription.done = false

variable {receiver : ReceiverId} {subscriber : Subscriber}
  {log log' : SessionLog} {item : Option EventStreamItem}
  {subscription : EventSubscription}

section

open Subscriber

variable {swept : Prop} {position : ℕ}

/-- A log that has not been signalled may change in any way. -/
theorem Subscriber.Informed.unswept (h : subscriber.Informed receiver log swept)
    (hswept : ¬swept) : subscriber.Informed receiver log' swept := by
  have hearly : subscriber.late ≠ true :=
    fun hlate => hswept (h.late_swept hlate)
  exact ⟨h.late_swept, fun _ _ _ _ hmem => absurd hmem hswept,
    fun _ _ hlate => absurd hlate hearly, fun hlate => absurd hlate hearly⟩

theorem Subscriber.Informed.sameChannel
    (h : subscriber.Informed receiver log swept)
    (hhistory : log'.streamTail.history = log.streamTail.history)
    (hstate : log'.info.state = log.info.state) :
    subscriber.Informed receiver log' swept := by
  refine ⟨h.late_swept, ?_, ?_, ?_⟩
  · intro position hopen htail hearly hmem
    rw [Broadcast.unread, hhistory]
    exact h.told position hopen htail hearly hmem
  · intro position htail hlate hactive
    rw [Broadcast.unread, hhistory]
    exact h.silent position htail hlate (hstate ▸ hactive)
  · intro hlate hactive
    exact h.unfinished hlate (hstate ▸ hactive)

theorem Subscriber.Valid.unread_signal (h : subscriber.Valid receiver log)
    (hopen : subscriber.subscription.done = false)
    (htail : subscriber.subscription.tail = some ⟨receiver, position⟩)
    (signal : EventStreamSignal) :
    (log.signal signal).streamTail.unread position =
      log.streamTail.unread position ++ [signal] := by
  obtain ⟨-, current, hrunning⟩ := h.running hopen
  cases htail.symm.trans hrunning.tail
  exact Broadcast.unread_send hrunning.registered hrunning.bound signal

section

variable (h : subscriber.Informed receiver log swept) {closed : Bool}

include h

theorem Subscriber.Informed.signalEnded (hvalid : subscriber.Valid receiver log)
    (hended : log.info.state ≠ .active) (signal : EventStreamSignal) :
    subscriber.Informed receiver (log.signal signal) swept := by
  refine ⟨h.late_swept, ?_, fun _ _ _ hactive => absurd hactive hended,
    fun _ hactive => absurd hactive hended⟩
  intro position hopen htail hearly hmem
  rw [hvalid.unread_signal hopen htail]
  exact List.mem_append_left _ (h.told position hopen htail hearly hmem)

theorem Subscriber.Informed.sweep (hswept : ¬swept)
    (hvalid : subscriber.Valid receiver log) {swept' : Prop} :
    subscriber.Informed receiver (log.signal .storeShutdown) swept' := by
  have hearly : subscriber.late ≠ true :=
    fun hlate => hswept (h.late_swept hlate)
  refine ⟨fun hlate => absurd hlate hearly, ?_,
    fun _ _ hlate => absurd hlate hearly, fun hlate => absurd hlate hearly⟩
  intro position hopen htail _ _
  rw [hvalid.unread_signal hopen htail]
  exact List.mem_append_right _ List.mem_cons_self

/-- Nothing finishes a late subscription of an active session. -/
theorem Subscriber.Informed.no_cause
    (hlog : log.Represents subscriber.subscription.sessionId)
    (htail : subscriber.subscription.tail = some ⟨receiver, position⟩)
    (hclosed : log.info.state = .active → closed = false)
    (hlate : subscriber.late = true) (hactive : log.info.state = .active) :
    ¬(log.streamTail.unread position ≠ [] ∨ closed = true ∨
      Ended log.events) := by
  rintro (hunread | hgone | hended)
  · exact hunread (h.silent position htail hlate hactive)
  · cases (hclosed hactive).symm.trans hgone
  · have hstate := hlog.ended_iff.mpr hended
    cases hactive.symm.trans hstate

theorem Subscriber.Informed.returned
    (hlog : log.Represents subscriber.subscription.sessionId)
    (hclosed : log.info.state = .active → closed = false)
    (hpoll : Poll receiver subscriber log closed (.returned item subscription)) :
    (subscriber.returning item subscription).Informed receiver log swept := by
  cases hpoll with
  | again _ => exact ⟨h.late_swept, h.told, h.silent, h.unfinished⟩
  | @reads position _ hopen hrunning hreading =>
    have htail := hrunning.tail
    cases hreading with
    | replayed _ =>
      refine ⟨h.late_swept, ?_, ?_, fun _ _ => hopen⟩
      · rintro current _ hcurrent hearly hmem
        cases hcurrent
        exact h.told position hopen htail hearly hmem
      · intro current hcurrent hlate hactive
        cases hcurrent
        exact h.silent position htail hlate hactive
    | received _ hunread =>
      refine ⟨h.late_swept, ?_, ?_, fun _ _ => hopen⟩
      · intro current _ hcurrent hearly hmem
        cases hcurrent
        have htold := h.told position hopen htail hearly hmem
        rw [hunread] at htold
        simpa using htold
      · intro current _ hlate hactive
        have hsilent := h.silent position htail hlate hactive
        cases hunread.symm.trans hsilent
    | finished _ hcause =>
      refine ⟨h.late_swept, ?_, ?_, ?_⟩
      · intro current hrunning
        cases hrunning
      · intro current hcurrent
        cases hcurrent
      · intro hlate hactive
        exact absurd hcause (h.no_cause hlog htail hclosed hlate hactive)

end

end

/-! ## The invariant of the system -/

/-- What holds of a subscriber against its log. -/
structure Served (swept : Finset SessionId) (receiver : ReceiverId)
    (subscriber : Subscriber) (log : SessionLog) : Prop where
  valid : subscriber.Valid receiver log
  informed : subscriber.Informed receiver log
    (subscriber.subscription.sessionId ∈ swept)

/-- Every log represents its history, an active session is retained, and every
subscriber is served by its log. -/
structure Serving (sys : System) : Prop where
  represents : ∀ sessionId log,
    sys.logs.lookup sessionId = some log → log.Represents sessionId
  used : ∀ sessionId log,
    sys.logs.lookup sessionId = some log → sessionId ∈ sys.used
  retained : ∀ sessionId log, sys.logs.lookup sessionId = some log →
    log.info.state = .active → sessionId ∈ sys.sessions
  served : ∀ receiver subscriber,
    sys.subscribers.lookup receiver = some subscriber →
      ∃ log, sys.logs.lookup subscriber.subscription.sessionId = some log ∧
        Served sys.swept receiver subscriber log

/-- The threads and locks of the system. -/
structure Control where
  stateLock : RwLock ThreadId
  logLocks : KeyedMap SessionId ThreadId
  threads : KeyedMap ThreadId Thread
  streamShutdown : Bool

def System.under (sys : System) (control : Control) : System :=
  { sys with
    stateLock := control.stateLock
    logLocks := control.logLocks
    threads := control.threads
    streamShutdown := control.streamShutdown }

/-- What a step does to logs and subscribers. -/
inductive Effect (sys : System) : Label → System → Prop
  | control {label} (control : Control) : Effect sys label (sys.under control)
  | created {label sessionId log} (control : Control)
      (hlog : log.Represents sessionId) (hfresh : sessionId ∉ sys.used) :
      Effect sys label
        ({ sys with
          used := insert sessionId sys.used
          sessions := insert sessionId sys.sessions
          logs := sys.logs.insert sessionId log }.under control)
  | recorded {label sessionId log log' event} (control : Control)
      (hlog : sys.logs.lookup sessionId = some log)
      (hchange : LogChange sessionId log log')
      (hactive : log.info.state ≠ .ended)
      (hevents : log'.events = log.events ++ [event])
      (htail : log'.streamTail = log.streamTail.send (.event event))
      (hunswept : sessionId ∉ sys.swept) :
      Effect sys label ((sys.setLog sessionId log').under control)
  | kept {label sessionId log log'} (control : Control)
      (hlog : sys.logs.lookup sessionId = some log)
      (hrepresents : log'.Represents sessionId)
      (hevents : log'.events = log.events)
      (htail : log'.streamTail = log.streamTail)
      (hstate : log'.info.state = log.info.state) :
      Effect sys label ((sys.setLog sessionId log').under control)
  | deleted {label sessionId log} (control : Control)
      (hlog : sys.logs.lookup sessionId = some log)
      (hended : log.info.state ≠ .active) :
      Effect sys label
        ({ sys.setLog sessionId (log.signal
            (.sessionDeleted sessionId log.info.lastSequence)) with
          sessions := sys.sessions.erase sessionId }.under control)
  | swept {label sessionId log} (control : Control)
      (hlog : sys.logs.lookup sessionId = some log)
      (hunswept : sessionId ∉ sys.swept) :
      Effect sys label
        ({ sys.setLog sessionId (log.signal .storeShutdown) with
          swept := insert sessionId sys.swept }.under control)
  | subscribed {tid sessionId after log} (control : Control)
      (hthread : sys.threads.lookup tid =
        some ⟨.subscribeAfter sessionId after, .inLog sessionId⟩)
      (hlog : sys.logs.lookup sessionId = some log)
      (hafter : cursorPosition after ≤ log.events.length) :
      Effect sys (.commit tid)
        ({ sys.setLog sessionId
            { log with streamTail := log.streamTail.subscribe tid } with
          subscribers := sys.subscribers.insert tid
            ⟨EventSubscription.new sessionId
              (log.events.drop (cursorPosition after))
              ⟨tid, log.streamTail.position⟩ after log.info.lastSequence
              log.info.state, after, [], false,
              decide (sessionId ∈ sys.swept)⟩ }.under control)
  | returned {label receiver subscriber log item subscription}
      (hsubscriber : sys.subscribers.lookup receiver = some subscriber)
      (hlog : sys.logs.lookup subscriber.subscription.sessionId = some log)
      (hpoll : Poll receiver subscriber log
        (sys.closed subscriber.subscription.sessionId)
        (.returned item subscription)) :
      Effect sys label
        (sys.polled receiver subscriber (.returned item subscription))
  | waits {label receiver subscriber}
      (hsubscriber : sys.subscribers.lookup receiver = some subscriber)
      (hopen : subscriber.subscription.done = false)
      (hsnapshot : subscriber.subscription.snapshot = [])
      (hknown : subscriber.subscription.knownEnded = none) :
      Effect sys label (sys.polled receiver subscriber .waiting)
  | dropped {label receiver subscriber}
      (hsubscriber : sys.subscribers.lookup receiver = some subscriber) :
      Effect sys label
        { sys.dropReceiver subscriber.subscription.sessionId receiver with
          subscribers := sys.subscribers.erase receiver }

section

variable {sys sys' : System} {sessionId : SessionId} {tid : ThreadId}
  {label : Label} {eventId : EventId} {after : Option EventSequence}

theorem Serving.served_of_lookup (h : Serving sys)
    (hsubscriber : sys.subscribers.lookup receiver = some subscriber)
    (hlog : sys.logs.lookup subscriber.subscription.sessionId = some log) :
    Served sys.swept receiver subscriber log := by
  obtain ⟨current, hcurrent, hserved⟩ :=
    h.served receiver subscriber hsubscriber
  cases hlog.symm.trans hcurrent
  exact hserved

theorem Serving.not_closed (h : Serving sys)
    (hlog : sys.logs.lookup sessionId = some log)
    (hactive : log.info.state = .active) : sys.closed sessionId = false := by
  have hmem := h.retained sessionId log hlog hactive
  simp [System.closed, hmem]

/-! ### Steps -/

theorem effect_append {pending : PendingEvent}
    (hcheck : MemoryEventStore.checkPending pending = .ok ())
    (hunswept : pending.sessionId ∉ sys.swept) (h : Serving sys)
    (hlog : sys.logs.lookup pending.sessionId = some log) :
    Effect sys label (sys.commitAppend tid pending eventId log) := by
  have hrepresents := h.represents _ log hlog
  unfold System.commitAppend
  rcases log.append_cases pending eventId with ⟨error, happend⟩ |
    ⟨event, -, happend⟩ |
    ⟨sequence, transition, hactive, hsequence, hadmitted, happend⟩ <;>
    rw [happend]
  · exact .kept ⟨_, _, _, _⟩ hlog hrepresents rfl rfl rfl
  · exact .kept ⟨_, _, _, _⟩ hlog hrepresents rfl rfl rfl
  · exact .recorded ⟨_, _, _, _⟩ hlog (.recorded pending eventId sequence
      transition rfl hcheck hactive hsequence hadmitted) hactive
      (SessionLog.record_events transition)
      (SessionLog.record_streamTail transition) hunswept

theorem effect_endSession {command : EndSession}
    (hat : command.atMs ≤ maxSafeInteger)
    (hunswept : command.sessionId ∉ sys.swept) (h : Serving sys)
    (hlog : sys.logs.lookup command.sessionId = some log) :
    Effect sys label (sys.commitEnd tid command eventId log) := by
  unfold System.commitEnd
  rcases log.endSession_cases command eventId with ⟨error, hend⟩ |
    ⟨sequence, hactive, hobservations, hcalls, hstreams, hsequence, hend⟩ <;>
    rw [hend]
  · exact .kept ⟨_, _, _, _⟩ hlog (h.represents _ log hlog) rfl rfl rfl
  · exact .recorded ⟨_, _, _, _⟩ hlog (.closed command eventId sequence rfl hat
      hactive hobservations hcalls hstreams hsequence) hactive
      SessionLog.close_events SessionLog.close_streamTail hunswept

theorem effect_subscribe (hthread : sys.threads.lookup tid =
      some ⟨.subscribeAfter sessionId after, .inLog sessionId⟩)
    (h : Serving sys) (hlog : sys.logs.lookup sessionId = some log) :
    Effect sys (.commit tid) (sys.commitSubscribe tid sessionId after log) := by
  unfold System.commitSubscribe
  rcases log.subscribeAfter_cases sys.config sessionId after tid with
    ⟨error, hsubscribe⟩ | ⟨-, hcursor, hsubscribe⟩ <;>
    rw [hsubscribe]
  · exact .kept ⟨_, _, _, _⟩ hlog (h.represents _ log hlog) rfl rfl rfl
  · exact .subscribed ⟨_, _, _, _⟩ hthread hlog hcursor

theorem effect_poll {outcome : NextOutcome}
    (hsubscriber : sys.subscribers.lookup receiver = some subscriber)
    (hlog : sys.logs.lookup subscriber.subscription.sessionId = some log)
    (hpoll : Poll receiver subscriber log
      (sys.closed subscriber.subscription.sessionId) outcome) :
    Effect sys label (sys.polled receiver subscriber outcome) := by
  cases outcome with
  | returned item subscription => exact .returned hsubscriber hlog hpoll
  | waiting =>
    cases hpoll with
    | reads hopen _ hreading =>
      cases hreading with
      | waiting hsnapshot _ _ hknown =>
        exact .waits hsubscriber hopen hsnapshot hknown
  | panicked => exact absurd rfl hpoll.ne_panicked

theorem Step.effect (hstep : Step sys label sys') (hchecked : Checked sys)
    (horderly : Orderly sys) (h : Serving sys) : Effect sys label sys' := by
  cases hstep with
  | @begin tid call _ =>
    rcases begin_cases sys tid call with ⟨-, _, -, -, heq⟩ | ⟨-, heq⟩ |
      ⟨-, -, heq⟩ <;>
      exact heq ▸ .control ⟨_, _, _, _⟩
  | @enter tid call hthread =>
    rcases enter_cases sys tid call with ⟨-, _, _, -, heq⟩ | ⟨-, heq⟩ |
      ⟨command, eventId, _, rfl, -, hused, heq⟩ <;>
      rw [heq]
    · exact .control ⟨_, _, _, _⟩
    · exact .control ⟨_, _, _, _⟩
    · have hat : command.atMs ≤ maxSafeInteger :=
        MemoryEventStore.ensureTimestamp_eq_ok.mp
          (hchecked _ _ _ hthread (by simp) (by simp))
      exact .created ⟨_, _, _, _⟩
        (SessionLog.represents_start command eventId _ hat) hused
  | recheck _ _ =>
    unfold System.recheck
    split <;> exact .control ⟨_, _, _, _⟩
  | append hthread hlog =>
    exact effect_append (hchecked _ _ _ hthread (by simp) (by simp))
      ((horderly.fits _ _ hthread).cleared _ rfl) h hlog
  | endSession hthread hlog =>
    have hok := hchecked _ _ _ hthread (by simp) (by simp)
    exact effect_endSession (MemoryEventStore.ensureTimestamp_eq_ok.mp hok)
      ((horderly.fits _ _ hthread).cleared _ rfl) h hlog
  | subscribe hthread hlog => exact effect_subscribe hthread h hlog
  | deleteEnded _ hlog =>
    unfold System.commitDelete
    split
    next => exact .control ⟨_, _, _, _⟩
    next hended => exact .deleted ⟨_, _, _, _⟩ hlog hended
  | sweepSend hthread hlog =>
    obtain ⟨-, -, hdisjoint, -⟩ :=
      (horderly.fits _ _ hthread).sweeping ⟨rfl, rfl⟩
    exact .swept ⟨_, _, _, _⟩ hlog (Finset.disjoint_insert_left.mp hdisjoint).1
  | observe hlog _ hactive =>
    exact .kept ⟨_, _, _, _⟩ hlog ((h.represents _ _ hlog).withObservations
      (fun hended => absurd hended hactive)) rfl rfl rfl
  | next hsubscriber _ hlog =>
    exact effect_poll hsubscriber hlog
      ((h.served_of_lookup hsubscriber hlog).valid.next
        (h.represents _ _ hlog) _)
  | wake hsubscriber hwaiting hlog =>
    exact effect_poll hsubscriber hlog
      ((h.served_of_lookup hsubscriber hlog).valid.wake
        (h.represents _ _ hlog) hwaiting _)
  | drop hsubscriber => exact .dropped hsubscriber
  | _ => exact .control ⟨_, _, _, _⟩

/-! ### Effects keep the invariant -/

theorem Serving.advanced (h : Serving sys)
    (hlog : sys.logs.lookup sessionId = some log)
    (hrepresents : log'.Represents sessionId)
    (hlogs : sys'.logs = sys.logs.adjust sessionId (fun _ => log'))
    (hused : sys'.used = sys.used)
    (hsessions : ∀ key, key ≠ sessionId → key ∈ sys.sessions →
      key ∈ sys'.sessions)
    (hswept : ∀ key, key ≠ sessionId → (key ∈ sys'.swept ↔ key ∈ sys.swept))
    (hactive : log'.info.state = .active → sessionId ∈ sys'.sessions)
    (hserved : ∀ receiver subscriber,
      sys'.subscribers.lookup receiver = some subscriber →
        (sys.subscribers.lookup receiver = some subscriber ∧
          (subscriber.subscription.sessionId = sessionId →
            Served sys.swept receiver subscriber log →
            Served sys'.swept receiver subscriber log')) ∨
        (subscriber.subscription.sessionId = sessionId ∧
          Served sys'.swept receiver subscriber log')) : Serving sys' := by
  refine ⟨?_, ?_, ?_, ?_⟩
  · rw [hlogs]
    exact forall_adjust (fun _ _ => hrepresents) fun key log _ =>
      h.represents key log
  · rw [hlogs, hused]
    exact forall_adjust (h.used sessionId) fun key log _ => h.used key log
  · rw [hlogs]
    exact forall_adjust (fun _ _ => hactive) fun key log hne hcurrent hstate =>
      hsessions key hne (h.retained key log hcurrent hstate)
  · intro receiver subscriber hsubscriber
    rw [hlogs, lookup_adjust, hlog]
    split
    next heq =>
      refine ⟨log', rfl, ?_⟩
      rcases hserved receiver subscriber hsubscriber with ⟨hold, hkeeps⟩ |
        ⟨-, hnew⟩
      · exact hkeeps heq (h.served_of_lookup hold (heq ▸ hlog))
      · exact hnew
    next hne =>
      rcases hserved receiver subscriber hsubscriber with ⟨hold, -⟩ | ⟨heq, -⟩
      · obtain ⟨current, hcurrent, hserved⟩ := h.served receiver subscriber hold
        refine ⟨current, hcurrent, hserved.valid, ?_⟩
        rw [hswept _ hne]
        exact hserved.informed
      · exact absurd heq hne

theorem Serving.unsubscribed (h : Serving sys) (receiver : ReceiverId)
    (hlog : sys.logs.lookup sessionId = some log)
    (hlogs : sys'.logs = (sys.dropReceiver sessionId receiver).logs)
    (hused : sys'.used = sys.used) (hsessions : sys'.sessions = sys.sessions)
    (hswept : sys'.swept = sys.swept) (hothers : ∀ other subscriber,
      sys'.subscribers.lookup other = some subscriber →
        (other ≠ receiver ∧ sys.subscribers.lookup other = some subscriber) ∨
        (subscriber.subscription.sessionId = sessionId ∧
          subscriber.subscription.done = true ∧
          Served sys.swept other subscriber log)) : Serving sys' := by
  have hadjust : sys'.logs = sys.logs.adjust sessionId (fun _ =>
      { log with streamTail := log.streamTail.unsubscribe receiver }) := by
    rw [hlogs]
    simp [System.dropReceiver, adjust, hlog]
  have hinformed : ∀ {other subscriber}, Served sys.swept other subscriber log →
      subscriber.Informed other
        { log with streamTail := log.streamTail.unsubscribe receiver }
        (subscriber.subscription.sessionId ∈ sys'.swept) := by
    intro other subscriber hserved
    rw [hswept]
    exact hserved.informed.sameChannel rfl rfl
  refine h.advanced hlog ((h.represents sessionId log hlog).withTail _) hadjust
    hused (fun _ _ hkey => hsessions ▸ hkey) (fun _ _ => by rw [hswept])
    (fun hactive => hsessions ▸ h.retained sessionId log hlog hactive) ?_
  intro other subscriber hsubscriber
  rcases hothers other subscriber hsubscriber with ⟨hne, hold⟩ |
    ⟨hid, hdone, hserved⟩
  · refine .inl ⟨hold, fun _ hserved => ⟨?_, hinformed hserved⟩⟩
    exact hserved.valid.sameEvents rfl rfl
      (fun _ hmem => Finset.mem_erase.mpr ⟨hne, hmem⟩)
  · refine .inr ⟨hid, hserved.valid.sameEvents rfl rfl ?_, hinformed hserved⟩
    intro hopen
    exact absurd (hopen.symm.trans hdone) (by simp)

theorem Serving.returned (h : Serving sys)
    (hsubscriber : sys.subscribers.lookup receiver = some subscriber)
    (hlog : sys.logs.lookup subscriber.subscription.sessionId = some log)
    (hpoll : Poll receiver subscriber log
      (sys.closed subscriber.subscription.sessionId)
      (.returned item subscription)) :
    Serving (sys.polled receiver subscriber (.returned item subscription)) := by
  have hold := h.served_of_lookup hsubscriber hlog
  have hrepresents := h.represents _ log hlog
  have hid := hpoll.sessionId
  have hserved : Served sys.swept receiver (subscriber.returning item subscription)
      log := by
    refine ⟨hold.valid.returned hrepresents hpoll, ?_⟩
    simp only [Subscriber.returning, hid]
    exact hold.informed.returned hrepresents (h.not_closed hlog) hpoll
  cases htail : subscription.tail with
  | none =>
    have hdone : subscription.done = true := by
      by_contra hopen
      obtain ⟨-, position, hrunning⟩ :=
        hserved.valid.running (by simpa [Subscriber.returning] using hopen)
      have hsome := hrunning.tail
      simp only [Subscriber.returning, htail] at hsome
      cases hsome
    refine h.unsubscribed receiver hlog ?_ ?_ ?_ ?_ ?_
    · simp [System.polled, htail, hid]
    iterate 3 · simp [System.polled, htail, System.dropReceiver]
    · intro other current hcurrent
      have hlookup : (sys.subscribers.insert receiver
          (subscriber.returning item subscription)).lookup other =
            some current := by
        simpa [System.polled, htail, System.dropReceiver,
          Subscriber.returning] using hcurrent
      rw [lookup_insert_ite] at hlookup
      split at hlookup
      next heq =>
        cases hlookup
        rw [heq]
        exact .inr ⟨hid, hdone, hserved⟩
      next hne => exact .inl ⟨hne, hlookup⟩
  | some tail =>
    have heq : sys.polled receiver subscriber (.returned item subscription) =
        { sys with
          subscribers := sys.subscribers.insert receiver
            (subscriber.returning item subscription) } := by
      simp [System.polled, htail, Subscriber.returning]
    rw [heq]
    exact ⟨h.represents, h.used, h.retained,
      forall_insert ⟨log, hid ▸ hlog, hserved⟩ h.served⟩

theorem Effect.serving (heffect : Effect sys label sys') (h : Serving sys) :
    Serving sys' := by
  cases heffect with
  | control control => exact ⟨h.represents, h.used, h.retained, h.served⟩
  | @created _ sessionId log control hlog hfresh =>
    refine ⟨forall_insert hlog h.represents,
      forall_insert (Finset.mem_insert_self _ _) fun key current hcurrent =>
          Finset.mem_insert_of_mem (h.used key current hcurrent),
      forall_insert (fun _ => Finset.mem_insert_self _ _)
        fun key current hcurrent hactive =>
          Finset.mem_insert_of_mem (h.retained key current hcurrent hactive),
      ?_⟩
    intro receiver subscriber hsubscriber
    obtain ⟨current, hcurrent, hserved⟩ :=
      h.served receiver subscriber hsubscriber
    have hne : subscriber.subscription.sessionId ≠ sessionId := by
      intro heq
      rw [heq] at hcurrent
      exact hfresh (h.used sessionId current hcurrent)
    refine ⟨current, ?_, hserved.valid, hserved.informed⟩
    exact (lookup_insert_ite _ _ _ _).trans ((if_neg hne).trans hcurrent)
  | @recorded _ _ log _ _ control hlog hchange hactive hevents htail hunswept =>
    have hrepresents := h.represents _ _ hlog
    have hopen := fun hended => hactive (hrepresents.ended_iff.mpr hended)
    have hstate : log.info.state = .active := by
      cases hstate : log.info.state <;> simp_all
    refine h.advanced hlog (hchange.represents hrepresents) rfl rfl
      (fun _ _ hkey => hkey) (fun _ _ => Iff.rfl)
      (fun _ => h.retained _ log hlog hstate) ?_
    intro receiver subscriber hsubscriber
    refine .inl ⟨hsubscriber, fun hid hserved => ⟨?_, ?_⟩⟩
    · exact hserved.valid.recorded hopen hevents htail
    · exact hserved.informed.unswept (hid ▸ hunswept)
  | kept control hlog hrepresents hevents htail hstate =>
    refine h.advanced hlog hrepresents rfl rfl (fun _ _ hkey => hkey)
      (fun _ _ => Iff.rfl)
      (fun hactive => h.retained _ _ hlog (hstate ▸ hactive)) ?_
    intro receiver subscriber hsubscriber
    refine .inl ⟨hsubscriber, fun _ hserved => ⟨?_, ?_⟩⟩
    · refine hserved.valid.sameEvents hevents (by rw [htail]) ?_
      rw [htail]
      exact fun _ hmem => hmem
    · exact hserved.informed.sameChannel (by rw [htail]) hstate
  | deleted control hlog hended =>
    refine h.advanced hlog ((h.represents _ _ hlog).withTail _) rfl rfl
      (fun key hne hkey => Finset.mem_erase.mpr ⟨hne, hkey⟩)
      (fun _ _ => Iff.rfl) (fun hactive => absurd hactive hended) ?_
    intro receiver subscriber hsubscriber
    refine .inl ⟨hsubscriber, fun hid hserved => ⟨?_, ?_⟩⟩
    · refine hserved.valid.signalled rfl fun key last heq => ?_
      cases heq
      exact hid.symm
    · exact hserved.informed.signalEnded hserved.valid hended _
  | @swept _ sessionId log control hlog hunswept =>
    refine h.advanced hlog ((h.represents _ _ hlog).withTail _) rfl rfl
      (fun _ _ hkey => hkey) ?_ (h.retained _ log hlog) ?_
    · intro key hne
      change key ∈ insert sessionId sys.swept ↔ _
      simp [hne]
    · intro receiver subscriber hsubscriber
      refine .inl ⟨hsubscriber, fun hid hserved => ⟨?_, ?_⟩⟩
      · exact hserved.valid.signalled rfl (by simp)
      · exact hserved.informed.sweep (hid ▸ hunswept) hserved.valid
  | @subscribed _ sessionId _ log control _ hlog hafter =>
    have hrepresents := h.represents sessionId log hlog
    refine h.advanced hlog (hrepresents.withTail _) rfl rfl
      (fun _ _ hkey => hkey) (fun _ _ => Iff.rfl)
      (h.retained sessionId log hlog)
      (forall_insert (.inr ⟨rfl, valid_registered _ hrepresents hafter,
        of_decide_eq_true, ?_, ?_, fun _ _ => rfl⟩) ?_)
    · intro position _ _ hearly hmem
      exact absurd hmem (of_decide_eq_false hearly)
    · intro position htail _ _
      cases htail
      exact log.streamTail.unread_position
    · intro receiver subscriber hsubscriber
      refine .inl ⟨hsubscriber, fun _ hserved => ⟨?_, ?_⟩⟩
      · exact hserved.valid.sameEvents rfl rfl
          (fun _ hmem => Finset.mem_insert_of_mem hmem)
      · exact hserved.informed.sameChannel rfl rfl
  | returned hsubscriber hlog hpoll => exact h.returned hsubscriber hlog hpoll
  | waits hsubscriber hopen hsnapshot hknown =>
    obtain ⟨log, hlog, hserved⟩ := h.served _ _ hsubscriber
    refine ⟨h.represents, h.used, h.retained,
      forall_insert ⟨log, hlog, ?_, ?_⟩ h.served⟩
    · exact hserved.valid.setWaiting hopen hsnapshot hknown
    · exact ⟨hserved.informed.late_swept, hserved.informed.told,
        hserved.informed.silent, hserved.informed.unfinished⟩
  | @dropped _ receiver subscriber hsubscriber =>
    obtain ⟨log, hlog, -⟩ := h.served receiver subscriber hsubscriber
    refine h.unsubscribed receiver hlog rfl rfl rfl rfl ?_
    intro other current hcurrent
    rw [lookup_erase_ite] at hcurrent
    split at hcurrent
    next => cases hcurrent
    next hne => exact .inl ⟨hne, hcurrent⟩

/-- The invariants of every interleaving. -/
structure Kept (sys : System) : Prop where
  checked : Checked sys
  orderly : Orderly sys
  serving : Serving sys

theorem kept_new (config : EventStreamConfig) : Kept (System.new config) := by
  refine ⟨?_, ⟨?_, ?_, ?_⟩, ?_, ?_, ?_, ?_⟩ <;> simp [Checked, System.new]

theorem Step.kept (hstep : Step sys label sys') (h : Kept sys) : Kept sys' :=
  ⟨hstep.checked h.checked, hstep.orderly h.orderly,
    (hstep.effect h.checked h.orderly h.serving).serving h.serving⟩

theorem Reached.kept (h : Reached sys) : Kept sys := by
  obtain ⟨config, hreach⟩ := h
  exact hreach.invariant (I := Kept) (kept_new config)
    fun _ _ _ hkept hstep => hstep.kept hkept

/-! ## What subscribers receive -/

/-- Subscriptions of one session in which each one resumes where its
predecessor reported the tail lost: `Chained sys sessionId after last events`
delivers `events` from `after` on, and ends with the subscriber `last`. -/
inductive Chained (sys : System) (sessionId : SessionId) :
    Option EventSequence → Subscriber → List TestEvent → Prop
  | single {receiver : ReceiverId} {subscriber : Subscriber}
      (hsubscriber : sys.subscribers.lookup receiver = some subscriber)
      (hsession : subscriber.subscription.sessionId = sessionId) :
      Chained sys sessionId subscriber.after subscriber subscriber.delivered
  | resume {receiver subscriber last lastDelivered missedEvents events}
      (hsubscriber : sys.subscribers.lookup receiver = some subscriber)
      (hsession : subscriber.subscription.sessionId = sessionId)
      (hlagged : some (.terminal (.tailLagged lastDelivered missedEvents)) ∈
        subscriber.returned)
      (hnext : Chained sys sessionId lastDelivered last events) :
      Chained sys sessionId subscriber.after last
        (subscriber.delivered ++ events)

/-- A chain delivers a contiguous part of the log, and all of it once its last
subscription has reported the end of the session. -/
theorem Chained.suffix (h : Serving sys) {last : Subscriber}
    {events : List TestEvent} (hchain : Chained sys sessionId after last events)
    (hlog : sys.logs.lookup sessionId = some log) :
    events <+: log.events.drop (cursorPosition after) ∧
      ∀ lastSequence,
        some (.terminal (.sessionEnded lastSequence)) ∈ last.returned →
          events = log.events.drop (cursorPosition after) := by
  have hvalid : ∀ {receiver : ReceiverId} {subscriber : Subscriber},
      sys.subscribers.lookup receiver = some subscriber →
      subscriber.subscription.sessionId = sessionId →
      subscriber.Valid receiver log := by
    intro receiver subscriber hsubscriber hsession
    exact (h.served_of_lookup hsubscriber (hsession ▸ hlog)).valid
  induction hchain with
  | single hsubscriber hsession =>
    have hsub := hvalid hsubscriber hsession
    refine ⟨⟨_, hsub.contiguous⟩, ?_⟩
    intro lastSequence hmem
    obtain ⟨-, -, hcursor⟩ := hsub.terminalFits hmem
    exact hsub.delivered_all hcursor
  | @resume receiver subscriber last lastDelivered missedEvents events
      hsubscriber hsession hlagged _ ih =>
      have hsub := hvalid hsubscriber hsession
      have hfits : lastDelivered = _ := hsub.terminalFits hlagged
      have hcontiguous := hsub.contiguous
      rw [Subscriber.cursor, ← hfits] at hcontiguous
      rw [← hcontiguous]
      refine ⟨(List.prefix_append_right_inj _).mpr ih.1, ?_⟩
      intro lastSequence hmem
      rw [ih.2 lastSequence hmem]

/-- In every interleaving a subscription returns exactly the events after its
cursor, in order and unaltered, and then one terminal; a chain of subscriptions
that resume after a lost tail loses and repeats nothing. -/
theorem reached_delivery_exact (h : Reached sys) :
    (∀ receiver subscriber,
      sys.subscribers.lookup receiver = some subscriber →
        ∃ log, sys.logs.lookup subscriber.subscription.sessionId = some log ∧
          subscriber.Faithful log
            (sys.closed subscriber.subscription.sessionId)) ∧
    (∀ sessionId after last events log,
      Chained sys sessionId after last events →
      sys.logs.lookup sessionId = some log →
        events <+: log.events.drop (cursorPosition after) ∧
        ∀ lastSequence,
          some (.terminal (.sessionEnded lastSequence)) ∈ last.returned →
            events = log.events.drop (cursorPosition after)) := by
  have hserving := h.kept.serving
  refine ⟨?_, ?_⟩
  · intro receiver subscriber hsubscriber
    obtain ⟨log, hlog, hserved⟩ :=
      hserving.served receiver subscriber hsubscriber
    exact ⟨log, hlog, hserved.valid.faithful (hserving.represents _ log hlog) _⟩
  · intro sessionId after last events log hchain hlog
    exact hchain.suffix hserving hlog

/-- A configuration whose channels keep one value. -/
def narrowConfig : EventStreamConfig :=
  ⟨2, 1, 2, by decide, by decide, by decide⟩

def sampleTap (callId : ℕ) : PendingEvent :=
  ⟨⟨⟨1⟩⟩, some (.number 7), none, 6,
    .actionStarted ⟨⟨callId⟩, "device.tap", .null, true⟩⟩

/-- Subscriber 1 loses its tail, and subscriber 4 resumes. -/
def resumedSchedule : List Label :=
  Call.schedule 0 (.startSession ⟨⟨⟨1⟩⟩, none, none, 5⟩ ⟨⟨2⟩⟩) ++
  Call.schedule 1 (.subscribeAfter ⟨⟨1⟩⟩ none) ++
  Call.schedule 2 (.append (sampleTap 8) ⟨⟨3⟩⟩) ++
  Call.schedule 3 (.append (sampleTap 9) ⟨⟨4⟩⟩) ++
  [.next 1, .next 1] ++
  Call.schedule 4 (.subscribeAfter ⟨⟨1⟩⟩ (some .first)) ++
  [.next 4, .next 4, .next 4]

theorem reached_delivery_exact_resumed :
    ∃ sys, (System.new narrowConfig).runLabels resumedSchedule = some sys ∧
      ((sys.subscribers.lookup 1).any (fun subscriber =>
          subscriber.delivered.map (fun event => event.sequence.get) = [1]) ∧
        (sys.subscribers.lookup 4).any (fun subscriber =>
          subscriber.delivered.map (fun event => event.sequence.get) =
            [2, 3])) ∧
      ∀ receiver subscriber,
        sys.subscribers.lookup receiver = some subscriber →
          ∃ log,
            sys.logs.lookup subscriber.subscription.sessionId = some log ∧
            subscriber.Faithful log
              (sys.closed subscriber.subscription.sessionId) := by
  refine Transition.exists_some_and (by decide +kernel) fun sys hsys => ?_
  exact (reached_delivery_exact (reached_of_runLabels hsys)).1

end

end StreamSystem

end DeviceRail
