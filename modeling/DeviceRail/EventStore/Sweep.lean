import DeviceRail.EventStore.StreamSystem

/-!
# The shutdown sweep

A shutdown swaps the flag and then signals every retained log under its lock.
The invariants of the threads: log locks exclude each other, at most one
shutdown sweeps, it visits every retained log once, and no call that read the
flag unset under a log's lock is still at work when the sweep signals that log.
-/

namespace DeviceRail.StreamSystem

/-- The log whose lock a thread holds. -/
def Pc.heldLog : Pc → Option SessionId
  | .inBoth sessionId => some sessionId
  | .inLog sessionId => some sessionId
  | .cleared sessionId => some sessionId
  | .sweepingLog sessionId _ => some sessionId
  | _ => none

/-- The places of a shutdown that found the flag unset. -/
def Pc.sweeps : Pc → Bool
  | .wantState => true
  | .inState => true
  | .sweeping _ => true
  | .sweepingLog _ _ => true
  | .done (.shutdown true) => true
  | _ => false

/-- The thread is a shutdown that found the flag unset. -/
def Thread.Sweeper (thread : Thread) : Prop :=
  thread.call = .beginStreamShutdown ∧ thread.pc.sweeps = true

/-- How far a sweep has come. -/
def Covers (sys : System) : Pc → Prop
  | .wantState => sys.swept = ∅
  | .inState => sys.swept = ∅
  | .sweeping remaining =>
    Disjoint remaining sys.swept ∧ sys.sessions ⊆ remaining ∪ sys.swept
  | .sweepingLog sessionId remaining =>
    sessionId ∉ remaining ∧ Disjoint (insert sessionId remaining) sys.swept ∧
      sys.sessions ⊆ insert sessionId remaining ∪ sys.swept
  | .done _ => sys.sessions ⊆ sys.swept
  | _ => True

/-- The invariant of one thread. -/
structure ThreadFits (sys : System) (tid : ThreadId) (thread : Thread) :
    Prop where
  holds : ∀ sessionId, thread.pc.heldLog = some sessionId →
    sys.logLocks.lookup sessionId = some tid
  cleared : ∀ sessionId, thread.pc = .cleared sessionId → sessionId ∉ sys.swept
  sweeping : thread.Sweeper → sys.streamShutdown = true ∧ Covers sys thread.pc

/-- Log locks exclude each other, there is at most one sweep, and a call that
found the flag unset under a log's lock runs before the sweep of that log. -/
structure Orderly (sys : System) : Prop where
  fits : ∀ tid thread, sys.threads.lookup tid = some thread →
    ThreadFits sys tid thread
  unique : ∀ tid other thread current,
    sys.threads.lookup tid = some thread →
    sys.threads.lookup other = some current →
    thread.Sweeper → current.Sweeper → tid = other
  flagged : sys.swept.Nonempty → sys.streamShutdown = true

/-! ## What the first steps of a call do -/

section

variable (sys : System) (tid : ThreadId) (call : Call)

/-- A call begins with its checks, a shutdown with the swap of the flag. -/
theorem begin_cases :
    (call ≠ .beginStreamShutdown ∧ ∃ pc, pc.heldLog = none ∧
      (call.check = .ok () ∨ ∃ reply, pc = .done reply) ∧
      sys.begin tid call = sys.setPc tid call pc) ∨
    (call = .beginStreamShutdown ∧
      sys.begin tid call = sys.setPc tid call (.done (.shutdown false))) ∨
    (call = .beginStreamShutdown ∧ sys.streamShutdown = false ∧
      sys.begin tid call =
        { sys with streamShutdown := true }.setPc tid call .wantState) := by
  unfold System.begin
  split
  next =>
    split
    next => exact .inr (.inl ⟨rfl, rfl⟩)
    next hflag => exact .inr (.inr ⟨rfl, by simpa using hflag, rfl⟩)
  next hcall =>
    refine .inl ⟨hcall, ?_⟩
    split
    next => exact ⟨_, rfl, .inr ⟨_, rfl⟩, rfl⟩
    next hok => exact ⟨_, rfl, .inl hok, rfl⟩

/-- A call that has the state lock creates its session, starts the sweep, or
goes on without a log's lock. -/
theorem enter_cases :
    (call ≠ .beginStreamShutdown ∧ ∃ pc lock, pc.heldLog = none ∧
      sys.enter tid call = { sys with stateLock := lock }.setPc tid call pc) ∨
    (call = .beginStreamShutdown ∧
      sys.enter tid call = sys.setPc tid call (.sweeping sys.sessions)) ∨
    ∃ command eventId lock, call = .startSession command eventId ∧
      sys.streamShutdown = false ∧ command.sessionId ∉ sys.used ∧
      sys.enter tid call =
        { sys with
          stateLock := lock
          used := insert command.sessionId sys.used
          sessions := insert command.sessionId sys.sessions
          logs := sys.logs.insert command.sessionId
            (SessionLog.start command eventId
              sys.config.tailCapacity) }.setPc tid call (.done .ok) := by
  unfold System.enter
  cases call with
  | startSession command eventId =>
    simp only
    split_ifs with hflag hused
    · exact .inl ⟨by simp, _, _, rfl, rfl⟩
    · exact .inl ⟨by simp, _, _, rfl, rfl⟩
    · exact .inr (.inr ⟨_, _, _, rfl, by simpa using hflag, hused, rfl⟩)
  | beginStreamShutdown => exact .inr (.inl ⟨rfl, rfl⟩)
  | _ =>
    left
    simp only
    split_ifs <;> exact ⟨by simp, _, _, rfl, rfl⟩

end

/-! ## Argument checks -/

/-- Every call past its first step has passed its argument checks. -/
def Checked (sys : System) : Prop :=
  ∀ tid call pc, sys.threads.lookup tid = some ⟨call, pc⟩ →
    pc ≠ .ready → (∀ reply, pc ≠ .done reply) → call.check = .ok ()

section

variable {sys sys' : System} {tid : ThreadId} {thread : Thread} {call : Call}
  {pc : Pc} {label : Label}

theorem Checked.setThread (h : Checked sys)
    (hthreads : sys'.threads = sys.threads.insert tid ⟨call, pc⟩)
    (hcheck : pc = .ready ∨ (∃ reply, pc = .done reply) ∨
      call.check = .ok ()) : Checked sys' := by
  intro other call' pc' hother hready hdone
  rw [hthreads, KeyedMap.lookup_insert_ite] at hother
  split at hother
  next =>
    cases hother
    rcases hcheck with hpc | ⟨reply, hpc⟩ | hok
    · exact absurd hpc hready
    · exact absurd hpc (hdone reply)
    · exact hok
  next => exact h other call' pc' hother hready hdone

theorem polled_threads (sys : System) (receiver : ReceiverId)
    (subscriber : Subscriber) (outcome : NextOutcome) :
    (sys.polled receiver subscriber outcome).threads = sys.threads := by
  unfold System.polled
  split
  next => split <;> rfl
  next => rfl
  next => rfl

theorem Step.checked (hstep : Step sys label sys') (h : Checked sys) :
    Checked sys' := by
  have hmoves : ∀ {tid call pc pc'} {sys' : System},
      sys.threads.lookup tid = some ⟨call, pc⟩ → pc ≠ .ready →
      (∀ reply, pc ≠ .done reply) →
      sys'.threads = sys.threads.insert tid ⟨call, pc'⟩ → Checked sys' :=
    fun hthread hready hdone hthreads =>
      h.setThread hthreads (.inr (.inr (h _ _ _ hthread hready hdone)))
  cases hstep with
  | invoke _ => exact h.setThread rfl (.inl rfl)
  | @begin tid call _ =>
    rcases begin_cases sys tid call with ⟨-, pc, -, hcheck, heq⟩ |
      ⟨-, heq⟩ | ⟨rfl, -, heq⟩ <;> rw [heq]
    · exact h.setThread rfl (.inr hcheck.symm)
    · exact h.setThread rfl (.inr (.inl ⟨_, rfl⟩))
    · exact h.setThread rfl (.inr (.inr rfl))
  | lockState hthread _ | lockLog hthread _ | dropState hthread _ =>
    exact hmoves hthread (by simp) (by simp) rfl
  | @enter tid call hthread =>
    rcases enter_cases sys tid call with ⟨-, pc, lock, -, heq⟩ | ⟨-, heq⟩ |
      ⟨_, _, _, -, -, -, heq⟩ <;> rw [heq] <;>
      exact hmoves hthread (by simp) (by simp) rfl
  | recheck hthread _ =>
    unfold System.recheck
    split <;> exact hmoves hthread (by simp) (by simp) rfl
  | subscribe hthread _ =>
    unfold System.commitSubscribe
    split <;> exact hmoves hthread (by simp) (by simp) rfl
  | deleteEnded hthread _ =>
    unfold System.commitDelete
    split <;> exact hmoves hthread (by simp) (by simp) rfl
  | observe _ _ _ => exact h
  | next _ _ _ | wake _ _ _ =>
    intro tid call pc hthread
    rw [polled_threads] at hthread
    exact h tid call pc hthread
  | drop _ => exact h
  | _ hthread => exact hmoves hthread (by simp) (by simp) rfl

/-! ## Locks and the sweep -/

theorem Orderly.swept_eq_empty (h : Orderly sys)
    (hflag : sys.streamShutdown = false) : sys.swept = ∅ := by
  by_contra hne
  have hset := h.flagged (Finset.nonempty_iff_ne_empty.mpr hne)
  cases hflag.symm.trans hset

variable {sessionId : SessionId}

/-- Two threads never hold the lock of one log. -/
theorem Orderly.exclusive (h : Orderly sys) {other : ThreadId}
    {current : Thread} (hthread : sys.threads.lookup tid = some thread)
    (hcurrent : sys.threads.lookup other = some current)
    (hheld : thread.pc.heldLog = some sessionId)
    (hother : current.pc.heldLog = some sessionId) : other = tid := by
  have htid := (h.fits tid thread hthread).holds sessionId hheld
  have hlock := (h.fits other current hcurrent).holds sessionId hother
  rw [htid] at hlock
  exact (Option.some.inj hlock).symm

theorem covers_mono (hswept : sys'.swept = sys.swept)
    (hsessions : sys'.sessions ⊆ sys.sessions) (h : Covers sys pc) :
    Covers sys' pc := by
  cases pc with
  | wantState | inState => exact hswept.trans h
  | sweeping remaining =>
    simp only [Covers, hswept] at h ⊢
    exact ⟨h.1, hsessions.trans h.2⟩
  | sweepingLog sessionId remaining =>
    simp only [Covers, hswept] at h ⊢
    exact ⟨h.1, h.2.1, hsessions.trans h.2.2⟩
  | done reply =>
    simp only [Covers, hswept] at h ⊢
    exact hsessions.trans h
  | _ => trivial

/-- What no step outside the sweep touches. -/
structure Unswept (sys sys' : System) : Prop where
  swept : sys'.swept = sys.swept
  flag : sys'.streamShutdown = sys.streamShutdown
  sessions : sys'.sessions ⊆ sys.sessions

theorem ThreadFits.mono (h : ThreadFits sys tid thread)
    (hlocks : ∀ sessionId, thread.pc.heldLog = some sessionId →
      sys.logLocks.lookup sessionId = some tid →
      sys'.logLocks.lookup sessionId = some tid)
    (hkeeps : Unswept sys sys') : ThreadFits sys' tid thread := by
  refine ⟨?_, ?_, ?_⟩
  · intro sessionId hheld
    exact hlocks sessionId hheld (h.holds sessionId hheld)
  · rw [hkeeps.swept]
    exact h.cleared
  · intro hsweeper
    obtain ⟨hset, hcovers⟩ := h.sweeping hsweeper
    exact ⟨hkeeps.flag.trans hset,
      covers_mono hkeeps.swept hkeeps.sessions hcovers⟩

theorem threadFits_free (hheld : thread.pc.heldLog = none)
    (hsweeping : thread.Sweeper →
      sys.streamShutdown = true ∧ Covers sys thread.pc) :
    ThreadFits sys tid thread := by
  refine ⟨?_, ?_, hsweeping⟩
  · intro sessionId hsome
    rw [hheld] at hsome
    cases hsome
  · intro sessionId hcleared
    rw [hcleared] at hheld
    cases hheld

theorem not_sweeper_of_call (hcall : thread.call ≠ .beginStreamShutdown) :
    ¬thread.Sweeper :=
  fun hsweeper => hcall hsweeper.1

section

variable (h : Orderly sys) {previous : Thread} {remaining : Finset SessionId}

include h

theorem Orderly.move (hthreads : sys'.threads = sys.threads.insert tid thread)
    (hself : ThreadFits sys' tid thread)
    (hothers : ∀ other current, other ≠ tid →
      sys.threads.lookup other = some current → ThreadFits sys' other current)
    (hunique : thread.Sweeper → ∀ other current, other ≠ tid →
      sys.threads.lookup other = some current → ¬current.Sweeper)
    (hflagged : sys'.swept.Nonempty → sys'.streamShutdown = true) :
    Orderly sys' := by
  refine ⟨?_, ?_, hflagged⟩
  · rw [hthreads]
    exact KeyedMap.forall_update (KeyedMap.lookup_insert_ite _ _ · _) hself hothers
  · intro first second one two hone htwo hsweepOne hsweepTwo
    rw [hthreads, KeyedMap.lookup_insert_ite] at hone htwo
    split at hone
    next hfirst =>
      cases hone
      split at htwo
      next hsecond => rw [hfirst, hsecond]
      next hne => exact absurd hsweepTwo (hunique hsweepOne second two hne htwo)
    next hfirst =>
      split at htwo
      next =>
        cases htwo
        exact absurd hsweepOne (hunique hsweepTwo first one hfirst hone)
      next => exact h.unique first second one two hone htwo hsweepOne hsweepTwo

theorem Orderly.alone (hthread : sys.threads.lookup tid = some thread)
    (hsweeper : thread.Sweeper) (other : ThreadId) (current : Thread)
    (hne : other ≠ tid) (hcurrent : sys.threads.lookup other = some current) :
    ¬current.Sweeper :=
  fun hsweeps => hne (h.unique other tid current thread hcurrent hthread
    hsweeps hsweeper)

theorem Orderly.nobody (hflag : sys.streamShutdown = false) (other : ThreadId)
    (current : Thread) (hcurrent : sys.threads.lookup other = some current) :
    ¬current.Sweeper := by
  intro hsweeps
  have hset := ((h.fits other current hcurrent).sweeping hsweeps).1
  cases hflag.symm.trans hset

section

variable (hkeeps : Unswept sys sys')
  (hthreads : sys'.threads = sys.threads.insert tid thread)
include hkeeps hthreads

theorem Orderly.control (hlocks : ∀ other current, other ≠ tid →
      sys.threads.lookup other = some current →
      ∀ sessionId, current.pc.heldLog = some sessionId →
        sys.logLocks.lookup sessionId = some other →
        sys'.logLocks.lookup sessionId = some other)
    (hself : ThreadFits sys' tid thread)
    (hunique : thread.Sweeper → ∀ other current, other ≠ tid →
      sys.threads.lookup other = some current → ¬current.Sweeper) :
    Orderly sys' := by
  refine h.move hthreads hself ?_ hunique ?_
  · intro other current hne hcurrent
    exact (h.fits other current hcurrent).mono
      (hlocks other current hne hcurrent) hkeeps
  · rw [hkeeps.swept, hkeeps.flag]
    exact h.flagged

theorem Orderly.stay (hlocks : sys'.logLocks = sys.logLocks)
    (hheld : ∀ sessionId, thread.pc.heldLog = some sessionId →
      sys.logLocks.lookup sessionId = some tid)
    (hcleared : ∀ sessionId, thread.pc = .cleared sessionId →
      sessionId ∉ sys.swept) (hidle : ¬thread.Sweeper) : Orderly sys' := by
  refine h.control hkeeps hthreads ?_ ⟨?_, ?_, (absurd · hidle)⟩
    (absurd · hidle)
  · rw [hlocks]
    exact fun _ _ _ _ _ _ hlock => hlock
  · rwa [hlocks]
  · rwa [hkeeps.swept]

theorem Orderly.idle (hlocks : sys'.logLocks = sys.logLocks)
    (hnone : thread.pc.heldLog = none) (hidle : ¬thread.Sweeper) :
    Orderly sys' := by
  have hfree : ThreadFits sys tid thread :=
    threadFits_free hnone (absurd · hidle)
  exact h.stay hkeeps hthreads hlocks hfree.holds hfree.cleared hidle

end

theorem Orderly.lock (hkeeps : Unswept sys sys')
    (hfree : sys.logLocks.lookup sessionId = none)
    (hthreads : sys'.threads = sys.threads.insert tid thread)
    (hlocks : sys'.logLocks = sys.logLocks.insert sessionId tid)
    (hheld : thread.pc.heldLog = some sessionId)
    (hcleared : ∀ sessionId, thread.pc ≠ .cleared sessionId)
    (hsweeping : thread.Sweeper →
      sys'.streamShutdown = true ∧ Covers sys' thread.pc)
    (hunique : thread.Sweeper → ∀ other current, other ≠ tid →
      sys.threads.lookup other = some current → ¬current.Sweeper) :
    Orderly sys' := by
  refine h.control hkeeps hthreads ?_
    ⟨?_, fun held hpc => absurd hpc (hcleared held), hsweeping⟩ hunique
  · intro other current _ _ held _ hlock
    rw [hlocks, KeyedMap.lookup_insert_ite]
    split
    next heq =>
      rw [heq, hfree] at hlock
      cases hlock
    next => exact hlock
  · intro held hsome
    cases hheld.symm.trans hsome
    rw [hlocks]
    exact AList.lookup_insert _

theorem Orderly.unlock (hprevious : sys.threads.lookup tid = some previous)
    (hheld : previous.pc.heldLog = some sessionId) (hkeeps : Unswept sys sys')
    (hthreads : sys'.threads = sys.threads.insert tid thread)
    (hlocks : sys'.logLocks = sys.logLocks.erase sessionId)
    (hnone : thread.pc.heldLog = none) (hidle : ¬thread.Sweeper) :
    Orderly sys' := by
  refine h.control hkeeps hthreads ?_
    (threadFits_free hnone (absurd · hidle)) (absurd · hidle)
  intro other current hne hcurrent held hother hlock
  have hdifferent : held ≠ sessionId := by
    intro heq
    rw [heq] at hother
    exact hne (h.exclusive hprevious hcurrent hheld hother)
  rwa [hlocks, KeyedMap.lookup_erase_ite, if_neg hdifferent]

theorem Orderly.sweep (hprevious : sys.threads.lookup tid = some previous)
    (hsweeper : previous.Sweeper) (hkeeps : Unswept sys sys')
    (hthreads : sys'.threads = sys.threads.insert tid thread)
    (hlocks : sys'.logLocks = sys.logLocks) (hnone : thread.pc.heldLog = none)
    (hcovers : Covers sys' thread.pc) : Orderly sys' := by
  refine h.control hkeeps hthreads ?_ (threadFits_free hnone fun _ => ?_)
    (fun _ => h.alone hprevious hsweeper)
  · rw [hlocks]
    exact fun _ _ _ _ _ _ hlock => hlock
  · have hset := ((h.fits tid previous hprevious).sweeping hsweeper).1
    exact ⟨hkeeps.flag.trans hset, hcovers⟩

/-! ### Steps -/

theorem Orderly.begin (tid : ThreadId) (call : Call) :
    Orderly (sys.begin tid call) := by
  rcases begin_cases sys tid call with ⟨hcall, pc, hheld, -, heq⟩ |
    ⟨rfl, heq⟩ | ⟨rfl, hunset, heq⟩
  · rw [heq]
    exact h.idle ⟨rfl, rfl, subset_rfl⟩ rfl rfl hheld
      (not_sweeper_of_call hcall)
  · rw [heq]
    exact h.idle ⟨rfl, rfl, subset_rfl⟩ rfl rfl rfl
      (by simp [Thread.Sweeper, Pc.sweeps])
  · rw [heq]
    refine h.move rfl (threadFits_free rfl fun _ => ?_) ?_ ?_ (fun _ => rfl)
    · exact ⟨rfl, h.swept_eq_empty hunset⟩
    · intro other current _ hcurrent
      have hfits := h.fits other current hcurrent
      exact ⟨hfits.holds, hfits.cleared, fun hsweeps =>
        absurd hsweeps (h.nobody hunset other current hcurrent)⟩
    · intro _ other current _ hcurrent
      exact h.nobody hunset other current hcurrent

theorem Orderly.create (hflagUnset : sys.streamShutdown = false)
    (hthreads : sys'.threads = sys.threads.insert tid thread)
    (hlocks : sys'.logLocks = sys.logLocks) (hswept : sys'.swept = sys.swept)
    (hflag : sys'.streamShutdown = sys.streamShutdown)
    (hheld : thread.pc.heldLog = none) (hidle : ¬thread.Sweeper) :
    Orderly sys' := by
  refine h.move hthreads (threadFits_free hheld (absurd · hidle)) ?_
    (absurd · hidle) ?_
  · intro other current _ hcurrent
    have hfits := h.fits other current hcurrent
    refine ⟨?_, ?_, ?_⟩
    · rw [hlocks]
      exact hfits.holds
    · rw [hswept]
      exact hfits.cleared
    · intro hsweeps
      exact absurd hsweeps (h.nobody hflagUnset other current hcurrent)
  · rw [hswept, hflag]
    exact h.flagged

theorem Orderly.enter (hthread : sys.threads.lookup tid = some ⟨call, .inState⟩) :
    Orderly (sys.enter tid call) := by
  rcases enter_cases sys tid call with ⟨hcall, pc, lock, hheld, heq⟩ |
    ⟨rfl, heq⟩ | ⟨_, _, _, rfl, hflag, -, heq⟩
  · rw [heq]
    exact h.idle ⟨rfl, rfl, subset_rfl⟩ rfl rfl hheld
      (not_sweeper_of_call hcall)
  · rw [heq]
    have hsweeper : (Thread.mk .beginStreamShutdown .inState).Sweeper :=
      ⟨rfl, rfl⟩
    have hswept : sys.swept = ∅ := ((h.fits tid _ hthread).sweeping hsweeper).2
    refine h.sweep hthread hsweeper ⟨rfl, rfl, subset_rfl⟩ rfl rfl rfl
      ⟨?_, Finset.subset_union_left⟩
    change Disjoint _ sys.swept
    rw [hswept]
    exact Finset.disjoint_empty_right _
  · rw [heq]
    exact h.create hflag rfl rfl rfl rfl rfl (not_sweeper_of_call (by simp))

theorem Orderly.sweepLock (hthread : sys.threads.lookup tid =
      some ⟨.beginStreamShutdown, .sweeping remaining⟩)
    (hmem : sessionId ∈ remaining)
    (hfree : sys.logLocks.lookup sessionId = none) :
    Orderly ({ sys with
      logLocks := sys.logLocks.insert sessionId tid }.setPc tid
        .beginStreamShutdown
        (.sweepingLog sessionId (remaining.erase sessionId))) := by
  have hsweeper :
      (Thread.mk .beginStreamShutdown (.sweeping remaining)).Sweeper :=
    ⟨rfl, rfl⟩
  obtain ⟨hset, hdisjoint, hsessions⟩ :=
    (h.fits tid _ hthread).sweeping hsweeper
  refine h.lock ⟨rfl, rfl, subset_rfl⟩ hfree rfl rfl rfl nofun (fun _ => ?_)
    (fun _ => h.alone hthread hsweeper)
  refine ⟨hset, Finset.notMem_erase _ _, ?_, ?_⟩
  · rwa [Finset.insert_erase hmem]
  · rwa [Finset.insert_erase hmem]

theorem Orderly.sweepSend (log : SessionLog) (hthread : sys.threads.lookup tid =
      some ⟨.beginStreamShutdown, .sweepingLog sessionId remaining⟩) :
    Orderly (sys.sweepSend tid sessionId remaining log) := by
  have hsweeper : (Thread.mk .beginStreamShutdown
      (.sweepingLog sessionId remaining)).Sweeper := ⟨rfl, rfl⟩
  obtain ⟨hset, hnot, hdisjoint, hsessions⟩ :=
    (h.fits tid _ hthread).sweeping hsweeper
  have halone := h.alone hthread hsweeper
  refine h.move rfl (threadFits_free rfl fun _ => ⟨hset, ?_, ?_⟩) ?_
    (fun _ => halone) (fun _ => hset)
  · exact Finset.disjoint_insert_right.mpr
      ⟨hnot, (Finset.disjoint_insert_left.mp hdisjoint).2⟩
  · intro key hkey
    have hcover := hsessions hkey
    simp only [Finset.mem_union, Finset.mem_insert] at hcover
    change key ∈ remaining ∪ insert sessionId sys.swept
    simp only [Finset.mem_union, Finset.mem_insert]
    tauto
  · intro other current hne hcurrent
    have hfits := h.fits other current hcurrent
    have hdifferent : ∀ held, current.pc.heldLog = some held →
        held ≠ sessionId := by
      intro held hheld heq
      rw [heq] at hheld
      exact hne (h.exclusive hthread hcurrent rfl hheld)
    refine ⟨?_, ?_, fun hsweeps => absurd hsweeps (halone _ _ hne hcurrent)⟩
    · intro held hheld
      change (sys.logLocks.erase sessionId).lookup held = some other
      rw [KeyedMap.lookup_erase_ite, if_neg (hdifferent held hheld)]
      exact hfits.holds held hheld
    · intro held hcleared
      have hheld : current.pc.heldLog = some held := by
        rw [hcleared]
        rfl
      change held ∉ insert sessionId sys.swept
      rw [Finset.mem_insert, not_or]
      exact ⟨hdifferent held hheld, hfits.cleared held hcleared⟩

theorem Orderly.frame (hkeeps : Unswept sys sys')
    (hthreads : sys'.threads = sys.threads)
    (hlocks : sys'.logLocks = sys.logLocks) : Orderly sys' := by
  refine ⟨?_, ?_, ?_⟩
  · intro other current hcurrent
    rw [hthreads] at hcurrent
    refine (h.fits other current hcurrent).mono ?_ hkeeps
    rw [hlocks]
    exact fun _ _ hlock => hlock
  · rw [hthreads]
    exact h.unique
  · rw [hkeeps.swept, hkeeps.flag]
    exact h.flagged

theorem Orderly.polled (receiver : ReceiverId) (subscriber : Subscriber)
    (outcome : NextOutcome) :
    Orderly (sys.polled receiver subscriber outcome) := by
  unfold System.polled
  split
  next => split <;> exact h.frame ⟨rfl, rfl, subset_rfl⟩ rfl rfl
  next => exact h.frame ⟨rfl, rfl, subset_rfl⟩ rfl rfl
  next => exact h

end

theorem Step.orderly (hstep : Step sys label sys') (h : Orderly sys) :
    Orderly sys' := by
  cases hstep with
  | invoke _ =>
    exact h.idle ⟨rfl, rfl, subset_rfl⟩ rfl rfl rfl
      (by simp [Thread.Sweeper, Pc.sweeps])
  | begin _ => exact h.begin _ _
  | lockState hthread _ =>
    have hfits := h.fits _ _ hthread
    refine h.control ⟨rfl, rfl, subset_rfl⟩ rfl
      (fun _ _ _ _ _ _ hlock => hlock) (threadFits_free rfl ?_) ?_
    · intro hsweeper
      exact hfits.sweeping ⟨hsweeper.1, rfl⟩
    · intro hsweeper
      exact h.alone hthread ⟨hsweeper.1, rfl⟩
  | enter hthread => exact h.enter hthread
  | lockLog _ hfree =>
    exact h.lock ⟨rfl, rfl, subset_rfl⟩ hfree rfl rfl rfl nofun
      (fun hsweeper => nomatch hsweeper.2) (fun hsweeper => nomatch hsweeper.2)
  | dropState hthread _ =>
    exact h.stay ⟨rfl, rfl, subset_rfl⟩ rfl rfl (h.fits _ _ hthread).holds
      nofun (fun hsweeper => nomatch hsweeper.2)
  | recheck hthread _ =>
    unfold System.recheck
    split
    next =>
      exact h.unlock hthread rfl ⟨rfl, rfl, subset_rfl⟩ rfl rfl rfl
        (by simp [Thread.Sweeper, Pc.sweeps])
    next hflag =>
      have hempty := h.swept_eq_empty (by simpa using hflag)
      refine h.stay ⟨rfl, rfl, subset_rfl⟩ rfl rfl (h.fits _ _ hthread).holds
        (fun held _ => ?_) (fun hsweeper => nomatch hsweeper.2)
      rw [hempty]
      exact Finset.notMem_empty held
  | append hthread _ | endSession hthread _ =>
    exact h.unlock hthread rfl ⟨rfl, rfl, subset_rfl⟩ rfl rfl rfl
      (not_sweeper_of_call (by simp))
  | subscribe hthread _ =>
    unfold System.commitSubscribe
    split <;> exact h.unlock hthread rfl ⟨rfl, rfl, subset_rfl⟩ rfl rfl rfl
      (not_sweeper_of_call (by simp))
  | deleteEnded hthread _ =>
    unfold System.commitDelete
    split
    next =>
      exact h.unlock hthread rfl ⟨rfl, rfl, subset_rfl⟩ rfl rfl rfl
        (not_sweeper_of_call (by simp))
    next =>
      exact h.unlock hthread rfl ⟨rfl, rfl, Finset.erase_subset _ _⟩ rfl rfl
        rfl (not_sweeper_of_call (by simp))
  | sweepLock hthread hmem hfree => exact h.sweepLock hthread hmem hfree
  | sweepSend hthread _ => exact h.sweepSend _ hthread
  | sweepDone hthread =>
    have hsweeper : (Thread.mk .beginStreamShutdown (.sweeping ∅)).Sweeper :=
      ⟨rfl, rfl⟩
    obtain ⟨-, -, hsessions⟩ := (h.fits _ _ hthread).sweeping hsweeper
    rw [Finset.empty_union] at hsessions
    exact h.sweep hthread hsweeper ⟨rfl, rfl, subset_rfl⟩ rfl rfl rfl hsessions
  | next _ _ _ | wake _ _ _ => exact h.polled _ _ _
  | _ => exact h.frame ⟨rfl, rfl, subset_rfl⟩ rfl rfl

end

end DeviceRail.StreamSystem
