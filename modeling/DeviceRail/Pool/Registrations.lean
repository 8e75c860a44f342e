import DeviceRail.Pool.Release

/-!
# Calls of earlier registrations

A device may be removed and registered again while calls wait.  A call takes
up a registration when it looks up a gate, or carries its token; from then on
it works on that registration or on none.  `release` finds the device of its
lease before it looks up a gate, and what it may still do to a registration
made in between is said on its own.
-/

namespace DeviceRail

open Transition

/-- The registration whose token a call carries. -/
def PoolRequest.token? : PoolRequest → Option (DeviceId × GateId)
  | .recordHealth registration _ _ =>
    some (registration.deviceId, registration.gate)
  | _ => none

namespace PoolSystem

/-- The registrations a call has taken up: the one whose token it carries, or
those whose gates it has looked up. -/
def Task.registrations (task : Task) : List (DeviceId × GateId) :=
  match task.request.token? with
  | some registration => [registration]
  | none => task.phase.targets

/-- The call is past its lookups. -/
def Phase.started : Phase → Bool
  | .ready | .located _ | .clocked _ => false
  | _ => true

variable {phase : Phase} {task : Task} {deviceId : DeviceId} {tid : TaskId}
  {leaseId : LeaseId} {gate : GateId}

theorem started_ne_ready (h : phase.started = true) : phase ≠ .ready := by
  rintro rfl
  cases h

theorem started_ne_located (h : phase.started = true)
    (deviceId : DeviceId) : phase ≠ .located deviceId := by
  rintro rfl
  cases h

/-- The call carries a token or is past its lookups. -/
def Task.Started (task : Task) : Prop :=
  task.request.token? ≠ none ∨ task.phase.started = true

/-- What a call has got so far: the leases a sweep has taken, an access guard,
or an answer that is no error. -/
def Phase.gains : Phase → List PoolReply
  | .waiting _ _ taken => taken.map .lease
  | .locked _ _ taken _ => taken.map .lease
  | .holding _ _ => [.access]
  | .finished (.error _) => []
  | .finished (.leases values) => values.map .lease
  | .finished reply => [reply]
  | _ => []

/-- The call is about to do its work on a registration. -/
inductive Task.WorksOn (task : Task) (deviceId : DeviceId) (gate : GateId) :
    Prop
  | token (h : task.request.token? = some (deviceId, gate))
  | locked {rest taken reading} (hplain : task.request.token? = none)
      (h : task.phase = .locked (deviceId, gate) rest taken reading)

theorem Task.WorksOn.mem (h : task.WorksOn deviceId gate) :
    (deviceId, gate) ∈ task.registrations := by
  cases h with
  | token h => simp [Task.registrations, h]
  | locked hplain h => simp [Task.registrations, hplain, h, Phase.targets]

variable {sys sys' : System} {label : Label} {record : PoolRecord}
  {labels : List Label}

theorem Sound.record_kept (h : Sound sys) (hmove : Move sys label sys')
    (hlookup : sys.state.devices.lookup deviceId = some record)
    (hother : ∀ tid candidate task, label = .commit tid candidate →
      sys.tasks.lookup tid = some task →
      ¬task.WorksOn deviceId record.gate) :
    sys'.state.devices.lookup deviceId = some record := by
  cases h.touch hmove hlookup with
  | same hsame => exact hsame
  | health hlabel htask hafter =>
    exact absurd (.token rfl) (hother _ _ _ hlabel htask)
  | @work tid candidate task rest taken reading now hlabel htask hphase hnow
      hafter _ _ =>
      have hnot := hother _ _ _ hlabel htask
      obtain ⟨request, phase⟩ := task
      cases htoken : request.token? with
      | none => exact absurd (.locked htoken hphase) hnot
      | some registration =>
        cases request <;> cases htoken
        exact hafter

/-- How a call goes on: with the registrations it has taken up, and with gains
only from work on a current one. -/
structure Progress (sys : System) (task task' : Task) : Prop where
  request : task'.request = task.request
  started : task.Started → task'.Started
  registrations : task.Started → task'.registrations ⊆ task.registrations
  gains : task.Started → ∀ gain ∈ task'.phase.gains,
    gain ∈ task.phase.gains ∨ ∃ deviceId record,
      sys.state.devices.lookup deviceId = some record ∧
        task.WorksOn deviceId record.gate

theorem Progress.refl (task : Task) : Progress sys task task :=
  ⟨rfl, id, fun _ => List.Subset.refl _, fun _ _ hgain => .inl hgain⟩

/-- A change of phase that takes up no new registration and gains nothing. -/
theorem Progress.of_phase
    (htargets : task.phase.started = true → phase.started = true ∧
      phase.targets ⊆ task.phase.targets)
    (hgains : ∀ gain ∈ phase.gains, gain ∈ task.phase.gains ∨
      ∃ deviceId record, sys.state.devices.lookup deviceId = some record ∧
        task.WorksOn deviceId record.gate) :
    Progress sys task ⟨task.request, phase⟩ := by
  refine ⟨rfl, fun hstarted => hstarted.imp id fun h => (htargets h).1,
    fun hstarted => ?_, fun _ => hgains⟩
  unfold Task.registrations
  cases htoken : task.request.token? with
  | some registration => exact List.Subset.refl _
  | none => exact (htargets (hstarted.resolve_left (absurd htoken))).2

theorem resume_gains (rest : List (DeviceId × GateId))
    (taken : List DeviceLease) :
    (resume rest taken).gains = taken.map .lease := by
  cases rest <;> rfl

theorem Quiet.gains (h : Quiet sys task phase) :
    phase.gains ⊆ task.phase.gains := by
  cases h.turn with
  | lists =>
    rw [resume_gains]
    exact List.nil_subset _
  | reads hphase =>
    rw [hphase]
    exact List.Subset.refl _
  | _ => exact List.nil_subset _

theorem Quiet.targets (h : Quiet sys task phase)
    (hstarted : task.phase.started = true) :
    phase.started = true ∧ phase.targets ⊆ task.phase.targets := by
  cases h.turn with
  | failed | dropped => exact ⟨rfl, List.nil_subset _⟩
  | located _ hready | clocked hready =>
    exact absurd hready (started_ne_ready hstarted)
  | waits hbefore =>
    rcases hbefore with ⟨hready, -⟩ | hlocated
    · exact absurd hready (started_ne_ready hstarted)
    · exact absurd hlocated (started_ne_located hstarted _)
  | lists hswept =>
    rcases (swept_cases hswept).2 with hready | ⟨now, hclocked⟩
    · exact absurd hready (started_ne_ready hstarted)
    · rw [hclocked] at hstarted
      cases hstarted
  | reads hphase =>
    rw [hphase]
    exact ⟨rfl, List.Subset.refl _⟩

section

variable (request : PoolRequest) (target : DeviceId × GateId)
  (rest : List (DeviceId × GateId)) (taken : List DeviceLease)

theorem answered_started (reply : PoolReply) :
    (answered request target rest taken reply).started = true := by
  unfold answered
  split
  next =>
    split
    next => cases rest <;> rfl
    next => rfl
  next => rfl
  next => rfl

theorem answered_refused_gains (error : DevicePoolError) :
    (answered request target rest taken (request.refused error)).gains ⊆
      taken.map .lease := by
  unfold PoolRequest.refused
  split
  next hsweeps =>
    simp only [answered, hsweeps, if_true, List.append_nil, resume_gains]
    exact List.Subset.refl _
  next => exact List.nil_subset _

end

theorem Sound.progress (h : Sound sys) (hmove : Move sys label sys')
    (htask : sys.tasks.lookup tid = some task) :
    ∃ task', sys'.tasks.lookup tid = some task' ∧ Progress sys task task' := by
  obtain ⟨task', htask', rfl | hgoes⟩ := h.goes hmove htask
  · exact ⟨task', htask', .refl task'⟩
  refine ⟨task', htask', ?_⟩
  have hidle : ∀ request before phase, Phase.started before = false →
      PoolRequest.token? request = none →
      Progress sys ⟨request, before⟩ ⟨request, phase⟩ := by
    intro request before phase hbefore htoken
    have hnot : ¬(Task.mk request before).Started :=
      not_or.mpr ⟨not_not.mpr htoken, by simp [hbefore]⟩
    exact ⟨rfl, fun hstarted => absurd hstarted hnot,
      fun hstarted => absurd hstarted hnot, fun hstarted => absurd hstarted hnot⟩
  cases hgoes with
  | quiet hquiet =>
    exact .of_phase hquiet.targets fun gain hgain => .inl (hquiet.gains hgain)
  | lock hphase =>
    refine .of_phase ?_ ?_
    · rw [hphase]
      exact fun _ => ⟨rfl, List.Subset.refl _⟩
    · rw [hphase]
      exact fun gain hgain => .inl hgain
  | register | entries => exact hidle _ _ _ rfl rfl
  | health registration health nowMs now =>
    refine .of_phase (fun hstarted => nomatch hstarted) fun gain hgain => ?_
    rcases sys.state.recordHealth_cases registration health now nowMs with
      ⟨error, herror⟩ | ⟨record, hrecord, hgate, -, -⟩
    · rw [herror] at hgain
      cases hgain
    · exact .inr ⟨_, record, hrecord, .token (by rw [hgate]; rfl)⟩
  | @work _ target rest taken reading now candidate reply _ hphase _ hrun =>
    refine .of_phase ?_ fun gain hgain => ?_
    · rw [hphase]
      exact fun _ => ⟨answered_started _ _ _ _ _, (answered_targets ..).1⟩
    · rcases h.indexed.atGate_cases hrun with
        ⟨error, -, houtcome⟩ | ⟨record, after, hlookup, hgate, -, -⟩
      · obtain ⟨rfl, -⟩ := Prod.mk.inj (Option.some.inj houtcome)
        rw [hphase]
        exact .inl (answered_refused_gains _ _ _ _ _ hgain)
      · refine .inr ⟨target.1, record, hlookup, .locked ?_ (by rw [hphase, hgate])⟩
        cases hrequest : task.request <;> rw [hrequest] at hrun <;>
          first | rfl | cases hrun

/-- The registrations a call has taken up are the only ones it has in any
later state. -/
theorem Sound.registrations_run (h : Sound sys)
    (hrun : Run Step sys labels sys')
    (htask : sys.tasks.lookup tid = some task) (hstarted : task.Started) :
    Sound sys' ∧ ∃ task', sys'.tasks.lookup tid = some task' ∧
      task'.Started ∧ task'.registrations ⊆ task.registrations := by
  refine hrun.invariant (I := fun sys => Sound sys ∧ ∃ task',
    sys.tasks.lookup tid = some task' ∧ task'.Started ∧
      task'.registrations ⊆ task.registrations) ?_
    ⟨h, task, htask, hstarted, List.Subset.refl _⟩
  rintro before label after ⟨hsound, task₁, htask₁, hstarted₁, hsub⟩ hstep
  have hmove := move_of_step hstep
  obtain ⟨task₂, htask₂, hprogress⟩ := hsound.progress hmove htask₁
  exact ⟨hsound.move hmove, task₂, htask₂, hprogress.started hstarted₁,
    List.Subset.trans (hprogress.registrations hstarted₁) hsub⟩

/-! ## A release between its lookups -/

/-- No registration from a gate on has the lease. -/
def Spared (gate : GateId) (leaseId : LeaseId) (sys : System) : Prop :=
  ∀ deviceId record lease, sys.state.devices.lookup deviceId = some record →
    gate ≤ record.gate → record.lease = some lease → lease.value.id ≠ leaseId

/-- A lease that was issued is not issued again on a later registration. -/
theorem Spared.move {device : DeviceId} {owner : LeaseOwnerId}
    (h : Spared gate leaseId sys) (hsound : Sound sys)
    (hissued : Issued sys leaseId device owner) (hfresh : FreshIds sys label)
    (hmove : Move sys label sys') : Spared gate leaseId sys' := by
  intro deviceId record' lease' hlookup' hlater hlease'
  obtain ⟨record, hlookup, hgate, ⟨lease, hlease, hid, -⟩ |
    ⟨tid, nowMs, _, _, _, hlabel, htask, -⟩⟩ :=
    hsound.lease_before hmove hlookup' hlease'
  · rw [hid]
    exact h deviceId record lease hlookup (hgate ▸ hlater) hlease
  · rintro rfl
    exact hfresh tid _ _ deviceId _ nowMs hlabel htask rfl device owner hissued

/-- A release past its first lookup goes for one device. -/
structure Task.Releases (task : Task) (leaseId : LeaseId) (deviceId : DeviceId) :
    Prop where
  request : ∃ ownerId nowMs, task.request = .release leaseId ownerId nowMs
  ready : task.phase ≠ .ready
  located : ∀ other, task.phase = .located other → other = deviceId
  targets : ∀ target ∈ task.phase.targets, target.1 = deviceId

theorem Quiet.releases (h : Quiet sys task phase)
    (hreleases : task.Releases leaseId deviceId) :
    Task.Releases ⟨task.request, phase⟩ leaseId deviceId := by
  obtain ⟨⟨ownerId, nowMs, hrequest⟩, hready, hlocated, htargets⟩ := hreleases
  suffices hgoes : phase ≠ .ready ∧
      (∀ other, phase = .located other → other = deviceId) ∧
      ∀ target ∈ phase.targets, target.1 = deviceId from
    ⟨⟨ownerId, nowMs, hrequest⟩, hgoes.1, hgoes.2.1, hgoes.2.2⟩
  cases h.turn with
  | failed | dropped => exact ⟨by simp, by simp, by simp [Phase.targets]⟩
  | located _ hbefore | clocked hbefore => exact absurd hbefore hready
  | waits hbefore =>
    rcases hbefore with ⟨hbefore, -⟩ | hbefore
    · exact absurd hbefore hready
    · obtain rfl := hlocated _ hbefore
      exact ⟨by simp, by simp, by simp [Phase.targets]⟩
  | lists hswept => simp [swept, hrequest] at hswept
  | reads hphase =>
    rw [hphase] at htargets
    exact ⟨by simp, by simp, htargets⟩

theorem Task.Releases.move (h : task.Releases leaseId deviceId)
    (hsound : Sound sys) (htask : sys.tasks.lookup tid = some task)
    (hmove : Move sys label sys') :
    ∃ task', sys'.tasks.lookup tid = some task' ∧
      task'.Releases leaseId deviceId := by
  obtain ⟨task', htask', rfl | hgoes⟩ := hsound.goes hmove htask
  · exact ⟨task', htask', h⟩
  refine ⟨task', htask', ?_⟩
  obtain ⟨ownerId, nowMs, hrequest⟩ := h.request
  have htargets := h.targets
  cases hgoes with
  | quiet hquiet => exact hquiet.releases h
  | lock hphase =>
    rw [hphase] at htargets
    exact ⟨h.request, by simp, by simp, htargets⟩
  | register | health | entries => cases hrequest
  | @work _ target rest taken _ _ _ reply _ hphase _ _ =>
    have hstarted := answered_started task.request target rest taken reply
    refine ⟨h.request, started_ne_ready hstarted, ?_, fun target' hmem => ?_⟩
    · exact fun other heq => absurd heq (started_ne_located hstarted other)
    · rw [hphase] at htargets
      exact htargets target' ((answered_targets _ _ _ _ _).1 hmem)

/-- A release whose lease is not on the record fails there, and takes at most
an expired lease. -/
theorem release_of_ne (ownerId : LeaseOwnerId) {now clock : ℕ}
    (hnow : now ≤ clock)
    (hne : ∀ lease, record.lease = some lease → lease.value.id ≠ leaseId) :
    (∃ error, (record.release leaseId ownerId now).1 = .error error) ∧
      ((record.release leaseId ownerId now).2 = record ∨
        (record.release leaseId ownerId now).2 = record.expire clock) := by
  unfold PoolRecord.release
  split
  next => exact ⟨⟨_, rfl⟩, .inl rfl⟩
  next lease hlease =>
    split
    next hpast =>
      have hdue : ¬clock < lease.deadline := by omega
      simp [PoolRecord.expire, PoolRecord.withLease, hlease, Option.filter, hdue]
    next =>
      rw [if_pos (.inl (hne lease hlease))]
      exact ⟨⟨_, rfl⟩, .inl rfl⟩

theorem accounted_of_run {config : DevicePoolConfig}
    (hrun : Run (Guarded FreshIds Step)
      (System.new config) labels sys) : Sound sys ∧ Accounted sys := by
  refine hrun.invariant (I := fun sys => Sound sys ∧ Accounted sys) ?_
    ⟨sound_new config, accounted_new config⟩
  rintro before label after ⟨hsound, haccounted⟩ ⟨hfresh, hstep⟩
  have hmove := move_of_step hstep
  exact ⟨hsound.move hmove, haccounted.move hsound hfresh hmove⟩

theorem Accounted.issued_of_lookup (h : Accounted sys) (hsound : Sound sys)
    {ownerId : LeaseOwnerId} {nowMs : ℕ}
    (htask : sys.tasks.lookup tid = some ⟨.release leaseId ownerId nowMs, .ready⟩)
    (hstep : Step sys (.lookup tid) sys') (htask' : sys'.tasks.lookup tid =
      some ⟨.release leaseId ownerId nowMs, .located deviceId⟩) :
    (∃ owner, Issued sys leaseId deviceId owner) ∧
      sys'.state = sys.state ∧ sys'.nextGate = sys.nextGate := by
  obtain ⟨task, hfound, hmap⟩ := Option.bind_eq_some_iff.mp hstep
  cases htask.symm.trans hfound
  obtain ⟨phase, hphase, rfl⟩ := Option.map_eq_some_iff.mp hmap
  have hset : (sys.setPhase tid ⟨.release leaseId ownerId nowMs, .ready⟩
      phase).tasks.lookup tid = some ⟨.release leaseId ownerId nowMs, phase⟩ :=
    (lookup_setTask ..).trans (if_pos rfl)
  cases htask'.symm.trans hset
  simp only [lookupPhase] at hphase
  split at hphase
  next => cases hphase
  next device hdevice =>
    cases hphase
    obtain ⟨lease, hlease, rfl⟩ := (hsound.indexed.located _ _).mp hdevice
    exact ⟨⟨_, h.stored _ lease hlease⟩, rfl, rfl⟩

section

variable (h : Sound sys) (hmove : Move sys label sys')
  (htask : sys.tasks.lookup tid = some task)
  (hreleases : task.Releases leaseId deviceId)
  (hlookup : sys.state.devices.lookup deviceId = some record)
  (hne : ∀ lease, record.lease = some lease → lease.value.id ≠ leaseId)
include h hmove htask hreleases hlookup hne

/-- What a release does to a registration that does not have its lease. -/
theorem Sound.release_record (hlabel : label.task? = some tid) :
    sys'.state.devices.lookup deviceId = some record ∨
      sys'.state.devices.lookup deviceId = some (record.expire sys.clock) := by
  obtain ⟨ownerId, nowMs, hrequest⟩ := hreleases.request
  cases h.touch hmove hlookup with
  | same hsame => exact .inl hsame
  | health hcommit hfound hafter =>
    rw [hcommit] at hlabel
    cases hlabel
    rw [htask] at hfound
    cases hfound
    cases hrequest
  | @work other candidate found rest taken reading now hcommit hfound hphase
      hnow hafter _ _ =>
      rw [hcommit] at hlabel
      cases hlabel
      rw [htask] at hfound
      cases hfound
      rw [hrequest, PoolRecord.atGate_release] at hafter
      have hle := h.reads_le htask hphase hnow
      obtain ⟨-, hcases⟩ := release_of_ne ownerId hle hne
      exact hcases.imp (fun hsame => by rw [hafter, hsame])
        (fun hexpired => by rw [hafter, hexpired])

/-- A release gains nothing from a registration that does not have its
lease. -/
theorem Sound.release_gains :
    ∃ task', sys'.tasks.lookup tid = some task' ∧
      task'.phase.gains ⊆ task.phase.gains := by
  obtain ⟨ownerId, nowMs, hrequest⟩ := hreleases.request
  obtain ⟨task', htask', rfl | hgoes⟩ := h.goes hmove htask
  · exact ⟨task', htask', List.Subset.refl _⟩
  refine ⟨task', htask', ?_⟩
  cases hgoes with
  | quiet hquiet => exact hquiet.gains
  | lock hphase =>
    rw [hphase]
    exact List.Subset.refl _
  | register | health | entries => cases hrequest
  | @work _ target rest taken reading now candidate reply _ hphase _ hrun =>
    rcases h.indexed.atGate_cases hrun with
      ⟨error, -, houtcome⟩ | ⟨record', after, hlookup', hgate, houtcome, -⟩
    · obtain ⟨rfl, -⟩ := Prod.mk.inj (Option.some.inj houtcome)
      rw [hphase]
      exact answered_refused_gains _ _ _ _ _
    · have hdevice : target.1 = deviceId :=
        hreleases.targets target (by rw [hphase]; exact List.mem_cons_self ..)
      rw [hdevice, hlookup] at hlookup'
      cases hlookup'
      obtain ⟨rfl, -⟩ := Prod.mk.inj (Option.some.inj houtcome)
      obtain ⟨⟨error, herror⟩, -⟩ := release_of_ne ownerId (le_refl now) hne
      rw [hrequest, PoolRecord.atGate_release, herror]
      exact List.nil_subset _

end

/-! ## Earlier and later registrations -/

/-- From the state on, a call that has taken up registrations changes the
record of no other registration and gains nothing from one. -/
def KeptApart (sys₁ : System) : Prop :=
  ∀ sys₂ sys₃ labels label tid task, sys₁.tasks.lookup tid = some task →
    task.Started → Run Step sys₁ labels sys₂ →
    Step sys₂ label sys₃ → label.task? = some tid →
    ∀ deviceId record, sys₂.state.devices.lookup deviceId = some record →
    (deviceId, record.gate) ∉ task.registrations →
    sys₃.state.devices.lookup deviceId = some record ∧
      ∃ task₂ task₃, sys₂.tasks.lookup tid = some task₂ ∧
        sys₃.tasks.lookup tid = some task₃ ∧
        ∀ gain ∈ task₃.phase.gains, gain ∈ task₂.phase.gains ∨
          ∃ other current, other ≠ deviceId ∧
            sys₂.state.devices.lookup other = some current ∧
            task₂.WorksOn other current.gate

theorem Sound.keptApart (h : Sound sys) : KeptApart sys := by
  intro sys₂ sys₃ labels label tid task htask hstarted hrun hstep hlabel deviceId
    record hlookup hnot
  obtain ⟨hsound, task₂, htask₂, hstarted₂, hsub⟩ :=
    h.registrations_run hrun htask hstarted
  have hmove := move_of_step hstep
  have hother : ∀ deviceId gate, task₂.WorksOn deviceId gate →
      (deviceId, gate) ∈ task.registrations := fun _ _ hworks => hsub hworks.mem
  obtain ⟨task₃, htask₃, hprogress⟩ := hsound.progress hmove htask₂
  refine ⟨hsound.record_kept hmove hlookup ?_, task₂, task₃, htask₂, htask₃, ?_⟩
  · rintro other candidate found rfl hfound hworks
    cases hlabel
    cases htask₂.symm.trans hfound
    exact hnot (hother _ _ hworks)
  · intro gain hgain
    rcases hprogress.gains hstarted₂ gain hgain with
      hbefore | ⟨other, current, hcurrent, hworks⟩
    · exact .inl hbefore
    · refine .inr ⟨other, current, ?_, hcurrent, hworks⟩
      rintro rfl
      cases hlookup.symm.trans hcurrent
      exact hnot (hother _ _ hworks)

/-- A release that found its lease while an earlier registration was current
gains nothing from a later one, and takes at most an expired lease there. -/
def ReleaseKeptApart (config : DevicePoolConfig) : Prop :=
  ∀ sys₀ sys₁ sys₂ sys₃ labels labels' label tid leaseId ownerId nowMs deviceId
    record,
    Run (Guarded FreshIds Step) (System.new config) labels sys₀ →
    sys₀.tasks.lookup tid = some ⟨.release leaseId ownerId nowMs, .ready⟩ →
    Step sys₀ (.lookup tid) sys₁ →
    sys₁.tasks.lookup tid =
      some ⟨.release leaseId ownerId nowMs, .located deviceId⟩ →
    Run (Guarded FreshIds Step) sys₁ labels' sys₂ →
    sys₂.state.devices.lookup deviceId = some record →
    sys₀.nextGate ≤ record.gate →
    Step sys₂ label sys₃ → label.task? = some tid →
    (sys₃.state.devices.lookup deviceId = some record ∨
        sys₃.state.devices.lookup deviceId = some (record.expire sys₂.clock)) ∧
      ∃ task₂ task₃, sys₂.tasks.lookup tid = some task₂ ∧
        sys₃.tasks.lookup tid = some task₃ ∧
        task₃.phase.gains ⊆ task₂.phase.gains

theorem releaseKeptApart (config : DevicePoolConfig) :
    ReleaseKeptApart config := by
  intro sys₀ sys₁ sys₂ sys₃ _ _ _ tid leaseId ownerId nowMs deviceId record
    hbefore htask₀ hstep₀ htask₁ hrun hlookup hlater hstep hlabel
  obtain ⟨hsound₀, haccounted⟩ := accounted_of_run hbefore
  have hmove₀ := move_of_step hstep₀
  obtain ⟨⟨owner, hissued⟩, hstate, hgates⟩ :=
    haccounted.issued_of_lookup hsound₀ htask₀ hstep₀ htask₁
  have hspared : Spared sys₀.nextGate leaseId sys₁ := by
    intro device record' lease hrecord hle _
    rw [hstate] at hrecord
    exact absurd (hsound₀.gate_lt device record' hrecord) (Nat.not_lt.mpr hle)
  have hreleases : Task.Releases
      ⟨.release leaseId ownerId nowMs, .located deviceId⟩ leaseId deviceId :=
    ⟨⟨_, _, rfl⟩, by simp, by simp, by simp [Phase.targets]⟩
  obtain ⟨hsound₂, -, hspared₂, task₂, htask₂, hreleases₂⟩ :
      Sound sys₂ ∧ Issued sys₂ leaseId deviceId owner ∧
        Spared sys₀.nextGate leaseId sys₂ ∧ ∃ task₂,
          sys₂.tasks.lookup tid = some task₂ ∧
            task₂.Releases leaseId deviceId := by
    refine hrun.invariant (I := fun sys => Sound sys ∧
      Issued sys leaseId deviceId owner ∧ Spared sys₀.nextGate leaseId sys ∧
        ∃ task, sys.tasks.lookup tid = some task ∧
          task.Releases leaseId deviceId) ?_
      ⟨hsound₀.move hmove₀, hissued.move hsound₀ hmove₀, hspared, _, htask₁,
        hreleases⟩
    rintro before label after ⟨hsound, hissued, hspared, task, htask, hreleases⟩
      ⟨hfresh, hstep⟩
    have hmove := move_of_step hstep
    exact ⟨hsound.move hmove, hissued.move hsound hmove,
      hspared.move hsound hissued hfresh hmove,
      hreleases.move hsound htask hmove⟩
  have hmove := move_of_step hstep
  have hne := fun lease hlease =>
    hspared₂ deviceId record lease hlookup hlater hlease
  obtain ⟨task₃, htask₃, hgains⟩ :=
    hsound₂.release_gains hmove htask₂ hreleases₂ hlookup hne
  exact ⟨hsound₂.release_record hmove htask₂ hreleases₂ hlookup hne hlabel,
    task₂, task₃, htask₂, htask₃, hgains⟩

def secondLease : LeaseId := ⟨⟨12⟩⟩

/-- A release finds its lease; then the lease is given back. -/
def locatedSchedule : List Label :=
  leasedSchedule ++
    [.call 3 (.release firstLease alice 7), .lookup 3,
      .call 4 (.release firstLease alice 8), .lookup 4, .lookup 4, .lock 4,
      .clock 4, .commit 4 firstLease]

/-- The device is registered again, leased, and the lease expires. -/
def reregisteredSchedule : List Label :=
  [.call 5 (.remove phone 9), .lookup 5, .lock 5, .clock 5,
    .commit 5 firstLease, .call 6 (.register phone), .commit 6 firstLease,
    .call 7 (.recordHealth ⟨phone, 1⟩ (.healthy 10) 10), .clock 7,
    .commit 7 firstLease, .call 8 (.acquire phone bob 11), .lookup 8, .lock 8,
    .clock 8, .commit 8 secondLease, .tick (fromMillis 300000), .lookup 3,
    .lock 3, .clock 3]

/-- A release that found its lease on an earlier registration takes an expired
lease off a later one. -/
theorem release_takes_expired_later_lease :
    ∃ sys₁ sys₂ sys₃ lease,
      (System.new .default).runLabels locatedSchedule = some sys₁ ∧
      (sys₁.tasks.lookup 3).map Task.phase = some (.located phone) ∧
      (sys₁.state.devices.lookup phone).map PoolRecord.gate = some 0 ∧
      sys₁.runLabels reregisteredSchedule = some sys₂ ∧
      (sys₂.state.devices.lookup phone).map PoolRecord.gate = some 1 ∧
      sys₂.state.leaseOf phone = some lease ∧ lease.value.id = secondLease ∧
      Step sys₂ (.commit 3 firstLease) sys₃ ∧
      sys₃.state.leaseOf phone = none := by
  simp only [Step, @exists_comm System LeaseRecord, exists_and_left]
  decide +kernel

end PoolSystem

end DeviceRail
