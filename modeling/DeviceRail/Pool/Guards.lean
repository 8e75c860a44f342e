import DeviceRail.Pool.Runs

/-!
# Access guards

While a guard is alive its task holds the gate of the registration in shared
mode, so that everything that takes the gate in exclusive mode waits.  The
lease of the registration can then only expire or be renewed.  A second access
path, `accessAvailableTo`, also takes the gate in shared mode: it lets another
owner in as soon as the deadline of the lease has passed.
-/

namespace DeviceRail

namespace PoolRequest

/-- The owner a call acts for. -/
def owner? : PoolRequest → Option LeaseOwnerId
  | .acquire _ ownerId _ | .accessWithLease _ _ ownerId _ _
  | .accessAvailableTo _ ownerId _ | .release _ ownerId _
  | .releaseOwner ownerId _ => some ownerId
  | _ => none

end PoolRequest

variable {record : PoolRecord} {now : ℕ} {ownerId : LeaseOwnerId}
  {candidate leaseId : LeaseId} {requireFreshHealth : Bool}

namespace PoolRecord

variable {config : DevicePoolConfig} {wallNow : ℕ} {request : PoolRequest}

theorem accessWithLease_ok {deadline : ℕ}
    (h : (record.accessWithLease config leaseId ownerId now deadline wallNow
      requireFreshHealth).1 = .ok ()) :
    ∃ lease, record.lease = some lease ∧ now < lease.deadline ∧
      lease.value.id = leaseId ∧ lease.value.ownerId = ownerId ∧
      lease.value.deviceId = record.deviceId ∧
      (record.accessWithLease config leaseId ownerId now deadline wallNow
        requireFreshHealth).2 = record.withLease (some (lease.renew deadline
          (saturatingAddMs wallNow config.leaseTtlMs))) := by
  unfold accessWithLease at h ⊢
  iterate 4
    split at h
    · cases h
  next lease hlease hlive hmatch =>
    simp only [not_or, not_not] at hmatch
    refine ⟨lease, hlease, Nat.lt_of_not_le hlive, hmatch.1, hmatch.2.1,
      hmatch.2.2, ?_⟩
    simp [hlive, hmatch.1, hmatch.2.1, hmatch.2.2]

theorem accessAvailableTo_ok :
    (record.accessAvailableTo ownerId now).1 = .ok () ↔
      ∀ lease, record.lease = some lease → now < lease.deadline →
        lease.value.ownerId = ownerId := by
  have hexpire : (record.expire now).lease.any (fun lease =>
      lease.value.ownerId != ownerId) = false ↔
      ∀ lease, record.lease = some lease → now < lease.deadline →
        lease.value.ownerId = ownerId := by
    rw [← Bool.not_eq_true, Option.any_eq_true]
    simp only [expire_lease_eq_some, bne_iff_ne, not_exists, not_and, not_not,
      and_imp]
  rw [← hexpire]
  unfold accessAvailableTo
  split
  next hother => simp [hother]
  next hnone => simpa using hnone

/-- An access leaves the record in place and its lease with its owner. -/
theorem atGate_shared (hshared : request.exclusive = false) :
    ∃ record', (record.atGate config request now wallNow candidate).2 =
        some record' ∧ record'.gate = record.gate ∧
      ∀ lease', record'.lease = some lease' → ∃ lease,
        record.lease = some lease ∧ lease'.value.id = lease.value.id ∧
          lease'.value.ownerId = lease.value.ownerId := by
  cases hafter : (record.atGate config request now wallNow candidate).2 with
  | none =>
    cases hafter ▸ atGate_leaves with
    | removed hrequest =>
      subst hrequest
      cases hshared
  | some record' =>
    obtain ⟨lease, rfl⟩ := atGate_eq_withLease hafter
    refine ⟨_, rfl, rfl, fun lease' hlease' => ?_⟩
    rcases atGate_lease_owner hafter hlease' with hbefore | ⟨_, _, rfl, -⟩
    · exact hbefore
    · cases hshared

/-- Whoever is let in finds no lease of another owner. -/
theorem atGate_access_owner (howner : request.owner? = some ownerId)
    (h : (record.atGate config request now wallNow candidate).1 = .access)
    {record' : PoolRecord}
    (hrecord : (record.atGate config request now wallNow candidate).2 =
      some record')
    {lease' : LeaseRecord} (hlease : record'.lease = some lease') :
    lease'.value.ownerId = ownerId := by
  rcases atGate_access h with ⟨leaseId, deviceId, owner, nowMs, fresh, rfl⟩ |
    ⟨deviceId, owner, nowMs, rfl⟩
  · cases howner
    rw [atGate_accessWithLease] at h hrecord
    obtain ⟨lease, -, -, -, hmatch, -, hafter⟩ :=
      accessWithLease_ok (PoolReply.of_access.mp h)
    simp only [hafter, Option.some.injEq] at hrecord
    subst hrecord
    cases hlease
    exact hmatch
  · cases howner
    rw [atGate_accessAvailableTo] at h hrecord
    obtain rfl := Option.some.inj hrecord
    obtain ⟨hbefore, hlive⟩ := expire_lease_eq_some.mp hlease
    exact accessAvailableTo_ok.mp (PoolReply.of_access.mp h) lease' hbefore hlive

end PoolRecord

namespace PoolSystem

variable {sys sys' : System} {label : Label}

/-- A guard of an owner is alive on a registration. -/
def Alive (sys : System) (tid : TaskId) (ownerId : LeaseOwnerId)
    (deviceId : DeviceId) (gate : GateId) : Prop :=
  ∃ task, sys.tasks.lookup tid = some task ∧
    task.phase = .holding deviceId gate ∧ task.request.owner? = some ownerId

/-- A guard that was granted on the strength of a lease is alive. -/
def LeaseGuard (sys : System) (tid : TaskId) (ownerId : LeaseOwnerId)
    (deviceId : DeviceId) (gate : GateId) : Prop :=
  ∃ task leaseId device nowMs requireFreshHealth,
    sys.tasks.lookup tid = some task ∧
    task.phase = .holding deviceId gate ∧
    task.request = .accessWithLease leaseId device ownerId nowMs
      requireFreshHealth

/-- A task was let in at the gate of a record. -/
structure LetIn (sys : System) (label : Label) (sys' : System) (tid : TaskId)
    (task : Task) (deviceId : DeviceId) (gate : GateId) (now : ℕ)
    (record record' : PoolRecord) : Prop where
  commits : ∃ candidate, label = .commit tid candidate
  known : sys.tasks.lookup tid = some task
  locks : ∃ rest taken,
    task.phase = .locked (deviceId, gate) rest taken (some now)
  found : sys.state.devices.lookup deviceId = some record
  current : record.gate = gate
  leaves : sys'.state.devices.lookup deviceId = some record'
  grants : ∃ wallNow candidate,
    record.atGate sys.config task.request now wallNow candidate =
      (.access, some record')

variable {tid other : TaskId} {task : Task} {deviceId device guarded : DeviceId}
  {gate : GateId} {nowMs : ℕ} {record' : PoolRecord} {holder : LeaseOwnerId}
  {rest : List (DeviceId × GateId)} {taken : List DeviceLease}

theorem Sound.letIn (h : Sound sys) {reading : Option ℕ}
    (htask : sys.tasks.lookup tid = some task)
    (hphase : task.phase = .locked (deviceId, gate) rest taken reading)
    (hnow : Reads sys task reading now)
    (hrun : sys.state.atGate sys.config task.request deviceId gate now
      candidate = some (some (.access, sys'.state))) :
    ∃ record record', LetIn sys (.commit tid candidate) sys' tid task deviceId
      gate now record record' := by
  rcases h.indexed.atGate_cases hrun with
    ⟨error, -, houtcome⟩ | ⟨record, after, hfound, hgate, houtcome, hbecomes⟩
  · have hreply := (Prod.mk.inj (Option.some.inj houtcome)).1
    exact absurd hreply.symm (refused_ne_access _ _)
  · obtain ⟨hgranted, hstate⟩ := Prod.mk.inj (Option.some.inj houtcome)
    have haccess := PoolRecord.atGate_access hgranted.symm
    have hreading : reading = some now := by
      cases reading with
      | some reading => exact congrArg some hnow.symm
      | none =>
        have hsilent := hnow.1
        rcases haccess with ⟨_, _, _, _, _, hrequest⟩ | ⟨_, _, _, hrequest⟩ <;>
          rw [hrequest] at hsilent <;> cases hsilent
    have hshared := access_shared haccess
    obtain ⟨record', hrecord', -, -⟩ : ∃ record',
        (record.atGate sys.config task.request now
          (max sys.state.wallHighWaterMs task.request.nowMs) candidate).2 =
            some record' ∧ _ := PoolRecord.atGate_shared hshared
    refine ⟨record, record', ⟨candidate, rfl⟩, htask, ⟨rest, taken, ?_⟩, hfound,
      hgate, ?_, _, candidate, Prod.ext hgranted.symm hrecord'⟩
    · rw [hphase, hreading]
    · rw [hstate, hbecomes.lookup_self, hrecord']

/-- A guard that is alive after a step was alive before, or was just
granted. -/
theorem Sound.holding_cases (h : Sound sys) (hmove : Move sys label sys')
    {task' : Task} (htask' : sys'.tasks.lookup tid = some task')
    (hholds : task'.phase = .holding deviceId gate) :
    sys.tasks.lookup tid = some task' ∨
      ∃ task now record record', task'.request = task.request ∧
        LetIn sys label sys' tid task deviceId gate now record record' := by
  rcases h.came hmove htask' with hbefore | ⟨before, htask, hgoes⟩
  · exact .inl hbefore
  cases hgoes with
  | @quiet task phase hquiet =>
    obtain rfl : phase = .holding deviceId gate := hholds
    rcases hquiet.cases with hidle | ⟨target, rest, taken, -, hphase⟩
    · cases hidle
    · cases hphase
  | @work task target rest taken reading now candidate reply hlabel hphase hnow
      hrun =>
    subst hlabel
    obtain ⟨rfl, rfl⟩ := answered_eq_holding.mp hholds
    obtain ⟨record, record', hletIn⟩ := h.letIn htask hphase hnow hrun
    exact .inr ⟨task, now, record, record', rfl, hletIn⟩
  | _ => cases hholds

/-! ## Guards and the lease of their registration -/

/-- Every guard has its registration in place, without a lease of another
owner. -/
def Kept (sys : System) : Prop :=
  ∀ tid ownerId deviceId gate, Alive sys tid ownerId deviceId gate →
    ∃ record, sys.state.devices.lookup deviceId = some record ∧
      record.gate = gate ∧ ∀ lease, record.lease = some lease →
        lease.value.ownerId = ownerId

/-- While a guard is alive, a step leaves its registration in place and its
lease, if any, with the owner it had. -/
theorem Sound.touch_guarded (h : Sound sys) (hmove : Move sys label sys')
    (htask : sys.tasks.lookup tid = some task)
    (hholds : task.phase = .holding deviceId gate)
    (hlookup : sys.state.devices.lookup deviceId = some record)
    (hgate : record.gate = gate) :
    ∃ record', sys'.state.devices.lookup deviceId = some record' ∧
      record'.gate = gate ∧ ∀ lease', record'.lease = some lease' →
        ∃ lease, record.lease = some lease ∧
          lease'.value.ownerId = lease.value.ownerId := by
  cases h.touch hmove hlookup with
  | same hsame =>
    exact ⟨record, hsame, hgate, fun lease hlease => ⟨lease, hlease, rfl⟩⟩
  | health hlabel _ hafter =>
    exact ⟨_, hafter, hgate, fun lease hlease => ⟨lease, hlease, rfl⟩⟩
  | @work other candidate task' rest taken reading now hlabel htask' hphase hnow
      hafter hother htask'' =>
      have hne : other ≠ tid := by
        rintro rfl
        cases htask.symm.trans htask'
        cases hholds.symm.trans hphase
      have hshared : task'.request.exclusive = false :=
        h.exclusive other tid task' task gate htask' htask hne
          (by rw [hphase, ← hgate]; rfl) (by rw [hholds]; rfl)
      obtain ⟨record', hrecord', hsame, hleases⟩ :=
        PoolRecord.atGate_shared hshared
      refine ⟨record', hafter.trans hrecord', hsame.trans hgate, ?_⟩
      intro lease' hlease'
      obtain ⟨lease, hlease, -, howner⟩ := hleases lease' hlease'
      exact ⟨lease, hlease, howner⟩

theorem Kept.move (h : Kept sys) (hsound : Sound sys)
    (hmove : Move sys label sys') : Kept sys' := by
  rintro tid ownerId deviceId gate ⟨task', htask', hholds, howner⟩
  rcases hsound.holding_cases hmove htask' hholds with
    hbefore | ⟨task, now, before, record', hrequest, hletIn⟩
  · obtain ⟨record, hlookup, hgate, hleases⟩ :=
      h tid ownerId deviceId gate ⟨task', hbefore, hholds, howner⟩
    obtain ⟨record', hlookup', hgate', hleases'⟩ :=
      hsound.touch_guarded hmove hbefore hholds hlookup hgate
    refine ⟨record', hlookup', hgate', fun lease' hlease' => ?_⟩
    obtain ⟨lease, hlease, hsame⟩ := hleases' lease' hlease'
    exact hsame.trans (hleases lease hlease)
  · obtain ⟨wallNow, candidate, hgrants⟩ := hletIn.grants
    have hrecord' := congrArg Prod.snd hgrants
    obtain ⟨lease, rfl⟩ := PoolRecord.atGate_eq_withLease hrecord'
    refine ⟨_, hletIn.leaves, hletIn.current, fun lease' hlease' => ?_⟩
    exact PoolRecord.atGate_access_owner (hrequest ▸ howner)
      (congrArg Prod.fst hgrants) hrecord' hlease'

/-- While a guard of a lease is alive, another owner's `accessAvailableTo`
gets to its commit only with a clock reading before the deadline of the lease
on record. -/
def Timely (sys : System) (label : Label) : Prop :=
  ∀ tid candidate task device ownerId nowMs deviceId gate rest taken now,
    label = .commit tid candidate → sys.tasks.lookup tid = some task →
    task.request = .accessAvailableTo device ownerId nowMs →
    task.phase = .locked (deviceId, gate) rest taken (some now) →
    (∃ other holder, holder ≠ ownerId ∧
      LeaseGuard sys other holder deviceId gate) →
    ∃ record lease, sys.state.devices.lookup deviceId = some record ∧
      record.lease = some lease ∧ now < lease.deadline

/-- While a guard of a lease is alive: the device stays registered, and its
lease is nobody else's; every guard on the registration is its owner's; and no
task holds the gate in exclusive mode, as acquisition, release, removal and
the sweeps would. -/
structure GuardExclusive (sys : System) : Prop where
  registered : ∀ tid ownerId deviceId gate,
    LeaseGuard sys tid ownerId deviceId gate →
    ∃ record, sys.state.devices.lookup deviceId = some record ∧
      record.gate = gate ∧ ∀ lease, record.lease = some lease →
        lease.value.ownerId = ownerId
  alone : ∀ tid ownerId deviceId gate,
    LeaseGuard sys tid ownerId deviceId gate →
    ∀ other owner device, Alive sys other owner device gate → owner = ownerId
  shared : ∀ tid ownerId deviceId gate,
    LeaseGuard sys tid ownerId deviceId gate →
    ∀ other task, sys.tasks.lookup other = some task →
      task.phase.gate? = some gate → task.request.exclusive = false

theorem LeaseGuard.alive (h : LeaseGuard sys tid ownerId deviceId gate) :
    Alive sys tid ownerId deviceId gate := by
  obtain ⟨task, leaseId, device, nowMs, fresh, htask, hholds, hrequest⟩ := h
  exact ⟨task, htask, hholds, by rw [hrequest]; rfl⟩

theorem LetIn.lease
    (h : LetIn sys label sys' tid task deviceId gate now record record')
    (hrequest : task.request = .accessWithLease leaseId device ownerId nowMs
      requireFreshHealth) :
    ∃ lease, record.lease = some lease ∧ lease.value.ownerId = ownerId := by
  obtain ⟨wallNow, candidate, hgrants⟩ := h.grants
  rw [hrequest, PoolRecord.atGate_accessWithLease] at hgrants
  obtain ⟨lease, hlease, -, -, howner, -⟩ := PoolRecord.accessWithLease_ok
    (PoolReply.of_access.mp (congrArg Prod.fst hgrants))
  exact ⟨lease, hlease, howner⟩

/-- Whoever is let in beside a guard finds no lease but its owner's. -/
theorem Kept.letIn (h : Kept sys) (hsound : Sound sys)
    (halive : Alive sys other holder guarded gate)
    (hletIn : LetIn sys label sys' tid task deviceId gate now record record') :
    deviceId = guarded ∧ ∀ lease, record.lease = some lease →
      lease.value.ownerId = holder := by
  obtain ⟨found, hfound, hgate, hleases⟩ := h _ _ _ _ halive
  obtain rfl := hsound.gate_unique deviceId guarded record found hletIn.found
    hfound (hletIn.current.trans hgate.symm)
  cases hletIn.found.symm.trans hfound
  exact ⟨rfl, hleases⟩

/-- Whoever is let in while a guard of a lease is alive is its owner. -/
theorem Kept.owner_of_letIn (h : Kept sys) (hsound : Sound sys)
    (htimely : Timely sys label)
    (hguard : LeaseGuard sys other holder guarded gate)
    (hletIn : LetIn sys label sys' tid task deviceId gate now record record')
    (howner : task.request.owner? = some ownerId) : ownerId = holder := by
  obtain ⟨rfl, hleases⟩ := h.letIn hsound hguard.alive hletIn
  obtain ⟨wallNow, candidate, hgrants⟩ := hletIn.grants
  have hgranted := congrArg Prod.fst hgrants
  rcases PoolRecord.atGate_access hgranted with
    ⟨leaseId, device, owner, nowMs, fresh, hrequest⟩ |
    ⟨device, owner, nowMs, hrequest⟩
  · obtain ⟨lease, hlease, hmine⟩ := hletIn.lease hrequest
    rw [hrequest] at howner
    cases howner
    exact hmine.symm.trans (hleases lease hlease)
  · by_contra hne
    obtain ⟨rest, taken, hphase⟩ := hletIn.locks
    obtain ⟨drawn, hlabel⟩ := hletIn.commits
    rw [hrequest] at howner hgranted
    cases howner
    obtain ⟨stored, lease, hstored, hlease, hlive⟩ := htimely tid drawn task
      device ownerId nowMs deviceId gate rest taken now hlabel hletIn.known
      hrequest hphase ⟨other, holder, fun heq => hne heq.symm, hguard⟩
    cases hletIn.found.symm.trans hstored
    have hmine := PoolRecord.accessAvailableTo_ok.mp
      (PoolReply.of_access.mp hgranted) lease hlease hlive
    exact hne (hmine.symm.trans (hleases lease hlease))

theorem GuardExclusive.move (h : GuardExclusive sys) (hkept : Kept sys)
    (hsound : Sound sys) (htimely : Timely sys label)
    (hmove : Move sys label sys') : GuardExclusive sys' := by
  have hkept' := hkept.move hsound hmove
  have hsound' := hsound.move hmove
  refine ⟨fun tid ownerId deviceId gate hguard =>
    hkept' tid ownerId deviceId gate hguard.alive, ?_, ?_⟩
  · rintro tid ownerId deviceId gate
      ⟨task, leaseId, device, nowMs, fresh, htask, hholds, hrequest⟩
      other owner device' ⟨task', htask', hholds', howner'⟩
    have howner : task.request.owner? = some ownerId := by
      rw [hrequest]
      rfl
    rcases hsound.holding_cases hmove htask hholds with
      hbefore | ⟨before, now, record, record', hsame, hletIn⟩
    · have hguard : LeaseGuard sys tid ownerId deviceId gate :=
        ⟨task, leaseId, device, nowMs, fresh, hbefore, hholds, hrequest⟩
      rcases hsound.holding_cases hmove htask' hholds' with
        hbefore' | ⟨before', now', found, found', hsame', hletIn'⟩
      · exact h.alone tid ownerId deviceId gate hguard other owner device'
          ⟨task', hbefore', hholds', howner'⟩
      · exact hkept.owner_of_letIn hsound htimely hguard hletIn'
          (hsame' ▸ howner')
    · rcases hsound.holding_cases hmove htask' hholds' with
        hbefore' | ⟨before', now', found, found', hsame', hletIn'⟩
      · obtain ⟨-, hleases⟩ := hkept.letIn hsound
          ⟨task', hbefore', hholds', howner'⟩ hletIn
        obtain ⟨lease, hlease, hmine⟩ := hletIn.lease (hsame ▸ hrequest)
        exact (hleases lease hlease).symm.trans hmine
      · obtain ⟨drawn, hlabel⟩ := hletIn.commits
        obtain ⟨drawn', hlabel'⟩ := hletIn'.commits
        cases hlabel.symm.trans hlabel'
        cases htask.symm.trans htask'
        rw [howner] at howner'
        exact (Option.some.inj howner').symm
  · rintro tid ownerId deviceId gate
      ⟨task, leaseId, device, nowMs, fresh, htask, hholds, hrequest⟩
      other task' htask' hgate'
    by_cases hsame : other = tid
    · subst hsame
      cases htask.symm.trans htask'
      rw [hrequest]
      rfl
    · exact hsound'.exclusive other tid task' task gate htask' htask hsame hgate'
        (by rw [hholds]; rfl)

/-- An `accessAvailableTo` at its commit, on a current gate without a lasting
lease of another owner, is let in. -/
theorem Sound.let_in_available (h : Sound sys) (hmove : Move sys label sys')
    (hlabel : label = .commit tid candidate)
    (htask : sys.tasks.lookup tid = some task)
    (hrequest : task.request = .accessAvailableTo device ownerId nowMs)
    (hphase : task.phase = .locked (deviceId, gate) rest taken (some now))
    (hlookup : sys.state.devices.lookup deviceId = some record)
    (hgate : record.gate = gate)
    (hgone : ∀ lease, record.lease = some lease → ¬now < lease.deadline) :
    sys'.tasks.lookup tid = some ⟨task.request, .holding deviceId gate⟩ ∧
      ∀ other, other ≠ tid →
        sys'.tasks.lookup other = sys.tasks.lookup other := by
  subst hlabel
  have hok : (record.accessAvailableTo ownerId now).1 = .ok () :=
    PoolRecord.accessAvailableTo_ok.mpr fun lease hlease hlive =>
      absurd hlive (hgone lease hlease)
  have hcurrent : sys.state.ensureCurrentGate deviceId gate = .ok () :=
    PoolState.ensureCurrentGate_of_lookup hlookup hgate
  obtain ⟨now', reply, hnow, htasks, hstale | hwork⟩ :=
    h.commit_locked hmove htask hphase
  · obtain ⟨error, hstale, -⟩ := hstale
    cases hcurrent.symm.trans hstale
  · obtain ⟨found, hfound, -, hreply, -⟩ := hwork
    obtain rfl : now' = now := hnow
    cases hlookup.symm.trans hfound
    rw [hrequest, PoolRecord.atGate_accessAvailableTo, hok] at hreply
    subst hreply
    exact ⟨(htasks tid).trans (if_pos rfl),
      fun other hother => (htasks other).trans (if_neg hother)⟩

/-- A step that is not timely breaks the exclusion. -/
theorem GuardExclusive.broken (h : GuardExclusive sys) (hsound : Sound sys)
    (hmove : Move sys label sys') (huntimely : ¬Timely sys label) :
    ¬GuardExclusive sys' := by
  intro hexclusive
  apply huntimely
  intro tid candidate task device ownerId nowMs deviceId gate rest taken now
    hlabel htask hrequest hphase hguarded
  obtain ⟨other, holder, hne, hguard⟩ := hguarded
  obtain ⟨record, hlookup, hgate, -⟩ := h.registered _ _ _ _ hguard
  by_contra hnot
  have hgone : ∀ lease, record.lease = some lease → ¬now < lease.deadline :=
    fun lease hlease hlive => hnot ⟨record, lease, hlookup, hlease, hlive⟩
  obtain ⟨hheld, hothers⟩ := hsound.let_in_available hmove hlabel htask hrequest
    hphase hlookup hgate hgone
  obtain ⟨task', leaseId, device', nowMs', fresh, htask', hholds, hrequest'⟩ :=
    hguard
  have hdistinct : other ≠ tid := by
    rintro rfl
    cases htask.symm.trans htask'
    cases hphase.symm.trans hholds
  have hguard' : LeaseGuard sys' other holder deviceId gate :=
    ⟨task', leaseId, device', nowMs', fresh, (hothers other hdistinct).trans htask',
      hholds, hrequest'⟩
  have halive : Alive sys' tid ownerId deviceId gate :=
    ⟨_, hheld, rfl, by rw [hrequest]; rfl⟩
  exact hne (hexclusive.alone _ _ _ _ hguard' _ _ _ halive).symm

/-- In every run in which other owners' `accessAvailableTo` are timely, a
guard of a lease is exclusive in every state; a step that is not timely ends
that. -/
theorem lease_guard_exclusive {config : DevicePoolConfig} {labels : List Label}
    (hrun : Transition.Run (Transition.Guarded Timely Step)
      (System.new config) labels sys) :
    GuardExclusive sys ∧ ∀ label sys', Step sys label sys' →
      ¬Timely sys label → ¬GuardExclusive sys' := by
  have hall : Sound sys ∧ Kept sys ∧ GuardExclusive sys := by
    refine hrun.invariant (I := fun sys => Sound sys ∧ Kept sys ∧
      GuardExclusive sys) ?_ ⟨sound_new config,
        by simp [Kept, Alive, System.new],
        by constructor <;> simp [LeaseGuard, System.new]⟩
    rintro before label after ⟨hsound, hkept, hexclusive⟩ ⟨htimely, hstep⟩
    have hmove := move_of_step hstep
    exact ⟨hsound.move hmove, hkept.move hsound hmove,
      hexclusive.move hkept hsound htimely hmove⟩
  obtain ⟨hsound, -, hexclusive⟩ := hall
  exact ⟨hexclusive, fun label sys' hstep =>
    hexclusive.broken hsound (move_of_step hstep)⟩

/-! ## Sample runs -/

/-- The lease on record outlives the clock reading of an
`accessAvailableTo`. -/
def leaseLasts (sys : System) : Label → Bool
  | .commit tid _ =>
    match sys.tasks.lookup tid with
    | some ⟨.accessAvailableTo .., .locked target _ _ (some now)⟩ =>
      (sys.state.leaseOf target.1).any (fun lease =>
        decide (now < lease.deadline))
    | _ => true
  | _ => true

theorem timely_of_leaseLasts (h : leaseLasts sys label = true) :
    Timely sys label := by
  rintro tid candidate ⟨request, phase⟩ device ownerId nowMs deviceId gate rest
    taken now rfl htask hrequest hphase -
  cases hrequest
  cases hphase
  simp only [leaseLasts, htask] at h
  obtain ⟨lease, hlease, hlive⟩ := (Option.any_eq_true _ _).mp h
  obtain ⟨record, hlookup, hrecord⟩ := PoolState.leaseOf_eq_some.mp hlease
  exact ⟨record, lease, hlookup, hrecord, of_decide_eq_true hlive⟩

/-- Run labels whose steps are timely. -/
def System.runTimely (sys : System) (labels : List Label) : Option System :=
  Transition.exec (fun sys label =>
    if leaseLasts sys label then sys.step label else none) sys labels

/-- A guard is granted on a lease; another owner asks for the device some time
later. -/
def guardedSchedule (elapsed : ℕ) : List Label :=
  leasedSchedule ++
    [.call 3 (.accessWithLease firstLease phone alice 7 true), .lookup 3,
      .lock 3, .clock 3, .commit 3 firstLease, .tick elapsed,
      .call 4 (.accessAvailableTo phone bob 8), .lookup 4, .lock 4, .clock 4,
      .commit 4 firstLease]

theorem lease_guard_exclusive_in_use :
    ∃ sys, (System.new .default).runTimely (guardedSchedule 1000) = some sys ∧
      (sys.tasks.lookup 3 = some ⟨.accessWithLease firstLease phone alice 7
          true, .holding phone 0⟩ ∧
        sys.tasks.lookup 4 = some ⟨.accessAvailableTo phone bob 8,
          .finished (.error (.deviceInUse phone))⟩) ∧
      GuardExclusive sys := by
  refine Transition.exists_some_and (by decide +kernel) fun sys hsys => ?_
  exact (lease_guard_exclusive (Transition.run_of_guarded_exec
    (fun _ _ => timely_of_leaseLasts) (fun _ _ _ hstep => hstep) hsys)).1

/-- Once the deadline has passed another owner is let in beside the guard. -/
theorem lease_guard_shared_after_deadline :
    ∃ sys, (System.new .default).runLabels
        (guardedSchedule (fromMillis 300000)) = some sys ∧
      LeaseGuard sys 3 alice phone 0 ∧ Alive sys 4 bob phone 0 ∧
      ¬GuardExclusive sys := by
  obtain ⟨sys, hsys, hguard, hother⟩ : ∃ sys,
      (System.new .default).runLabels (guardedSchedule (fromMillis 300000)) =
        some sys ∧
      sys.tasks.lookup 3 = some ⟨.accessWithLease firstLease phone alice 7 true,
        .holding phone 0⟩ ∧
      sys.tasks.lookup 4 =
        some ⟨.accessAvailableTo phone bob 8, .holding phone 0⟩ := by
    decide +kernel
  have hlease : LeaseGuard sys 3 alice phone 0 :=
    ⟨_, _, _, _, _, hguard, rfl, rfl⟩
  have halive : Alive sys 4 bob phone 0 := ⟨_, hother, rfl, rfl⟩
  refine ⟨sys, hsys, hlease, halive, fun hexclusive => ?_⟩
  have hsame := hexclusive.alone 3 alice phone 0 hlease 4 bob phone halive
  exact absurd hsame (by decide)

end PoolSystem

end DeviceRail
