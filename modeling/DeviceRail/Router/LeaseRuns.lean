import DeviceRail.Router.Lease

/-!
# Histories of a lease table

Any sequence of calls on one lease table.  The readings of the monotonic clock
never decrease, the wall clock is whatever the callers pass, and every call of
`acquire` draws a lease id that was not drawn before.
-/

namespace DeviceRail.Router

open LeaseTable Transition

inductive LeaseCall where
  | acquire (deviceKey ownerId : String)
      (ttlMs nowMs checkedAt grantedAt : ℕ) (leaseId : Uuid)
  | authorize (lease : PeerLease) (nowMs instant : ℕ)
  | renew (lease : PeerLease) (ttlMs nowMs checkedAt grantedAt : ℕ)
  | release (lease : PeerLease) (nowMs instant : ℕ)
  | revoke (lease : PeerLease)
  | invalidateAll
deriving DecidableEq, Repr

namespace LeaseCall

/-- The monotonic clock as the call reads it. -/
def instants : LeaseCall → List ℕ
  | .acquire _ _ _ _ checkedAt grantedAt _ => [checkedAt, grantedAt]
  | .authorize _ _ instant => [instant]
  | .renew _ _ _ checkedAt grantedAt => [checkedAt, grantedAt]
  | .release _ _ instant => [instant]
  | .revoke _ => []
  | .invalidateAll => []

/-- The lease id the call draws. -/
def drawn : LeaseCall → List Uuid
  | .acquire _ _ _ _ _ _ leaseId => [leaseId]
  | _ => []

end LeaseCall

variable {lease : PeerLease} {nodeEpoch : ℕ} {knownDevices : List String}

namespace LeaseTable

/-- The table a call leaves behind. -/
def after (table : LeaseTable) : LeaseCall → LeaseTable
  | .acquire deviceKey ownerId ttlMs nowMs checkedAt grantedAt leaseId =>
    match table.acquire deviceKey ownerId ttlMs nowMs checkedAt grantedAt
        leaseId with
    | .ok (_, after) => after
    | .error _ => table
  | .authorize .. => table
  | .renew lease ttlMs nowMs checkedAt grantedAt =>
    match table.renew lease ttlMs nowMs checkedAt grantedAt with
    | .ok (_, after) => after
    | .error _ => table
  | .release lease nowMs instant =>
    match table.release lease nowMs instant with
    | .ok after => after
    | .error _ => table
  | .revoke lease =>
    match table.revoke lease with
    | .ok after => after
    | .error _ => table
  | .invalidateAll => table.invalidateAll

/-- What one call can do to the table. -/
inductive Change (table : LeaseTable) (call : LeaseCall) : LeaseTable → Prop
  | same : Change table call table
  | granted (entry : ActiveLease) (hdrawn : entry.token.leaseId ∈ call.drawn) :
      Change table call (table.put entry)
  | renewed (lease : PeerLease) (hholds : table.holds lease = true)
      (entry : ActiveLease) (hid : entry.token.leaseId = lease.leaseId)
      (hdevice : entry.token.deviceKey = lease.deviceKey) :
      Change table call (table.put entry)
  | dropped (deviceKey : String) : Change table call (table.drop deviceKey)
  | cleared : Change table call table.invalidateAll

variable (table : LeaseTable)

theorem change_after (call : LeaseCall) :
    Change table call (table.after call) := by
  cases call with
  | acquire deviceKey ownerId ttlMs nowMs checkedAt grantedAt leaseId =>
    rw [after]
    split
    next lease after hacquire =>
      rcases acquire_eq_ok hacquire with
        ⟨entry, -, -, -, -, rfl⟩ | ⟨-, hid, -, -, -, deadline, rfl⟩
      · exact .same
      · exact .granted ⟨lease, deadline⟩ (List.mem_singleton.mpr hid)
    next => exact .same
  | authorize => exact .same
  | renew lease =>
    rw [after]
    split
    next renewed after hrenew =>
      obtain ⟨haccepts, ⟨expiresAtMs, rfl⟩, deadline, rfl⟩ := renew_eq_ok hrenew
      exact .renewed lease (holds_of_accepts haccepts) ⟨_, deadline⟩ rfl rfl
    next => exact .same
  | release lease =>
    rw [after]
    split
    next after hrelease =>
      obtain ⟨-, rfl⟩ := release_eq_ok hrelease
      exact .dropped _
    next => exact .same
  | revoke lease =>
    rw [after]
    split
    next after hrevoke =>
      obtain ⟨-, rfl⟩ := revoke_eq_ok hrevoke
      exact .dropped _
    next => exact .same
  | invalidateAll => exact .cleared

theorem lookup_put (entry : ActiveLease) (deviceKey : String) :
    (table.put entry).active.lookup deviceKey =
      if deviceKey = entry.token.deviceKey then some entry
      else table.active.lookup deviceKey :=
  KeyedMap.lookup_insert_ite _ _ _ _

theorem lookup_drop (deviceKey other : String) :
    (table.drop deviceKey).active.lookup other =
      if other = deviceKey then none else table.active.lookup other :=
  KeyedMap.lookup_erase_ite _ _ _

/-- A call puts an entry at one device at most: it is granted under an id drawn
for it, or renews the entry that was there. -/
theorem lookup_after (call : LeaseCall) : ∃ key, ∀ deviceKey entry,
    (table.after call).active.lookup deviceKey = some entry →
      table.active.lookup deviceKey = some entry ∨
      deviceKey = key ∧ entry.token.deviceKey = key ∧
        (entry.token.leaseId ∈ call.drawn ∨
          ∃ old, table.active.lookup key = some old ∧
            entry.token.leaseId = old.token.leaseId) := by
  have hchange := table.change_after call
  generalize table.after call = after at hchange ⊢
  cases hchange with
  | same => exact ⟨"", fun _ _ hentry => .inl hentry⟩
  | granted entry hdrawn =>
    refine ⟨entry.token.deviceKey, fun deviceKey current hcurrent => ?_⟩
    rw [lookup_put] at hcurrent
    split at hcurrent
    next hkey =>
      cases hcurrent
      exact .inr ⟨hkey, rfl, .inl hdrawn⟩
    next => exact .inl hcurrent
  | renewed lease hholds entry hid hdevice =>
    obtain ⟨old, hold, htoken⟩ := holds_iff.mp hholds
    refine ⟨entry.token.deviceKey, fun deviceKey current hcurrent => ?_⟩
    rw [lookup_put] at hcurrent
    split at hcurrent
    next hkey =>
      cases hcurrent
      exact .inr ⟨hkey, rfl, .inr ⟨old, hdevice ▸ hold, by rw [hid, htoken]⟩⟩
    next => exact .inl hcurrent
  | dropped key =>
    refine ⟨key, fun deviceKey current hcurrent => ?_⟩
    rw [lookup_drop] at hcurrent
    split at hcurrent
    next => cases hcurrent
    next => exact .inl hcurrent
  | cleared => exact ⟨"", by simp [invalidateAll]⟩

/-- No entry of the table has the lease id. -/
def Absent (leaseId : Uuid) : Prop :=
  ∀ deviceKey entry, table.active.lookup deviceKey = some entry →
    entry.token.leaseId ≠ leaseId

theorem Absent.holds {table : LeaseTable} (h : table.Absent lease.leaseId) :
    table.holds lease = false := by
  rw [Bool.eq_false_iff]
  intro hholds
  obtain ⟨entry, hentry, htoken⟩ := holds_iff.mp hholds
  exact h _ entry hentry (htoken ▸ rfl)

theorem Absent.accepts {table : LeaseTable} (h : table.Absent lease.leaseId)
    (nowMs instant : ℕ) : table.accepts lease nowMs instant = false := by
  rw [Bool.eq_false_iff]
  intro haccepts
  have hholds := h.holds
  cases (holds_of_accepts haccepts).symm.trans hholds

end LeaseTable

/-- A lease table with the clock's last reading and the ids drawn so far. -/
structure LeaseHistory where
  table : LeaseTable
  clock : ℕ
  drawn : List Uuid

namespace LeaseHistory

def start (table : LeaseTable) : LeaseHistory := ⟨table, 0, []⟩

/-- The history after one more call. -/
def next (history : LeaseHistory) (call : LeaseCall) : LeaseHistory :=
  { table := history.table.after call
    clock := call.instants.getLastD history.clock
    drawn := call.drawn ++ history.drawn }

/-- The clock does not go back, and lease ids are new. -/
def Timely (history : LeaseHistory) (call : LeaseCall) : Prop :=
  (history.clock :: call.instants).IsChain (· ≤ ·) ∧
    ∀ leaseId ∈ call.drawn, leaseId ∉ history.drawn

instance (history : LeaseHistory) (call : LeaseCall) :
    Decidable (history.Timely call) := by
  unfold Timely
  infer_instance

def Step (history : LeaseHistory) (call : LeaseCall)
    (after : LeaseHistory) : Prop :=
  history.Timely call ∧ after = history.next call

/-- Every entry sits at its device, and its id was drawn for that device
only. -/
structure Kept (history : LeaseHistory) : Prop where
  device : ∀ deviceKey entry,
    history.table.active.lookup deviceKey = some entry →
      entry.token.deviceKey = deviceKey
  known : ∀ deviceKey entry,
    history.table.active.lookup deviceKey = some entry →
      entry.token.leaseId ∈ history.drawn
  distinct : ∀ deviceKey entry other entry',
    history.table.active.lookup deviceKey = some entry →
      history.table.active.lookup other = some entry' →
      entry.token.leaseId = entry'.token.leaseId → deviceKey = other

variable {history : LeaseHistory} {call : LeaseCall} {leaseId : Uuid}
  {calls : List LeaseCall}

theorem Kept.next (h : Kept history) (htimely : history.Timely call) :
    Kept (history.next call) := by
  have hknown : ∀ {leaseId}, leaseId ∈ history.drawn →
      leaseId ∈ (history.next call).drawn :=
    fun hmem => List.mem_append_right _ hmem
  obtain ⟨key, hafter⟩ := history.table.lookup_after call
  have hkey : ∀ {deviceKey entry leaseId},
      history.table.active.lookup deviceKey = some entry →
      (leaseId ∈ call.drawn ∨ ∃ old, history.table.active.lookup key =
        some old ∧ leaseId = old.token.leaseId) →
      entry.token.leaseId = leaseId → deviceKey = key := by
    rintro deviceKey entry leaseId hentry (hdrawn | ⟨old, hold, hid⟩) heq
    · exact absurd (heq ▸ h.known _ _ hentry) (htimely.2 _ hdrawn)
    · exact h.distinct _ _ _ _ hentry hold (heq.trans hid)
  refine ⟨fun deviceKey entry hentry => ?_, fun deviceKey entry hentry => ?_,
    fun deviceKey entry other entry' hentry hentry' heq => ?_⟩
  · rcases hafter _ _ hentry with hold | ⟨rfl, hdevice, -⟩
    · exact h.device _ _ hold
    · exact hdevice
  · rcases hafter _ _ hentry with hold | ⟨-, -, hdrawn | ⟨old, hold, hid⟩⟩
    · exact hknown (h.known _ _ hold)
    · exact List.mem_append_left _ hdrawn
    · exact hid ▸ hknown (h.known _ _ hold)
  · rcases hafter _ _ hentry with hold | ⟨rfl, -, hnew⟩ <;>
      rcases hafter _ _ hentry' with hold' | ⟨hother, -, hnew'⟩
    · exact h.distinct _ _ _ _ hold hold' heq
    · exact hother ▸ hkey hold hnew' heq
    · exact (hkey hold' hnew heq.symm).symm
    · exact hother.symm

theorem absent_next (htimely : history.Timely call)
    (hdrawn : leaseId ∈ history.drawn)
    (habsent : history.table.Absent leaseId) :
    leaseId ∈ (history.next call).drawn ∧
      (history.next call).table.Absent leaseId := by
  refine ⟨List.mem_append_right _ hdrawn, ?_⟩
  obtain ⟨key, hafter⟩ := history.table.lookup_after call
  intro deviceKey entry hentry
  rcases hafter _ _ hentry with hold | ⟨-, -, hnew | ⟨old, hold, hid⟩⟩
  · exact habsent _ _ hold
  · rintro rfl
    exact htimely.2 _ hnew hdrawn
  · exact hid ▸ habsent _ _ hold

/-! ## Leases that are over -/

/-- The call ends the lease with this id: it releases or revokes it, grants
its device anew, or clears the table. -/
inductive Retires (table : LeaseTable) : LeaseCall → Uuid → Prop
  | released {lease nowMs instant after}
      (hrelease : table.release lease nowMs instant = .ok after) :
      Retires table (.release lease nowMs instant) lease.leaseId
  | revoked {lease after} (hrevoke : table.revoke lease = .ok after) :
      Retires table (.revoke lease) lease.leaseId
  | replaced
      {deviceKey ownerId ttlMs nowMs checkedAt grantedAt leaseId old lease after}
      (hold : table.active.lookup deviceKey = some old)
      (hacquire : table.acquire deviceKey ownerId ttlMs nowMs checkedAt
        grantedAt leaseId = .ok (lease, after))
      (hother : lease.leaseId ≠ old.token.leaseId) :
      Retires table (.acquire deviceKey ownerId ttlMs nowMs checkedAt
        grantedAt leaseId) old.token.leaseId
  | cleared {deviceKey old} (hold : table.active.lookup deviceKey = some old) :
      Retires table .invalidateAll old.token.leaseId

theorem Kept.absent_drop {lease : PeerLease}
    (h : Kept history) (hholds : history.table.holds lease = true) :
    lease.leaseId ∈ history.drawn ∧
      (history.table.drop lease.deviceKey).Absent lease.leaseId := by
  obtain ⟨entry, hentry, htoken⟩ := holds_iff.mp hholds
  refine ⟨htoken ▸ h.known _ _ hentry, fun deviceKey current hcurrent heq => ?_⟩
  rw [lookup_drop] at hcurrent
  split at hcurrent
  next => cases hcurrent
  next hkey =>
    exact hkey (h.distinct _ _ _ _ hcurrent hentry (by rw [heq, htoken]))

theorem Kept.absent_of_retires (h : Kept history)
    (hretires : Retires history.table call leaseId) :
    leaseId ∈ history.drawn ∧ (history.next call).table.Absent leaseId := by
  cases hretires with
  | released hrelease =>
    obtain ⟨haccepts, rfl⟩ := release_eq_ok hrelease
    rw [LeaseHistory.next, LeaseTable.after, hrelease]
    exact h.absent_drop (holds_of_accepts haccepts)
  | revoked hrevoke =>
    obtain ⟨hholds, rfl⟩ := revoke_eq_ok hrevoke
    rw [LeaseHistory.next, LeaseTable.after, hrevoke]
    exact h.absent_drop hholds
  | @replaced deviceKey _ _ _ _ _ _ old lease after hold hacquire hother =>
    refine ⟨h.known _ _ hold, ?_⟩
    rw [LeaseHistory.next, LeaseTable.after, hacquire]
    rcases acquire_eq_ok hacquire with
      ⟨entry, hentry, -, htoken, -, -⟩ | ⟨-, -, hkey, -, -, deadline, rfl⟩
    · cases hold.symm.trans hentry
      exact absurd (htoken ▸ rfl) hother
    · intro device current hcurrent
      simp only [lookup_put] at hcurrent
      split at hcurrent
      next =>
        cases hcurrent
        exact hother
      next hne =>
        intro heq
        exact hne (hkey ▸ h.distinct _ _ _ _ hcurrent hold heq)
  | @cleared deviceKey old hold =>
    refine ⟨h.known _ _ hold, fun device current hcurrent => ?_⟩
    simp [LeaseHistory.next, LeaseTable.after, invalidateAll] at hcurrent

theorem kept_of_run {table : LeaseTable}
    (hnew : new nodeEpoch knownDevices = .ok table)
    (hrun : Run Step (start table) calls history) : Kept history := by
  obtain ⟨_, _, h⟩ := Fallible.bind_eq_ok.mp hnew
  cases h
  refine hrun.invariant (fun s call t hs hstep => ?_)
    (by constructor <;> intros <;> simp_all [start])
  obtain ⟨htimely, rfl⟩ := hstep
  exact hs.next htimely

theorem absent_of_run {after : LeaseHistory}
    (hrun : Run Step history calls after) (hdrawn : leaseId ∈ history.drawn)
    (habsent : history.table.Absent leaseId) : after.table.Absent leaseId := by
  have hboth : leaseId ∈ after.drawn ∧ after.table.Absent leaseId := by
    refine hrun.invariant (I := fun s => leaseId ∈ s.drawn ∧
      s.table.Absent leaseId) (fun s call t hs hstep => ?_) ⟨hdrawn, habsent⟩
    obtain ⟨htimely, rfl⟩ := hstep
    exact absent_next htimely hs.1 hs.2
  exact hboth.2

end LeaseHistory

namespace LeaseTable

variable {table : LeaseTable}

/-- A lease whose id is gone is refused by every call that needs one. -/
theorem Absent.refused (h : table.Absent lease.leaseId)
    (ttlMs nowMs checkedAt grantedAt : ℕ) :
    table.authorize lease nowMs checkedAt ≠ .ok () ∧
      (∀ result, table.renew lease ttlMs nowMs checkedAt grantedAt ≠
        .ok result) ∧
      ∀ after, table.release lease nowMs checkedAt ≠ .ok after := by
  have hrefused := h.accepts nowMs checkedAt
  refine ⟨fun hok => ?_, fun ⟨renewed, after⟩ hok => ?_, fun after hok => ?_⟩
  · cases (authorize_eq_ok hok).symm.trans hrefused
  · cases ((renew_eq_ok hok).1).symm.trans hrefused
  · cases ((release_eq_ok hok).1).symm.trans hrefused

theorem acquire_error_of_accepts {nowMs instant : ℕ}
    (h : table.accepts lease nowMs instant = true) {ownerId : String}
    (hother : ownerId ≠ lease.ownerId) (ttlMs grantedAt : ℕ) (leaseId : Uuid) :
    ∃ error, table.acquire lease.deviceKey ownerId ttlMs nowMs instant
      grantedAt leaseId = .error error := by
  obtain ⟨entry, hentry, rfl, hactive⟩ := accepts_iff.mp h
  cases hacquire : table.acquire entry.token.deviceKey ownerId ttlMs nowMs
      instant grantedAt leaseId with
  | error error => exact ⟨error, rfl⟩
  | ok result =>
    rcases acquire_eq_ok hacquire with
      ⟨found, hfound, -, htoken, howner, -⟩ | ⟨hnone, -⟩
    · cases hentry.symm.trans hfound
      exact absurd (htoken ▸ howner.symm) hother
    · cases (hnone entry hentry).symm.trans hactive

end LeaseTable

/-! ## One holder per device -/

/-- A table with one device, and a lease on it. -/
def sampleTable : LeaseTable := ⟨9, ["phone-1"], ∅⟩

def sampleLease : PeerLease := ⟨⟨1⟩, "phone-1", "owner-a", 9, 1010⟩

def sampleAcquire : LeaseCall := .acquire "phone-1" "owner-a" 1000 10 0 0 ⟨1⟩

/-- The history that acquired the lease. -/
def sampleHistory : LeaseHistory := (LeaseHistory.start sampleTable).next
  sampleAcquire

/-- In every history of a lease table: `authorize` accepts at most one lease
id per device, whatever the two clocks show; while it accepts a lease, nobody
else acquires the device; and a lease id that was released, revoked or
replaced is never accepted again. -/
theorem lease_single_holder {table : LeaseTable}
    (hnew : new nodeEpoch knownDevices = .ok table) {calls : List LeaseCall}
    {history : LeaseHistory}
    (hrun : Run LeaseHistory.Step (.start table) calls history) :
    (∀ a b : PeerLease, ∀ nowMs nowMs' instant instant',
      a.deviceKey = b.deviceKey →
      history.table.authorize a nowMs instant = .ok () →
      history.table.authorize b nowMs' instant' = .ok () →
        a.leaseId = b.leaseId) ∧
    (∀ (lease : PeerLease) nowMs instant ownerId ttlMs grantedAt leaseId,
      history.table.authorize lease nowMs instant = .ok () →
      ownerId ≠ lease.ownerId →
        ∃ error, history.table.acquire lease.deviceKey ownerId ttlMs nowMs
          instant grantedAt leaseId = .error error) ∧
    ∀ call leaseId, LeaseHistory.Retires history.table call leaseId →
      ∀ later after, history.Timely call →
      Run LeaseHistory.Step (history.next call) later after →
      ∀ lease : PeerLease, lease.leaseId = leaseId →
      ∀ ttlMs nowMs checkedAt grantedAt,
        after.table.authorize lease nowMs checkedAt ≠ .ok () ∧
        (∀ result, after.table.renew lease ttlMs nowMs checkedAt grantedAt ≠
          .ok result) ∧
        ∀ released, after.table.release lease nowMs checkedAt ≠
          .ok released := by
  refine ⟨?_, ?_, ?_⟩
  · intro a b nowMs nowMs' instant instant' hdevice ha hb
    obtain ⟨entry, hentry, rfl, -⟩ := accepts_iff.mp (authorize_eq_ok ha)
    obtain ⟨entry', hentry', rfl, -⟩ := accepts_iff.mp (authorize_eq_ok hb)
    rw [hdevice, hentry'] at hentry
    cases hentry
    rfl
  · intro lease nowMs instant ownerId ttlMs grantedAt leaseId hok hother
    exact acquire_error_of_accepts (authorize_eq_ok hok)
      hother ttlMs grantedAt leaseId
  · rintro call leaseId hretires later after - hlater lease rfl ttlMs nowMs
      checkedAt grantedAt
    have hkept := LeaseHistory.kept_of_run hnew hrun
    obtain ⟨hdrawn, habsent⟩ := hkept.absent_of_retires hretires
    have hgone := LeaseHistory.absent_of_run hlater
      (List.mem_append_right _ hdrawn) habsent
    exact hgone.refused ttlMs nowMs checkedAt grantedAt

/-- A lease that was accepted is refused once it was released. -/
theorem lease_single_holder_released :
    sampleHistory.table.authorize sampleLease 11 0 = .ok () ∧
      (sampleHistory.next (.release sampleLease 12 1)).table.authorize
        sampleLease 11 1 ≠ .ok () := by
  have hnew : new 9 ["phone-1"] = .ok sampleTable := by rfl
  have hrun : Run LeaseHistory.Step (.start sampleTable)
      [sampleAcquire] sampleHistory :=
    Run.single ⟨by decide +kernel, rfl⟩
  have hrelease : sampleHistory.table.release sampleLease 12 1 =
      .ok sampleTable := by
    rfl
  refine ⟨by rfl, ?_⟩
  exact ((lease_single_holder hnew hrun).2.2 _ _ (.released hrelease) [] _
    (by decide +kernel) (Run.nil _) sampleLease rfl 1000 11 1 1).1

end DeviceRail.Router
