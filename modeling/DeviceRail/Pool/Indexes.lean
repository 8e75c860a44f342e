import DeviceRail.Pool.Record
import DeviceRail.Support.SecondaryIndex

/-!
# The indexes of the pool

The three indexes of the state are derived from the leases in the device
records: `Indexed` says so declaratively, through the specifications of
secondary indexes, and every primitive change of the state keeps it.
`recomputed` derives the indexes from the records with a loop, and a state
whose indexes are specified has the recomputed ones.
-/

namespace DeviceRail

open SecondaryIndex

namespace LeaseRecord

def id (lease : LeaseRecord) : LeaseId := lease.value.id

def ownerId (lease : LeaseRecord) : LeaseOwnerId := lease.value.ownerId

/-- The entry of a lease among the deadlines. -/
def due (lease : LeaseRecord) : ℕ × LeaseId := (lease.deadline, lease.value.id)

end LeaseRecord

/-- The leases of the devices, their indexes and where they are stored agree. -/
structure PoolState.Indexed (state : PoolState) : Prop where
  keyed : ∀ deviceId record, state.devices.lookup deviceId = some record →
    record.deviceId = deviceId
  placed : ∀ deviceId lease, state.leaseOf deviceId = some lease →
    lease.value.deviceId = deviceId
  located : Locates state.leaseOf LeaseRecord.id state.leaseDevices
  grouped : Groups state.leaseOf LeaseRecord.ownerId LeaseRecord.id
    state.ownerLeases
  collected : Collects state.leaseOf LeaseRecord.due state.leaseDeadlines

namespace PoolState

variable {state after : PoolState} {deviceId : DeviceId}

theorem Indexed.of_same_leases (h : state.Indexed)
    (hkeyed : ∀ deviceId record, after.devices.lookup deviceId = some record →
      record.deviceId = deviceId) (hleases : after.leaseOf = state.leaseOf)
    (hdevices : after.leaseDevices = state.leaseDevices)
    (howners : after.ownerLeases = state.ownerLeases)
    (hdeadlines : after.leaseDeadlines = state.leaseDeadlines) :
    after.Indexed := by
  refine ⟨hkeyed, ?_, ?_, ?_, ?_⟩
  · rw [hleases]
    exact h.placed
  · rw [hleases, hdevices]
    exact h.located
  · rw [hleases, howners]
    exact h.grouped
  · rw [hleases, hdeadlines]
    exact h.collected

variable {lease : Option LeaseRecord} {record : PoolRecord}

theorem Indexed.set_lease (h : state.Indexed)
    (hlookup : state.devices.lookup deviceId = some record)
    (hdevices : after.devices = state.setLease deviceId lease)
    (hdevice : ∀ l, lease = some l → l.value.deviceId = deviceId)
    (hlocated : Locates (Function.update state.leaseOf deviceId lease)
      LeaseRecord.id after.leaseDevices)
    (hgrouped : Groups (Function.update state.leaseOf deviceId lease)
      LeaseRecord.ownerId LeaseRecord.id after.ownerLeases)
    (hcollected : Collects (Function.update state.leaseOf deviceId lease)
      LeaseRecord.due after.leaseDeadlines) : after.Indexed := by
  have hleases : after.leaseOf =
      Function.update state.leaseOf deviceId lease := by
    funext other
    rw [leaseOf, hdevices, lookup_setLease]
    by_cases hother : other = deviceId
    · subst hother
      simp [hlookup, PoolRecord.withLease]
    · simp [hother, leaseOf]
  refine ⟨fun other found hfound => ?_, fun other l hl => ?_,
    hleases ▸ hlocated, hleases ▸ hgrouped, hleases ▸ hcollected⟩
  · rw [hdevices, lookup_setLease] at hfound
    split at hfound
    next hother =>
      subst hother
      obtain ⟨before, hbefore, rfl⟩ := Option.map_eq_some_iff.mp hfound
      exact h.keyed other before hbefore
    next => exact h.keyed other found hfound
  · rw [hleases] at hl
    by_cases hother : other = deviceId
    · subst hother
      rw [Function.update_self] at hl
      exact hdevice l hl
    · rw [Function.update_of_ne hother] at hl
      exact h.placed other l hl

theorem Indexed.device_unique (h : state.Indexed) {other : DeviceId}
    {lease lease' : LeaseRecord} (hlease : state.leaseOf deviceId = some lease)
    (hlease' : state.leaseOf other = some lease')
    (hid : lease.value.id = lease'.value.id) : deviceId = other :=
  h.located.place_unique hlease hlease' hid

theorem Indexed.due_unique (h : state.Indexed) {lease : LeaseRecord}
    (hlease : state.leaseOf deviceId = some lease) (other : DeviceId)
    (lease' : LeaseRecord) (hlease' : state.leaseOf other = some lease')
    (hdue : lease'.due = lease.due) : other = deviceId :=
  h.device_unique hlease' hlease (congrArg Prod.snd hdue)

theorem dropOwnerLease_eq_dropKey (lease : LeaseRecord) :
    state.dropOwnerLease lease.value =
      dropKey state.ownerLeases lease.ownerId lease.id := by
  unfold dropOwnerLease dropKey LeaseRecord.ownerId LeaseRecord.id
  cases state.ownerLeases.lookup lease.value.ownerId <;> rfl

theorem Indexed.takeLease (h : state.Indexed) (deviceId : DeviceId) :
    (state.takeLease deviceId).2.Indexed := by
  unfold PoolState.takeLease
  split
  next => exact h
  next lease hlease =>
    obtain ⟨record, hlookup, -⟩ := leaseOf_eq_some.mp hlease
    have hunique := fun other lease' (hlease' : state.leaseOf other = some lease')
        (hid : lease'.id = lease.id) => h.device_unique hlease' hlease hid
    refine h.set_lease hlookup rfl (by simp) (h.located.take hlease) ?_
      (h.collected.take hlease (h.due_unique hlease))
    simp only [dropOwnerLease_eq_dropKey]
    exact h.grouped.take hlease hunique

theorem Indexed.renewed (h : state.Indexed) {lease : LeaseRecord}
    (deadline expiresAtMs : ℕ) (hlease : state.leaseOf deviceId = some lease) :
    (state.renewed deviceId lease deadline expiresAtMs).Indexed := by
  obtain ⟨record, hlookup, -⟩ := leaseOf_eq_some.mp hlease
  refine h.set_lease hlookup rfl (fun l hl => ?_)
    (h.located.replace hlease rfl) (h.grouped.replace hlease rfl rfl)
    (h.collected.replace hlease (h.due_unique hlease))
  cases hl
  exact h.placed deviceId lease hlease

theorem Indexed.installed (h : state.Indexed) (lease : LeaseRecord)
    (hlookup : state.devices.lookup deviceId = some record)
    (hfree : record.lease = none) (hfresh : lease.value.id ∉ state.leaseDevices)
    (hdevice : lease.value.deviceId = deviceId) :
    (state.installed deviceId lease).Indexed := by
  have hnone : state.leaseOf deviceId = none :=
    (leaseOf_of_lookup hlookup).trans hfree
  refine h.set_lease hlookup rfl (fun l hl => ?_) (h.located.put hnone hfresh)
    (h.grouped.put hnone) (h.collected.put hnone)
  cases hl
  exact hdevice

theorem indexed_empty : PoolState.empty.Indexed := by
  have hnone : ∀ deviceId, PoolState.empty.leaseOf deviceId = none :=
    fun _ => rfl
  refine ⟨by simp [empty], by simp [hnone], ?_, ⟨?_, ?_⟩, ?_⟩
  · intro i deviceId
    simp only [hnone]
    simp [empty]
  · intro owner i
    simp only [hnone]
    simp [empty, bucket]
  · simp [empty]
  · intro e
    simp only [hnone]
    simp [empty]

theorem Edit.indexed (hedit : state.Edit after) (h : state.Indexed) :
    after.Indexed := by
  cases hedit with
  | wallClock nowMs => exact h.of_same_leases h.keyed rfl rfl rfl rfl
  | taken deviceId => exact h.takeLease deviceId
  | renewed deadline expiresAtMs hlease =>
    exact h.renewed deadline expiresAtMs hlease
  | installed lease hlookup hfree hfresh hdevice =>
    exact h.installed lease hlookup hfree hfresh hdevice
  | @registered deviceId gate habsent =>
    refine h.of_same_leases ?_ ?_ rfl rfl rfl
    · exact KeyedMap.forall_insert rfl h.keyed
    · funext other
      simp only [leaseOf, KeyedMap.lookup_insert_ite]
      split
      next heq =>
        subst heq
        simp [habsent]
      next => rfl
  | @removed deviceId record hlookup hfree =>
    refine h.of_same_leases ?_ ?_ rfl rfl rfl
    · exact KeyedMap.forall_erase h.keyed
    · funext other
      simp only [leaseOf, KeyedMap.lookup_erase_ite]
      split
      next heq =>
        subst heq
        simp [hlookup, hfree]
      next => rfl
  | health deviceId health checkedAt =>
    refine h.of_same_leases ?_ ?_ rfl rfl rfl
    · exact KeyedMap.forall_adjust (h.keyed deviceId)
        fun other record _ => h.keyed other record
    · funext other
      simp only [leaseOf, KeyedMap.lookup_adjust]
      split
      next heq =>
        subst heq
        cases state.devices.lookup other <;> rfl
      next => rfl

theorem indexed_of_edits (hedits : Relation.ReflTransGen Edit state after)
    (h : state.Indexed) : after.Indexed := by
  induction hedits with
  | refl => exact h
  | tail _ hedit ih => exact hedit.indexed ih

/-- What a call does at a gate: nothing when the gate is not current, and
otherwise what it does to the record there.  It never panics. -/
theorem Indexed.atGate_cases (h : state.Indexed) {config : DevicePoolConfig}
    {request : PoolRequest} {gate : GateId} {now : ℕ} {candidate : LeaseId}
    {outcome : Option (PoolReply × PoolState)}
    (hrun : state.atGate config request deviceId gate now candidate =
      some outcome) :
    (∃ error, state.ensureCurrentGate deviceId gate = .error error ∧
        outcome = some (request.refused error, state)) ∨
      ∃ record after, state.devices.lookup deviceId = some record ∧
        record.gate = gate ∧
        outcome = some ((record.atGate config request now
          (max state.wallHighWaterMs request.nowMs) candidate).1, after) ∧
        state.Becomes deviceId (record.atGate config request now
          (max state.wallHighWaterMs request.nowMs) candidate).2 after := by
  cases hgate : state.ensureCurrentGate deviceId gate with
  | error error => exact .inl ⟨error, rfl, atGate_stale hgate hrun⟩
  | ok _ =>
    obtain ⟨record, hlookup, hcurrent⟩ := ensureCurrentGate_eq_ok.mp hgate
    obtain ⟨after, houtcome, hbecomes⟩ :=
      atGate_current hlookup hcurrent (h.keyed deviceId record hlookup) hrun
    exact .inr ⟨record, after, hlookup, hcurrent, houtcome, hbecomes⟩

/-! ## Recomputing the indexes -/

structure Recomputed where
  leaseDevices : KeyedMap LeaseId DeviceId
  ownerLeases : KeyedMap LeaseOwnerId (Finset LeaseId)
  leaseDeadlines : Finset (ℕ × LeaseId)

namespace Recomputed

/-- One turn of the loop of `indexes_are_consistent`. -/
def visit (indexes : Recomputed) (deviceId : DeviceId) (record : PoolRecord) :
    Recomputed :=
  match record.lease with
  | none => indexes
  | some lease =>
    { leaseDevices := indexes.leaseDevices.insert lease.value.id deviceId
      ownerLeases := indexes.ownerLeases.insert lease.value.ownerId
        (insert lease.value.id
          ((indexes.ownerLeases.lookup lease.value.ownerId).getD ∅))
      leaseDeadlines :=
        insert (lease.deadline, lease.value.id) indexes.leaseDeadlines }

/-- The indexes are those of some leases. -/
structure Of (leases : DeviceId → Option LeaseRecord) (indexes : Recomputed) :
    Prop where
  located : Locates leases LeaseRecord.id indexes.leaseDevices
  grouped : Groups leases LeaseRecord.ownerId LeaseRecord.id indexes.ownerLeases
  collected : Collects leases LeaseRecord.due indexes.leaseDeadlines

theorem Of.visit {leases : DeviceId → Option LeaseRecord} {indexes : Recomputed}
    (h : Of leases indexes) (hfree : leases deviceId = none)
    (hfresh : ∀ lease, record.lease = some lease → ∀ other lease',
      leases other = some lease' → lease'.id ≠ lease.id) :
    Of (Function.update leases deviceId record.lease)
      (indexes.visit deviceId record) := by
  unfold Recomputed.visit
  cases hlease : record.lease with
  | none =>
    have hsame : Function.update leases deviceId none = leases := by
      rw [← hfree, Function.update_eq_self]
    rwa [hsame]
  | some lease =>
    have hnew : lease.id ∉ indexes.leaseDevices := by
      intro hmem
      obtain ⟨other, hother⟩ := (KeyedMap.mem_iff_lookup _ _).mp hmem
      obtain ⟨lease', hlease', hid⟩ := (h.located _ _).mp hother
      exact hfresh lease hlease other lease' hlease' hid
    exact ⟨h.located.put hfree hnew, h.grouped.put hfree, h.collected.put hfree⟩

end Recomputed

/-- The loop of `indexes_are_consistent`. -/
def recomputed (state : PoolState) : Recomputed :=
  state.devices.entries.foldl
    (fun indexes entry => indexes.visit entry.1 entry.2) ⟨∅, ∅, ∅⟩

/-- `indexes_are_consistent`; maps are compared by what they hold. -/
def IndexesAreConsistent (state : PoolState) : Prop :=
  (∀ leaseId, state.leaseDevices.lookup leaseId =
      state.recomputed.leaseDevices.lookup leaseId) ∧
    (∀ ownerId, state.ownerLeases.lookup ownerId =
      state.recomputed.ownerLeases.lookup ownerId) ∧
    state.leaseDeadlines = state.recomputed.leaseDeadlines

/-- The leases of a list of records, on top of others. -/
def leasesIn (entries : List (Sigma fun _ : DeviceId => PoolRecord))
    (leases : DeviceId → Option LeaseRecord) (deviceId : DeviceId) :
    Option LeaseRecord :=
  match entries.dlookup deviceId with
  | some record => record.lease
  | none => leases deviceId

theorem leasesIn_cons (record : PoolRecord)
    {entries : List (Sigma fun _ : DeviceId => PoolRecord)}
    (leases : DeviceId → Option LeaseRecord) (hnew : deviceId ∉ entries.keys) :
    leasesIn (⟨deviceId, record⟩ :: entries) leases =
      leasesIn entries (Function.update leases deviceId record.lease) := by
  funext other
  by_cases hother : other = deviceId
  · subst hother
    simp [leasesIn, List.dlookup_eq_none.mpr hnew]
  · simp [leasesIn, List.dlookup_cons_ne entries ⟨deviceId, record⟩ hother,
      Function.update_of_ne hother]

theorem Recomputed.Of.visits
    (entries : List (Sigma fun _ : DeviceId => PoolRecord))
    (leases : DeviceId → Option LeaseRecord) (indexes : Recomputed)
    (h : Recomputed.Of leases indexes) (hkeys : entries.NodupKeys)
    (hfree : ∀ entry ∈ entries, leases entry.1 = none)
    (hunique : ∀ deviceId other lease lease',
      leasesIn entries leases deviceId = some lease →
      leasesIn entries leases other = some lease' →
      lease.id = lease'.id → deviceId = other) :
    Recomputed.Of (leasesIn entries leases)
      (entries.foldl (fun indexes entry => indexes.visit entry.1 entry.2)
        indexes) := by
  induction entries generalizing leases indexes with
  | nil => exact h
  | cons entry entries ih =>
    obtain ⟨deviceId, record⟩ := entry
    obtain ⟨hnew, hkeys⟩ := List.nodupKeys_cons.mp hkeys
    have hfirst : leases deviceId = none := hfree _ (List.mem_cons_self ..)
    have hsplit := leasesIn_cons record leases hnew
    rw [hsplit] at hunique ⊢
    have hself : leasesIn entries
        (Function.update leases deviceId record.lease) deviceId =
          record.lease := by
      simp [leasesIn, List.dlookup_eq_none.mpr hnew]
    refine ih _ _ (h.visit hfirst ?_) hkeys ?_ hunique
    · intro lease hlease other lease' hlease' hid
      have hne : other ≠ deviceId := by
        rintro rfl
        cases hfirst.symm.trans hlease'
      have habsent : other ∉ entries.keys := by
        intro hmem
        obtain ⟨entry, hentry, rfl⟩ := List.mem_map.mp hmem
        cases (hfree entry (List.mem_cons_of_mem _ hentry)).symm.trans hlease'
      have hother : leasesIn entries
          (Function.update leases deviceId record.lease) other =
            some lease' := by
        simp [leasesIn, List.dlookup_eq_none.mpr habsent,
          Function.update_of_ne hne, hlease']
      exact hne (hunique other deviceId lease' lease hother
        (hself.trans hlease) hid)
    · intro entry hentry
      have hne : entry.1 ≠ deviceId := by
        intro heq
        have hmem : entry.1 ∈ entries.keys := List.mem_keys_of_mem hentry
        rw [heq] at hmem
        exact hnew hmem
      rw [Function.update_of_ne hne]
      exact hfree entry (List.mem_cons_of_mem _ hentry)

theorem Indexed.recomputed (h : state.Indexed) :
    Recomputed.Of state.leaseOf state.recomputed := by
  have hleases : leasesIn state.devices.entries (fun _ => none) =
      state.leaseOf := by
    funext deviceId
    change _ = (state.devices.entries.dlookup deviceId).bind PoolRecord.lease
    unfold leasesIn
    cases state.devices.entries.dlookup deviceId <;> rfl
  rw [← hleases]
  refine Recomputed.Of.visits _ _ _ ⟨?_, ⟨?_, ?_⟩, ?_⟩ state.devices.nodupKeys
    (fun _ _ => rfl) ?_
  · simp [Locates]
  · simp [bucket]
  · simp
  · simp [Collects]
  · rw [hleases]
    exact fun _ _ _ _ hlease hlease' hid => h.device_unique hlease hlease' hid

theorem Indexed.consistent (h : state.Indexed) : state.IndexesAreConsistent :=
  ⟨h.located.lookup_eq h.recomputed.located,
    h.grouped.lookup_eq h.recomputed.grouped,
    h.collected.eq h.recomputed.collected⟩

end PoolState

end DeviceRail
