import DeviceRail.Router.Routes

/-!
# Histories of a router

Any sequence of `upsert` and `remove_node` calls.  Beside the router's tables
a history keeps the inventories that were accepted for each node since it was
last removed, the newest first.
-/

namespace DeviceRail.Router

open RouterState Transition List

inductive RouterCall where
  | upsert (node : RemoteNode) (now : ℕ)
  | removeNode (nodeId : NodeId)
deriving DecidableEq

structure RouterHistory where
  router : RouterState
  accepted : List RemoteNode

/-- The later inventory of a node is not older, and the same revision lists
the same devices. -/
structure Precedes (old new : RemoteNode) : Prop where
  not_older : old.epoch < new.epoch ∨
    old.epoch = new.epoch ∧ old.inventory.revision ≤ new.inventory.revision
  same : old.epoch = new.epoch →
    old.inventory.revision = new.inventory.revision →
      old.inventory.devices = new.inventory.devices

/-- Two inventories name no device with two platforms. -/
def SamePlatforms (old new : RemoteNode) : Prop :=
  ∀ deviceKey p q, old.platform deviceKey = some p →
    new.platform deviceKey = some q → p = q

/-! ## Successors -/

theorem Precedes.trans {a b c : RemoteNode} (hab : Precedes a b)
    (hbc : Precedes b c) : Precedes a c := by
  have h := hab.not_older
  have h' := hbc.not_older
  refine ⟨by omega, fun hepoch hrevision => ?_⟩
  exact (hab.same (by omega) (by omega)).trans (hbc.same (by omega) (by omega))

variable {node : RemoteNode} {deviceKey : String} {p : Platform}

theorem RemoteNode.platform_of_mem {device : RemoteDeviceDescriptor}
    (h : device ∈ node.inventory.devices) :
    node.platform device.deviceKey = some device.platform := by
  have hnodup := InventorySnapshot.keys_nodup node.inventory_valid
  unfold InventorySnapshot.keys at hnodup
  unfold platform
  have hfind : node.inventory.devices.find?
      (·.deviceKey == device.deviceKey) = some device := by
    generalize node.inventory.devices = devices at h hnodup
    induction devices with
    | nil => cases h
    | cons first devices ih =>
      rw [map_cons, nodup_cons] at hnodup
      rcases mem_cons.mp h with rfl | hmem
      · simp
      · have hne : first.deviceKey ≠ device.deviceKey := fun heq =>
          hnodup.1 (heq ▸ mem_map_of_mem hmem)
        rw [find?_cons_of_neg (by simpa using hne)]
        exact ih hmem hnodup.2
  rw [hfind]
  rfl

theorem RemoteNode.mem_of_platform (h : node.platform deviceKey = some p) :
    ∃ device ∈ node.inventory.devices, device.deviceKey = deviceKey ∧
      device.platform = p := by
  obtain ⟨device, hfind, hplatform⟩ := Option.map_eq_some_iff.mp h
  exact ⟨device, mem_of_find?_eq_some hfind,
    by simpa using find?_some hfind, hplatform⟩

theorem validateSuccessor_eq_ok {old new : RemoteNode}
    (h : validateSuccessor old new = .ok ()) :
    Precedes old new ∧ SamePlatforms old new := by
  obtain ⟨hepoch, h⟩ := guard_eq_ok.mp h
  obtain ⟨hrevision, h⟩ := guard_eq_ok.mp h
  obtain ⟨hdevices, h⟩ := guard_eq_ok.mp h
  obtain ⟨hplatforms, h⟩ := guard_eq_ok.mp h
  refine ⟨⟨by omega, fun he hr => ?_⟩, fun deviceKey p q hp hq => ?_⟩
  · by_contra hne
    exact hdevices ⟨he.symm, hr.symm, fun heq => hne heq.symm⟩
  · obtain ⟨device, hmem, rfl, rfl⟩ := RemoteNode.mem_of_platform hp
    by_contra hne
    apply hplatforms
    rw [any_eq_true]
    refine ⟨device, hmem, ?_⟩
    rw [hq]
    simpa using fun heq => hne heq.symm

/-! ## Histories -/

namespace RouterHistory

def initial : RouterHistory := ⟨.initial, []⟩

def next (config : RouterConfig) (history : RouterHistory) :
    RouterCall → RouterHistory
  | .upsert node now =>
    match history.router.upsert config node now with
    | (.ok (), router) => ⟨router, node :: history.accepted⟩
    | (.error _, router) => ⟨router, history.accepted⟩
  | .removeNode nodeId =>
    match history.router.removeNode nodeId with
    | (.ok (), router) => ⟨router, history.accepted.filter (·.nodeId != nodeId)⟩
    | (.error _, router) => ⟨router, history.accepted⟩

def Step (config : RouterConfig) (history : RouterHistory)
    (call : RouterCall) (after : RouterHistory) : Prop :=
  after = history.next config call

/-- The tables agree with the accepted inventories. -/
structure Consistent (history : RouterHistory) : Prop where
  exact : history.router.RoutesExact
  current : ∀ nodeId, history.router.nodes.lookup nodeId =
    history.accepted.find? (·.nodeId == nodeId)
  ordered : history.accepted.Pairwise fun newer older =>
    newer.nodeId = older.nodeId → Precedes older newer

variable {nodeId : NodeId} {old : RemoteNode} {now : ℕ}
  {accepted : List RemoteNode}

/-- The inventory accepted last stands in the relation to every other of its
node that each inventory stands in to the later ones. -/
theorem eq_or_of_find? {R : RemoteNode → RemoteNode → Prop}
    {current : RemoteNode} (hpairwise : accepted.Pairwise fun newer older =>
      newer.nodeId = older.nodeId → R older newer)
    (hfind : accepted.find? (·.nodeId == nodeId) = some current)
    (hold : old ∈ accepted) (hid : old.nodeId = nodeId) :
    old = current ∨ R old current := by
  induction accepted with
  | nil => cases hold
  | cons first accepted ih =>
    rw [pairwise_cons] at hpairwise
    by_cases hfirst : first.nodeId = nodeId
    · cases (find?_cons_of_pos (by simpa using hfirst)).symm.trans hfind
      rcases mem_cons.mp hold with rfl | hold
      · exact .inl rfl
      · exact .inr (hpairwise.1 old hold (hfirst.trans hid.symm))
    · rw [find?_cons_of_neg (by simpa using hfirst)] at hfind
      rcases mem_cons.mp hold with rfl | hold
      · exact absurd hid hfirst
      · exact ih hpairwise.2 hfind hold

theorem find?_of_mem (hold : old ∈ accepted) (hid : old.nodeId = nodeId) :
    ∃ current, accepted.find? (·.nodeId == nodeId) = some current := by
  rw [← Option.isSome_iff_exists, find?_isSome]
  exact ⟨old, hold, by simpa using hid⟩

variable {config : RouterConfig} {history : RouterHistory}
  {calls : List RouterCall}

section

variable (h : Consistent history)

include h

section

variable (hadmits : history.router.admits config node now = .ok ())

include hadmits

/-- What admission of a node says about the inventories accepted before. -/
theorem Consistent.successor (hold : old ∈ history.accepted)
    (hid : old.nodeId = node.nodeId) :
    ∃ current, history.router.nodes.lookup node.nodeId = some current ∧
      (old = current ∨ Precedes old current) ∧ Precedes current node ∧
      SamePlatforms current node := by
  obtain ⟨current, hfind⟩ := find?_of_mem hold hid
  have hlookup := (h.current node.nodeId).trans hfind
  refine ⟨current, hlookup, eq_or_of_find? h.ordered hfind hold hid, ?_⟩
  unfold admits at hadmits
  rw [hlookup] at hadmits
  split at hadmits
  next => cases hadmits
  next => exact validateSuccessor_eq_ok hadmits

theorem Consistent.precedes (hold : old ∈ history.accepted)
    (hid : old.nodeId = node.nodeId) : Precedes old node := by
  obtain ⟨current, -, hbefore, hafter, -⟩ := h.successor hadmits hold hid
  rcases hbefore with rfl | hbefore
  · exact hafter
  · exact hbefore.trans hafter

theorem Consistent.upserted :
    Consistent (history.next config (.upsert node now)) := by
  obtain ⟨routes, hupsert, hroutes⟩ := upsert_of_admits h.exact hadmits
  have hnext : history.next config (.upsert node now) =
      ⟨⟨history.router.nodes.insert node.nodeId node, routes⟩,
        node :: history.accepted⟩ := by
    rw [next, hupsert]
  rw [hnext]
  refine ⟨fun localId entry => ?_, fun nodeId => ?_, ?_⟩
  · change routes.lookup localId = some entry ↔ _
    rw [hroutes, h.exact, KeyedMap.lookup_insert_ite]
    constructor
    · rintro (⟨⟨hnode, hkey, hid⟩, hother⟩ | ⟨rfl, hkey, hid⟩)
      · exact ⟨by rw [if_neg hother]; exact hnode, hkey, hid⟩
      · exact ⟨by rw [if_pos rfl], hkey, hid⟩
    · rintro ⟨hnode, hkey, hid⟩
      split at hnode
      next hsame =>
        have heq := Option.some.inj hnode
        exact .inr ⟨heq.symm, heq ▸ hkey, heq ▸ hid⟩
      next hother => exact .inl ⟨⟨hnode, hkey, hid⟩, hother⟩
  · change (history.router.nodes.insert node.nodeId node).lookup nodeId = _
    rw [KeyedMap.lookup_insert_ite]
    split
    next hid => rw [find?_cons_of_pos (by simp [hid])]
    next hid =>
      rw [find?_cons_of_neg (by simpa using fun heq => hid heq.symm)]
      exact h.current nodeId
  · rw [pairwise_cons]
    exact ⟨fun old hold hid => h.precedes hadmits hold hid.symm, h.ordered⟩

end

theorem Consistent.removed
    (hlookup : history.router.nodes.lookup nodeId = some node) :
    Consistent (history.next config (.removeNode nodeId)) := by
  have hnext : history.next config (.removeNode nodeId) =
      ⟨⟨history.router.nodes.erase nodeId,
        history.router.routesWithout nodeId⟩,
        history.accepted.filter (·.nodeId != nodeId)⟩ := by
    rw [next, removeNode, hlookup]
  rw [hnext]
  refine ⟨fun localId entry => ?_, fun other => ?_, h.ordered.filter _⟩
  · change (history.router.routesWithout nodeId).lookup localId = _ ↔ _
    rw [lookup_routesWithout, h.exact, KeyedMap.lookup_erase_ite]
    constructor
    · rintro ⟨⟨hnode, hkey, hid⟩, hother⟩
      exact ⟨by rw [if_neg hother]; exact hnode, hkey, hid⟩
    · rintro ⟨hnode, hkey, hid⟩
      split at hnode
      next => cases hnode
      next hother => exact ⟨⟨hnode, hkey, hid⟩, hother⟩
  · change (history.router.nodes.erase nodeId).lookup other = _
    rw [KeyedMap.lookup_erase_ite, find?_filter]
    split
    next hid =>
      symm
      rw [find?_eq_none]
      simp [hid]
    next hid =>
      rw [h.current other]
      congr 1
      funext old
      by_cases hold : old.nodeId = other
      · simp [hold, hid]
      · simp [hold]

theorem Consistent.next (call : RouterCall) :
    Consistent (history.next config call) := by
  cases call with
  | upsert node now =>
    cases hadmits : history.router.admits config node now with
    | ok _ => exact h.upserted hadmits
    | error e => rwa [RouterHistory.next, upsert_of_refuses hadmits]
  | removeNode nodeId =>
    cases hlookup : history.router.nodes.lookup nodeId with
    | some node => exact h.removed hlookup
    | none => rwa [RouterHistory.next, removeNode, hlookup]

end

theorem consistent_initial : Consistent initial := by
  refine ⟨fun localId entry => ?_, fun nodeId => ?_, List.Pairwise.nil⟩
  · simp [initial, RouterState.initial]
  · simp [initial, RouterState.initial]

theorem consistent_of_run (hrun : Run (Step config) initial calls history) :
    Consistent history := by
  refine hrun.invariant (fun s call t hs hstep => ?_) consistent_initial
  rw [hstep]
  exact hs.next call

/-! ## Platforms -/

/-- The call brings no device key back: a key of the new inventory that an
earlier inventory of the same node and epoch listed is still listed by the
current one. -/
def Continuous (history : RouterHistory) : RouterCall → Prop
  | .upsert node _ => ∀ old ∈ history.accepted,
      old.nodeId = node.nodeId → old.epoch = node.epoch →
      ∀ deviceKey ∈ old.inventory.keys, deviceKey ∈ node.inventory.keys →
      ∀ current, history.router.nodes.lookup node.nodeId = some current →
        deviceKey ∈ current.inventory.keys
  | .removeNode _ => True

/-- Within one epoch of a node no device key changes its platform. -/
def PlatformsStable (history : RouterHistory) : Prop :=
  history.accepted.Pairwise fun newer older =>
    newer.nodeId = older.nodeId → newer.epoch = older.epoch →
      SamePlatforms older newer

theorem platform_of_mem_keys (h : deviceKey ∈ node.inventory.keys) :
    ∃ p, node.platform deviceKey = some p := by
  obtain ⟨device, hdevice, rfl⟩ := mem_map.mp h
  exact ⟨_, RemoteNode.platform_of_mem hdevice⟩

theorem mem_keys_of_platform (h : node.platform deviceKey = some p) :
    deviceKey ∈ node.inventory.keys := by
  obtain ⟨device, hdevice, rfl, -⟩ := RemoteNode.mem_of_platform h
  exact mem_map_of_mem hdevice

theorem platforms_next {call : RouterCall} (h : Consistent history)
    (hstable : history.PlatformsStable)
    (hcontinuous : history.Continuous call) :
    (history.next config call).PlatformsStable := by
  cases call with
  | upsert node now =>
    cases hadmits : history.router.admits config node now with
    | error e => rwa [RouterHistory.next, upsert_of_refuses hadmits]
    | ok _ =>
      obtain ⟨routes, hupsert, -⟩ := upsert_of_admits h.exact hadmits
      rw [RouterHistory.next, hupsert]
      refine pairwise_cons.mpr ⟨fun old hold hid hepoch => ?_, hstable⟩
      obtain ⟨current, hlookup, hbefore, hafter, hplatforms⟩ :=
        h.successor hadmits hold hid.symm
      intro deviceKey p q hp hq
      have hkey := hcontinuous old hold hid.symm hepoch.symm deviceKey
        (mem_keys_of_platform hp) (mem_keys_of_platform hq) current hlookup
      obtain ⟨r, hr⟩ := platform_of_mem_keys hkey
      have hold' : old.platform deviceKey = current.platform deviceKey := by
        have hfind := (h.current node.nodeId).symm.trans hlookup
        rcases hbefore with rfl | hbefore
        · rfl
        · have hsame : old.epoch = current.epoch := by
            have h₁ := hbefore.not_older
            have h₂ := hafter.not_older
            omega
          rcases eq_or_of_find? (R := fun older newer =>
            newer.epoch = older.epoch → SamePlatforms older newer)
            hstable hfind hold hid.symm with heq | hagree
          · rw [heq]
          · rw [hp, hr, hagree hsame.symm deviceKey p r hp hr]
      rw [hp, hr] at hold'
      cases hold'
      exact hplatforms deviceKey p q hr hq
  | removeNode nodeId =>
    cases hlookup : history.router.nodes.lookup nodeId with
    | some node =>
      rw [RouterHistory.next, removeNode, hlookup]
      exact hstable.filter _
    | none => rwa [RouterHistory.next, removeNode, hlookup]

theorem platforms_of_run (hrun : Run (Guarded Continuous (Step config))
      initial calls history) : history.PlatformsStable := by
  have hboth : Consistent history ∧ history.PlatformsStable := by
    refine hrun.invariant (I := fun s => Consistent s ∧ s.PlatformsStable)
      (fun s call t hs hstep => ?_) ⟨consistent_initial, List.Pairwise.nil⟩
    obtain ⟨hcontinuous, rfl⟩ := hstep
    exact ⟨hs.1.next call, platforms_next hs.1 hs.2 hcontinuous⟩
  exact hboth.2

end RouterHistory

/-- In every history the routes are exactly those of the present nodes'
inventories, under names that never collide; no `upsert` fails as a duplicate,
a failing one changes nothing, and a node's inventories follow each other in
order.  When no device key comes back within an epoch, none changes its
platform there. -/
theorem router_tables_consistent (config : RouterConfig) :
    (∀ calls history,
      Run (RouterHistory.Step config) .initial calls history →
        history.router.RoutesExact ∧
        (∀ a b key other,
          history.router.nodes.lookup a.nodeId = some a →
          history.router.nodes.lookup b.nodeId = some b →
          key ∈ a.inventory.keys → other ∈ b.inventory.keys →
          namespacedId a.nodeId key = namespacedId b.nodeId other →
            a = b ∧ key = other) ∧
        (∀ node now, (history.router.upsert config node now).1 ≠
          .error .duplicate) ∧
        (∀ node now e, (history.router.upsert config node now).1 = .error e →
          (history.router.upsert config node now).2 = history.router) ∧
        (∀ nodeId, history.router.nodes.lookup nodeId =
          history.accepted.find? (·.nodeId == nodeId)) ∧
        history.accepted.Pairwise fun newer older =>
          newer.nodeId = older.nodeId → Precedes older newer) ∧
    (∀ a b key other, validIdentifier key maxDeviceKeyBytes = true →
      validIdentifier other maxDeviceKeyBytes = true →
      namespacedId a key = namespacedId b other → a = b ∧ key = other) ∧
    ∀ calls history,
      Run (Guarded RouterHistory.Continuous
        (RouterHistory.Step config)) .initial calls history →
        history.PlatformsStable := by
  refine ⟨fun calls history hrun => ?_, fun a b key other hkey _ heq =>
    namespacedId_injective hkey heq, fun calls history hrun =>
    RouterHistory.platforms_of_run hrun⟩
  have hconsistent := RouterHistory.consistent_of_run hrun
  refine ⟨hconsistent.exact, ?_, ?_, ?_, hconsistent.current,
    hconsistent.ordered⟩
  · intro a b key other ha hb hkey _ heq
    obtain ⟨device, hdevice, rfl⟩ := mem_map.mp hkey
    obtain ⟨hid, hkeys⟩ := namespacedId_injective (a.key_valid hdevice) heq
    rw [hid, hb] at ha
    exact ⟨(Option.some.inj ha).symm, hkeys⟩
  · intro node now
    cases hadmits : history.router.admits config node now with
    | ok _ =>
      obtain ⟨routes, hupsert, -⟩ := upsert_of_admits hconsistent.exact hadmits
      rw [hupsert]
      nofun
    | error e =>
      rw [upsert_of_refuses hadmits, ← hadmits]
      exact admits_ne_duplicate
  · intro node now e herror
    cases hadmits : history.router.admits config node now with
    | ok _ =>
      obtain ⟨routes, hupsert, -⟩ := upsert_of_admits hconsistent.exact hadmits
      rw [hupsert] at herror
      cases herror
    | error e => rw [upsert_of_refuses hadmits]

/-! ## A device that comes back as another one -/

def sampleNodeId : NodeId := ⟨"lab-a", by rfl⟩

def samplePhone (platform : Platform) : RemoteDeviceDescriptor :=
  ⟨"phone-1", "Phone", platform, none⟩

def sampleTablet : RemoteDeviceDescriptor := ⟨"tab-1", "Tab", .android, none⟩

/-- The first inventory lists an Android phone. -/
def firstNode : RemoteNode where
  nodeId := sampleNodeId
  epoch := 7
  inventory := ⟨sampleNodeId, 7, 1, 1, [samplePhone .android, sampleTablet]⟩
  inventoryReceivedAt := 0
  health := ⟨.healthy, 0⟩
  inventory_valid := by rfl
  inventory_nodeId := rfl
  inventory_epoch := rfl

/-- The second does not list the phone. -/
def secondNode : RemoteNode :=
  { firstNode with
    inventory := ⟨sampleNodeId, 7, 2, 1, [sampleTablet]⟩
    inventory_valid := by rfl
    inventory_nodeId := rfl
    inventory_epoch := rfl }

/-- The third lists it again, as another platform. -/
def thirdNode : RemoteNode :=
  { firstNode with
    inventory := ⟨sampleNodeId, 7, 3, 1, [samplePhone .ios, sampleTablet]⟩
    inventory_valid := by rfl
    inventory_nodeId := rfl
    inventory_epoch := rfl }

/-- Inventories that keep their devices keep their platforms. -/
theorem router_tables_consistent_kept :
    ∃ history, Run (Guarded RouterHistory.Continuous
        (RouterHistory.Step .default)) .initial
        [.upsert firstNode 0, .upsert secondNode 0] history ∧
      history.accepted = [secondNode, firstNode] ∧
      history.PlatformsStable := by
  have hrun : Run (Guarded RouterHistory.Continuous
      (RouterHistory.Step .default)) .initial
      [.upsert firstNode 0, .upsert secondNode 0]
      ((RouterHistory.initial.next .default (.upsert firstNode 0)).next
        .default (.upsert secondNode 0)) := by
    refine .cons ⟨?_, rfl⟩ (.single ⟨?_, rfl⟩)
    · intro old hold
      cases hold
    · intro old _ _ _ deviceKey _ hkey current hcurrent
      have hfirst : (RouterHistory.initial.next .default
          (.upsert firstNode 0)).router.nodes.lookup secondNode.nodeId =
            some firstNode := by
        rfl
      cases hcurrent
      have hlisted : deviceKey = "tab-1" := mem_singleton.mp hkey
      rw [hlisted]
      decide
  exact ⟨_, hrun, rfl, (router_tables_consistent .default).2.2 _ _ hrun⟩

/-- The router accepts three inventories of one epoch in which a device key
changes its platform. -/
theorem phone_changes_platform :
    ∃ history, Run (RouterHistory.Step .default) .initial
        [.upsert firstNode 0, .upsert secondNode 0, .upsert thirdNode 0]
        history ∧
      history.accepted = [thirdNode, secondNode, firstNode] ∧
      firstNode.epoch = thirdNode.epoch ∧
      firstNode.platform "phone-1" = some .android ∧
      thirdNode.platform "phone-1" = some .ios ∧
      ¬history.PlatformsStable := by
  refine ⟨((RouterHistory.initial.next .default (.upsert firstNode 0)).next
    .default (.upsert secondNode 0)).next .default (.upsert thirdNode 0),
    .cons rfl (.cons rfl (.single rfl)), rfl, rfl, by rfl, by rfl, ?_⟩
  intro hstable
  have hpairs : [thirdNode, secondNode, firstNode].Pairwise
      fun newer older => newer.nodeId = older.nodeId →
        newer.epoch = older.epoch → SamePlatforms older newer := hstable
  have hsame := (pairwise_cons.mp hpairs).1 firstNode (by simp) rfl rfl
    "phone-1" .android .ios (by rfl) (by rfl)
  cases hsame

end DeviceRail.Router
