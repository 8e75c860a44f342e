import DeviceRail.Pool.Model
import DeviceRail.Router.Model
import DeviceRail.Support.Transition

/-!
# The router's tables

A router keeps the nodes it was told about and one route for every device of
their inventories.  A node enters with the checks of its discovery as fields;
`upsert` removes a node's routes before it inserts the new ones, so what a
failing call leaves behind is part of its result.
-/

namespace DeviceRail.Router

structure RouterConfig where
  maxNodes : ℕ
  maxInventoryAgeMs : ℕ
  maxHealthAgeMs : ℕ
deriving DecidableEq, Repr

inductive RouteError where
  | invalidConfiguration
  | protocol
  | unsupportedVersion
  | unsupportedCapabilities
  | duplicate
  | nodeLimit
  | staleEpoch
  | staleInventory
  | identityDrift
  | unhealthy
  | notFound
deriving DecidableEq, Repr

def RouterConfig.default : RouterConfig := ⟨32, 30000, 10000⟩

inductive HealthState where
  | healthy
  | degraded
  | unavailable
deriving DecidableEq, Repr

structure HealthSnapshot where
  state : HealthState
  receivedAt : ℕ
deriving DecidableEq, Repr

/-- A node, with what its discovery checks of the inventory. -/
structure RemoteNode where
  nodeId : NodeId
  epoch : ℕ
  inventory : InventorySnapshot
  inventoryReceivedAt : ℕ
  health : HealthSnapshot
  inventory_valid : inventory.validate = .ok ()
  inventory_nodeId : inventory.nodeId = nodeId
  inventory_epoch : inventory.epoch = epoch
deriving DecidableEq

namespace RemoteNode

def isFresh (node : RemoteNode) (config : RouterConfig) (now : ℕ) : Bool :=
  node.health.state != .unavailable &&
    now - node.inventoryReceivedAt ≤ fromMillis config.maxInventoryAgeMs &&
    now - node.health.receivedAt ≤ fromMillis config.maxHealthAgeMs

/-- The platform a node announces for a device key. -/
def platform (node : RemoteNode) (deviceKey : String) : Option Platform :=
  (node.inventory.devices.find? (·.deviceKey == deviceKey)).map
    RemoteDeviceDescriptor.platform

end RemoteNode

structure RouteEntry where
  node : RemoteNode
  deviceKey : String
deriving DecidableEq

structure RouterState where
  nodes : KeyedMap NodeId RemoteNode
  routes : KeyedMap DeviceId RouteEntry

def namespacedId (nodeId : NodeId) (deviceKey : String) : DeviceId :=
  ⟨"remote:" ++ nodeId.text ++ ":" ++ deviceKey⟩

def validateSuccessor (old new : RemoteNode) : Except RouteError Unit :=
  if new.epoch < old.epoch then .error .staleEpoch
  else if new.epoch = old.epoch ∧
      new.inventory.revision < old.inventory.revision then
    .error .staleInventory
  else if new.epoch = old.epoch ∧
      new.inventory.revision = old.inventory.revision ∧
      new.inventory.devices ≠ old.inventory.devices then
    .error .identityDrift
  else if old.inventory.devices.any fun previous =>
      (new.platform previous.deviceKey).any (· != previous.platform) then
    .error .identityDrift
  else .ok ()

/-- The insertion loop of `upsert`: whether every id was new, and the routes
so far. -/
def insertRoutes (node : RemoteNode) :
    List RemoteDeviceDescriptor → KeyedMap DeviceId RouteEntry →
      Bool × KeyedMap DeviceId RouteEntry
  | [], routes => (true, routes)
  | descriptor :: devices, routes =>
    let localId := namespacedId node.nodeId descriptor.deviceKey
    let inserted := routes.insert localId ⟨node, descriptor.deviceKey⟩
    if (routes.lookup localId).isSome then (false, inserted)
    else insertRoutes node devices inserted

namespace RouterState

def initial : RouterState := ⟨∅, ∅⟩

/-- The routes without those of a node. -/
def routesWithout (state : RouterState) (nodeId : NodeId) :
    KeyedMap DeviceId RouteEntry :=
  state.routes.retain fun route => route.node.nodeId != nodeId

/-- The checks of `upsert` before it changes anything. -/
def admits (state : RouterState) (config : RouterConfig) (node : RemoteNode)
    (now : ℕ) : Except RouteError Unit :=
  if !node.isFresh config now then .error .unhealthy
  else
    match state.nodes.lookup node.nodeId with
    | none =>
      if state.nodes.len = config.maxNodes then .error .nodeLimit
      else .ok ()
    | some existing => validateSuccessor existing node

def upsert (state : RouterState) (config : RouterConfig) (node : RemoteNode)
    (now : ℕ) : Except RouteError Unit × RouterState :=
  match state.admits config node now with
  | .error e => (.error e, state)
  | .ok () =>
    match insertRoutes node node.inventory.devices
        (state.routesWithout node.nodeId) with
    | (false, routes) => (.error .duplicate, { state with routes })
    | (true, routes) => (.ok (), ⟨state.nodes.insert node.nodeId node, routes⟩)

def removeNode (state : RouterState) (nodeId : NodeId) :
    Except RouteError Unit × RouterState :=
  match state.nodes.lookup nodeId with
  | none => (.error .notFound, state)
  | some _ => (.ok (), ⟨state.nodes.erase nodeId, state.routesWithout nodeId⟩)

end RouterState

/-! ## Names do not collide -/

theorem namespacedId_injective {a b : NodeId} {key other : String}
    (hvalid : validIdentifier key maxDeviceKeyBytes = true)
    (h : namespacedId a key = namespacedId b other) : a = b ∧ key = other := by
  have htext : "remote:" ++ a.text ++ ":" ++ key =
      "remote:" ++ b.text ++ ":" ++ other := congrArg DeviceId.text h
  have hlist := congrArg String.toList htext
  simp only [String.toList_append, List.append_assoc] at hlist
  have hrest : a.text.toList ++ ':' :: key.toList =
      b.text.toList ++ ':' :: other.toList := List.append_cancel_left hlist
  obtain ⟨hnode, -, hkey⟩ := (List.append_cons_inj_of_notMem
    (colon_notMem_of_validIdentifier a.valid)
    (colon_notMem_of_validIdentifier hvalid)).mp hrest
  exact ⟨NodeId.ext (String.toList_injective hnode),
    String.toList_injective hkey⟩

theorem RemoteNode.key_valid (node : RemoteNode)
    {device : RemoteDeviceDescriptor} (h : device ∈ node.inventory.devices) :
    validIdentifier device.deviceKey maxDeviceKeyBytes = true :=
  InventorySnapshot.key_valid node.inventory_valid h

/-! ## The route table -/

namespace RouterState

/-- The routes are the namespaced ids of the present nodes' inventories, each
with its node and key. -/
def RoutesExact (state : RouterState) : Prop :=
  ∀ localId entry, state.routes.lookup localId = some entry ↔
    state.nodes.lookup entry.node.nodeId = some entry.node ∧
      entry.deviceKey ∈ entry.node.inventory.keys ∧
      localId = namespacedId entry.node.nodeId entry.deviceKey

end RouterState

/-- Routes that name none of the devices: the loop inserts every one of them,
and nothing else. -/
theorem insertRoutes_spec (node : RemoteNode)
    {devices : List RemoteDeviceDescriptor}
    {routes : KeyedMap DeviceId RouteEntry} (hvalid : ∀ device ∈ devices,
      validIdentifier device.deviceKey maxDeviceKeyBytes = true)
    (hnodup : (devices.map RemoteDeviceDescriptor.deviceKey).Nodup)
    (hfree : ∀ device ∈ devices,
      routes.lookup (namespacedId node.nodeId device.deviceKey) = none) :
    ∃ inserted, insertRoutes node devices routes = (true, inserted) ∧
      ∀ localId entry, inserted.lookup localId = some entry ↔
        routes.lookup localId = some entry ∨
          entry.node = node ∧
            entry.deviceKey ∈ devices.map RemoteDeviceDescriptor.deviceKey ∧
            localId = namespacedId node.nodeId entry.deviceKey := by
  induction devices generalizing routes with
  | nil => exact ⟨routes, rfl, fun localId entry => by simp⟩
  | cons device devices ih =>
    rw [List.map_cons, List.nodup_cons] at hnodup
    rw [List.forall_mem_cons] at hvalid hfree
    have hfree' : ∀ other ∈ devices,
        (routes.insert (namespacedId node.nodeId device.deviceKey)
          ⟨node, device.deviceKey⟩).lookup
            (namespacedId node.nodeId other.deviceKey) = none := by
      intro other hother
      rw [KeyedMap.lookup_insert_ite, if_neg]
      · exact hfree.2 other hother
      · intro heq
        obtain ⟨-, hkey⟩ := namespacedId_injective (hvalid.2 other hother) heq
        exact hnodup.1 (hkey ▸ List.mem_map_of_mem hother)
    obtain ⟨inserted, hinserted, hspec⟩ := ih hvalid.2 hnodup.2 hfree'
    refine ⟨inserted, ?_, fun localId entry => ?_⟩
    · rwa [insertRoutes, hfree.1]
    · rw [hspec, KeyedMap.lookup_insert_ite, List.map_cons]
      constructor
      · rintro (hold | ⟨hnode, hmem, hid⟩)
        · split at hold
          next hid =>
            cases hold
            exact .inr ⟨rfl, List.mem_cons_self, hid⟩
          next => exact .inl hold
        · exact .inr ⟨hnode, List.mem_cons_of_mem _ hmem, hid⟩
      · rintro (hold | ⟨hnode, hmem, hid⟩)
        · left
          rw [if_neg]
          · exact hold
          · rintro rfl
            cases hfree.1.symm.trans hold
        · rcases List.mem_cons.mp hmem with hkey | hmem
          · left
            rw [if_pos (by rw [hid, hkey])]
            cases entry
            cases hnode
            cases hkey
            rfl
          · exact .inr ⟨hnode, hmem, hid⟩

namespace RouterState

theorem lookup_routesWithout (state : RouterState) (nodeId : NodeId)
    (localId : DeviceId) (entry : RouteEntry) :
    (state.routesWithout nodeId).lookup localId = some entry ↔
      state.routes.lookup localId = some entry ∧
        entry.node.nodeId ≠ nodeId := by
  rw [routesWithout, KeyedMap.lookup_retain, Option.filter_eq_some_iff]
  simp

variable {state : RouterState} {config : RouterConfig} {node : RemoteNode}
  {now : ℕ}

/-- An admitted node takes the place of its predecessor, and its routes the
place of the predecessor's. -/
theorem upsert_of_admits (hexact : state.RoutesExact)
    (h : state.admits config node now = .ok ()) :
    ∃ routes, state.upsert config node now =
        (.ok (), ⟨state.nodes.insert node.nodeId node, routes⟩) ∧
      ∀ localId entry, routes.lookup localId = some entry ↔
        (state.routes.lookup localId = some entry ∧
            entry.node.nodeId ≠ node.nodeId) ∨
          entry.node = node ∧ entry.deviceKey ∈ node.inventory.keys ∧
            localId = namespacedId node.nodeId entry.deviceKey := by
  have hfree : ∀ device ∈ node.inventory.devices,
      (state.routesWithout node.nodeId).lookup
        (namespacedId node.nodeId device.deviceKey) = none := by
    intro device hdevice
    rw [Option.eq_none_iff_forall_ne_some]
    intro entry hentry
    rw [lookup_routesWithout] at hentry
    obtain ⟨-, -, hid⟩ := (hexact _ _).mp hentry.1
    exact hentry.2 (namespacedId_injective (node.key_valid hdevice) hid).1.symm
  obtain ⟨routes, hroutes, hspec⟩ := insertRoutes_spec node
    (fun device => node.key_valid)
    (InventorySnapshot.keys_nodup node.inventory_valid) hfree
  refine ⟨routes, ?_, fun localId entry => ?_⟩
  · rw [upsert, h, hroutes]
  · rw [hspec, lookup_routesWithout]
    rfl

theorem admits_ne_duplicate :
    state.admits config node now ≠ .error .duplicate := by
  unfold admits validateSuccessor
  repeat' split
  all_goals simp

theorem upsert_of_refuses {e : RouteError}
    (h : state.admits config node now = .error e) :
    state.upsert config node now = (.error e, state) := by
  rw [upsert, h]

end RouterState

end DeviceRail.Router
