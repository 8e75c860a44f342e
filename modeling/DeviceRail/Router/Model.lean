import DeviceRail.Protocol.Ui

/-!
# The peer protocol's data

Identifiers, inventories and leases as the nodes of a distributed setup
exchange them, with the checks each of them passes before it is used.  An
identifier is read byte by byte in the source; a character outside ASCII fails
at its first byte, so characters do here.
-/

namespace DeviceRail.Router

def maxNodeIdBytes : ℕ := 64

def maxDeviceKeyBytes : ℕ := 128

def maxOwnerIdBytes : ℕ := 64

def maxInventoryDevices : ℕ := 256

def maxPeerFrameBytes : ℕ := 1024 * 1024

inductive ModelError where
  | unsupportedVersion
  | invalidIdentifier
  | invalidEnvelope
  | inventoryLimit
  | duplicateDevice
  | responseMismatch
deriving DecidableEq, Repr

/-! ## Identifiers -/

/-- The characters an identifier may continue with, but not start with. -/
def isIdentifierMark (c : Char) : Bool := c == '.' || c == '_' || c == '-'

def validIdentifier (value : String) (maxBytes : ℕ) : Bool :=
  !value.isEmpty && value.utf8ByteSize ≤ maxBytes &&
    value.toList.zipIdx.all fun entry =>
      entry.1.isAlphanum || (0 < entry.2 && isIdentifierMark entry.1)

/-- No identifier contains the separator of namespaced ids. -/
theorem colon_notMem_of_validIdentifier {value : String} {maxBytes : ℕ}
    (h : validIdentifier value maxBytes = true) : ':' ∉ value.toList := by
  intro hmem
  simp only [validIdentifier, Bool.and_eq_true, List.all_eq_true] at h
  obtain ⟨index, hindex, hget⟩ := List.mem_iff_getElem.mp hmem
  have hentry : (':', index) ∈ value.toList.zipIdx := by
    rw [List.mem_zipIdx_iff_getElem?]
    simp [hindex, hget]
  have hcolon := h.2 _ hentry
  have hletter : (':').isAlphanum = false := by decide
  simp [isIdentifierMark, hletter] at hcolon

/-- A node's name, which is a valid identifier. -/
structure NodeId where
  text : String
  valid : validIdentifier text maxNodeIdBytes = true
deriving DecidableEq

namespace NodeId

theorem ext {a b : NodeId} (h : a.text = b.text) : a = b := by
  cases b
  cases h
  rfl

def parse (value : String) : Except ModelError NodeId :=
  if h : validIdentifier value maxNodeIdBytes = true then .ok ⟨value, h⟩
  else .error .invalidIdentifier

end NodeId

/-! ## Inventories -/

inductive Platform where
  | web
  | android
  | ios
  | harmonyOs
  | macOs
  | windows
  | linux
  | rdp
  | mock
  | other (name : String)
deriving DecidableEq, Repr

structure RemoteDeviceDescriptor where
  deviceKey : String
  name : String
  platform : Platform
  osVersion : Option String
deriving DecidableEq, Repr

/-- `value.trim().is_empty()`. -/
def isBlank (value : String) : Bool := value.toList.all isWhitespace

/-- A text that is blank or longer than its bound. -/
def isBadText (value : String) (maxBytes : ℕ) : Bool :=
  isBlank value || maxBytes < value.utf8ByteSize

def Platform.isBad : Platform → Bool
  | .other name => isBadText name 64
  | _ => false

def RemoteDeviceDescriptor.validate (device : RemoteDeviceDescriptor) :
    Except ModelError Unit :=
  if !validIdentifier device.deviceKey maxDeviceKeyBytes ||
      isBadText device.name 256 ||
      device.osVersion.any (isBadText · 128) || device.platform.isBad then
    .error .invalidIdentifier
  else .ok ()

structure InventorySnapshot where
  nodeId : NodeId
  epoch : ℕ
  revision : ℕ
  generatedAtMs : ℕ
  devices : List RemoteDeviceDescriptor
deriving DecidableEq

/-- A positive integer every client represents exactly. -/
def isSafePositive (value : ℕ) : Bool := value != 0 && value ≤ maxSafeInteger

/-- The loop of `InventorySnapshot::validate`, with the keys seen so far. -/
def validateDevices : List String → List RemoteDeviceDescriptor →
    Except ModelError Unit
  | _, [] => .ok ()
  | keys, device :: devices =>
    match device.validate with
    | .error e => .error e
    | .ok () =>
      if device.deviceKey ∈ keys then .error .duplicateDevice
      else validateDevices (device.deviceKey :: keys) devices

namespace InventorySnapshot

def validate (inventory : InventorySnapshot) : Except ModelError Unit :=
  if !isSafePositive inventory.epoch || !isSafePositive inventory.revision ||
      !isSafePositive inventory.generatedAtMs then
    .error .invalidEnvelope
  else if inventory.devices.isEmpty ||
      maxInventoryDevices < inventory.devices.length then
    .error .inventoryLimit
  else validateDevices [] inventory.devices

/-- The device keys of an inventory. -/
def keys (inventory : InventorySnapshot) : List String :=
  inventory.devices.map RemoteDeviceDescriptor.deviceKey

end InventorySnapshot

variable {keys : List String} {devices : List RemoteDeviceDescriptor}

theorem nodup_of_validateDevices (h : validateDevices keys devices = .ok ()) :
    (devices.map RemoteDeviceDescriptor.deviceKey).Nodup ∧
      ∀ device ∈ devices, device.deviceKey ∉ keys := by
  induction devices generalizing keys with
  | nil => simp
  | cons device devices ih =>
    unfold validateDevices at h
    split at h
    next => cases h
    next =>
      obtain ⟨hnew, h⟩ := guard_eq_ok.mp h
      obtain ⟨hnodup, havoid⟩ := ih h
      refine ⟨?_, ?_⟩
      · rw [List.map_cons, List.nodup_cons]
        refine ⟨fun hmem => ?_, hnodup⟩
        obtain ⟨other, hother, hkey⟩ := List.mem_map.mp hmem
        exact havoid other hother (hkey ▸ List.mem_cons_self)
      · rw [List.forall_mem_cons]
        exact ⟨hnew, fun other hother hkey =>
          havoid other hother (List.mem_cons_of_mem _ hkey)⟩

variable {inventory : InventorySnapshot} {device : RemoteDeviceDescriptor}

theorem InventorySnapshot.validateDevices (h : inventory.validate = .ok ()) :
    Router.validateDevices [] inventory.devices = .ok () := by
  unfold validate at h
  split at h
  · cases h
  split at h
  · cases h
  exact h

theorem InventorySnapshot.keys_nodup (h : inventory.validate = .ok ()) :
    inventory.keys.Nodup :=
  (nodup_of_validateDevices (validateDevices h)).1

theorem key_valid_of_validateDevices (h : validateDevices keys devices = .ok ())
    (hmem : device ∈ devices) :
    validIdentifier device.deviceKey maxDeviceKeyBytes = true := by
  induction devices generalizing keys with
  | nil => cases hmem
  | cons first devices ih =>
    unfold validateDevices at h
    split at h
    · cases h
    split at h
    · cases h
    next hfirst _ =>
      rcases List.mem_cons.mp hmem with rfl | hmem
      · unfold RemoteDeviceDescriptor.validate at hfirst
        split at hfirst
        next => cases hfirst
        next hgood => simp_all
      · exact ih h hmem

theorem InventorySnapshot.key_valid (h : inventory.validate = .ok ())
    (hmem : device ∈ inventory.devices) :
    validIdentifier device.deviceKey maxDeviceKeyBytes = true :=
  key_valid_of_validateDevices (validateDevices h) hmem

/-! ## Leases -/

structure PeerLease where
  leaseId : Uuid
  deviceKey : String
  ownerId : String
  nodeEpoch : ℕ
  expiresAtMs : ℕ
deriving DecidableEq, Repr

def isNil (id : Uuid) : Bool := id.bits == 0

def PeerLease.validate (lease : PeerLease) : Except ModelError Unit :=
  if isNil lease.leaseId ||
      !validIdentifier lease.deviceKey maxDeviceKeyBytes ||
      !validIdentifier lease.ownerId maxOwnerIdBytes ||
      !isSafePositive lease.nodeEpoch ||
      !isSafePositive lease.expiresAtMs then
    .error .invalidEnvelope
  else .ok ()

def validLeaseTtl (ttlMs : ℕ) : Bool := 1000 ≤ ttlMs && ttlMs ≤ 5 * 60000

end DeviceRail.Router
