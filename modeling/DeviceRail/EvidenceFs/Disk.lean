import DeviceRail.Evidence.Reference
import DeviceRail.Support.KeyedMap
import DeviceRail.Support.Program
import Mathlib.Data.Finset.Card

/-!
# The evidence store on disk

The directory tree of the filesystem evidence store, the reference index kept
in memory, and the filesystem primitives its operations are made of.

A directory is the map of its entries.  Renames, links and removals of one
entry are atomic and happen in the order they are issued; a successful sync
makes everything issued before it durable.  A crash therefore falls back to
one of the trees seen since the last successful sync, which the state keeps.
The tree holds only what the store itself wrote, so that a JSON file always
parses; a file that cannot be read is a fault of the step that reads it.
-/

namespace DeviceRail.EvidenceFs

def storeVersion : ℕ := 1

def hashAlgorithm : String := "sha256"

/-- The bytes of one asset. -/
abbrev Content := List UInt8

/-! ## Files -/

structure ObjectMetadata where
  schemaVersion : ℕ
  algorithm : String
  digest : String
  mediaType : String
  byteLength : ℕ
  createdAtMs : ℕ
deriving DecidableEq, Repr

structure ReferenceMarker where
  schemaVersion : ℕ
  sessionId : SessionId
  digest : String
  mediaType : String
  createdAtMs : ℕ
deriving DecidableEq, Repr

structure UnreferencedMarker where
  schemaVersion : ℕ
  digest : String
  byteLength : ℕ
  releasedAtMs : ℕ
deriving DecidableEq, Repr

structure ReleasedSessionMarker where
  schemaVersion : ℕ
  sessionId : SessionId
  releasedAtMs : ℕ
deriving DecidableEq, Repr

/-- An object directory: the files `data` and `meta.json`. -/
structure ObjectDirectory where
  data : Content
  metadata : ObjectMetadata
deriving DecidableEq, Repr

/-- A directory of the GC trash.  It starts with both files of the object it
was, and `remaining` counts those a removal has not taken yet. -/
structure TrashEntry where
  object : ObjectDirectory
  remaining : ℕ
deriving DecidableEq, Repr

/-- The number of files in a whole object directory. -/
def objectFiles : ℕ := 2

/-- The path of a metadata file that is written through a temporary. -/
inductive Target where
  | reference (sessionId : SessionId) (digest : Sha256Digest)
  | unreferenced (digest : Sha256Digest)
  | released (sessionId : SessionId)
deriving DecidableEq, Repr

/-- The session whose reference directory the file lies in. -/
def Target.session? : Target → Option SessionId
  | .reference sessionId _ => some sessionId
  | .unreferenced _ => none
  | .released _ => none

/-- A metadata file with its contents. -/
inductive Entry where
  | reference (sessionId : SessionId) (digest : Sha256Digest)
      (marker : ReferenceMarker)
  | unreferenced (digest : Sha256Digest) (marker : UnreferencedMarker)
  | released (sessionId : SessionId) (marker : ReleasedSessionMarker)
deriving DecidableEq, Repr

def Entry.target : Entry → Target
  | .reference sessionId digest _ => .reference sessionId digest
  | .unreferenced digest _ => .unreferenced digest
  | .released sessionId _ => .released sessionId

/-! ## The tree -/

/-- The directory tree below the version root: `objects`, `trash`,
`refs/sessions`, `released-sessions` and `unreferenced`, and the temporaries
of atomic writes that lie in the last three. -/
structure Disk where
  objects : KeyedMap Sha256Digest ObjectDirectory
  trash : KeyedMap Sha256Digest TrashEntry
  references : KeyedMap SessionId (KeyedMap Sha256Digest ReferenceMarker)
  releasedSessions : KeyedMap SessionId ReleasedSessionMarker
  unreferenced : KeyedMap Sha256Digest UnreferencedMarker
  temporaries : List Target

namespace Disk

def empty : Disk := ⟨∅, ∅, ∅, ∅, ∅, []⟩

/-- The reference marker of one session for one digest. -/
def reference (disk : Disk) (sessionId : SessionId) (digest : Sha256Digest) :
    Option ReferenceMarker :=
  (disk.references.lookup sessionId).bind (·.lookup digest)

/-- The digests a session references. -/
def owned (disk : Disk) (sessionId : SessionId) : Finset Sha256Digest :=
  match disk.references.lookup sessionId with
  | none => ∅
  | some markers => markers.keys.toFinset

/-- The sessions that reference a digest. -/
def holders (disk : Disk) (digest : Sha256Digest) : Finset SessionId :=
  disk.references.keys.toFinset.filter
    fun sessionId => (disk.reference sessionId digest).isSome

theorem mem_holders {disk : Disk} {sessionId : SessionId}
    {digest : Sha256Digest} :
    sessionId ∈ disk.holders digest ↔
      (disk.reference sessionId digest).isSome = true := by
  unfold holders
  rw [Finset.mem_filter, List.mem_toFinset, KeyedMap.mem_keys_iff_lookup]
  refine and_iff_right_of_imp fun h => ?_
  unfold reference at h
  cases hsession : disk.references.lookup sessionId with
  | none => simp [hsession] at h
  | some markers => exact ⟨markers, rfl⟩

end Disk

/-! ## Filesystem changes -/

namespace Disk

/-- Rename a staged directory to its place.  A directory that is not empty is
never replaced by a rename. -/
def publishObject (digest : Sha256Digest) (object : ObjectDirectory)
    (disk : Disk) : Option Disk :=
  match disk.objects.lookup digest with
  | some _ => none
  | none => some { disk with objects := disk.objects.insert digest object }

def restoreObject (digest : Sha256Digest) (disk : Disk) : Option Disk :=
  match disk.objects.lookup digest, disk.trash.lookup digest with
  | none, some entry =>
    if entry.remaining = objectFiles then
      some { disk with
        objects := disk.objects.insert digest entry.object
        trash := disk.trash.erase digest }
    else none
  | _, _ => none

/-- Rename an object to the trash, where at most an empty directory of its
name is replaced. -/
def trashObject (digest : Sha256Digest) (disk : Disk) : Option Disk :=
  match disk.objects.lookup digest with
  | none => none
  | some object =>
    if ((disk.trash.lookup digest).map TrashEntry.remaining).getD 0 = 0 then
      some { disk with
        objects := disk.objects.erase digest
        trash := disk.trash.insert digest ⟨object, objectFiles⟩ }
    else none

def unlinkTrashFile (digest : Sha256Digest) (disk : Disk) : Option Disk :=
  match disk.trash.lookup digest with
  | none => none
  | some entry =>
    if entry.remaining = 0 then none
    else
      some { disk with
        trash := disk.trash.insert digest
          { entry with remaining := entry.remaining - 1 } }

def removeTrashDirectory (digest : Sha256Digest) (disk : Disk) : Option Disk :=
  match disk.trash.lookup digest with
  | none => none
  | some entry =>
    if entry.remaining = 0 then
      some { disk with trash := disk.trash.erase digest }
    else none

def createSessionDirectory (sessionId : SessionId) (disk : Disk) :
    Option Disk :=
  match disk.references.lookup sessionId with
  | some _ => none
  | none => some { disk with references := disk.references.insert sessionId ∅ }

/-- Unlink one marker of a session's directory; which one is next is the
filesystem's choice. -/
def unlinkReference (sessionId : SessionId) (choice : ℕ) (disk : Disk) :
    Option Disk :=
  match disk.references.lookup sessionId with
  | none => none
  | some markers =>
    match markers.keys[choice % markers.keys.length]? with
    | none => none
    | some digest =>
      some { disk with
        references := disk.references.insert sessionId (markers.erase digest) }

/-- Temporaries in the directory of a session. -/
def sessionTemporaries (disk : Disk) (sessionId : SessionId) : List Target :=
  disk.temporaries.filter (·.session? = some sessionId)

def removeSessionDirectory (sessionId : SessionId) (disk : Disk) :
    Option Disk :=
  match disk.references.lookup sessionId with
  | none => none
  | some markers =>
    if markers.isEmpty && (disk.sessionTemporaries sessionId).isEmpty then
      some { disk with references := disk.references.erase sessionId }
    else none

/-- The directory of a file exists; only those of the sessions come and
go. -/
def houses (disk : Disk) (target : Target) : Bool :=
  match target.session? with
  | none => true
  | some sessionId => (disk.references.lookup sessionId).isSome

def createTemporary (target : Target) (disk : Disk) : Option Disk :=
  if disk.houses target then
    some { disk with temporaries := target :: disk.temporaries }
  else none

def removeTemporary (target : Target) (disk : Disk) : Option Disk :=
  if target ∈ disk.temporaries then
    some { disk with temporaries := disk.temporaries.erase target }
  else none

/-- Put a metadata file in its place. -/
def write (entry : Entry) (disk : Disk) : Disk :=
  match entry with
  | .reference sessionId digest marker =>
    { disk with
      references := disk.references.adjust sessionId (·.insert digest marker) }
  | .unreferenced digest marker =>
    { disk with unreferenced := disk.unreferenced.insert digest marker }
  | .released sessionId marker =>
    { disk with
      releasedSessions := disk.releasedSessions.insert sessionId marker }

/-- Rename a temporary over its target. -/
def publish (entry : Entry) (disk : Disk) : Option Disk :=
  if entry.target ∈ disk.temporaries then
    some ({ disk with
      temporaries := disk.temporaries.erase entry.target }.write entry)
  else none

def removeUnreferenced (digest : Sha256Digest) (disk : Disk) : Option Disk :=
  match disk.unreferenced.lookup digest with
  | none => none
  | some _ => some { disk with unreferenced := disk.unreferenced.erase digest }

end Disk

/-! ## The reference index -/

structure ReferenceIndex where
  byDigest : KeyedMap Sha256Digest ℕ
  bySession : KeyedMap SessionId ℕ

namespace ReferenceIndex

/-- Count one more under a key. -/
def bump {κ : Type} [DecidableEq κ] (counts : KeyedMap κ ℕ) (key : κ) :
    KeyedMap κ ℕ :=
  counts.insert key ((counts.lookup key).getD 0 + 1)

/-- Count one less under a key, without keeping a zero. -/
def drop {κ : Type} [DecidableEq κ] (counts : KeyedMap κ ℕ) (key : κ) :
    KeyedMap κ ℕ :=
  match counts.lookup key with
  | none => counts
  | some count =>
    if 1 < count then counts.insert key (count - 1) else counts.erase key

/-- `index_reference_added`. -/
def referenceAdded (index : ReferenceIndex) (sessionId : SessionId)
    (digest : Sha256Digest) : ReferenceIndex :=
  { byDigest := bump index.byDigest digest
    bySession := bump index.bySession sessionId }

/-- `index_session_removed`. -/
def sessionRemoved (index : ReferenceIndex) (sessionId : SessionId)
    (digests : List Sha256Digest) : ReferenceIndex :=
  { byDigest := digests.foldl drop index.byDigest
    bySession := index.bySession.erase sessionId }

end ReferenceIndex

/-! ## Primitives -/

/-- The directories that are synced on their own. -/
inductive Directory where
  | references
  | session (sessionId : SessionId)
  | unreferenced
  | releasedSessions
  | trash
  | shard (digest : Sha256Digest)
  | staging
deriving DecidableEq, Repr

/-- The directory an atomic write syncs after its rename. -/
def Target.parent : Target → Directory
  | .reference sessionId _ => .session sessionId
  | .unreferenced _ => .unreferenced
  | .released _ => .releasedSessions

/-- One change: of the tree, of the index, or one that leaves both alone (a
directory of a shard, a mode, the bytes of a temporary, the staging area, a
sync). -/
inductive Action where
  | publishObject (digest : Sha256Digest) (object : ObjectDirectory)
  | restoreObject (digest : Sha256Digest)
  | trashObject (digest : Sha256Digest)
  | unlinkTrashFile (digest : Sha256Digest)
  | removeTrashDirectory (digest : Sha256Digest)
  | createSessionDirectory (sessionId : SessionId)
  | unlinkReference (sessionId : SessionId)
  | removeSessionDirectory (sessionId : SessionId)
  | createTemporary (target : Target)
  | removeTemporary (target : Target)
  | publish (entry : Entry)
  | removeUnreferenced (digest : Sha256Digest)
  | prepareShard (digest : Sha256Digest)
  | setPermissions (directory : Directory)
  | fillTemporary (target : Target)
  | clearStaging
  | sync (directory : Directory)
  | referenceAdded (sessionId : SessionId) (digest : Sha256Digest)
  | sessionRemoved (sessionId : SessionId) (digests : List Sha256Digest)
  | rebuild (index : ReferenceIndex)

/-- The path of an existence check. -/
inductive Place where
  | object (digest : Sha256Digest)
  | trash (digest : Sha256Digest)
  | sessionDirectory (sessionId : SessionId)
  | file (target : Target)
deriving DecidableEq, Repr

@[simp] def Place.present (disk : Disk) : Place → Bool
  | .object digest => (disk.objects.lookup digest).isSome
  | .trash digest => (disk.trash.lookup digest).isSome
  | .sessionDirectory sessionId => (disk.references.lookup sessionId).isSome
  | .file (.reference sessionId digest) =>
    (disk.reference sessionId digest).isSome
  | .file (.unreferenced digest) => (disk.unreferenced.lookup digest).isSome
  | .file (.released sessionId) =>
    (disk.releasedSessions.lookup sessionId).isSome

/-- The kinds of looks: `Path::exists`, which reports a failed check as
absence; every other read, which reports its failure; and the index, which is
in memory. -/
inductive Probe where
  | present (place : Place)
  | read
  | memory
deriving DecidableEq, Repr

/-- An I/O error, with the operation it is reported for. -/
structure IoFault where
  operation : String
  message : String
deriving DecidableEq, Repr

/-- The tree as it is seen, the earlier trees a crash may fall back to, and
the index. -/
structure Store where
  disk : Disk
  unsynced : List Disk
  index : Option ReferenceIndex

/-- The trees a crash may leave behind. -/
def Store.disks (store : Store) : List Disk := store.disk :: store.unsynced

/-- The effect of an action on the tree, for those that change it. -/
@[simp] def Action.onDisk? (choice : ℕ) (disk : Disk) :
    Action → Option (Option Disk)
  | .publishObject digest object => some (disk.publishObject digest object)
  | .restoreObject digest => some (disk.restoreObject digest)
  | .trashObject digest => some (disk.trashObject digest)
  | .unlinkTrashFile digest => some (disk.unlinkTrashFile digest)
  | .removeTrashDirectory digest => some (disk.removeTrashDirectory digest)
  | .createSessionDirectory sessionId =>
    some (disk.createSessionDirectory sessionId)
  | .unlinkReference sessionId => some (disk.unlinkReference sessionId choice)
  | .removeSessionDirectory sessionId =>
    some (disk.removeSessionDirectory sessionId)
  | .createTemporary target => some (disk.createTemporary target)
  | .removeTemporary target => some (disk.removeTemporary target)
  | .publish entry => some (disk.publish entry)
  | .removeUnreferenced digest => some (disk.removeUnreferenced digest)
  | _ => none

/-- The effect of an action on the memory of the process and on what a crash
may undo. -/
def Action.onMemory (store : Store) : Action → Store
  | .sync _ => { store with unsynced := [] }
  | .referenceAdded sessionId digest =>
    { store with
      index := store.index.map (·.referenceAdded sessionId digest) }
  | .sessionRemoved sessionId digests =>
    { store with
      index := store.index.map (·.sessionRemoved sessionId digests) }
  | .rebuild index => { store with index := some index }
  | _ => store

def Action.apply (action : Action) (choice : ℕ) (store : Store) :
    Option Store :=
  match action.onDisk? choice store.disk with
  | some changed =>
    changed.map fun disk =>
      { store with disk := disk, unsynced := store.disk :: store.unsynced }
  | none => some (action.onMemory store)

/-- The primitives of the store. -/
abbrev filesystem : Interface where
  State := Store
  Action := Action
  Probe := Probe
  Fault := IoFault
  Choice := ℕ
  apply := Action.apply

/-- A step of the store's code: it ends with a value or an evidence error. -/
abbrev Fs (α : Type) : Type := Script filesystem EvidenceError α

end DeviceRail.EvidenceFs
