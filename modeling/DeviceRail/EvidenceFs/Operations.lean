import DeviceRail.EvidenceFs.Disk
import Mathlib.Algebra.Group.Nat.Defs
import Mathlib.Data.List.Sort

/-!
# The operations of the evidence store

The store's functions as programs over the filesystem primitives, each under
the name and with the order of steps of the source.  Reads that belong
together and that nobody can disturb are one look; which of them failed is
then the environment's choice.  The clock of one call is read once.

Recursive removals are the unlinks they consist of.  The staging area is
private to a write until its rename, and nothing but the sweep of `new` reads
it, so it is not part of the tree; neither is the store header.
-/

namespace DeviceRail.EvidenceFs

structure FileEvidenceStoreConfig where
  maxAssetBytes : ℕ
  maxReferencesPerSession : ℕ
  maxConcurrentWrites : ℕ
deriving DecidableEq, Repr

/-- `Semaphore::MAX_PERMITS` of a 64-bit target. -/
def semaphoreMaxPermits : ℕ := 2 ^ 61 - 1

def FileEvidenceStoreConfig.check (config : FileEvidenceStoreConfig) :
    Except EvidenceError Unit :=
  if config.maxAssetBytes = 0 ∨ config.maxReferencesPerSession = 0 ∨
      config.maxConcurrentWrites = 0 ∨
      semaphoreMaxPermits < config.maxConcurrentWrites then
    .error (.invalidConfiguration
      "filesystem Evidence Store limits are zero or exceed the runtime maximum")
  else .ok ()

structure ReleaseReport where
  sessionId : SessionId
  releasedReferences : ℕ
  newlyUnreferencedAssets : ℕ
  newlyUnreferencedBytes : ℕ
deriving DecidableEq, Repr

structure GcPolicy where
  unreferencedBeforeMs : ℕ
  maxAssets : Option ℕ
  maxBytes : Option ℕ
  dryRun : Bool
deriving DecidableEq, Repr

structure GcReport where
  examinedAssets : ℕ
  candidateAssets : ℕ
  candidateBytes : ℕ
  deletedAssets : ℕ
  deletedBytes : ℕ
  dryRun : Bool
deriving DecidableEq, Repr

def saturatingAdd (a b : ℕ) : ℕ := min (a + b) (2 ^ 64 - 1)

/-! ## Checks of what is on disk -/

def validateObjectMetadata (metadata : ObjectMetadata)
    (digest : Sha256Digest) : Except EvidenceError Unit :=
  if metadata.schemaVersion ≠ storeVersion then
    .error (.unsupportedStoreVersion metadata.schemaVersion)
  else if metadata.algorithm ≠ hashAlgorithm ∨
      metadata.digest ≠ digest.text then
    .error (.corruptMetadata digest "algorithm or digest mismatch")
  else if metadata.byteLength = 0 then
    .error (.corruptMetadata digest "stored object has zero length")
  else
    match validateMediaType metadata.mediaType with
    | .error _ =>
      .error (.corruptMetadata digest "stored object metadata is invalid")
    | .ok () => .ok ()

def validateReferenceMarker (marker : ReferenceMarker)
    (sessionId : SessionId) (digest : Sha256Digest) (mediaType : String) :
    Except EvidenceError Unit :=
  if marker.schemaVersion ≠ storeVersion then
    .error (.unsupportedStoreVersion marker.schemaVersion)
  else if marker.sessionId ≠ sessionId ∨ marker.digest ≠ digest.text ∨
      marker.mediaType ≠ mediaType then
    .error (.corruptMetadata digest
      "session reference fields do not match its path")
  else .ok ()

def validateUnreferencedMarker (marker : UnreferencedMarker)
    (digest : Sha256Digest) : Except EvidenceError Unit :=
  if marker.schemaVersion ≠ storeVersion then
    .error (.unsupportedStoreVersion marker.schemaVersion)
  else if marker.digest ≠ digest.text then
    .error (.corruptMetadata digest "GC marker digest does not match its path")
  else .ok ()

def validateReleasedSessionMarker (marker : ReleasedSessionMarker)
    (sessionId : SessionId) : Except EvidenceError Unit :=
  if marker.schemaVersion ≠ storeVersion then
    .error (.unsupportedStoreVersion marker.schemaVersion)
  else if marker.sessionId ≠ sessionId then
    .error (.unsafePath "released Session marker does not match its path")
  else .ok ()

/-- A path that was there a moment ago. -/
def fileMissing : EvidenceError := .io "inspect store file" "not found"

/-- The files of a directory, an error when a temporary is among them: its
name is not that of a marker, and comes first. -/
def listMarkers {α : Type} (kind : String) (disk : Disk) (here : Target → Bool)
    (entries : List α) : Except EvidenceError (List α) :=
  if disk.temporaries.any here then
    .error (.unsafePath (kind ++ " must end in .json"))
  else .ok entries

/-- `read_directory_sorted`: the entries of a directory by their names. -/
def pairs {κ ν : Type} (name : κ → String) (m : KeyedMap κ ν) : List (κ × ν) :=
  (m.entries.map fun entry => (entry.1, entry.2)).insertionSort
    fun a b => name a.1 ≤ name b.1

def sortedKeys {κ ν : Type} (name : κ → String) (m : KeyedMap κ ν) : List κ :=
  (pairs name m).map Prod.fst

def sessionName (sessionId : SessionId) : String := sessionId.uuid.toText

namespace Disk

variable (digestOf : Content → Sha256Digest) (disk : Disk)

def readObjectMetadata (digest : Sha256Digest) :
    Except EvidenceError ObjectMetadata :=
  match disk.objects.lookup digest with
  | none => .error (.notFound digest)
  | some object =>
    match validateObjectMetadata object.metadata digest with
    | .error e => .error e
    | .ok () => .ok object.metadata

/-- Check the bytes of an object against its metadata and its name. -/
def verifyContent (object : ObjectDirectory) (digest : Sha256Digest)
    (lengthDiffers : String) : Except EvidenceError ObjectMetadata :=
  match validateObjectMetadata object.metadata digest with
  | .error e => .error e
  | .ok () =>
    if object.data.length ≠ object.metadata.byteLength then
      .error (.corruptMetadata digest lengthDiffers)
    else if digestOf object.data ≠ digest then
      .error (.corrupt digest (digestOf object.data))
    else .ok object.metadata

def verifyObject (digest : Sha256Digest) :
    Except EvidenceError ObjectMetadata :=
  match disk.objects.lookup digest with
  | none => .error (.notFound digest)
  | some object =>
    verifyContent digestOf object digest
      "stored byte length does not match data"

/-- `verify_object_directory_sync` on a live object. -/
def verifyLive (digest : Sha256Digest) : Except EvidenceError ObjectMetadata :=
  match disk.objects.lookup digest with
  | none => .error fileMissing
  | some object =>
    verifyContent digestOf object digest
      "recovery object byte length differs from metadata"

/-- `verify_object_directory_sync` on an entry of the trash. -/
def verifyTrash (digest : Sha256Digest) : Except EvidenceError ObjectMetadata :=
  match disk.trash.lookup digest with
  | none => .error fileMissing
  | some entry =>
    if entry.remaining ≠ objectFiles then
      .error (.corruptMetadata digest
        "object directory has unknown or missing entries")
    else
      verifyContent digestOf entry.object digest
        "recovery object byte length differs from metadata"

/-- A marker agrees with its path. -/
def checkMarker (sessionId : SessionId) (digest : Sha256Digest)
    (marker : ReferenceMarker) : Except EvidenceError Unit :=
  validateReferenceMarker marker sessionId digest marker.mediaType

/-- A marker agrees with its path and with the object it refers to. -/
def checkReference (sessionId : SessionId) (digest : Sha256Digest)
    (marker : ReferenceMarker) : Except EvidenceError ObjectMetadata :=
  match checkMarker sessionId digest marker with
  | .error e => .error e
  | .ok () =>
    match disk.readObjectMetadata digest with
    | .error e => .error e
    | .ok object =>
      if marker.mediaType ≠ object.mediaType then
        .error (.corruptMetadata digest
          "session reference media type differs from object")
      else .ok object

/-- The markers of one session, each with what its check returns. -/
def readSession {α : Type}
    (check : Sha256Digest → ReferenceMarker → Except EvidenceError α)
    (disk : Disk) (sessionId : SessionId)
    (markers : KeyedMap Sha256Digest ReferenceMarker) :
    Except EvidenceError (List (Sha256Digest × α)) := do
  let listed ← listMarkers "digest marker" disk (·.session? = some sessionId)
    (pairs Sha256Digest.text markers)
  listed.mapM fun entry => do
    let result ← check entry.1 entry.2
    return (entry.1, result)

/-- The scan of all session directories that the functions below share. -/
def scan {α : Type} (check : SessionId → Sha256Digest → ReferenceMarker →
      Except EvidenceError α)
    (disk : Disk) :
    Except EvidenceError (List (SessionId × List (Sha256Digest × α))) :=
  (pairs sessionName disk.references).mapM fun entry => do
    let found ← disk.readSession (check entry.1) entry.1 entry.2
    return (entry.1, found)

def rawReferencedDigests : Except EvidenceError (List Sha256Digest) := do
  let found ← disk.scan checkMarker
  return (found.flatMap fun entry => entry.2.map Prod.fst).dedup.insertionSort
    fun a b => a.text ≤ b.text

def referencedDigests : Except EvidenceError (List Sha256Digest) := do
  let found ← disk.scan disk.checkReference
  return (found.flatMap fun entry => entry.2.map Prod.fst).dedup.insertionSort
    fun a b => a.text ≤ b.text

def countReferences (target : Sha256Digest) : Except EvidenceError ℕ := do
  let found ← disk.scan disk.checkReference
  return (found.flatMap fun entry => entry.2.map Prod.fst).count target

def sessionReferenceCount (sessionId : SessionId) : Except EvidenceError ℕ :=
  match disk.references.lookup sessionId with
  | none => .ok 0
  | some markers => do
      let found ← disk.readSession (disk.checkReference sessionId) sessionId
        markers
      return found.length

/-- Count one scanned session. -/
def indexSession (index : ReferenceIndex) (sessionId : SessionId)
    (digests : List Sha256Digest) : ReferenceIndex :=
  { byDigest := digests.foldl ReferenceIndex.bump index.byDigest
    bySession :=
      if 0 < digests.length then
        index.bySession.insert sessionId digests.length
      else index.bySession }

def scanReferenceIndex : Except EvidenceError ReferenceIndex := do
  let found ← disk.scan disk.checkReference
  return found.foldl
    (fun index entry => indexSession index entry.1 (entry.2.map Prod.fst))
    ⟨∅, ∅⟩

end Disk

/-! ## Primitives of the programs -/

/-- `Path::exists`. -/
def pathExists (place : Place) : Fs Bool :=
  Script.look (I := filesystem) (.present place)
    (fun store => .ok (place.present store.disk)) (fun _ => .ok false)

def read {α : Type} (view : Disk → Except EvidenceError α) : Fs α :=
  Script.look (I := filesystem) .read (fun store => view store.disk)
    (fun fault => .error (.io fault.operation fault.message))

/-- Reads whose results are not used: the checks that a path is a real
directory or a regular file. -/
def inspect : Fs Unit := read fun _ => .ok ()

/-- Look at the index; only without one is the disk read. -/
def consult {α : Type} (known : ReferenceIndex → α)
    (scanned : Disk → Except EvidenceError α) : Fs α :=
  Script.look (I := filesystem) .memory
    (fun store =>
      match store.index with
      | some index => .ok (known index)
      | none => scanned store.disk)
    (fun fault => .error (.io fault.operation fault.message))

def act (operation : String) (action : Action) : Fs Unit :=
  Script.perform (I := filesystem) action
    fun fault => .io operation fault.message

def syncDirectory (directory : Directory) : Fs Unit :=
  act "sync directory" (.sync directory)

/-- Update the index, which no I/O error can stop. -/
def remember (action : Action) : Fs Unit := act "update index" action

/-- Run a program whose error is dropped. -/
def ignore (program : Fs Unit) : Fs Unit := tryCatch program fun _ => pure ()

/-- The guarded temporary of an atomic write, up to its rename. -/
def writeThroughTemporary (operation : String) (entry : Entry) : Fs Unit :=
  tryCatch
    (do
      act "open private store file" (.createTemporary entry.target)
      act operation (.fillTemporary entry.target)
      act operation (.publish entry))
    fun error => do
      ignore (act "remove temporary" (.removeTemporary entry.target))
      throw error

def atomicWriteJson (operation : String) (entry : Entry) : Fs Unit := do
  inspect
  if ← pathExists (.file entry.target) then
    return ()
  else
    writeThroughTemporary operation entry
    syncDirectory entry.target.parent

/-- `remove_dir_all` on an entry of the trash. -/
def removeTrash (operation : String) (digest : Sha256Digest) : Fs Unit := do
  let files ← read fun disk =>
    .ok ((disk.trash.lookup digest).elim 0 TrashEntry.remaining)
  (List.replicate files ()).forM fun _ =>
    act operation (.unlinkTrashFile digest)
  act operation (.removeTrashDirectory digest)

/-- `remove_dir_all` on a session's directory. -/
def removeSession (operation : String) (sessionId : SessionId) :
    Fs Unit := do
  let files ← read fun disk =>
    .ok ((disk.references.lookup sessionId).elim 0 KeyedMap.len)
  (List.replicate files ()).forM fun _ =>
    act operation (.unlinkReference sessionId)
  act operation (.removeSessionDirectory sessionId)

/-! ## References -/

section

variable (digestOf : Content → Sha256Digest)

def indexedReferenceCount (digest : Sha256Digest) : Fs ℕ :=
  consult (fun index => (index.byDigest.lookup digest).getD 0)
    (·.countReferences digest)

def indexedSessionReferenceCount (sessionId : SessionId) : Fs ℕ :=
  consult (fun index => (index.bySession.lookup sessionId).getD 0)
    (·.sessionReferenceCount sessionId)

def rebuildReferenceIndex : Fs Unit := do
  let rebuilt ← read Disk.scanReferenceIndex
  remember (.rebuild rebuilt)

def readReleased (sessionId : SessionId) : Fs ReleasedSessionMarker :=
  read fun disk =>
    match disk.releasedSessions.lookup sessionId with
    | none => .error fileMissing
    | some marker =>
      match validateReleasedSessionMarker marker sessionId with
      | .error e => .error e
      | .ok () => .ok marker

def ensureSessionOpen (sessionId : SessionId) : Fs Unit := do
  if ← pathExists (.file (.released sessionId)) then
    let _ ← readReleased sessionId
    throw (.sessionClosed sessionId)
  else
    return ()

def removeUnreferencedMarkerIfPresent (digest : Sha256Digest) :
    Fs Unit := do
  if ← pathExists (.file (.unreferenced digest)) then
    inspect
    act "remove GC marker" (.removeUnreferenced digest)
    syncDirectory .unreferenced
  else
    return ()

/-- `ensure_unreferenced_marker`: whether the marker was written. -/
def ensureUnreferencedMarker (digest : Sha256Digest)
    (byteLength releasedAtMs : ℕ) : Fs Bool := do
  if ← pathExists (.file (.unreferenced digest)) then
    read fun disk =>
      match disk.unreferenced.lookup digest with
      | none => .error fileMissing
      | some marker =>
        match validateUnreferencedMarker marker digest with
        | .error e => .error e
        | .ok () =>
          if marker.byteLength ≠ byteLength then
            .error (.corruptMetadata digest "GC marker byte length differs")
          else .ok false
  else
    atomicWriteJson "write orphan recovery marker"
      (.unreferenced digest
        ⟨storeVersion, digest.text, byteLength, releasedAtMs⟩)
    return true

def markUnreferencedIfUnowned (digest : Sha256Digest)
    (byteLength releasedAtMs : ℕ) : Fs Unit := do
  let count ← indexedReferenceCount digest
  if count ≠ 0 then
    return ()
  else
    let _ ← ensureUnreferencedMarker digest byteLength releasedAtMs
    return ()

/-- The number of references the limit is compared with. -/
def existingReferences (sessionId : SessionId) : Fs ℕ := do
  if ← pathExists (.sessionDirectory sessionId) then
    indexedSessionReferenceCount sessionId
  else
    return 0

/-- `real_directory` on a session's reference directory. -/
def realSessionDirectory (sessionId : SessionId) : Fs Unit := do
  let found ← read fun disk => .ok (disk.references.lookup sessionId).isSome
  if found then
    act "set directory permissions" (.setPermissions (.session sessionId))
  else
    act "create store directory" (.createSessionDirectory sessionId)
    act "set directory permissions" (.setPermissions (.session sessionId))
    syncDirectory .references

def openSessionDirectory (sessionId : SessionId) : Fs Unit := do
  if ← pathExists (.sessionDirectory sessionId) then
    inspect
  else
    realSessionDirectory sessionId

/-- The part of `add_reference` that writes. -/
def writeReference (sessionId : SessionId) (digest : Sha256Digest)
    (mediaType : String) (createdAtMs : ℕ) : Fs Bool := do
  removeUnreferencedMarkerIfPresent digest
  openSessionDirectory sessionId
  atomicWriteJson "write session reference"
    (.reference sessionId digest
      ⟨storeVersion, sessionId, digest.text, mediaType, createdAtMs⟩)
  remember (.referenceAdded sessionId digest)
  return true

/-- `add_reference` for a session that was found open. -/
def addOpenReference (config : FileEvidenceStoreConfig)
    (sessionId : SessionId) (digest : Sha256Digest) (mediaType : String)
    (createdAtMs : ℕ) : Fs Bool := do
  if ← pathExists (.file (.reference sessionId digest)) then
    read fun disk =>
      match disk.reference sessionId digest with
      | none => .error fileMissing
      | some marker =>
        match validateReferenceMarker marker sessionId digest mediaType with
        | .error e => .error e
        | .ok () => .ok false
  else
    let existing ← existingReferences sessionId
    if config.maxReferencesPerSession ≤ existing then
      throw (.referenceLimit config.maxReferencesPerSession)
    else
      writeReference sessionId digest mediaType createdAtMs

/-- `add_reference`: whether a marker was written. -/
def addReference (config : FileEvidenceStoreConfig) (sessionId : SessionId)
    (digest : Sha256Digest) (mediaType : String) (createdAtMs : ℕ) :
    Fs Bool := do
  ensureSessionOpen sessionId
  addOpenReference config sessionId digest mediaType createdAtMs

/-! ## Recovery -/

def recoverGcTrashEntry (digest : Sha256Digest) (referenced : Bool) :
    Fs Unit := do
  if ← pathExists (.trash digest) then
    inspect
    if ← pathExists (.object digest) then
      let live ← read (·.verifyLive digestOf digest)
      let trashed ← read (·.verifyTrash digestOf digest)
      if live ≠ trashed then
        throw (.corruptMetadata digest "live object and GC trash copy differ")
      else
        removeTrash "remove duplicate GC trash" digest
        syncDirectory .trash
        if referenced then removeUnreferencedMarkerIfPresent digest
        else return ()
    else if referenced then
      let _ ← read (·.verifyTrash digestOf digest)
      act "create store directory" (.prepareShard digest)
      act "restore referenced GC object" (.restoreObject digest)
      syncDirectory (.shard digest)
      syncDirectory .trash
      removeUnreferencedMarkerIfPresent digest
    else
      removeUnreferencedMarkerIfPresent digest
      removeTrash "finish GC trash deletion" digest
      syncDirectory .trash
  else
    return ()

def recoverGcTrash : Fs Unit := do
  let referenced ← read Disk.rawReferencedDigests
  let entries ← read fun disk => .ok (sortedKeys Sha256Digest.text disk.trash)
  entries.forM fun digest =>
    recoverGcTrashEntry digestOf digest (decide (digest ∈ referenced))

/-- A referenced digest has its object and no GC marker. -/
def settleReferenced (digest : Sha256Digest) : Fs Unit := do
  if ← pathExists (.object digest) then
    let _ ← read (·.readObjectMetadata digest)
    if ← pathExists (.file (.unreferenced digest)) then
      inspect
      act "remove stale GC marker" (.removeUnreferenced digest)
    else
      return ()
  else
    throw (.corruptMetadata digest
      "session reference points to a missing object")

/-- An object without references has a GC marker. -/
def markOrphan (now : ℕ) (digest : Sha256Digest) : Fs Unit := do
  let metadata ← read (·.readObjectMetadata digest)
  if ← pathExists (.file (.unreferenced digest)) then
    return ()
  else
    atomicWriteJson "recover orphan marker"
      (.unreferenced digest
        ⟨storeVersion, digest.text, metadata.byteLength, now⟩)

/-- A GC marker without an object is removed. -/
def dropMissingObjectMarker (digest : Sha256Digest) : Fs Unit := do
  read fun disk =>
    match disk.unreferenced.lookup digest with
    | none => .error fileMissing
    | some marker => validateUnreferencedMarker marker digest
  if ← pathExists (.object digest) then
    return ()
  else
    act "finish missing-object GC marker deletion" (.removeUnreferenced digest)

def recoverReferenceState (now : ℕ) : Fs Unit := do
  let references ← read Disk.rawReferencedDigests
  references.forM settleReferenced
  let objects ← read fun disk => .ok (sortedKeys Sha256Digest.text disk.objects)
  objects.forM fun digest =>
    if digest ∈ references then pure () else markOrphan now digest
  let markers ← read fun disk =>
    listMarkers "digest marker" disk
      (fun target => target.parent = .unreferenced)
      (sortedKeys Sha256Digest.text disk.unreferenced)
  markers.forM dropMissingObjectMarker
  syncDirectory .unreferenced

/-! ## Releasing a session -/

def persistSessionRelease (sessionId : SessionId) (releasedAtMs : ℕ) :
    Fs ℕ := do
  if ← pathExists (.file (.released sessionId)) then
    let marker ← readReleased sessionId
    return marker.releasedAtMs
  else
    atomicWriteJson "write released Session marker"
      (.released sessionId ⟨storeVersion, sessionId, releasedAtMs⟩)
    return releasedAtMs

/-- The markers written for the digests a release left without references. -/
def markReleased (releasedAtMs : ℕ) :
    List (Sha256Digest × ObjectMetadata) → ReleaseReport → Fs ReleaseReport
  | [], report => pure report
  | (digest, metadata) :: rest, report => do
      let count ← indexedReferenceCount digest
      if count = 0 then
        let created ← ensureUnreferencedMarker digest metadata.byteLength
          releasedAtMs
        if created then
          markReleased releasedAtMs rest
            { report with
              newlyUnreferencedAssets := report.newlyUnreferencedAssets + 1
              newlyUnreferencedBytes :=
                saturatingAdd report.newlyUnreferencedBytes
                  metadata.byteLength }
        else markReleased releasedAtMs rest report
      else markReleased releasedAtMs rest report

/-- Drop the references a release has read. -/
def dropReferences (sessionId : SessionId) (releasedAtMs : ℕ)
    (released : List (Sha256Digest × ObjectMetadata)) :
    Fs ReleaseReport := do
  removeSession "remove session references" sessionId
  remember (.sessionRemoved sessionId (released.map Prod.fst))
  syncDirectory .references
  markReleased releasedAtMs released ⟨sessionId, released.length, 0, 0⟩

def releaseReferencesLocked (sessionId : SessionId)
    (releasedAtMs now : ℕ) : Fs ReleaseReport := do
  if ← pathExists (.sessionDirectory sessionId) then
    let released ← read fun disk =>
      match disk.references.lookup sessionId with
      | none => .error fileMissing
      | some markers =>
        disk.readSession (disk.checkReference sessionId) sessionId markers
    dropReferences sessionId releasedAtMs released
  else
    recoverReferenceState now
    rebuildReferenceIndex
    return ⟨sessionId, 0, 0, 0⟩

def releaseSession (sessionId : SessionId) (releasedAtMs now : ℕ) :
    Fs ReleaseReport := do
  let releasedAtMs ← persistSessionRelease sessionId releasedAtMs
  releaseReferencesLocked sessionId releasedAtMs now

/-! ## Opening the store -/

def cleanupAtomicFilesIn (here : Target → Bool) (directory : Directory) :
    Fs Unit := do
  let found ← read fun disk => .ok (disk.temporaries.filter here)
  found.forM fun target =>
    act "remove atomic temporary" (.removeTemporary target)
  if found.isEmpty then return () else syncDirectory directory

/-- Sweep one session's directory; whether it was empty and is gone. -/
def cleanupSession (sessionId : SessionId) : Fs Bool := do
  cleanupAtomicFilesIn (·.session? = some sessionId) (.session sessionId)
  let empty ← read fun disk =>
    .ok ((disk.references.lookup sessionId).elim true KeyedMap.isEmpty)
  if empty then
    act "remove empty session references" (.removeSessionDirectory sessionId)
    return true
  else
    return false

def cleanupSessions : List SessionId → Bool → Fs Bool
  | [], removed => pure removed
  | sessionId :: rest, removed => do
      let gone ← cleanupSession sessionId
      cleanupSessions rest (removed || gone)

/-- Sync a directory when one of its entries was removed. -/
def syncIf (removed : Bool) (directory : Directory) : Fs Unit :=
  if removed then syncDirectory directory else pure ()

def cleanupAtomicTemporaries : Fs Unit := do
  let sessions ← read fun disk => .ok (sortedKeys sessionName disk.references)
  let removed ← cleanupSessions sessions false
  syncIf removed .references
  cleanupAtomicFilesIn (fun target => target.parent = .unreferenced)
    .unreferenced
  cleanupAtomicFilesIn (fun target => target.parent = .releasedSessions)
    .releasedSessions

def cleanupAbandonedStaging : Fs Unit := do
  act "remove abandoned staging" .clearStaging
  syncDirectory .staging

/-- Finish the release of one session whose marker was found. -/
def recoverReleasedSession (now : ℕ) (sessionId : SessionId) : Fs Unit := do
  let marker ← readReleased sessionId
  if ← pathExists (.sessionDirectory sessionId) then
    let _ ← releaseReferencesLocked sessionId marker.releasedAtMs now
    return ()
  else
    return ()

def recoverReleasedSessions (now : ℕ) : Fs Unit := do
  let sessions ← read fun disk =>
    listMarkers "released Session marker" disk
      (fun target => target.parent = .releasedSessions)
      (sortedKeys sessionName disk.releasedSessions)
  sessions.forM (recoverReleasedSession now)

/-- `FileEvidenceStore::new`, from the sweep of its directories on. -/
def new (config : FileEvidenceStoreConfig) (now : ℕ) : Fs Unit := do
  Script.ofExcept config.check
  cleanupAtomicTemporaries
  cleanupAbandonedStaging
  recoverGcTrash digestOf
  rebuildReferenceIndex
  recoverReleasedSessions now
  recoverReferenceState now
  rebuildReferenceIndex

/-! ## Writing and attaching -/

/-- One call of `put`: its parameters and what its input yields, read by
read. -/
structure PutCall where
  request : PutEvidence
  expectedDigest : Option Sha256Digest
  declaredSize : Option ℕ
  input : List Content
deriving DecidableEq, Repr

/-- The copy loop of `put`: the bytes up to the first empty read. -/
def readInput (config : FileEvidenceStoreConfig) :
    List Content → Content → Except EvidenceError Content
  | [], content => .ok content
  | [] :: _, content => .ok content
  | (byte :: bytes) :: rest, content =>
    let actualSize := content.length + (byte :: bytes).length
    if 2 ^ 64 ≤ actualSize then
      .error (.tooLarge (2 ^ 64 - 1) config.maxAssetBytes)
    else if config.maxAssetBytes < actualSize then
      .error (.tooLarge actualSize config.maxAssetBytes)
    else readInput config rest (content ++ byte :: bytes)

/-- The declared size does not exceed the limit. -/
def PutCall.checkLimit (config : FileEvidenceStoreConfig) (call : PutCall) :
    Except EvidenceError Unit :=
  match call.declaredSize with
  | none => .ok ()
  | some declared =>
    if config.maxAssetBytes < declared then
      .error (.tooLarge declared config.maxAssetBytes)
    else .ok ()

/-- The declared size is the actual one. -/
def PutCall.checkSize (call : PutCall) (actualSize : ℕ) :
    Except EvidenceError Unit :=
  match call.declaredSize with
  | none => .ok ()
  | some declared =>
    if declared ≠ actualSize then
      .error (.declaredSizeMismatch declared actualSize)
    else .ok ()

/-- The expected digest is the actual one. -/
def PutCall.checkDigest (call : PutCall) (digest : Sha256Digest) :
    Except EvidenceError Unit :=
  match call.expectedDigest with
  | none => .ok ()
  | some expected =>
    if expected ≠ digest then .error (.digestMismatch expected digest)
    else .ok ()

/-- The part of `put` before its locks: the staged directory and its
digest. -/
def stage (config : FileEvidenceStoreConfig) (call : PutCall) (now : ℕ) :
    Except EvidenceError (Sha256Digest × ObjectDirectory) := do
  call.checkLimit config
  let content ← readInput config call.input []
  if content.length = 0 then
    throw .emptyContent
  else
    call.checkSize content.length
    call.checkDigest (digestOf content)
    return (digestOf content,
      ⟨content,
        ⟨storeVersion, hashAlgorithm, (digestOf content).text,
          call.request.mediaType, content.length, now⟩⟩)

/-- Publish a staged object, or fall back on the one that is there; whether
it was there. -/
def publishOrReuse (call : PutCall) (digest : Sha256Digest)
    (object : ObjectDirectory) : Fs (ObjectMetadata × Bool) := do
  if ← pathExists (.object digest) then
    let existing ← read (·.verifyObject digestOf digest)
    if existing.mediaType ≠ call.request.mediaType then
      throw (.mediaTypeConflict digest existing.mediaType
        call.request.mediaType)
    else if existing.byteLength ≠ object.metadata.byteLength then
      throw (.corruptMetadata digest "deduplicated object size differs")
    else return (existing, true)
  else
    act "publish evidence object" (.publishObject digest object)
    syncDirectory (.shard digest)
    syncDirectory .staging
    return (object.metadata, false)

/-- Count and add the reference of a write or an attachment. -/
def retain (config : FileEvidenceStoreConfig) (sessionId : SessionId)
    (digest : Sha256Digest) (mediaType : String) (createdAtMs : ℕ) :
    Fs ℕ := do
  let before ← indexedReferenceCount digest
  let added ← addReference config sessionId digest mediaType createdAtMs
  return before + added.toNat

def storedEvidence (digest : Sha256Digest) (metadata : ObjectMetadata)
    (referenceCount : ℕ) (deduplicated : Bool) : Fs StoredEvidence :=
  Script.ofExcept do
    let metadata ← EvidenceMetadata.new digest metadata.mediaType
      metadata.byteLength metadata.createdAtMs referenceCount
    return ⟨metadata, deduplicated⟩

/-- The part of `put` under its locks. -/
def putLocked (config : FileEvidenceStoreConfig) (call : PutCall)
    (digest : Sha256Digest) (object : ObjectDirectory) :
    Fs StoredEvidence := do
  let count ← indexedReferenceCount digest
  recoverGcTrashEntry digestOf digest (decide (0 < count))
  act "create store directory" (.prepareShard digest)
  let found ← publishOrReuse digestOf call digest object
  let referenceCount ← tryCatch
    (retain config call.request.sessionId digest found.1.mediaType
      object.metadata.createdAtMs)
    fun error => do
      ignore (markUnreferencedIfUnowned digest found.1.byteLength
        object.metadata.createdAtMs)
      throw error
  storedEvidence digest found.1 referenceCount found.2

/-- `attach`, from its locks on. -/
def attachLocked (config : FileEvidenceStoreConfig) (sessionId : SessionId)
    (asset : AssetRef) (digest : Sha256Digest) (now : ℕ) :
    Fs StoredEvidence := do
  ensureSessionOpen sessionId
  let metadata ← read (·.verifyObject digestOf digest)
  if metadata.mediaType ≠ asset.mediaType then
    throw (.invalidReference "mediaType does not match stored metadata")
  else
    let referenceCount ← retain config sessionId digest metadata.mediaType now
    storedEvidence digest metadata referenceCount true

/-! ## Garbage collection -/

/-- The deletion of one candidate. -/
def deleteObject (digest : Sha256Digest) : Fs Unit := do
  inspect
  if ← pathExists (.trash digest) then
    throw (.corruptMetadata digest "GC trash target already exists")
  else
    act "move evidence object to GC trash" (.trashObject digest)
    syncDirectory .trash
    syncDirectory (.shard digest)
    inspect
    act "delete GC marker" (.removeUnreferenced digest)
    syncDirectory .unreferenced
    inspect
    removeTrash "delete GC trash" digest
    syncDirectory .trash

def gcLoop (policy : GcPolicy) :
    List (Sha256Digest × UnreferencedMarker) → GcReport → Fs GcReport
  | [], report => pure report
  | (digest, marker) :: rest, report => do
      if policy.unreferencedBeforeMs < marker.releasedAtMs then
        gcLoop policy rest report
      else
        let metadata ← read (·.verifyObject digestOf digest)
        if metadata.byteLength ≠ marker.byteLength then
          throw (.corruptMetadata digest "GC marker byte length differs")
        else if policy.maxAssets.any (· ≤ report.candidateAssets) then
          return report
        else if policy.maxBytes.any
            (· < saturatingAdd report.candidateBytes metadata.byteLength) then
          gcLoop policy rest report
        else if policy.dryRun then
          gcLoop policy rest
            { report with
              candidateAssets := report.candidateAssets + 1
              candidateBytes :=
                saturatingAdd report.candidateBytes metadata.byteLength }
        else
          deleteObject digest
          gcLoop policy rest
            { report with
              candidateAssets := report.candidateAssets + 1
              candidateBytes :=
                saturatingAdd report.candidateBytes metadata.byteLength
              deletedAssets := report.deletedAssets + 1
              deletedBytes :=
                saturatingAdd report.deletedBytes metadata.byteLength }

/-- The GC markers of a tree, read and checked one by one against the digests
the index counts. -/
def gcMarkers (referenced : List Sha256Digest) (disk : Disk) :
    Except EvidenceError (List (Sha256Digest × UnreferencedMarker)) := do
  let listed ← listMarkers "digest marker" disk
    (fun target => target.parent = .unreferenced)
    (pairs Sha256Digest.text disk.unreferenced)
  listed.mapM fun entry => do
    validateUnreferencedMarker entry.2 entry.1
    if entry.1 ∈ referenced then
      throw (.internal "GC marker exists for a referenced object")
    else return entry

def gc (policy : GcPolicy) (now : ℕ) : Fs GcReport := do
  recoverGcTrash digestOf
  recoverReferenceState now
  rebuildReferenceIndex
  let referenced ← consult (fun index => index.byDigest.keys)
    Disk.referencedDigests
  let markers ← read (gcMarkers referenced)
  gcLoop digestOf policy markers ⟨markers.length, 0, 0, 0, 0, policy.dryRun⟩

end

end DeviceRail.EvidenceFs
