import DeviceRail.EvidenceFs.Effects

/-!
# The actions of the operations

For every operation, what a set of actions has to contain for the operation to
use no others.  These lemmas are what frame conditions are read off: which
sessions, objects, markers and counts an operation leaves alone.
-/

namespace DeviceRail.EvidenceFs

open Script DeviceRail.EvidenceFs.Action

variable {P : filesystem.Action → Prop} {α : Type}
  {digestOf : Content → Sha256Digest} {config : FileEvidenceStoreConfig}
  {sessionId : SessionId} {digest : Sha256Digest} {action : Action}
  {directory : Directory}

/-! ## Primitives -/

theorem only_pathExists (place : Place) : Only P (pathExists place) :=
  only_look _ _ _

theorem only_read (view : Disk → Except EvidenceError α) : Only P (read view) :=
  only_look _ _ _

theorem only_inspect : Only P inspect := only_read _

theorem only_consult (known : ReferenceIndex → α)
    (scanned : Disk → Except EvidenceError α) :
    Only P (consult known scanned) :=
  only_look _ _ _

theorem only_act (h : P action) (operation : String) :
    Only P (act operation action) :=
  only_perform h _

theorem only_syncDirectory (h : P (sync directory)) :
    Only P (syncDirectory directory) :=
  only_act h _

theorem only_remember (h : P action) : Only P (remember action) := only_act h _

theorem only_ignore {program : Fs Unit} (h : Only P program) :
    Only P (ignore program) :=
  h.handle fun _ => only_pure _

theorem only_exists {place : Place} {x y : Fs α} (hx : Only P x)
    (hy : Only P y) :
    Only P (pathExists place >>= fun found => if found = true then x else y) :=
  (only_pathExists _).bind fun _ => only_ite (fun _ => hx) fun _ => hy

/-! ## Metadata files -/

/-- The actions of an atomic write. -/
structure Writes (P : filesystem.Action → Prop) (entry : Entry) : Prop where
  create : P (createTemporary entry.target)
  fill : P (fillTemporary entry.target)
  publish : P (publish entry)
  remove : P (removeTemporary entry.target)
  sync : P (sync entry.target.parent)

variable {entry : Entry} {releasedAtMs byteLength : ℕ} {mediaType : String}
  {released : List (Sha256Digest × ObjectMetadata)}

theorem only_writeThroughTemporary (h : Writes P entry) (operation : String) :
    Only P (writeThroughTemporary operation entry) := by
  refine Only.handle ?_ fun _ => ?_
  · exact (only_act h.create _).bind fun _ =>
      (only_act h.fill _).bind fun _ => only_act h.publish _
  · exact (only_ignore (only_act h.remove _)).bind fun _ => only_throw _

theorem only_atomicWriteJson (h : Writes P entry)
    (operation : String) : Only P (atomicWriteJson operation entry) := by
  refine only_inspect.bind fun _ => only_exists (only_pure _) ?_
  exact (only_writeThroughTemporary h operation).bind fun _ =>
    only_syncDirectory h.sync

/-- The GC marker with these contents. -/
def gcMarker (digest : Sha256Digest) (byteLength releasedAtMs : ℕ) : Entry :=
  .unreferenced digest ⟨storeVersion, digest.text, byteLength, releasedAtMs⟩

/-- The actions that remove the GC marker of an object. -/
structure Unmarks (P : filesystem.Action → Prop) (digest : Sha256Digest) :
    Prop where
  remove : P (removeUnreferenced digest)
  sync : P (sync Directory.unreferenced)

/-- The actions on the GC marker of an object. -/
structure Marks (P : filesystem.Action → Prop) (digest : Sha256Digest) :
    Prop extends Unmarks P digest where
  write : ∀ byteLength releasedAtMs,
    Writes P (gcMarker digest byteLength releasedAtMs)

theorem only_removeUnreferencedMarkerIfPresent (h : Unmarks P digest) :
    Only P (removeUnreferencedMarkerIfPresent digest) := by
  refine only_exists ?_ (only_pure _)
  exact only_inspect.bind fun _ => (only_act h.remove _).bind fun _ =>
    only_syncDirectory h.sync

theorem only_ensureUnreferencedMarker
    (h : Writes P (gcMarker digest byteLength releasedAtMs)) :
    Only P (ensureUnreferencedMarker digest byteLength releasedAtMs) := by
  refine only_exists (only_read _) ?_
  exact (only_atomicWriteJson h _).bind fun _ => only_pure _

theorem only_markUnreferencedIfUnowned
    (h : Writes P (gcMarker digest byteLength releasedAtMs)) :
    Only P (markUnreferencedIfUnowned digest byteLength releasedAtMs) := by
  refine (only_consult _ _).bind fun count => ?_
  refine only_ite (fun _ => only_pure _) fun _ => ?_
  exact (only_ensureUnreferencedMarker h).bind fun _ => only_pure _

/-! ## References -/

/-- The reference marker with these contents. -/
def referenceMarker (sessionId : SessionId) (digest : Sha256Digest)
    (mediaType : String) (createdAtMs : ℕ) : Entry :=
  .reference sessionId digest
    ⟨storeVersion, sessionId, digest.text, mediaType, createdAtMs⟩

/-- The actions that add a reference. -/
structure Refers (P : filesystem.Action → Prop) (sessionId : SessionId)
    (digest : Sha256Digest) (mediaType : String) : Prop where
  create : P (createSessionDirectory sessionId)
  permissions : P (setPermissions (.session sessionId))
  sync : P (sync Directory.references)
  write : ∀ createdAtMs,
    Writes P (referenceMarker sessionId digest mediaType createdAtMs)
  count : P (referenceAdded sessionId digest)

theorem only_ensureSessionOpen (sessionId : SessionId) :
    Only P (ensureSessionOpen sessionId) := by
  refine only_exists ?_ (only_pure _)
  exact (only_read _).bind fun _ => only_throw _

theorem only_existingReferences (sessionId : SessionId) :
    Only P (existingReferences sessionId) :=
  only_exists (only_consult _ _) (only_pure _)

theorem only_openSessionDirectory (h : Refers P sessionId digest mediaType) :
    Only P (openSessionDirectory sessionId) := by
  refine only_exists only_inspect ?_
  refine (only_read _).bind fun found => ?_
  refine only_ite (fun _ => only_act h.permissions _) fun _ => ?_
  exact (only_act h.create _).bind fun _ =>
    (only_act h.permissions _).bind fun _ => only_syncDirectory h.sync

section

variable (hmarks : Unmarks P digest) (h : Refers P sessionId digest mediaType)
  (createdAtMs : ℕ)
include hmarks h

theorem only_addOpenReference :
    Only P (addOpenReference config sessionId digest mediaType
      createdAtMs) := by
  refine only_exists (only_read _) ?_
  refine (only_existingReferences sessionId).bind fun existing => ?_
  refine only_ite (fun _ => only_throw _) fun _ => ?_
  exact (only_removeUnreferencedMarkerIfPresent hmarks).bind fun _ =>
    (only_openSessionDirectory h).bind fun _ =>
      (only_atomicWriteJson (h.write _) _).bind fun _ =>
        (only_remember h.count).bind fun _ => only_pure _

theorem only_retain :
    Only P (retain config sessionId digest mediaType createdAtMs) :=
  (only_consult _ _).bind fun _ =>
    ((only_ensureSessionOpen _).bind fun _ =>
      only_addOpenReference hmarks h _).bind fun _ => only_pure _

end

/-! ## The trash -/

/-- The actions on an object and its trash. -/
structure Moves (P : filesystem.Action → Prop) (digest : Sha256Digest) :
    Prop where
  unlink : P (unlinkTrashFile digest)
  remove : P (removeTrashDirectory digest)
  restore : P (restoreObject digest)
  shard : P (prepareShard digest)
  syncShard : P (sync (Directory.shard digest))
  syncTrash : P (sync Directory.trash)

theorem only_removeTrash (h : Moves P digest) (operation : String) :
    Only P (removeTrash operation digest) := by
  refine (only_read _).bind fun files => ?_
  exact (only_forM fun _ _ => only_act h.unlink _).bind fun _ =>
    only_act h.remove _

theorem only_settleReferenced (h : Unmarks P digest) :
    Only P (settleReferenced digest) := by
  refine only_exists ?_ (only_throw _)
  refine (only_read _).bind fun _ => only_exists ?_ (only_pure _)
  exact only_inspect.bind fun _ => only_act h.remove _

theorem only_dropMissingObjectMarker (h : Unmarks P digest) :
    Only P (dropMissingObjectMarker digest) :=
  (only_read _).bind fun _ => only_exists (only_pure _) (only_act h.remove _)

/-! ## Releasing a session -/

theorem only_removeSession (hunlink : P (unlinkReference sessionId))
    (hremove : P (removeSessionDirectory sessionId))
    (operation : String) : Only P (removeSession operation sessionId) := by
  refine (only_read _).bind fun files => ?_
  exact (only_forM fun _ _ => only_act hunlink _).bind fun _ =>
    only_act hremove _

theorem only_markReleased (h : ∀ entry ∈ released,
      Writes P (gcMarker entry.1 entry.2.byteLength releasedAtMs))
    (report : ReleaseReport) :
    Only P (markReleased releasedAtMs released report) := by
  induction released generalizing report with
  | nil => exact only_pure _
  | cons entry rest ih =>
    have hrest := ih fun other hother => h other (List.mem_cons_of_mem _ hother)
    refine (only_consult _ _).bind fun count => ?_
    refine only_ite (fun _ => ?_) fun _ => hrest report
    refine (only_ensureUnreferencedMarker
      (h entry List.mem_cons_self)).bind fun created => ?_
    exact only_ite (fun _ => hrest _) fun _ => hrest report

/-- The actions that drop the references of a session. -/
structure Drops (P : filesystem.Action → Prop) (sessionId : SessionId) :
    Prop where
  unlink : P (unlinkReference sessionId)
  remove : P (removeSessionDirectory sessionId)
  forget : ∀ digests, P (sessionRemoved sessionId digests)
  sync : P (sync Directory.references)

theorem only_dropReferences (h : Drops P sessionId)
    (hmarks : ∀ entry ∈ released,
      Writes P (gcMarker entry.1 entry.2.byteLength releasedAtMs)) :
    Only P (dropReferences sessionId releasedAtMs released) :=
  (only_removeSession h.unlink h.remove _).bind fun _ =>
    (only_remember (h.forget _)).bind fun _ =>
      (only_syncDirectory h.sync).bind fun _ => only_markReleased hmarks _

theorem only_rebuildReferenceIndex (h : ∀ index, P (rebuild index)) :
    Only P rebuildReferenceIndex :=
  (only_read _).bind fun index => only_remember (h index)

/-! ## Garbage collection -/

theorem only_deleteObject (hmoves : Moves P digest)
    (hmarks : Unmarks P digest) (htrash : P (trashObject digest)) :
    Only P (deleteObject digest) := by
  refine only_inspect.bind fun _ => only_exists (only_throw _) ?_
  refine (only_act htrash _).bind fun _ =>
    (only_syncDirectory hmoves.syncTrash).bind fun _ =>
      (only_syncDirectory hmoves.syncShard).bind fun _ =>
        only_inspect.bind fun _ => ?_
  exact (only_act hmarks.remove _).bind fun _ =>
    (only_syncDirectory hmarks.sync).bind fun _ =>
      only_inspect.bind fun _ =>
        (only_removeTrash hmoves _).bind fun _ =>
          only_syncDirectory hmoves.syncTrash

/-! ## Opening the store -/

theorem only_cleanupAtomicFilesIn {here : Target → Bool}
    (hremove : ∀ target, P (removeTemporary target))
    (hsync : P (sync directory)) :
    Only P (cleanupAtomicFilesIn here directory) := by
  refine (only_read _).bind fun found => ?_
  refine (only_forM fun target _ => only_act (hremove target) _).bind
    fun _ => ?_
  exact only_ite (fun _ => only_pure _) fun _ => only_syncDirectory hsync

/-- The actions that sweep the temporaries. -/
structure Sweeps (P : filesystem.Action → Prop) : Prop where
  remove : ∀ target, P (removeTemporary target)
  sync : ∀ directory, P (sync directory)
  empty : ∀ sessionId, P (removeSessionDirectory sessionId)

theorem only_cleanupSession (h : Sweeps P) (sessionId : SessionId) :
    Only P (cleanupSession sessionId) := by
  refine (only_cleanupAtomicFilesIn h.remove (h.sync _)).bind fun _ => ?_
  refine (only_read _).bind fun empty => ?_
  refine only_ite (fun _ => ?_) fun _ => only_pure _
  exact (only_act (h.empty sessionId) _).bind fun _ => only_pure _

theorem only_cleanupSessions (h : Sweeps P) (sessions : List SessionId)
    (removed : Bool) : Only P (cleanupSessions sessions removed) := by
  induction sessions generalizing removed with
  | nil => exact only_pure _
  | cons sessionId rest ih =>
    exact (only_cleanupSession h sessionId).bind fun _ => ih _

theorem only_cleanupAtomicTemporaries (h : Sweeps P) :
    Only P cleanupAtomicTemporaries := by
  refine (only_read _).bind fun sessions => ?_
  refine (only_cleanupSessions h sessions false).bind fun removed => ?_
  refine Only.bind ?_ fun _ => ?_
  · exact only_ite (fun _ => only_syncDirectory (h.sync _)) fun _ => only_pure _
  exact (only_cleanupAtomicFilesIn h.remove (h.sync _)).bind fun _ =>
    only_cleanupAtomicFilesIn h.remove (h.sync _)

theorem only_cleanupAbandonedStaging (hclear : P clearStaging)
    (hsync : P (sync Directory.staging)) : Only P cleanupAbandonedStaging :=
  (only_act hclear _).bind fun _ => only_syncDirectory hsync

/-! ## Footprints -/

theorem writes_within (h : entry.target.Within sessionId digest) :
    Writes (Action.Within sessionId digest) entry :=
  ⟨h, trivial, h, h, trivial⟩

theorem marks_within : Marks (Action.Within sessionId digest) digest :=
  ⟨⟨rfl, trivial⟩, fun _ _ => writes_within (.inr rfl)⟩

theorem refers_within (mediaType : String) :
    Refers (Action.Within sessionId digest) sessionId digest mediaType :=
  ⟨rfl, trivial, trivial, fun _ => writes_within (.inl rfl), ⟨rfl, rfl⟩⟩

end DeviceRail.EvidenceFs
