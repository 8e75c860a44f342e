import DeviceRail.EvidenceFs.Actions
import DeviceRail.EvidenceFs.Index
import DeviceRail.EvidenceFs.Runs

/-!
# What the tree satisfies at every moment

`Intact` is what no fault and no crash can break: objects hold what was stored
under their name, and whatever a session refers to is there.  `Orderly` is what
holds as long as existence checks do not fail: an object is live or in the
trash but not both, and every marker belongs to an object.  `Lawful` and `Tidy`
are what an action needs to keep the one and the other.
-/

namespace DeviceRail.EvidenceFs

open KeyedMap Disk

section

variable (digestOf : Content → Sha256Digest) (stored : Content → Prop)

/-- An object directory that holds what was stored under its name. -/
structure Genuine (digest : Sha256Digest) (object : ObjectDirectory) :
    Prop where
  metadata : validateObjectMetadata object.metadata digest = .ok ()
  length : object.data.length = object.metadata.byteLength
  content : digestOf object.data = digest
  given : stored object.data

structure Disk.Intact (disk : Disk) : Prop where
  objects : ∀ digest object, disk.objects.lookup digest = some object →
    Genuine digestOf stored digest object
  trash : ∀ digest entry, disk.trash.lookup digest = some entry →
    Genuine digestOf stored digest entry.object
  references : ∀ sessionId digest marker,
    disk.reference sessionId digest = some marker →
      ∃ object, disk.objects.lookup digest = some object ∧
        validateReferenceMarker marker sessionId digest
          object.metadata.mediaType = .ok ()
  housed : ∀ target ∈ disk.temporaries, disk.houses target = true

/-- An action that keeps the tree intact. -/
def Action.Lawful : Action → Store → Prop
  | .publishObject digest object, _ => Genuine digestOf stored digest object
  | .trashObject digest, store =>
    ∀ sessionId, store.disk.reference sessionId digest = none
  | .publish (.reference sessionId digest marker), store =>
    ∃ object, store.disk.objects.lookup digest = some object ∧
      validateReferenceMarker marker sessionId digest
        object.metadata.mediaType = .ok ()
  | _, _ => True

end

/-- The object a GC marker was written for, live or in the trash. -/
def Disk.Marked (disk : Disk) (digest : Sha256Digest)
    (marker : UnreferencedMarker) : Prop :=
  ∃ object : ObjectDirectory,
    (disk.objects.lookup digest = some object ∨
      (disk.trash.lookup digest).map TrashEntry.object = some object) ∧
    marker.byteLength = object.metadata.byteLength

structure Disk.Orderly (disk : Disk) : Prop where
  apart : ∀ digest object, disk.objects.lookup digest = some object →
    disk.trash.lookup digest = none
  markers : ∀ digest marker, disk.unreferenced.lookup digest = some marker →
    validateUnreferencedMarker marker digest = .ok () ∧
      disk.Marked digest marker
  released : ∀ sessionId marker,
    disk.releasedSessions.lookup sessionId = some marker →
      validateReleasedSessionMarker marker sessionId = .ok ()

/-- An action that keeps the tree orderly. -/
def Action.Tidy : Action → Store → Prop
  | .publishObject digest _, store => store.disk.trash.lookup digest = none
  | .trashObject digest, store => store.disk.trash.lookup digest = none
  | .removeTrashDirectory digest, store =>
    store.disk.unreferenced.lookup digest = none ∨
      ∃ object, store.disk.objects.lookup digest = some object
  | .createSessionDirectory sessionId, store =>
    store.disk.releasedSessions.lookup sessionId = none
  | .unlinkReference sessionId, store =>
    ∃ marker, store.disk.releasedSessions.lookup sessionId = some marker
  | .publish (.reference sessionId _ _), store =>
    store.disk.releasedSessions.lookup sessionId = none
  | .publish (.unreferenced digest marker), store =>
    validateUnreferencedMarker marker digest = .ok () ∧
      ∃ object, store.disk.objects.lookup digest = some object ∧
        marker.byteLength = object.metadata.byteLength
  | .publish (.released sessionId marker), store =>
    validateReleasedSessionMarker marker sessionId = .ok () ∧
      store.disk.releasedSessions.lookup sessionId = none
  | _, _ => True

/-! ## Actions keep them -/

variable {disk : Disk} {target : Target}

theorem Disk.houses_iff :
    disk.houses target = true ↔ ∀ sessionId,
      target.session? = some sessionId →
        (disk.references.lookup sessionId).isSome = true := by
  unfold houses
  cases target.session? with
  | _ => simp

theorem Disk.houses_of_lookup {after : Disk}
    (hsome : ∀ sessionId, target.session? = some sessionId →
      (disk.references.lookup sessionId).isSome = true →
        (after.references.lookup sessionId).isSome = true)
    (h : disk.houses target = true) : after.houses target = true := by
  rw [houses_iff] at h ⊢
  exact fun sessionId hs => hsome sessionId hs (h sessionId hs)

variable {digestOf : Content → Sha256Digest} {stored : Content → Prop}
  {action : Action} {store after : Store} {sessionId : SessionId}
  {marker : ReferenceMarker} {digest : Sha256Digest}

theorem Disk.intact_empty : empty.Intact digestOf stored := by
  constructor
  · exact fun _ _ h => nomatch h
  · exact fun _ _ h => nomatch h
  · exact fun _ _ _ h => nomatch h
  · exact fun _ h => nomatch h

theorem Disk.orderly_empty : empty.Orderly := by
  constructor <;> exact fun _ _ h => nomatch h

/-- What a session refers to when a directory of it was replaced by a part of
itself. -/
theorem Disk.Intact.shrink (hintact : disk.Intact digestOf stored)
    {references : KeyedMap SessionId (KeyedMap Sha256Digest ReferenceMarker)}
    (hsub : ∀ s d m,
      ({ disk with references := references } : Disk).reference s d =
        some m → disk.reference s d = some m)
    (hhoused : ∀ target ∈ disk.temporaries,
      ({ disk with references := references } : Disk).houses target = true) :
    ({ disk with references := references } : Disk).Intact digestOf stored :=
  { hintact with
    references := fun s d m h => hintact.references s d m (hsub s d m h)
    housed := hhoused }

theorem Disk.Intact.effect (hintact : store.disk.Intact digestOf stored)
    (hlawful : action.Lawful digestOf stored store)
    (heffect : Effect action store after) :
    after.disk.Intact digestOf stored := by
  cases heffect with
  | publishObject habsent =>
    refine { hintact with
      objects := forall_insert hlawful hintact.objects
      references := fun s d m h => ?_ }
    obtain ⟨o, ho, hvalid⟩ := hintact.references s d m h
    exact ⟨o, lookup_insert_of_free habsent ho, hvalid⟩
  | restoreObject habsent hentry hwhole =>
    refine { hintact with
      objects := forall_insert (hintact.trash _ _ hentry) hintact.objects
      trash := forall_erase hintact.trash
      references := fun s d m h => ?_ }
    obtain ⟨o, ho, hvalid⟩ := hintact.references s d m h
    exact ⟨o, lookup_insert_of_free habsent ho, hvalid⟩
  | trashObject hobject =>
    refine { hintact with
      objects := forall_erase hintact.objects
      trash := forall_insert (hintact.objects _ _ hobject) hintact.trash
      references := fun s d m h => ?_ }
    obtain ⟨o, ho, hvalid⟩ := hintact.references s d m h
    refine ⟨o, ?_, hvalid⟩
    simp only [Store.withDisk_disk, lookup_erase_ite]
    rw [if_neg ?_]
    · exact ho
    · rintro rfl
      have hnone : store.disk.reference s d = none := hlawful s
      rw [show store.disk.reference s d = some m from h] at hnone
      cases hnone
  | unlinkTrashFile hentry hfile =>
    exact { hintact with
      trash := forall_insert (hintact.trash _ _ hentry :) hintact.trash }
  | removeTrashDirectory hentry hempty =>
    exact { hintact with trash := forall_erase hintact.trash }
  | @createSessionDirectory sessionId _ habsent =>
    refine hintact.shrink (fun s d m h => ?_) fun target ht => ?_
    · rw [reference_insert] at h
      split at h
      next => cases h
      next => exact h
    · exact houses_of_lookup (fun s _ hs => isSome_lookup_insert hs)
        (hintact.housed target ht)
  | @unlinkReference sessionId digest markers _ hsession hmarker =>
    refine hintact.shrink (fun s d m h => ?_) fun target ht => ?_
    · rw [reference_insert, lookup_erase_ite,
        ← reference_of_lookup hsession] at h
      split at h <;> simp_all
    · exact houses_of_lookup (fun s _ hs => isSome_lookup_insert hs)
        (hintact.housed target ht)
  | @removeSessionDirectory sessionId markers _ hsession hempty hclean =>
    refine hintact.shrink (fun s d m h => ?_) fun target ht => ?_
    · rw [reference_erase] at h
      split at h
      next => cases h
      next => exact h
    · refine houses_of_lookup (fun s hts hs => ?_) (hintact.housed target ht)
      simp only [lookup_erase_ite]
      rw [if_neg ?_]
      · exact hs
      · rintro rfl
        have hmem : target ∈ store.disk.sessionTemporaries s :=
          List.mem_filter.mpr ⟨ht, by simpa using hts⟩
        rw [hclean] at hmem
        cases hmem
  | createTemporary hhoused =>
    refine { hintact with housed := ?_ }
    intro t ht
    rcases List.mem_cons.mp ht with rfl | ht
    · exact hhoused
    · exact hintact.housed t ht
  | removeTemporary hfile =>
    exact { hintact with
      housed := fun t ht => hintact.housed t (List.mem_of_mem_erase ht) }
  | @publish entry _ hfile =>
    have hhoused : ∀ target ∈ store.disk.temporaries.erase entry.target,
        store.disk.houses target = true := fun target ht =>
      hintact.housed target (List.mem_of_mem_erase ht)
    cases entry with
    | reference s' d' marker =>
      refine { hintact with references := ?_, housed := ?_ }
      · intro s d m h
        simp only [Store.withDisk_disk, reference_write] at h
        split at h
        next heq =>
          obtain ⟨rfl, rfl, -⟩ := heq
          cases h
          exact hlawful
        next => exact hintact.references s d m h
      · intro target ht
        refine houses_of_lookup (fun s _ hs => ?_) (hhoused target ht)
        simp only [Store.withDisk_disk, write, lookup_adjust]
        split
        next heq =>
          subst heq
          simpa using hs
        next => exact hs
    | _ => exact { hintact with housed := hhoused }
  | removeUnreferenced hmarker => exact { hintact with }
  | quiet hquiet | sync | referenceAdded | sessionRemoved | rebuild =>
    exact hintact

theorem Disk.Orderly.swap (horderly : disk.Orderly) (digest : Sha256Digest)
    {objects : KeyedMap Sha256Digest ObjectDirectory}
    {trash : KeyedMap Sha256Digest TrashEntry}
    (helse : ∀ d, d ≠ digest → objects.lookup d = disk.objects.lookup d ∧
      trash.lookup d = disk.trash.lookup d)
    (hapart : ∀ o, objects.lookup digest = some o → trash.lookup digest = none)
    (hmarked : ∀ m, disk.unreferenced.lookup digest = some m →
      disk.Marked digest m →
        ({ disk with objects, trash } : Disk).Marked digest m) :
    ({ disk with objects, trash } : Disk).Orderly := by
  refine { horderly with apart := fun d o h => ?_, markers := fun d m h => ?_ }
  · by_cases hd : d = digest
    · subst hd
      exact hapart o h
    · obtain ⟨hobject, htrash⟩ := helse d hd
      exact htrash.trans (horderly.apart d o (hobject.symm.trans h))
  · obtain ⟨hvalid, hold⟩ := horderly.markers d m h
    refine ⟨hvalid, ?_⟩
    by_cases hd : d = digest
    · subst hd
      exact hmarked m h hold
    · obtain ⟨hobject, htrash⟩ := helse d hd
      obtain ⟨o, ho, hlength⟩ := hold
      exact ⟨o, by rwa [hobject, htrash], hlength⟩

theorem Disk.Orderly.effect (horderly : store.disk.Orderly)
    (htidy : action.Tidy store) (heffect : Effect action store after) :
    after.disk.Orderly := by
  cases heffect with
  | @publishObject digest _ _ habsent =>
    refine horderly.swap digest (fun d hd => by simp [hd]) (fun _ _ => htidy) ?_
    rintro m - ⟨o, ho, hlength⟩
    simp [habsent, show store.disk.trash.lookup digest = none from htidy] at ho
  | @restoreObject digest _ _ habsent hentry hwhole =>
    refine horderly.swap digest (fun d hd => by simp [hd])
      (fun _ _ => by simp) ?_
    rintro m - ⟨o, ho, hlength⟩
    exact ⟨o, by simpa [habsent, hentry] using ho, hlength⟩
  | @trashObject digest _ _ hobject =>
    have htrash : store.disk.trash.lookup digest = none := htidy
    refine horderly.swap digest (fun d hd => by simp [hd]) (fun _ h => ?_) ?_
    · simp at h
    · rintro m - ⟨o, ho, hlength⟩
      exact ⟨o, by simpa [hobject, htrash] using ho, hlength⟩
  | @unlinkTrashFile digest _ _ hentry hfile =>
    refine horderly.swap digest (fun d hd => by simp [hd]) (fun o h => ?_) ?_
    · cases hentry.symm.trans (horderly.apart _ o h)
    · rintro m - ⟨o, ho, hlength⟩
      exact ⟨o, by simpa [hentry] using ho, hlength⟩
  | @removeTrashDirectory digest _ _ hentry hempty =>
    refine horderly.swap digest (fun d hd => by simp [hd])
      (fun _ _ => by simp) ?_
    rintro m hm ⟨o, ho, hlength⟩
    rcases htidy with h | ⟨object, h⟩
    · cases hm.symm.trans h
    · cases hentry.symm.trans (horderly.apart _ object h)
  | @publish entry _ hfile =>
    cases entry with
    | reference s' d' marker => exact { horderly with }
    | unreferenced d' marker =>
      obtain ⟨hvalid, o, ho, hlength⟩ := htidy
      exact { horderly with
        markers := forall_insert ⟨hvalid, o, .inl ho, hlength⟩
          horderly.markers }
    | released s' marker =>
      exact { horderly with
        released := forall_insert htidy.1 horderly.released }
  | removeUnreferenced hmarker =>
    exact { horderly with markers := forall_erase horderly.markers }
  | quiet hquiet | sync | referenceAdded | sessionRemoved | rebuild =>
    exact horderly
  | _ => exact { horderly with }

/-- A session that is closed and has no references. -/
def Disk.Closed (disk : Disk) (sessionId : SessionId) : Prop :=
  (disk.releasedSessions.lookup sessionId).isSome = true ∧
    ∀ digest, disk.reference sessionId digest = none

theorem Disk.Closed.effect (hclosed : store.disk.Closed sessionId)
    (htidy : action.Tidy store) (heffect : Effect action store after) :
    after.disk.Closed sessionId := by
  obtain ⟨hreleased, hnone⟩ := hclosed
  cases heffect with
  | createSessionDirectory =>
    exact ⟨hreleased, fun d => by simp [reference_insert, hnone]⟩
  | @unlinkReference s d' markers _ hsession hmarker =>
    refine ⟨hreleased, fun d => ?_⟩
    rw [Store.withDisk_disk, reference_insert, lookup_erase_ite,
      ← reference_of_lookup hsession]
    split <;> simp_all
  | removeSessionDirectory =>
    exact ⟨hreleased, fun d => by simp [reference_erase, hnone]⟩
  | @publish entry _ hfile =>
    cases entry with
    | reference s d' marker =>
      have hopen : store.disk.releasedSessions.lookup s = none := htidy
      refine ⟨hreleased, fun d => ?_⟩
      simp only [Store.withDisk_disk, reference_write]
      rw [if_neg ?_]
      · exact hnone d
      · rintro ⟨rfl, -⟩
        rw [hopen] at hreleased
        cases hreleased
    | unreferenced d' marker => exact ⟨hreleased, hnone⟩
    | released s marker =>
      refine ⟨?_, hnone⟩
      simp only [Store.withDisk_disk, write, lookup_insert_ite]
      split <;> simp [hreleased]
  | _ => exact ⟨hreleased, hnone⟩

/-! ## Scans of an intact tree -/

theorem validateReferenceMarker_eq_ok {mediaType : String} :
    validateReferenceMarker marker sessionId digest mediaType = .ok () ↔
      marker.schemaVersion = storeVersion ∧ marker.sessionId = sessionId ∧
        marker.digest = digest.text ∧ marker.mediaType = mediaType := by
  unfold validateReferenceMarker
  split
  next h => simp [h]
  next h =>
    split
    next h' => tauto
    next h' =>
      simp only [not_or, not_not] at h h'
      simp [h, h']

theorem listMarkers_ok {α : Type} {kind : String}
    (htemporaries : disk.temporaries = []) (here : Target → Bool)
    (entries : List α) : listMarkers kind disk here entries = .ok entries := by
  simp [listMarkers, htemporaries]

section

variable {β : Type} {markers : KeyedMap Sha256Digest ReferenceMarker}

theorem Disk.exists_readSession_ok
    {check : Sha256Digest → ReferenceMarker → Except EvidenceError β}
    (htemporaries : disk.temporaries = [])
    (h : ∀ digest marker, markers.lookup digest = some marker →
      ∃ value, check digest marker = .ok value) :
    ∃ found, disk.readSession check sessionId markers = .ok found := by
  unfold readSession
  rw [listMarkers_ok htemporaries]
  refine Fallible.exists_mapM_ok fun entry hentry => ?_
  obtain ⟨value, hvalue⟩ := h entry.1 entry.2 (mem_pairs.mp hentry)
  refine ⟨(entry.1, value), ?_⟩
  rw [hvalue]
  rfl

theorem Disk.exists_scan_ok
    {check : SessionId → Sha256Digest → ReferenceMarker →
      Except EvidenceError β} (htemporaries : disk.temporaries = [])
    (h : ∀ sessionId digest marker,
      disk.reference sessionId digest = some marker →
        ∃ value, check sessionId digest marker = .ok value) :
    ∃ found, disk.scan check = .ok found := by
  refine Fallible.exists_mapM_ok fun entry hentry => ?_
  have hsession := mem_pairs.mp hentry
  obtain ⟨found, hfound⟩ : ∃ found,
      disk.readSession (check entry.1) entry.1 entry.2 = .ok found :=
    exists_readSession_ok htemporaries fun digest marker hmarker =>
      h entry.1 digest marker
        ((reference_of_lookup hsession digest).trans hmarker)
  refine ⟨(entry.1, found), ?_⟩
  rw [hfound]
  rfl

variable (hintact : disk.Intact digestOf stored)

include hintact

theorem Disk.Intact.readObjectMetadata {object : ObjectDirectory}
    (h : disk.objects.lookup digest = some object) :
    disk.readObjectMetadata digest = .ok object.metadata := by
  unfold Disk.readObjectMetadata
  rw [h]
  simp [(hintact.objects digest object h).metadata]

theorem Disk.Intact.checkReference
    (h : disk.reference sessionId digest = some marker) :
    ∃ object, disk.objects.lookup digest = some object ∧
      disk.checkReference sessionId digest marker = .ok object.metadata := by
  obtain ⟨object, hobject, hvalid⟩ :=
    hintact.references sessionId digest marker h
  rw [validateReferenceMarker_eq_ok] at hvalid
  have hmarker : checkMarker sessionId digest marker = .ok () :=
    validateReferenceMarker_eq_ok.mpr ⟨hvalid.1, hvalid.2.1, hvalid.2.2.1, rfl⟩
  refine ⟨object, hobject, ?_⟩
  simp [Disk.checkReference, hmarker, hintact.readObjectMetadata hobject,
    hvalid.2.2.2]

section

variable (htemporaries : disk.temporaries = [])
include htemporaries

theorem Disk.Intact.exists_rawReferencedDigests :
    ∃ digests, disk.rawReferencedDigests = .ok digests := by
  obtain ⟨found, hfound⟩ : ∃ found, disk.scan checkMarker = .ok found := by
    refine exists_scan_ok htemporaries fun s d m hm => ?_
    obtain ⟨object, -, hvalid⟩ := hintact.references s d m hm
    rw [validateReferenceMarker_eq_ok] at hvalid
    exact ⟨(), validateReferenceMarker_eq_ok.mpr
      ⟨hvalid.1, hvalid.2.1, hvalid.2.2.1, rfl⟩⟩
  unfold rawReferencedDigests
  rw [hfound]
  exact ⟨_, rfl⟩

theorem Disk.Intact.exists_scanReferenceIndex :
    ∃ index, disk.scanReferenceIndex = .ok index := by
  obtain ⟨found, hfound⟩ : ∃ found,
      disk.scan disk.checkReference = .ok found := by
    refine exists_scan_ok htemporaries fun s d m hm => ?_
    obtain ⟨object, -, hcheck⟩ := hintact.checkReference hm
    exact ⟨object.metadata, hcheck⟩
  unfold scanReferenceIndex
  rw [hfound]
  exact ⟨_, rfl⟩

theorem Disk.Intact.exists_readSession
    (hsession : disk.references.lookup sessionId = some markers) :
    ∃ released, disk.readSession (disk.checkReference sessionId) sessionId
      markers = .ok released := by
  refine exists_readSession_ok htemporaries fun d m hm => ?_
  obtain ⟨object, -, hcheck⟩ := hintact.checkReference
    ((reference_of_lookup hsession d).trans hm)
  exact ⟨object.metadata, hcheck⟩

end

end

/-- The trees a crash may leave behind after an action. -/
theorem Effect.disks (heffect : Effect action store after)
    (h : disk ∈ after.disks) : disk = after.disk ∨ disk ∈ store.disks := by
  cases heffect with
  | sync => exact .inl (List.mem_singleton.mp h)
  | quiet hquiet | referenceAdded | sessionRemoved | rebuild => exact .inr h
  | _ => exact List.mem_cons.mp h

end DeviceRail.EvidenceFs
