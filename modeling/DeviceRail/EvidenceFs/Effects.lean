import DeviceRail.EvidenceFs.System

/-!
# What one primitive does

Every action that succeeds is one of the cases of `Effect`, which says what it
needed and what it changed.  The lemmas on `reference` replace its definition
after each change of the tree, and `Within` names the actions a call may
perform while others are inside with it.
-/

namespace DeviceRail.EvidenceFs

open DeviceRail.EvidenceFs.Action

/-! ## Effects -/

/-- The store after a change of the tree that is not synced yet. -/
def Store.withDisk (store : Store) (disk : Disk) : Store :=
  { store with disk := disk, unsynced := store.disk :: store.unsynced }

@[simp]
theorem Store.withDisk_disk (store : Store) (disk : Disk) :
    (store.withDisk disk).disk = disk := rfl

@[simp]
theorem Store.withDisk_index (store : Store) (disk : Disk) :
    (store.withDisk disk).index = store.index := rfl

/-- The actions that neither change the tree nor the index nor what a crash
may undo. -/
def Action.Quiet : Action → Prop
  | .prepareShard _ => True
  | .setPermissions _ => True
  | .fillTemporary _ => True
  | .clearStaging => True
  | _ => False

/-- The successful actions with what they need and what they leave. -/
inductive Effect : Action → Store → Store → Prop
  | publishObject {digest object store}
      (habsent : store.disk.objects.lookup digest = none) :
      Effect (.publishObject digest object) store (store.withDisk
        { store.disk with
          objects := store.disk.objects.insert digest object })
  | restoreObject {digest entry store}
      (habsent : store.disk.objects.lookup digest = none)
      (hentry : store.disk.trash.lookup digest = some entry)
      (hwhole : entry.remaining = objectFiles) :
      Effect (.restoreObject digest) store (store.withDisk
        { store.disk with
          objects := store.disk.objects.insert digest entry.object
          trash := store.disk.trash.erase digest })
  | trashObject {digest object store}
      (hobject : store.disk.objects.lookup digest = some object) :
      Effect (.trashObject digest) store (store.withDisk
        { store.disk with
          objects := store.disk.objects.erase digest
          trash := store.disk.trash.insert digest ⟨object, objectFiles⟩ })
  | unlinkTrashFile {digest entry store}
      (hentry : store.disk.trash.lookup digest = some entry)
      (hfile : entry.remaining ≠ 0) :
      Effect (.unlinkTrashFile digest) store (store.withDisk
        { store.disk with
          trash := store.disk.trash.insert digest
            { entry with remaining := entry.remaining - 1 } })
  | removeTrashDirectory {digest entry store}
      (hentry : store.disk.trash.lookup digest = some entry)
      (hempty : entry.remaining = 0) :
      Effect (.removeTrashDirectory digest) store (store.withDisk
        { store.disk with trash := store.disk.trash.erase digest })
  | createSessionDirectory {sessionId store}
      (habsent : store.disk.references.lookup sessionId = none) :
      Effect (.createSessionDirectory sessionId) store (store.withDisk
        { store.disk with
          references := store.disk.references.insert sessionId ∅ })
  | unlinkReference {sessionId digest markers store}
      (hsession : store.disk.references.lookup sessionId = some markers)
      (hmarker : digest ∈ markers.keys) :
      Effect (.unlinkReference sessionId) store (store.withDisk
        { store.disk with
          references := store.disk.references.insert sessionId
            (markers.erase digest) })
  | removeSessionDirectory {sessionId markers store}
      (hsession : store.disk.references.lookup sessionId = some markers)
      (hempty : ∀ digest, markers.lookup digest = none)
      (hclean : store.disk.sessionTemporaries sessionId = []) :
      Effect (.removeSessionDirectory sessionId) store (store.withDisk
        { store.disk with
          references := store.disk.references.erase sessionId })
  | createTemporary {target store} (hhoused : store.disk.houses target = true) :
      Effect (.createTemporary target) store (store.withDisk
        { store.disk with
          temporaries := target :: store.disk.temporaries })
  | removeTemporary {target store} (hfile : target ∈ store.disk.temporaries) :
      Effect (.removeTemporary target) store (store.withDisk
        { store.disk with
          temporaries := store.disk.temporaries.erase target })
  | publish {entry store} (hfile : entry.target ∈ store.disk.temporaries) :
      Effect (.publish entry) store (store.withDisk
        ({ store.disk with
          temporaries :=
            store.disk.temporaries.erase entry.target }.write entry))
  | removeUnreferenced {digest marker store}
      (hmarker : store.disk.unreferenced.lookup digest = some marker) :
      Effect (.removeUnreferenced digest) store (store.withDisk
        { store.disk with
          unreferenced := store.disk.unreferenced.erase digest })
  | quiet {action store} (hquiet : action.Quiet) : Effect action store store
  | sync {directory store} :
      Effect (.sync directory) store { store with unsynced := [] }
  | referenceAdded {sessionId digest store} :
      Effect (.referenceAdded sessionId digest) store
        { store with
          index := store.index.map (·.referenceAdded sessionId digest) }
  | sessionRemoved {sessionId digests store} :
      Effect (.sessionRemoved sessionId digests) store
        { store with
          index := store.index.map (·.sessionRemoved sessionId digests) }
  | rebuild {index store} :
      Effect (.rebuild index) store { store with index := some index }

variable {action : Action} {store after : Store} {s s' : SessionId}
  {d' d : Sha256Digest} {target : Target}

theorem effect_of_apply {choice : ℕ}
    (h : action.apply choice store = some after) :
    Effect action store after := by
  cases action with
  | unlinkReference sessionId =>
    simp only [apply, onDisk?, Disk.unlinkReference] at h
    split at h
    · cases h
    split at h
    · cases h
    next hsession _ _ hmarker =>
      cases h
      exact .unlinkReference hsession (List.mem_of_getElem? hmarker)
  | removeSessionDirectory sessionId =>
    simp only [apply, onDisk?, Disk.removeSessionDirectory] at h
    split at h
    next => cases h
    next markers hsession =>
      split at h
      next hempty =>
        cases h
        rw [Bool.and_eq_true, List.isEmpty_iff, KeyedMap.isEmpty_iff] at hempty
        exact .removeSessionDirectory hsession hempty.1 hempty.2
      next => cases h
  | _ =>
    simp only [apply, onDisk?, Disk.publishObject, Disk.restoreObject,
      Disk.trashObject, Disk.unlinkTrashFile, Disk.removeTrashDirectory,
      Disk.createSessionDirectory, Disk.createTemporary,
      Disk.removeTemporary, Disk.publish, Disk.removeUnreferenced] at h
    repeat' split at h
    all_goals cases h <;> first
      | exact .quiet trivial
      | constructor <;> assumption

/-! ## Bodies -/

/-- What a call runs once it is inside, case by case. -/
inductive Enters (digestOf : Content → Sha256Digest)
    (config : FileEvidenceStoreConfig) :
    Request → Phase → ℕ → Footprint → Fs Reply → Prop
  | put {call digest object now} :
      Enters digestOf config (.put call) (.staged digest object) now
        (.shared call.request.sessionId digest) (do
          let evidence ← putLocked digestOf config call digest object
          return .stored evidence)
  | attach {sessionId asset digest now}
      (hdigest : Sha256Digest.fromAssetRef asset = .ok digest) :
      Enters digestOf config (.attach sessionId asset) .called now
        (.shared sessionId digest) (do
          let evidence ←
            attachLocked digestOf config sessionId asset digest now
          return .stored evidence)
  | releaseSession {sessionId releasedAtMs now} :
      Enters digestOf config (.releaseSession sessionId releasedAtMs) .called
        now .exclusive (do
          let report ← releaseSession sessionId releasedAtMs now
          return .released report)
  | gc {policy now} :
      Enters digestOf config (.gc policy) .called now .exclusive (do
        let report ← gc digestOf policy now
        return .collected report)

theorem enters_of_body {digestOf : Content → Sha256Digest}
    {config : FileEvidenceStoreConfig} {request : Request} {phase : Phase}
    {now : ℕ} {footprint : Footprint} {body : Fs Reply}
    (h : System.body? digestOf config request phase now =
      some (footprint, body)) :
    Enters digestOf config request phase now footprint body := by
  unfold System.body? at h
  split at h
  next =>
    cases h
    exact .put
  next =>
    split at h
    next => cases h
    next hdigest =>
      cases h
      exact .attach hdigest
  next =>
    cases h
    exact .releaseSession
  next =>
    cases h
    exact .gc
  next => cases h

/-! ## Areas of the tree -/

inductive Area where
  | objects
  | trash
  | references
  | released
  | unreferenced
deriving DecidableEq

/-- The areas of the tree that an action changes. -/
@[simp] def Action.areas : Action → List Area
  | .publishObject _ _ => [.objects]
  | .restoreObject _ => [.objects, .trash]
  | .trashObject _ => [.objects, .trash]
  | .unlinkTrashFile _ => [.trash]
  | .removeTrashDirectory _ => [.trash]
  | .createSessionDirectory _ => [.references]
  | .unlinkReference _ => [.references]
  | .removeSessionDirectory _ => [.references]
  | .publish (.reference _ _ _) => [.references]
  | .publish (.unreferenced _ _) => [.unreferenced]
  | .publish (.released _ _) => [.released]
  | .removeUnreferenced _ => [.unreferenced]
  | _ => []

namespace Effect

section

variable (h : Effect action store after)

include h

theorem objects_eq (hfree : Area.objects ∉ action.areas) :
    after.disk.objects = store.disk.objects := by
  cases h with
  | publishObject | restoreObject | trashObject => simp at hfree
  | @publish entry => cases entry <;> rfl
  | _ => rfl

theorem trash_eq (hfree : Area.trash ∉ action.areas) :
    after.disk.trash = store.disk.trash := by
  cases h with
  | restoreObject | trashObject | unlinkTrashFile | removeTrashDirectory =>
    simp at hfree
  | @publish entry => cases entry <;> rfl
  | _ => rfl

theorem references_eq (hfree : Area.references ∉ action.areas) :
    after.disk.references = store.disk.references := by
  cases h with
  | createSessionDirectory | unlinkReference | removeSessionDirectory =>
    simp at hfree
  | @publish entry =>
    cases entry with
    | reference => simp at hfree
    | _ => rfl
  | _ => rfl

theorem released_eq (hfree : Area.released ∉ action.areas) :
    after.disk.releasedSessions = store.disk.releasedSessions := by
  cases h with
  | @publish entry =>
    cases entry with
    | released => simp at hfree
    | _ => rfl
  | _ => rfl

theorem object_kept {digest : Sha256Digest} {object : ObjectDirectory}
    (hne : action ≠ .trashObject digest)
    (hobject : store.disk.objects.lookup digest = some object) :
    after.disk.objects.lookup digest = some object := by
  cases h with
  | @publishObject d _ _ habsent | @restoreObject d _ _ habsent =>
    have hd : digest ≠ d := by
      rintro rfl
      cases habsent.symm.trans hobject
    simpa [hd] using hobject
  | @trashObject d =>
    have hd : digest ≠ d := by
      rintro rfl
      exact hne rfl
    simpa [hd] using hobject
  | @publish entry => cases entry <;> exact hobject
  | _ => exact hobject

end

end Effect

/-! ## References after a change -/

namespace Disk

variable {disk : Disk} {sessionId : SessionId}

section

variable (disk : Disk) (sessionId s : SessionId)

theorem reference_insert (markers : KeyedMap Sha256Digest ReferenceMarker)
    (d : Sha256Digest) :
    ({ disk with
      references := disk.references.insert sessionId markers }).reference s d =
      if s = sessionId then markers.lookup d else disk.reference s d := by
  unfold reference
  rw [KeyedMap.lookup_insert_ite]
  split
  next => rfl
  next => rfl

theorem reference_erase (d : Sha256Digest) :
    ({ disk with
      references := disk.references.erase sessionId }).reference s d =
      if s = sessionId then none else disk.reference s d := by
  unfold reference
  rw [KeyedMap.lookup_erase_ite]
  split
  next => rfl
  next => rfl

theorem reference_write (digest d : Sha256Digest) (marker : ReferenceMarker) :
    (disk.write (.reference sessionId digest marker)).reference s d =
      if s = sessionId ∧ d = digest ∧
          (disk.references.lookup sessionId).isSome = true then some marker
      else disk.reference s d := by
  unfold write reference
  rw [KeyedMap.lookup_adjust]
  by_cases hs : s = sessionId
  · subst hs
    cases hsession : disk.references.lookup s with
    | none => simp
    | some markers =>
      by_cases hd : d = digest
      · subst hd
        simp
      · simp [hd]
  · simp [hs]

end

theorem reference_of_lookup {markers : KeyedMap Sha256Digest ReferenceMarker}
    (h : disk.references.lookup sessionId = some markers)
    (digest : Sha256Digest) :
    disk.reference sessionId digest = markers.lookup digest := by
  simp [reference, h]

theorem reference_of_absent (h : disk.references.lookup sessionId = none)
    (digest : Sha256Digest) : disk.reference sessionId digest = none := by
  simp [reference, h]

end Disk

/-! ## Footprints -/

/-- A temporary that a call on this session and this object may use. -/
def Target.Within (sessionId : SessionId) (digest : Sha256Digest)
    (target : Target) : Prop :=
  target = .reference sessionId digest ∨ target = .unreferenced digest

/-- An action that a call on this session and this object may perform. -/
def Action.Within (sessionId : SessionId) (digest : Sha256Digest) :
    Action → Prop
  | .publishObject d _ => d = digest
  | .restoreObject d => d = digest
  | .unlinkTrashFile d => d = digest
  | .removeTrashDirectory d => d = digest
  | .removeUnreferenced d => d = digest
  | .prepareShard _ => True
  | .createSessionDirectory s => s = sessionId
  | .createTemporary target => target.Within sessionId digest
  | .removeTemporary target => target.Within sessionId digest
  | .fillTemporary _ => True
  | .publish entry => entry.target.Within sessionId digest
  | .setPermissions _ => True
  | .sync _ => True
  | .referenceAdded s d => s = sessionId ∧ d = digest
  | .trashObject _ => False
  | .unlinkReference _ => False
  | .removeSessionDirectory _ => False
  | .clearStaging => False
  | .sessionRemoved _ _ => False
  | .rebuild _ => False

/-- Others leave alone a session's directory, the closed sessions, and the
temporaries and the count of the session. -/
structure SessionUndisturbed (sessionId : SessionId) (store after : Store) :
    Prop where
  session : after.disk.references.lookup sessionId =
    store.disk.references.lookup sessionId
  released : ∀ s, after.disk.releasedSessions.lookup s =
    store.disk.releasedSessions.lookup s
  sessionTemporaries : ∀ target : Target,
    (target.session? = some sessionId ∨ ∃ s, target = .released s) →
      after.disk.temporaries.count target = store.disk.temporaries.count target
  sessionCount : after.index.map (·.bySession.lookup sessionId) =
    store.index.map (·.bySession.lookup sessionId)

/-- Others leave alone an object, its trash and GC marker, who references it,
and the temporaries and the count of the object. -/
structure ObjectUndisturbed (digest : Sha256Digest) (store after : Store) :
    Prop where
  object : after.disk.objects.lookup digest = store.disk.objects.lookup digest
  trash : after.disk.trash.lookup digest = store.disk.trash.lookup digest
  marker : after.disk.unreferenced.lookup digest =
    store.disk.unreferenced.lookup digest
  references : ∀ s, after.disk.reference s digest =
    store.disk.reference s digest
  objectTemporaries : after.disk.temporaries.count (.unreferenced digest) =
    store.disk.temporaries.count (.unreferenced digest)
  objectCount : after.index.map (·.byDigest.lookup digest) =
    store.index.map (·.byDigest.lookup digest)

/-- What a call on this session and this object can rely on. -/
structure Undisturbed (sessionId : SessionId) (digest : Sha256Digest)
    (store after : Store) : Prop extends
    SessionUndisturbed sessionId store after,
    ObjectUndisturbed digest store after

theorem SessionUndisturbed.refl (sessionId : SessionId) (s : Store) :
    SessionUndisturbed sessionId s s :=
  ⟨rfl, fun _ => rfl, fun _ _ => rfl, rfl⟩

theorem ObjectUndisturbed.refl (digest : Sha256Digest) (s : Store) :
    ObjectUndisturbed digest s s :=
  ⟨rfl, rfl, rfl, fun _ => rfl, rfl, rfl⟩

namespace Undisturbed

variable {sessionId : SessionId} {digest : Sha256Digest} {r s t : Store}

theorem refl (s : Store) : Undisturbed sessionId digest s s :=
  ⟨.refl _ s, .refl _ s⟩

theorem trans (hrs : Undisturbed sessionId digest r s)
    (hst : Undisturbed sessionId digest s t) :
    Undisturbed sessionId digest r t where
  session := hst.session.trans hrs.session
  released s := (hst.released s).trans (hrs.released s)
  sessionTemporaries target h := (hst.sessionTemporaries target h).trans
    (hrs.sessionTemporaries target h)
  sessionCount := hst.sessionCount.trans hrs.sessionCount
  object := hst.object.trans hrs.object
  trash := hst.trash.trans hrs.trash
  marker := hst.marker.trans hrs.marker
  references s := (hst.references s).trans (hrs.references s)
  objectTemporaries := hst.objectTemporaries.trans hrs.objectTemporaries
  objectCount := hst.objectCount.trans hrs.objectCount

end Undisturbed

theorem Target.Within.foreign_session {other : Target} (h : target.Within s' d')
    (hs : s ≠ s')
    (hother : other.session? = some s ∨ ∃ s'', other = .released s'') :
    other ≠ target := by
  rintro rfl
  rcases h with rfl | rfl
  · rcases hother with h | ⟨_, h⟩
    · exact hs (Option.some.inj h).symm
    · cases h
  · rcases hother with h | ⟨_, h⟩
    · cases h
    · cases h

theorem Target.Within.foreign_object (h : target.Within s' d') (hd : d ≠ d') :
    Target.unreferenced d ≠ target := by
  rintro rfl
  rcases h with h | h
  · cases h
  · exact hd (Target.unreferenced.inj h)

theorem Entry.of_within {entry : Entry} (h : entry.target.Within s d) :
    (∃ marker, entry = .reference s d marker) ∨
      ∃ marker, entry = .unreferenced d marker := by
  cases entry with
  | _ => rcases h with h | h <;> cases h <;> simp

theorem session_undisturbed_of_within (hs : s ≠ s')
    (hwithin : action.Within s' d') (heffect : Effect action store after) :
    SessionUndisturbed s store after := by
  have hsame := SessionUndisturbed.refl s store
  cases heffect with
  | trashObject hobject | unlinkReference hsession hmarker
  | removeSessionDirectory hsession hempty hclean | sessionRemoved | rebuild =>
    cases hwithin
  | createSessionDirectory habsent =>
    cases hwithin
    exact { hsame with session := by simp [hs] }
  | createTemporary hhoused =>
    exact { hsame with
      sessionTemporaries := fun target h => by
        have hne := hwithin.foreign_session hs h
        simp [hne.symm] }
  | removeTemporary hfile =>
    exact { hsame with
      sessionTemporaries := fun target h =>
        List.count_erase_of_ne (hwithin.foreign_session hs h) }
  | @publish entry _ hfile =>
    have htemporaries : ∀ target : Target,
        (target.session? = some s ∨ ∃ s'', target = .released s'') →
        (store.disk.temporaries.erase entry.target).count target =
          store.disk.temporaries.count target := fun target h =>
      List.count_erase_of_ne (hwithin.foreign_session hs h)
    rcases Entry.of_within hwithin with ⟨marker, rfl⟩ | ⟨marker, rfl⟩
    · exact { hsame with
        session := by simp [Disk.write, KeyedMap.lookup_adjust, hs]
        sessionTemporaries := htemporaries }
    · exact { hsame with sessionTemporaries := htemporaries }
  | sync => exact { hsame with }
  | referenceAdded =>
    obtain ⟨rfl, rfl⟩ := hwithin
    refine { hsame with sessionCount := ?_ }
    cases store.index with
    | none => rfl
    | some index =>
      simp [ReferenceIndex.referenceAdded, ReferenceIndex.bump, hs]
  | _ => exact { hsame with }

theorem object_undisturbed_of_within (hd : d ≠ d')
    (hwithin : action.Within s' d') (heffect : Effect action store after) :
    ObjectUndisturbed d store after := by
  have hsame := ObjectUndisturbed.refl d store
  cases heffect with
  | publishObject habsent =>
    cases hwithin
    exact { hsame with object := by simp [hd] }
  | restoreObject habsent hentry hwhole =>
    cases hwithin
    exact { hsame with
      object := by simp [hd]
      trash := by simp [hd] }
  | trashObject hobject | unlinkReference hsession hmarker
  | removeSessionDirectory hsession hempty hclean | sessionRemoved | rebuild =>
    cases hwithin
  | unlinkTrashFile hentry hfile | removeTrashDirectory hentry hempty =>
    cases hwithin
    exact { hsame with trash := by simp [hd] }
  | createSessionDirectory habsent =>
    exact { hsame with
      references := fun s'' => by
        simp only [Store.withDisk_disk, Disk.reference_insert]
        split
        next h =>
          subst h
          rw [Disk.reference_of_absent habsent]
          rfl
        next => rfl }
  | createTemporary hhoused =>
    exact { hsame with
      objectTemporaries := by
        have hne := hwithin.foreign_object hd
        simp [hne.symm] }
  | removeTemporary hfile =>
    exact { hsame with
      objectTemporaries := List.count_erase_of_ne (hwithin.foreign_object hd) }
  | @publish entry _ hfile =>
    have htemporaries :
        (store.disk.temporaries.erase entry.target).count (.unreferenced d) =
        store.disk.temporaries.count (.unreferenced d) :=
      List.count_erase_of_ne (hwithin.foreign_object hd)
    rcases Entry.of_within hwithin with ⟨marker, rfl⟩ | ⟨marker, rfl⟩
    · exact { hsame with
        references := fun s => by
          simp only [Store.withDisk_disk, Disk.reference_write]
          rw [if_neg (fun h => hd h.2.1)]
          rfl
        objectTemporaries := htemporaries }
    · exact { hsame with
        marker := by simp [Disk.write, hd]
        objectTemporaries := htemporaries }
  | removeUnreferenced hmarker =>
    cases hwithin
    exact { hsame with marker := by simp [hd] }
  | sync => exact { hsame with }
  | referenceAdded =>
    obtain ⟨rfl, rfl⟩ := hwithin
    refine { hsame with objectCount := ?_ }
    cases store.index with
    | none => rfl
    | some index =>
      simp [ReferenceIndex.referenceAdded, ReferenceIndex.bump, hd]
  | _ => exact { hsame with }

end DeviceRail.EvidenceFs
