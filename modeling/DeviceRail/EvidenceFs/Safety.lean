import DeviceRail.EvidenceFs.Intact
import DeviceRail.EvidenceFs.Logic

/-!
# The store never loses what a session refers to

Every operation performs only lawful actions, whatever faults it meets, and
only tidy ones as long as existence checks do not fail.  The tree is therefore
intact at every moment of every run, on whichever of the trees a crash may
leave behind.
-/

namespace DeviceRail.EvidenceFs

open Script Contract Footprint

/-- Intact and orderly trees, under any faults and crashes. -/
def safety (digestOf : Content → Sha256Digest) (F : Faults filesystem)
    (stored : Content → Prop) : Contract where
  faults := F
  crashes := True
  invariant store := ∀ disk ∈ store.disks,
    disk.Intact digestOf stored ∧ (Exact F → disk.Orderly)
  fresh _ := True
  permitted action store :=
    action.Lawful digestOf stored store ∧ (Exact F → action.Tidy store)
  ofSession _ _ _ := True
  ofObject _ _ := True
  told _ _ _ := True
  stored := stored

/-- A call with this footprint performs only permitted actions. -/
abbrev SafeFor (digestOf : Content → Sha256Digest) (F : Faults filesystem)
    (stored : Content → Prop) (footprint : Footprint) {α : Type}
    (post : α → Store → Prop) (x : Fs α) (store : Store) : Prop :=
  Safe ((safety digestOf F stored).setting footprint) post x store

abbrev SafeAlone (digestOf : Content → Sha256Digest) (F : Faults filesystem)
    (stored : Content → Prop) {α : Type} (x : Fs α) (store : Store) : Prop :=
  SafeFor digestOf F stored .exclusive (fun _ _ => True) x store

variable {store : Store} {digestOf : Content → Sha256Digest}
  {F : Faults filesystem} {stored : Content → Prop}
  {config : FileEvidenceStoreConfig}

section

variable {footprint : Footprint} {sessionId : SessionId} {digest : Sha256Digest}
  {α : Type}

/-! ## Actions that need nothing -/

/-- The actions that keep every tree intact and orderly. -/
def Action.Harmless : Action → Prop
  | .publishObject _ _ => False
  | .trashObject _ => False
  | .removeTrashDirectory _ => False
  | .createSessionDirectory _ => False
  | .unlinkReference _ => False
  | .publish _ => False
  | _ => True

variable {action : Action} {object : ObjectDirectory} {call : PutCall}
  {J : Store → Prop} {x : Fs α} {t u : Store} {now : ℕ}

theorem Action.Harmless.permitted (h : action.Harmless) (store : Store) :
    (safety digestOf F stored).permitted action store := by
  cases action with
  | publishObject | trashObject | removeTrashDirectory
  | createSessionDirectory | unlinkReference | publish => cases h
  | _ => exact ⟨trivial, fun _ => trivial⟩

/-- A property that harmless actions keep, for a call that performs no
others. -/
theorem harmless_frame (hrely : ∀ {s t},
      ((safety digestOf F stored).setting footprint).rely s t → J s → J t)
    (hkeep : ∀ {action t u}, Action.Harmless action → J t →
      Effect action t u → J u) :
    Frame ((safety digestOf F stored).setting footprint)
      (fun action => action.Harmless ∧ footprint.Within action) J where
  rely := hrely
  may h _ _ := setting_permitted (h.1.permitted _) h.2
  keep h _ hJ heffect := hkeep h.1 hJ heffect

theorem safety_exists {place : Place} {post : α → Store → Prop} {y : Fs α}
    (hx : ∀ t, ((safety digestOf F stored).setting footprint).rely store t →
      ((safety digestOf F stored).setting footprint).invariant t →
      place.present t.disk = true →
        SafeFor digestOf F stored footprint post x t)
    (hy : ∀ t, ((safety digestOf F stored).setting footprint).rely store t →
      ((safety digestOf F stored).setting footprint).invariant t →
      (Exact F → place.present t.disk = false) →
        SafeFor digestOf F stored footprint post y t) :
    SafeFor digestOf F stored footprint post
      (pathExists place >>= fun found => if found = true then x else y)
      store := by
  refine safe_exists hx fun t hst hinv h => hy t hst hinv fun hexact => h ?_
  rwa [setting_faults]

theorem Effect.trash_none (heffect : Effect action t u) (h : action.Harmless)
    (hnone : t.disk.trash.lookup digest = none) :
    u.disk.trash.lookup digest = none := by
  cases heffect with
  | publishObject | trashObject | removeTrashDirectory | publish => cases h
  | @restoreObject d =>
    by_cases hd : digest = d
    · subst hd
      simp
    · simpa [hd] using hnone
  | @unlinkTrashFile d _ _ hentry =>
    by_cases hd : digest = d
    · subst hd
      cases hnone.symm.trans hentry
    · simpa [hd] using hnone
  | _ => exact hnone

theorem Effect.marker_none (heffect : Effect action t u) (h : action.Harmless)
    (hnone : t.disk.unreferenced.lookup digest = none) :
    u.disk.unreferenced.lookup digest = none := by
  cases heffect with
  | publish => cases h
  | @removeUnreferenced d =>
    by_cases hd : digest = d
    · subst hd
      simp
    · simpa [hd] using hnone
  | _ => exact hnone

theorem Action.Harmless.released (h : action.Harmless) :
    Area.released ∉ action.areas := by
  cases action with
  | publish => cases h
  | _ => simp

section

variable (hholds : footprint.HoldsObject digest)
include hholds

theorem unmarks_harmless :
    Unmarks (fun action => action.Harmless ∧ footprint.Within action) digest :=
  ⟨⟨trivial, within_object hholds fun _ => rfl⟩,
    ⟨trivial, within_object hholds fun _ => trivial⟩⟩

/-! ## The trash -/

theorem trash_frame :
    Frame ((safety digestOf F stored).setting footprint)
      (fun action => action.Harmless ∧ footprint.Within action)
      fun t => t.disk.trash.lookup digest = none :=
  harmless_frame
    (fun hst h => (object_undisturbed hholds hst).trash.trans h)
    fun hharmless h heffect => heffect.trash_none hharmless h

theorem marker_none_frame :
    Frame ((safety digestOf F stored).setting footprint)
      (fun action => action.Harmless ∧ footprint.Within action)
      fun t => t.disk.unreferenced.lookup digest = none :=
  harmless_frame
    (fun hst h => (object_undisturbed hholds hst).marker.trans h)
    fun hharmless h heffect => heffect.marker_none hharmless h

theorem safe_removeTrash (operation : String)
    (hs : Exact F → (Action.removeTrashDirectory digest).Tidy store) :
    SafeFor digestOf F stored footprint
      (fun _ t => t.disk.trash.lookup digest = none)
      (removeTrash operation digest) store := by
  have hframe : Frame ((safety digestOf F stored).setting footprint)
      (fun action => action = .unlinkTrashFile digest)
      (fun t => Exact F → (Action.removeTrashDirectory digest).Tidy t) := by
    refine ⟨fun hst h hexact => ?_, ?_, ?_⟩
    · have hsame := object_undisturbed hholds hst
      rcases h hexact with h | ⟨o, h⟩
      · exact .inl (hsame.marker.trans h)
      · exact .inr ⟨o, hsame.object.trans h⟩
    · rintro _ t rfl _ _
      exact setting_permitted ⟨trivial, fun _ => trivial⟩
        (within_object hholds fun _ => rfl)
    · rintro _ t u rfl _ h heffect hexact
      cases heffect with
      | unlinkTrashFile => exact h hexact
      | quiet hquiet => cases hquiet
  refine safe_read fun t files hst _ _ => ?_
  refine safe_seq hframe (only_forM fun _ _ =>
    only_act (P := fun action => action = .unlinkTrashFile digest) rfl _)
    (hframe.rely hst hs) fun _ t _ hJ => ?_
  refine safe_act_last (fun u htu _ => ?_) fun u v _ _ heffect w hvw _ => ?_
  · exact setting_permitted ⟨trivial, hframe.rely htu hJ⟩
      (within_object hholds fun _ => rfl)
  · rw [(object_undisturbed hholds hvw).trash]
    cases heffect with
    | removeTrashDirectory => simp
    | quiet hquiet => cases hquiet

theorem safe_removeUnreferencedMarkerIfPresent :
    SafeFor digestOf F stored footprint
      (fun _ t => Exact F → t.disk.unreferenced.lookup digest = none)
      (removeUnreferencedMarkerIfPresent digest) store := by
  have hframe : Frame ((safety digestOf F stored).setting footprint) _ _ :=
    marker_none_frame hholds
  have hunmarks := unmarks_harmless hholds
  refine safety_exists (fun t _ _ _ => ?_) fun t _ _ habsent => ?_
  · refine safe_inspect fun t _ _ => safe_act (fun u _ _ => ?_)
      fun u v _ _ heffect => ?_
    · exact setting_permitted (hunmarks.remove.1.permitted u) hunmarks.remove.2
    · refine (safe_only hframe (only_syncDirectory hunmarks.sync) ?_).mono
        fun _ _ _ h _ => h
      cases heffect with
      | removeUnreferenced => simp
      | quiet hquiet => cases hquiet
  · refine safe_pure fun u htu _ hexact => ?_
    rw [(object_undisturbed hholds htu).marker]
    simpa using habsent hexact

theorem safe_recoverGcTrashEntry (referenced : Bool) :
    SafeFor digestOf F stored footprint
      (fun _ t => Exact F → t.disk.trash.lookup digest = none)
      (recoverGcTrashEntry digestOf digest referenced) store := by
  have hframe : Frame ((safety digestOf F stored).setting footprint) _ _ :=
    trash_frame hholds
  have hunmarks := unmarks_harmless hholds
  have hsync : ∀ directory, (Action.sync directory).Harmless ∧
      footprint.Within (.sync directory) :=
    fun _ => ⟨trivial, within_object hholds fun _ => trivial⟩
  refine safety_exists (fun t _ _ _ => ?_) fun t _ _ habsent => ?_
  · refine safe_inspect fun t _ _ => ?_
    refine safety_exists (fun t _ _ hlive => ?_) fun t _ _ _ => ?_
    · obtain ⟨object, hobject⟩ := Option.isSome_iff_exists.mp hlive
      refine safe_read fun u _ htu _ _ => safe_read fun v _ huv _ _ => ?_
      refine safe_ite (fun _ => safe_throw _) fun _ => ?_
      have hlive' : v.disk.objects.lookup digest = some object :=
        (object_undisturbed hholds huv).object.trans
          ((object_undisturbed hholds htu).object.trans hobject)
      refine (safe_removeTrash hholds _ fun _ =>
        .inr ⟨object, hlive'⟩).bind fun _ t _ hnone => ?_
      refine safe_seq hframe (only_syncDirectory (hsync _)) hnone
        fun _ t _ hnone => ?_
      refine (safe_only hframe ?_ hnone).mono fun _ _ _ h _ => h
      exact only_ite
        (fun _ => only_removeUnreferencedMarkerIfPresent hunmarks)
        fun _ => only_pure _
    · refine safe_ite (fun _ => ?_) fun _ => ?_
      · refine safe_read fun u _ _ _ _ => ?_
        refine safe_act (fun v _ _ => ?_) fun v w _ _ _ => ?_
        · exact setting_permitted ⟨trivial, fun _ => trivial⟩
            (within_object hholds fun _ => trivial)
        refine safe_act (fun v _ _ => ?_) fun v w _ _ heffect => ?_
        · exact setting_permitted ⟨trivial, fun _ => trivial⟩
            (within_object hholds fun _ => rfl)
        have hnone : w.disk.trash.lookup digest = none := by
          cases heffect with
          | restoreObject => simp
          | quiet hquiet => cases hquiet
        refine safe_seq hframe (only_syncDirectory (hsync _)) hnone
          fun _ t _ hnone => ?_
        refine safe_seq hframe (only_syncDirectory (hsync _)) hnone
          fun _ t _ hnone => ?_
        exact (safe_only hframe
          (only_removeUnreferencedMarkerIfPresent hunmarks) hnone).mono
            fun _ _ _ h _ => h
      · refine (safe_removeUnreferencedMarkerIfPresent
          hholds).bind fun _ t _ hmarker => ?_
        refine (safe_removeTrash hholds _ fun hexact =>
          .inl (hmarker hexact)).bind fun _ t _ hnone => ?_
        exact (safe_only hframe (only_syncDirectory (hsync _)) hnone).mono
          fun _ _ _ h _ => h
  · refine safe_pure fun u htu _ hexact => ?_
    rw [(object_undisturbed hholds htu).trash]
    simpa using habsent hexact

/-! ## Markers and references -/

/-- A GC marker may be written while its object is live. -/
theorem marker_frame (byteLength : ℕ) :
    Frame ((safety digestOf F stored).setting footprint)
      (fun action => footprint.Within action ∧ (action.Harmless ∨
        ∃ releasedAtMs, action =
          .publish (gcMarker digest byteLength releasedAtMs)))
      fun t => ∃ object, t.disk.objects.lookup digest = some object ∧
        object.metadata.byteLength = byteLength := by
  refine ⟨?_, ?_, ?_⟩
  · rintro s t hst ⟨o, ho, hlength⟩
    exact ⟨o, (object_undisturbed hholds hst).object.trans ho, hlength⟩
  · rintro action t ⟨hwithin, hharmless | ⟨at_, rfl⟩⟩ _ ⟨o, ho, hlength⟩
    · exact setting_permitted (hharmless.permitted t) hwithin
    · refine setting_permitted ⟨trivial, fun _ => ⟨?_, o, ho, ?_⟩⟩ hwithin
      · simp [validateUnreferencedMarker]
      · exact hlength.symm
  · rintro action t u ⟨-, hcase⟩ _ ⟨o, ho, hlength⟩ heffect
    refine ⟨o, heffect.object_kept ?_ ho, hlength⟩
    rintro rfl
    rcases hcase with h | ⟨at_, h⟩
    · cases h
    · cases h

theorem writes_marker (byteLength releasedAtMs : ℕ) :
    Writes (fun action => footprint.Within action ∧ (action.Harmless ∨
      ∃ releasedAtMs, action =
        .publish (gcMarker digest byteLength releasedAtMs)))
      (gcMarker digest byteLength releasedAtMs) := by
  have hwithin := fun {action : Action} (h : ∀ s, action.Within s digest) =>
    within_object hholds h
  exact ⟨⟨hwithin fun _ => .inr rfl, .inl trivial⟩,
    ⟨hwithin fun _ => trivial, .inl trivial⟩,
    ⟨hwithin fun _ => .inr rfl, .inr ⟨_, rfl⟩⟩,
    ⟨hwithin fun _ => .inr rfl, .inl trivial⟩,
    ⟨hwithin fun _ => trivial, .inl trivial⟩⟩

end

theorem safe_ensureSessionOpen :
    SafeFor digestOf F stored (.shared sessionId digest)
      (fun _ t => Exact F → t.disk.releasedSessions.lookup sessionId = none)
      (ensureSessionOpen sessionId) store := by
  refine safety_exists (fun t _ _ _ => ?_) fun t _ _ habsent => ?_
  · exact safe_read fun _ _ _ _ _ => safe_throw _
  · refine safe_pure fun u htu _ hexact => ?_
    have hsame : Undisturbed sessionId digest t u := htu
    rw [hsame.released]
    simpa using habsent hexact

/-- A reference may be written while the object is live and the session is
open. -/
theorem reference_frame :
    Frame ((safety digestOf F stored).setting (.shared sessionId digest))
      (fun action => action.Within sessionId digest ∧
        (action.Harmless ∨ action = .createSessionDirectory sessionId ∨
          ∃ createdAtMs, action = .publish (referenceMarker sessionId digest
            object.metadata.mediaType createdAtMs)))
      fun t => t.disk.objects.lookup digest = some object ∧
        (Exact F → t.disk.releasedSessions.lookup sessionId = none) := by
  refine ⟨?_, ?_, ?_⟩
  · rintro s t hst ⟨hobject, hopen⟩
    have hsame : Undisturbed sessionId digest s t := hst
    exact ⟨hsame.object.trans hobject,
      fun hexact => (hsame.released sessionId).trans (hopen hexact)⟩
  · rintro action t ⟨hwithin, hharmless | rfl | ⟨at_, rfl⟩⟩ _ ⟨hobject, hopen⟩
    · exact ⟨hharmless.permitted t, hwithin⟩
    · exact ⟨⟨trivial, hopen⟩, hwithin⟩
    · refine ⟨⟨⟨object, hobject, ?_⟩, hopen⟩, hwithin⟩
      simp [validateReferenceMarker]
  · rintro action t u ⟨hwithin, hcase⟩ _ ⟨hobject, hopen⟩ heffect
    refine ⟨heffect.object_kept ?_ hobject, fun hexact => ?_⟩
    · rintro rfl
      cases hwithin
    · rw [heffect.released_eq ?_]
      · exact hopen hexact
      · rcases hcase with h | rfl | ⟨at_, rfl⟩
        · exact h.released
        · simp
        · simp [referenceMarker]

theorem safe_retain {mediaType : String}
    (hobject : store.disk.objects.lookup digest = some object)
    (hmedia : object.metadata.mediaType = mediaType) (createdAtMs : ℕ) :
    SafeFor digestOf F stored (.shared sessionId digest) (fun _ _ => True)
      (retain config sessionId digest mediaType createdAtMs) store := by
  subst hmedia
  refine safe_consult fun t _ hst _ _ => safe_bind ?_
  have hsame : Undisturbed sessionId digest store t := hst
  have hkept := hsame.object.trans hobject
  have hopen : SafeFor digestOf F stored (.shared sessionId digest)
      (fun _ t => (Exact F → t.disk.releasedSessions.lookup sessionId = none) ∧
        t.disk.objects.lookup digest = some object)
      (ensureSessionOpen sessionId) t :=
    safe_ensureSessionOpen.and_only
      (P := fun _ => False) (only_ensureSessionOpen sessionId)
      (fun {s t} hst h => by
        have hsame : Undisturbed sessionId digest s t := hst
        exact hsame.object.trans h)
      (fun h => h.elim) hkept
  refine hopen.bind fun _ t _ ht => ?_
  refine (safe_only reference_frame ?_ ⟨ht.2, ht.1⟩).mono
    fun _ _ _ _ => safe_pure fun _ _ _ => trivial
  refine only_addOpenReference ⟨⟨rfl, .inl trivial⟩, ⟨trivial, .inl trivial⟩⟩
    ?_ _
  refine ⟨⟨rfl, .inr (.inl rfl)⟩, ⟨trivial, .inl trivial⟩,
    ⟨trivial, .inl trivial⟩, fun at_ => ?_, ⟨⟨rfl, rfl⟩, .inl trivial⟩⟩
  exact ⟨⟨.inl rfl, .inl trivial⟩, ⟨trivial, .inl trivial⟩,
    ⟨.inl rfl, .inr (.inr ⟨at_, rfl⟩)⟩, ⟨.inl rfl, .inl trivial⟩,
    ⟨trivial, .inl trivial⟩⟩

/-! ## Writing and attaching -/

theorem stage_genuine
    (hmedia : validateMediaType call.request.mediaType = .ok ())
    (hfeeds : ∀ content, readInput config call.input [] = .ok content →
      stored content)
    (h : stage digestOf config call now = .ok (digest, object)) :
    Genuine digestOf stored digest object := by
  obtain ⟨content, hinput, hlength, rfl, rfl⟩ := stage_eq_ok h
  refine ⟨?_, rfl, rfl, hfeeds content hinput⟩
  simp [validateObjectMetadata, hlength, hmedia]

theorem safe_publishOrReuse (hgenuine : Genuine digestOf stored digest object)
    (hs : Exact F → store.disk.trash.lookup digest = none) :
    SafeFor digestOf F stored (.shared sessionId digest)
      (fun found t => ∃ o, t.disk.objects.lookup digest = some o ∧
        o.metadata = found.1)
      (publishOrReuse digestOf call digest object) store := by
  have hrely : ∀ {s t : Store} {metadata : ObjectMetadata},
      ((safety digestOf F stored).setting (.shared sessionId digest)).rely s t →
      (∃ o, s.disk.objects.lookup digest = some o ∧ o.metadata = metadata) →
      ∃ o, t.disk.objects.lookup digest = some o ∧ o.metadata = metadata := by
    rintro s t metadata hst ⟨o, ho, hmetadata⟩
    have hsame : Undisturbed sessionId digest s t := hst
    exact ⟨o, hsame.object.trans ho, hmetadata⟩
  refine safety_exists (fun t _ _ _ => ?_) fun t hst _ _ => ?_
  · refine safe_read fun u existing _ _ hverify => ?_
    refine safe_ite (fun _ => safe_throw _) fun _ => ?_
    refine safe_ite (fun _ => safe_throw _) fun _ => ?_
    exact safe_pure fun v huv _ => hrely huv (Disk.verifyObject_eq_ok hverify)
  · refine safe_act (fun u htu _ => ?_) fun u v _ _ heffect => ?_
    · have hsame : Undisturbed sessionId digest store u := hst.trans htu
      exact ⟨⟨hgenuine, fun hexact => hsame.trash.trans (hs hexact)⟩, rfl⟩
    have hlive : ∃ o, v.disk.objects.lookup digest = some o ∧
        o.metadata = object.metadata := by
      cases heffect with
      | publishObject => exact ⟨object, by simp, rfl⟩
      | quiet hquiet => cases hquiet
    have hframe : Frame
        ((safety digestOf F stored).setting (.shared sessionId digest))
        (fun action => ∃ directory, action = .sync directory)
        (fun t => ∃ o, t.disk.objects.lookup digest = some o ∧
          o.metadata = object.metadata) := by
      refine ⟨hrely, ?_, ?_⟩
      · rintro _ t ⟨directory, rfl⟩ _ _
        exact ⟨⟨trivial, fun _ => trivial⟩, trivial⟩
      · rintro _ t u ⟨directory, rfl⟩ _ h heffect
        rw [heffect.objects_eq (by simp)]
        exact h
    refine safe_seq hframe (only_syncDirectory ⟨_, rfl⟩) hlive
      fun _ t _ hlive => ?_
    refine safe_seq hframe (only_syncDirectory ⟨_, rfl⟩) hlive
      fun _ t _ hlive => ?_
    exact safe_pure fun u htu _ => hrely htu hlive

theorem safe_putLocked (hgenuine : Genuine digestOf stored digest object) :
    SafeFor digestOf F stored (.shared call.request.sessionId digest)
      (fun _ _ => True) (putLocked digestOf config call digest object)
      store := by
  have hholds : (shared call.request.sessionId digest).HoldsObject digest := rfl
  refine safe_consult fun t count _ _ _ => ?_
  refine (safe_recoverGcTrashEntry hholds _).bind fun _ t _ hnone => ?_
  refine safe_act (fun u _ _ => ⟨⟨trivial, fun _ => trivial⟩, trivial⟩)
    fun u v htu _ heffect => ?_
  have hsame : Undisturbed call.request.sessionId digest t u := htu
  have hnone' : Exact F → v.disk.trash.lookup digest = none := by
    intro hexact
    rw [heffect.trash_eq (by simp), hsame.trash]
    exact hnone hexact
  refine (safe_publishOrReuse hgenuine hnone').bind fun found t _ hlive => ?_
  obtain ⟨o, ho, hmetadata⟩ := hlive
  refine safe_bind (safe_handle ?_)
  have hretain : SafeFor digestOf F stored
      (.shared call.request.sessionId digest) (fun _ _ => True)
      (retain config call.request.sessionId digest found.1.mediaType
        object.metadata.createdAtMs) t :=
    safe_retain ho (congrArg ObjectMetadata.mediaType hmetadata) _
  refine wp_mono (Only.wp_and (J := fun t : Store =>
      t.disk.objects.lookup digest = some o)
    (only_retain marks_within.toUnmarks (refers_within _) _) hretain
    ?_ ?_ ho) ?_ ?_
  · intro s t hst h
    have hsame : Undisturbed call.request.sessionId digest s t := hst
    exact hsame.object.trans h
  · intro action choice t u hwithin _ h happly
    refine (effect_of_apply happly).object_kept ?_ h
    rintro rfl
    cases hwithin
  · exact fun _ _ _ _ => safe_ofExcept fun _ _ _ _ _ => trivial
  · rintro e t _ ⟨-, ho⟩
    exact safe_seq (marker_frame hholds found.1.byteLength)
      (only_ignore (only_markUnreferencedIfUnowned (writes_marker hholds _ _)))
      ⟨o, ho, congrArg ObjectMetadata.byteLength hmetadata⟩
      fun _ _ _ _ => safe_throw _

theorem safe_attachLocked {asset : AssetRef} :
    SafeFor digestOf F stored (.shared sessionId digest) (fun _ _ => True)
      (attachLocked digestOf config sessionId asset digest now) store := by
  refine safe_ensureSessionOpen.bind fun _ t _ _ => ?_
  refine safe_read fun u metadata _ _ hverify => ?_
  refine safe_ite (fun _ => safe_throw _) fun _ => ?_
  obtain ⟨o, ho, hmetadata⟩ := Disk.verifyObject_eq_ok hverify
  refine (safe_retain ho
    (congrArg ObjectMetadata.mediaType hmetadata) now).bind fun _ _ _ _ => ?_
  exact safe_ofExcept fun _ _ _ _ _ => trivial

/-! ## Recovery -/

theorem harmless_only (hx : Only (fun action : Action => action.Harmless ∧
      exclusive.Within action) x) : SafeAlone digestOf F stored x store :=
  safe_only (harmless_frame (J := fun _ => True) (fun _ h => h)
    fun _ h _ => h) hx trivial

theorem safe_recoverGcTrash :
    SafeAlone digestOf F stored (recoverGcTrash digestOf) store := by
  refine safe_read fun _ referenced _ _ _ => safe_read fun t _ _ _ _ => ?_
  refine safe_forM (J := fun _ => True) (fun _ h => h) ?_ trivial
  intro d _ s _
  have hholds : exclusive.HoldsObject d := trivial
  exact (safe_recoverGcTrashEntry hholds _).mono fun _ _ _ _ => trivial

variable (now : ℕ) {markers : List (Sha256Digest × UnreferencedMarker)}

theorem safe_markOrphan :
    SafeAlone digestOf F stored (markOrphan now digest) store := by
  have hholds : exclusive.HoldsObject digest := trivial
  refine safe_read fun t metadata _ _ hread => ?_
  refine safety_exists (fun _ _ _ _ => safe_pure fun _ _ _ => trivial)
    fun u htu _ _ => ?_
  obtain ⟨object, hobject, hmetadata⟩ := Disk.readObjectMetadata_eq_ok hread
  obtain rfl : t = u := htu
  exact (safe_only (marker_frame hholds metadata.byteLength)
    (only_atomicWriteJson (writes_marker hholds _ now) _)
    ⟨object, hobject, congrArg ObjectMetadata.byteLength hmetadata⟩).mono
      fun _ _ _ _ => trivial

theorem safe_recoverReferenceState :
    SafeAlone digestOf F stored (recoverReferenceState now) store := by
  have hunmarks : ∀ d, Unmarks (fun action => action.Harmless ∧
      exclusive.Within action) d := fun d => unmarks_harmless trivial
  refine safe_read fun _ references _ _ _ => ?_
  refine (harmless_only (only_forM fun d _ =>
    only_settleReferenced (hunmarks d))).bind fun _ t _ _ => ?_
  refine safe_read fun _ objects _ _ _ => safe_bind ?_
  refine (safe_forM (J := fun _ => True) (fun _ h => h) (fun d _ s _ => ?_)
    trivial).mono fun _ t _ _ => ?_
  · exact safe_ite (fun _ => safe_pure fun _ _ _ => trivial)
      fun _ => safe_markOrphan now
  refine safe_read fun _ markers _ _ _ => ?_
  refine (harmless_only (only_forM fun d _ =>
    only_dropMissingObjectMarker (hunmarks d))).bind fun _ t _ _ => ?_
  exact harmless_only (only_syncDirectory ⟨trivial, trivial⟩)

/-! ## Releasing a session -/

/-- The references of a closed session may be dropped, and the objects they
referred to may be marked. -/
theorem drop_frame (released : List (Sha256Digest × ObjectMetadata))
    (releasedAtMs : ℕ) :
    Frame ((safety digestOf F stored).setting .exclusive)
      (fun action => action.Harmless ∨ action = .unlinkReference sessionId ∨
        ∃ entry ∈ released, action =
          .publish (gcMarker entry.1 entry.2.byteLength releasedAtMs))
      fun t => (∃ marker,
          t.disk.releasedSessions.lookup sessionId = some marker) ∧
        ∀ entry ∈ released, ∃ object,
          t.disk.objects.lookup entry.1 = some object ∧
            object.metadata = entry.2 := by
  refine ⟨?_, ?_, ?_⟩
  · intro s t hst h
    obtain rfl : s = t := hst
    exact h
  · rintro action t (hharmless | rfl | ⟨entry, hentry, rfl⟩) _ ⟨hclosed, hlive⟩
    · exact hharmless.permitted t
    · exact ⟨trivial, fun _ => hclosed⟩
    · obtain ⟨object, hobject, hmetadata⟩ := hlive entry hentry
      refine ⟨trivial, fun _ => ⟨?_, object, hobject, ?_⟩⟩
      · simp [validateUnreferencedMarker]
      · exact congrArg ObjectMetadata.byteLength hmetadata.symm
  · rintro action t u hcase _ ⟨hclosed, hlive⟩ heffect
    constructor
    · rw [heffect.released_eq ?_]
      · exact hclosed
      · rcases hcase with h | rfl | ⟨entry, -, rfl⟩
        · exact h.released
        · simp
        · simp [gcMarker]
    · intro entry hentry
      obtain ⟨object, hobject, hmetadata⟩ := hlive entry hentry
      refine ⟨object, heffect.object_kept ?_ hobject, hmetadata⟩
      rintro rfl
      rcases hcase with h | h | ⟨entry, -, h⟩
      · cases h
      · cases h
      · cases h

theorem safe_releaseReferencesLocked {marker : ReleasedSessionMarker}
    (hclosed : store.disk.releasedSessions.lookup sessionId = some marker)
    (releasedAtMs now : ℕ) :
    SafeAlone digestOf F stored
      (releaseReferencesLocked sessionId releasedAtMs now) store := by
  refine safety_exists (fun t hst _ _ => ?_) fun t _ _ _ => ?_
  · refine safe_read fun u released htu _ hread => ?_
    obtain rfl : store = u := hst.trans htu
    have hlive : ∀ entry ∈ released, ∃ object,
        store.disk.objects.lookup entry.1 = some object ∧
          object.metadata = entry.2 := by
      intro entry hentry
      cases hsession : store.disk.references.lookup sessionId with
      | none =>
        rw [hsession] at hread
        cases hread
      | some markers =>
        rw [hsession] at hread
        obtain ⟨marker, -, hcheck⟩ := Disk.readSession_check hread entry hentry
        exact Disk.checkReference_eq_ok hcheck
    refine (safe_only (drop_frame released releasedAtMs) ?_
      ⟨⟨marker, hclosed⟩, hlive⟩).mono fun _ _ _ _ => trivial
    refine only_dropReferences ⟨.inr (.inl rfl), .inl trivial,
      fun _ => .inl trivial, .inl trivial⟩ fun entry hentry => ?_
    exact ⟨.inl trivial, .inl trivial, .inr (.inr ⟨entry, hentry, rfl⟩),
      .inl trivial, .inl trivial⟩
  · refine (safe_recoverReferenceState now).bind fun _ t _ _ => ?_
    refine (harmless_only (only_rebuildReferenceIndex
      fun _ => ⟨trivial, trivial⟩)).bind fun _ t _ _ => ?_
    exact safe_pure fun _ _ _ => trivial

/-- The rename of an atomic write is what matters about it. -/
theorem safe_writeThroughTemporary {entry : Entry} {Q : Unit → Store → Prop}
    (operation : String) (hkeep : ∀ {action t u}, Action.Harmless action → J t →
      Effect action t u → J u)
    (hmay : ∀ t, J t → (safety digestOf F stored).permitted (.publish entry) t)
    (hpost : ∀ t u, J t → Effect (.publish entry) t u → Q () u) (hs : J store) :
    SafeFor digestOf F stored .exclusive Q
      (writeThroughTemporary operation entry) store := by
  have hframe : Frame ((safety digestOf F stored).setting .exclusive) _ J :=
    harmless_frame (fun {s t} hst h => by
      obtain rfl : s = t := hst
      exact h) hkeep
  have hfailed : ∀ (e : EvidenceError) (t : Store),
      SafeFor digestOf F stored .exclusive Q (do
        ignore (act "remove temporary" (.removeTemporary entry.target))
        throw e) t := by
    intro e t
    refine (harmless_only (only_ignore
      (only_act ⟨trivial, trivial⟩ _))).bind fun _ _ _ _ => safe_throw _
  have hwrite : SafeFor digestOf F stored .exclusive Q (do
      act "open private store file" (.createTemporary entry.target)
      act operation (.fillTemporary entry.target)
      act operation (.publish entry)) store := ?_
  · exact safe_handle (wp_mono hwrite (fun _ _ _ h => h)
      fun e t _ _ => hfailed e t)
  refine safe_seq hframe (only_act ⟨trivial, trivial⟩ _) hs fun _ t _ hJ => ?_
  refine safe_seq hframe (only_act ⟨trivial, trivial⟩ _) hJ fun _ t _ hJ => ?_
  refine safe_act_last (fun u htu _ => ?_) fun u v htu _ heffect w hvw _ => ?_
  · exact hmay u (hframe.rely htu hJ)
  · obtain rfl : v = w := hvw
    exact hpost u v (hframe.rely htu hJ) heffect

theorem safe_persistSessionRelease (releasedAtMs : ℕ) :
    SafeFor digestOf F stored .exclusive
      (fun _ t => ∃ marker,
        t.disk.releasedSessions.lookup sessionId = some marker)
      (persistSessionRelease sessionId releasedAtMs) store := by
  refine safety_exists (fun t _ _ hpresent => ?_) fun t _ _ habsent => ?_
  · refine safe_read fun u _ htu _ _ => safe_pure fun v huv _ => ?_
    obtain rfl : t = v := htu.trans huv
    exact Option.isSome_iff_exists.mp hpresent
  · refine safe_bind ((?_ : Safe _ (fun _ t => ∃ marker,
      t.disk.releasedSessions.lookup sessionId = some marker) _ _).mono
        fun _ u _ hclosed => ?_)
    · refine safe_inspect fun u htu _ => ?_
      refine safety_exists (fun v _ _ hpresent => ?_) fun v huv _ _ => ?_
      · refine safe_pure fun w hvw _ => ?_
        obtain rfl : v = w := hvw
        exact Option.isSome_iff_exists.mp hpresent
      obtain rfl : t = v := htu.trans huv
      refine (safe_writeThroughTemporary
        (J := fun t => Exact F →
          t.disk.releasedSessions.lookup sessionId = none)
        (Q := fun _ t => ∃ marker,
          t.disk.releasedSessions.lookup sessionId = some marker) _
        ?_ ?_ ?_ ?_).bind fun _ w _ hclosed => ?_
      · intro action t u hharmless hJ heffect hexact
        rw [heffect.released_eq hharmless.released]
        exact hJ hexact
      · intro t hJ
        refine ⟨trivial, fun hexact => ⟨?_, hJ hexact⟩⟩
        simp [validateReleasedSessionMarker]
      · intro t u _ heffect
        cases heffect with
        | publish => exact ⟨_, by simp [Disk.write]; rfl⟩
        | quiet hquiet => cases hquiet
      · intro hexact
        simpa using habsent hexact
      · refine safe_act_last (fun u _ _ => ⟨trivial, fun _ => trivial⟩)
          fun u v htu _ heffect x hvx _ => ?_
        obtain rfl : v = x := hvx
        obtain rfl : w = u := htu
        rw [heffect.released_eq (by simp)]
        exact hclosed
    · refine safe_pure fun v huv _ => ?_
      obtain rfl : u = v := huv
      exact hclosed

theorem safe_releaseSession (releasedAtMs now : ℕ) :
    SafeAlone digestOf F stored
      (releaseSession sessionId releasedAtMs now) store := by
  refine (safe_persistSessionRelease releasedAtMs).bind fun _ t _ hclosed => ?_
  obtain ⟨marker, hmarker⟩ := hclosed
  exact safe_releaseReferencesLocked hmarker _ now

/-! ## Garbage collection -/

theorem safe_deleteObject
    (hunowned : ∀ s, store.disk.reference s digest = none) :
    SafeAlone digestOf F stored (deleteObject digest) store := by
  have hholds : exclusive.HoldsObject digest := trivial
  have hframe : Frame ((safety digestOf F stored).setting .exclusive) _ _ :=
    marker_none_frame hholds
  refine safe_inspect fun t hst _ => ?_
  refine safety_exists (fun _ _ _ _ => safe_throw _) fun u htu _ habsent => ?_
  obtain rfl : store = u := hst.trans htu
  refine safe_act (fun u hsu _ => ?_) fun u v _ _ _ => ?_
  · obtain rfl : store = u := hsu
    refine ⟨hunowned, fun hexact => ?_⟩
    change store.disk.trash.lookup digest = none
    simpa using habsent hexact
  refine (harmless_only (only_syncDirectory
    ⟨trivial, trivial⟩)).bind fun _ t _ _ => ?_
  refine (harmless_only (only_syncDirectory
    ⟨trivial, trivial⟩)).bind fun _ t _ _ => ?_
  refine safe_inspect fun t _ _ => safe_act (fun u _ _ => ?_)
    fun u v _ _ heffect => ?_
  · exact ⟨trivial, fun _ => trivial⟩
  have hunmarked : v.disk.unreferenced.lookup digest = none := by
    cases heffect with
    | removeUnreferenced => simp
    | quiet hquiet => cases hquiet
  refine safe_seq hframe (only_syncDirectory ⟨trivial, trivial⟩) hunmarked
    fun _ t _ hunmarked => ?_
  refine safe_inspect fun u htu _ => ?_
  refine (safe_removeTrash hholds _
    fun _ => .inl (hframe.rely htu hunmarked)).bind fun _ t _ _ => ?_
  exact harmless_only (only_syncDirectory ⟨trivial, trivial⟩)

theorem safe_gcLoop {policy : GcPolicy} (hunowned : ∀ entry ∈ markers, ∀ s,
      store.disk.reference s entry.1 = none) (report : GcReport) :
    SafeAlone digestOf F stored
      (gcLoop digestOf policy markers report) store := by
  induction markers generalizing store report with
  | nil => exact safe_pure fun _ _ _ => trivial
  | cons entry rest ih =>
    obtain ⟨d, marker⟩ := entry
    have hrest : ∀ entry ∈ rest, ∀ s, store.disk.reference s entry.1 = none :=
      fun entry hentry => hunowned entry (List.mem_cons_of_mem _ hentry)
    refine safe_ite (fun _ => ih hrest report) fun _ => ?_
    refine safe_read fun t metadata hst _ _ => ?_
    obtain rfl : store = t := hst
    refine safe_ite (fun _ => safe_throw _) fun _ => ?_
    refine safe_ite (fun _ => safe_pure fun _ _ _ => trivial) fun _ => ?_
    refine safe_ite (fun _ => ih hrest report) fun _ => ?_
    refine safe_ite (fun _ => ih hrest _) fun _ => safe_bind ?_
    have hdelete : SafeFor digestOf F stored .exclusive
        (fun _ t => True ∧ ∀ entry ∈ rest, ∀ s,
          t.disk.reference s entry.1 = none) (deleteObject d) store := by
      refine (safe_deleteObject
        (hunowned (d, marker) List.mem_cons_self)).and_only
        (P := fun action => Area.references ∉ action.areas)
        (only_deleteObject ?_ ?_ ?_) ?_ ?_ hrest
      · constructor <;> simp
      · constructor <;> simp
      · simp
      · intro s t hst h
        obtain rfl : s = t := hst
        exact h
      · intro action t u hfree _ h heffect entry hentry s
        unfold Disk.reference
        rw [heffect.references_eq hfree]
        exact h entry hentry s
    exact hdelete.mono fun _ t _ h => ih h.2 _

theorem gcMarkers_unowned {referenced : List Sha256Digest} {disk : Disk}
    (h : gcMarkers referenced disk = .ok markers) :
    ∀ entry ∈ markers, entry.1 ∉ referenced := by
  obtain ⟨listed, -, hmarkers⟩ := Fallible.bind_eq_ok.mp h
  intro entry hentry
  obtain ⟨source, -, hpair⟩ := Fallible.exists_of_forall₂
    (Fallible.mapM_eq_ok.mp hmarkers) hentry
  obtain ⟨-, -, hcheck⟩ := Fallible.bind_eq_ok.mp hpair
  split at hcheck
  next => cases hcheck
  next hfree =>
    cases hcheck
    exact hfree

theorem safe_gc (policy : GcPolicy) (now : ℕ) :
    SafeAlone digestOf F stored (gc digestOf policy now) store := by
  refine safe_recoverGcTrash.bind fun _ t _ _ => ?_
  refine (safe_recoverReferenceState now).bind fun _ t _ _ => ?_
  refine safe_bind (safe_read fun u index _ _ hscan => ?_)
  refine safe_act_last (fun _ _ _ => ⟨trivial, fun _ => trivial⟩)
    fun v w huv _ heffect x hwx _ => ?_
  obtain rfl : w = x := hwx
  obtain rfl : u = v := huv
  have hw : w.disk = u.disk ∧ w.index = some index := by
    cases heffect with
    | rebuild => exact ⟨rfl, rfl⟩
    | quiet hquiet => cases hquiet
  refine safe_consult fun x referenced hwx _ hreferenced => ?_
  obtain rfl : w = x := hwx
  refine safe_read fun x markers hwx _ hmarkers => ?_
  obtain rfl : w = x := hwx
  refine safe_gcLoop (fun entry hentry s => ?_) _
  have hkeys : referenced = index.byDigest.keys := by
    unfold consulted at hreferenced
    rw [hw.2] at hreferenced
    exact (Except.ok.inj hreferenced).symm
  have hfree := gcMarkers_unowned hmarkers entry hentry
  rw [hkeys, (Disk.matches_of_scan hscan).mem_keys] at hfree
  rw [hw.1]
  by_contra hsome
  exact hfree ⟨s, Option.isSome_iff_ne_none.mpr hsome⟩

/-! ## Opening the store -/

theorem safe_recoverReleasedSession :
    SafeAlone digestOf F stored
      (recoverReleasedSession now sessionId) store := by
  refine safe_read fun t marker hst _ hread => ?_
  refine safety_exists (fun u htu _ _ => ?_)
    fun _ _ _ _ => safe_pure fun _ _ _ => trivial
  obtain rfl : t = u := htu
  cases hclosed : t.disk.releasedSessions.lookup sessionId with
  | none =>
    rw [hclosed] at hread
    cases hread
  | some found =>
    exact (safe_releaseReferencesLocked hclosed _ now).bind
      fun _ _ _ _ => safe_pure fun _ _ _ => trivial

theorem safe_recoverReleasedSessions :
    SafeAlone digestOf F stored (recoverReleasedSessions now) store := by
  refine safe_read fun u sessions _ _ _ => ?_
  exact safe_forM (J := fun _ => True) (fun _ h => h)
    (fun s _ _ _ => safe_recoverReleasedSession now) trivial

theorem safe_new :
    SafeAlone digestOf F stored (new digestOf config now) store := by
  have hsync : ∀ directory, (Action.sync directory).Harmless ∧
      exclusive.Within (.sync directory) :=
    fun _ => ⟨trivial, trivial⟩
  have hrebuild : ∀ s : Store,
      SafeAlone digestOf F stored rebuildReferenceIndex s :=
    fun _ => harmless_only (only_rebuildReferenceIndex
      fun _ => ⟨trivial, trivial⟩)
  refine safe_bind (safe_ofExcept fun _ t _ _ _ => ?_)
  refine (harmless_only (only_cleanupAtomicTemporaries
    ⟨fun _ => ⟨trivial, trivial⟩, hsync, fun _ => ⟨trivial, trivial⟩⟩)).bind
      fun _ t _ _ => ?_
  refine (harmless_only (only_cleanupAbandonedStaging
    ⟨trivial, trivial⟩ (hsync _))).bind fun _ t _ _ => ?_
  refine safe_recoverGcTrash.bind fun _ t _ _ => ?_
  refine (hrebuild t).bind fun _ t _ _ => ?_
  refine (safe_recoverReleasedSessions now).bind fun _ t _ _ => ?_
  exact (safe_recoverReferenceState now).bind fun _ t _ _ => hrebuild t

end

/-! ## The contract -/

theorem safety_keep {action : Action} {after : Store}
    (hinv : (safety digestOf F stored).invariant store)
    (hmay : (safety digestOf F stored).permitted action store)
    (heffect : Effect action store after) :
    (safety digestOf F stored).invariant after := by
  intro disk hdisk
  rcases heffect.disks hdisk with rfl | hbefore
  · obtain ⟨hintact, horderly⟩ := hinv store.disk List.mem_cons_self
    exact ⟨hintact.effect hmay.1 heffect,
      fun hexact => (horderly hexact).effect (hmay.2 hexact) heffect⟩
  · exact hinv disk hbefore

/-- A safe program meets the postcondition of a call, which asks for
nothing. -/
theorem Safe.body {footprint : Footprint} {α : Type} {x : Fs α} {f : α → Reply}
    {ledger : SessionId → Set Sha256Digest} {request : Request}
    (h : SafeFor digestOf F stored footprint (fun _ _ => True) x store) :
    Prog.wp ((safety digestOf F stored).setting footprint)
      ((safety digestOf F stored).post ledger request footprint)
      (do let value ← x; return f value : Fs Reply) store := by
  have hpost : ∀ result t, (safety digestOf F stored).post ledger request
      footprint result t := by
    intro result t
    refine ⟨?_, trivial⟩
    cases footprint with
    | shared s d => exact ⟨trivial, trivial⟩
    | exclusive => exact ⟨fun _ => trivial, fun _ => trivial⟩
  have hreply : SafeFor digestOf F stored footprint (fun _ _ => True)
      (do let value ← x; return f value : Fs Reply) store :=
    h.bind fun _ _ _ _ => safe_pure fun _ _ _ => trivial
  exact Prog.wp_mono hreply fun result t _ _ => hpost result t

theorem safety_holds (F : Faults filesystem) (stored : Content → Prop) :
    (safety digestOf F stored).Holds digestOf config where
  keep := safety_keep
  crash _ hinv hdisk := by
    refine ⟨fun disk h => ?_, trivial⟩
    rw [List.mem_singleton.mp h]
    exact hinv _ hdisk
  forget hinv := hinv
  told_keep _ _ _ _ := trivial
  refused _ := trivial
  session_kept _ _ _ _ := trivial
  object_kept _ _ _ _ := trivial
  body {request phase now footprint body store} htyped hfeeds hstages hbody
      _ ledger _ := by
    cases enters_of_body hbody with
    | put =>
      obtain ⟨call, at_, hcall, hstage⟩ := hstages
      cases hcall
      exact (safe_putLocked (stage_genuine htyped hfeeds hstage)).body
    | attach hdigest => exact safe_attachLocked.body
    | releaseSession => exact (safe_releaseSession _ _).body
    | gc => exact (safe_gc _ _).body
  new _ _ _ := by
    refine Prog.wp_mono (safe_new _) fun result t _ _ => ?_
    cases result with
    | ok value => exact ⟨fun _ => trivial, fun _ => trivial⟩
    | error e => trivial

/-! ## Every run -/

/-- The content was the input of a `put` of the run. -/
def Fed (config : FileEvidenceStoreConfig) (labels : List Label)
    (content : Content) : Prop :=
  ∃ id call, Label.call id (.put call) ∈ labels ∧
    readInput config call.input [] = .ok content

theorem safety_covers_of {label : Label}
    (hfed : ∀ id call content, label = .call id (.put call) →
      readInput config call.input [] = .ok content → stored content) :
    (safety digestOf F stored).Covers config label := by
  cases label with
  | call id request =>
    cases request with
    | put call => exact fun content => hfed id call content rfl
    | _ => trivial
  | crash fallback => trivial
  | _ => trivial

variable {labels : List Label} {system : System}

theorem safety_covers :
    ∀ label ∈ labels,
      (safety digestOf F (Fed config labels)).Covers config label := by
  refine fun label hlabel => safety_covers_of fun id call content hcall h => ?_
  exact ⟨id, call, hcall ▸ hlabel, h⟩

theorem safety_covers_true (label : Label) :
    (safety digestOf F fun _ => True).Covers config label :=
  safety_covers_of fun _ _ _ _ _ => trivial

/-- Every reachable system keeps the contract. -/
theorem safety_sound
    (hcovers : ∀ label ∈ labels, (safety digestOf F stored).Covers config label)
    (hrun : Transition.Run (System.Step digestOf config F) System.initial
      labels system) :
    (safety digestOf F stored).Sound digestOf config system := by
  refine (sound_unserved rfl ?_ (fun _ => ⟨rfl, trivial⟩)
    (by rintro _ ⟨⟩)).run (safety_holds F _) hcovers hrun
  intro disk hdisk
  rw [List.mem_singleton.mp hdisk]
  exact ⟨Disk.intact_empty, fun _ => Disk.orderly_empty⟩

/-- In every run, under any faults and crashes, whatever a session refers to
on a tree that a crash may leave behind is there, with valid metadata and the
bytes that some `put` stored under this digest; and no step moves or changes
an object that a session refers to. -/
theorem referenced_evidence_intact
    (hrun : Transition.Run (System.Step digestOf config F) System.initial
      labels system) :
    (∀ disk ∈ system.store.disks, ∀ sessionId digest marker,
      disk.reference sessionId digest = some marker →
        ∃ object, disk.objects.lookup digest = some object ∧
          validateObjectMetadata object.metadata digest = .ok () ∧
          object.metadata.mediaType = marker.mediaType ∧
          object.metadata.byteLength = object.data.length ∧
          digestOf object.data = digest ∧
          Fed config labels object.data) ∧
    ∀ label after, System.Step digestOf config F system label after →
      (∀ fallback, label ≠ .crash fallback) →
      ∀ sessionId digest,
        (system.store.disk.reference sessionId digest).isSome = true →
          after.store.disk.objects.lookup digest =
            system.store.disk.objects.lookup digest := by
  have hsound := safety_sound safety_covers hrun
  constructor
  · intro disk hdisk s d m hm
    obtain ⟨hintact, -⟩ := hsound.invariant disk hdisk
    obtain ⟨o, ho, hvalid⟩ := hintact.references s d m hm
    obtain ⟨hmetadata, hlength, hcontent, hgiven⟩ := hintact.objects d o ho
    refine ⟨o, ho, hmetadata, ?_, hlength.symm, hcontent, hgiven⟩
    unfold validateReferenceMarker at hvalid
    split at hvalid
    next => cases hvalid
    next =>
      obtain ⟨hfields, hvalid⟩ := guard_eq_ok.mp hvalid
      simp only [not_or, not_not] at hfields
      exact hfields.2.2.symm
  · intro label after hstep hcrash s d hsome
    obtain ⟨m, hm⟩ := Option.isSome_iff_exists.mp hsome
    obtain ⟨hintact, -⟩ := hsound.invariant _ List.mem_cons_self
    obtain ⟨o, ho, -⟩ := hintact.references s d m hm
    rcases hsound.change hstep hcrash with heq | ⟨action, hmay, heffect⟩
    · rw [(List.cons.inj heq).1]
    · rw [ho]
      refine heffect.object_kept ?_ ho
      rintro rfl
      have hnone : system.store.disk.reference s d = none := hmay.1 s
      cases hm.symm.trans hnone

/-- A small store for fixed runs. -/
def sampleConfig : FileEvidenceStoreConfig := ⟨16, 2, 1⟩

def firstDigest : Sha256Digest :=
  ⟨"a12871fee210fb8619291eaea194581cbd2531e4b23759d225f6806923f63222",
    by decide⟩

def secondDigest : Sha256Digest :=
  ⟨"2848698aa4b3431e3db06c343ca2cb0455f8aaf16c85cdd828c92ddf7dc134f8",
    by decide⟩

/-- SHA-256 on the two contents of the runs, and on the empty one. -/
def sampleDigestOf (content : Content) : Sha256Digest :=
  if content = [1, 2] then firstDigest
  else if content = [3, 4, 5] then secondDigest
  else
    ⟨"e3b0c44298fc1c149afbf4c8996fb92427ae41e4649b934ca495991b7852b855",
      by decide⟩

def sampleSession : SessionId := ⟨⟨0⟩⟩

def samplePut : PutCall := ⟨⟨sampleSession, "image/png"⟩, none, none, [[1, 2]]⟩

/-- The store is opened on an empty directory. -/
def openLabels : List Label :=
  .reopen 0 :: List.replicate 16 (.recover (.go 0)) ++ [.opened]

/-- A call that runs to its end. -/
def putLabels (id : ℕ) (call : PutCall) (turns : ℕ) : List Label :=
  [.call id (.put call), .check id false none, .stage id 5 none,
    .enter id 6] ++ List.replicate turns (.turn id (.go 0)) ++ [.leave id]

theorem referenced_evidence_intact_put :
    ∃ labels system,
      Transition.Run (System.Step sampleDigestOf sampleConfig
        ⟨fun _ _ => True, fun _ _ => True⟩) System.initial labels system ∧
      ∃ marker, system.store.disk.reference sampleSession firstDigest =
        some marker ∧
      ∃ object, system.store.disk.objects.lookup firstDigest = some object ∧
        object.metadata.mediaType = marker.mediaType ∧
        Fed sampleConfig labels object.data := by
  obtain ⟨system, hexec, marker, hmarker, -⟩ : ∃ system,
      System.initial.calmRun sampleDigestOf sampleConfig
        (openLabels ++ putLabels 0 samplePut 24) = some system ∧ ∃ marker,
      system.store.disk.reference sampleSession firstDigest = some marker ∧
        True := by
    decide +kernel
  have hrun : Transition.Run (System.Step sampleDigestOf sampleConfig
      ⟨fun _ _ => True, fun _ _ => True⟩) System.initial
      (openLabels ++ putLabels 0 samplePut 24) system :=
    System.run_of_calmRun hexec
  obtain ⟨object, hobject, -, hmedia, -, -, hfed⟩ :=
    (referenced_evidence_intact hrun).1 system.store.disk
      List.mem_cons_self sampleSession firstDigest marker hmarker
  exact ⟨_, system, hrun, marker, hmarker, object, hobject, hmedia, hfed⟩

end DeviceRail.EvidenceFs
