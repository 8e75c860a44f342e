import DeviceRail.EvidenceFs.Success

/-!
# Opening the store recovers it

From every tree that a crash may leave behind, also one during an earlier
recovery, `new` succeeds and leaves a store in order: references with their
objects are kept, released sessions have none, markers are where they belong,
the trash is empty, and the index counts the tree.
-/

namespace DeviceRail.EvidenceFs

open Script List

variable {digestOf : Content → Sha256Digest} {stored : Content → Prop}
  {store : Store} {sessionId : SessionId}

/-! ## Sweeping temporaries -/

/-- Only temporaries and directories of sessions differ. -/
def Store.Sweeping (store after : Store) : Prop :=
  after.disk = { store.disk with
    references := after.disk.references
    temporaries := after.disk.temporaries } ∧
  after.index = store.index

theorem Store.Sweeping.trans {a b c : Store} (hab : a.Sweeping b)
    (hbc : b.Sweeping c) : a.Sweeping c := by
  refine ⟨?_, hbc.2.trans hab.2⟩
  rw [hbc.1, hab.1]

theorem Store.Synced.sweeping {after : Store} (h : store.Synced after) :
    store.Sweeping after :=
  ⟨by rw [h.1], h.2.1⟩

theorem works_cleanupAtomicFilesIn (here : Target → Bool)
    (directory : Directory) :
    Works digestOf stored
      (fun _ t => store.Sweeping t ∧
        t.disk.references = store.disk.references ∧
        ∀ target, target ∈ t.disk.temporaries ↔
          target ∈ store.disk.temporaries ∧ here target = false)
      (cleanupAtomicFilesIn here directory) store := by
  refine works_read rfl (works_bind ?_)
  refine (works_forM (J := fun past t => store.Sweeping t ∧
    t.disk.references = store.disk.references ∧
    ∀ target, t.disk.temporaries.count target + past.count target =
      store.disk.temporaries.count target) ?_
    ⟨⟨rfl, rfl⟩, rfl, fun target => rfl⟩).mono fun _ t ht => ?_
  · rintro past x rest hsplit t ⟨hsweeping, hreferences, hcount⟩
    have hmem : x ∈ t.disk.temporaries := by
      have hle : (store.disk.temporaries.filter here).count x ≤
          store.disk.temporaries.count x :=
        filter_sublist.count_le x
      rw [hsplit, count_append, count_cons_self] at hle
      have hx := hcount x
      exact count_pos_iff.mp (by omega)
    refine works_act_last (fun choice => ?_) fun u hu => ?_
    · simp [Action.apply, Disk.removeTemporary, hmem]
    · cases hu with
      | quiet hquiet => cases hquiet
      | removeTemporary =>
        refine ⟨⟨?_, hsweeping.2⟩, hreferences, fun target => ?_⟩
        · rw [hsweeping.1]
          rfl
        · have htarget := hcount target
          simp only [Store.withDisk_disk]
          by_cases heq : target = x
          · subst heq
            have hpos := count_pos_iff.mpr hmem
            simp
            omega
          · rw [count_erase_of_ne heq]
            simp [Ne.symm heq]
            omega
  · obtain ⟨hsweeping, hreferences, hcount⟩ := ht
    have hmem : ∀ target, target ∈ t.disk.temporaries ↔
        target ∈ store.disk.temporaries ∧ here target = false := by
      intro target
      have htarget := hcount target
      rw [← count_pos_iff, ← count_pos_iff]
      cases hhere : here target with
      | true =>
        rw [count_filter hhere] at htarget
        simp only [reduceCtorEq, and_false, iff_false]
        omega
      | false =>
        have hzero : (store.disk.temporaries.filter here).count target = 0 := by
          rw [count_eq_zero, mem_filter, hhere]
          simp
        simp only [and_true]
        omega
    refine works_ite (fun _ => works_pure ⟨hsweeping, hreferences, hmem⟩)
      fun _ => works_sync_last fun u hu => ?_
    refine ⟨hsweeping.trans hu.sweeping, ?_, ?_⟩
    · rwa [hu.1]
    · rwa [hu.1]

theorem works_cleanupSession {markers : KeyedMap Sha256Digest ReferenceMarker}
    (hsession : store.disk.references.lookup sessionId = some markers) :
    Works digestOf stored
      (fun _ t => store.Sweeping t ∧
        (∀ s, s ≠ sessionId → t.disk.references.lookup s =
          store.disk.references.lookup s) ∧
        (∀ d, t.disk.reference sessionId d = store.disk.reference sessionId d) ∧
        ∀ target ∈ t.disk.temporaries, target ∈ store.disk.temporaries ∧
          target.session? ≠ some sessionId)
      (cleanupSession sessionId) store := by
  refine works_bind ((works_cleanupAtomicFilesIn _ _).mono fun _ t ht => ?_)
  obtain ⟨hsweeping, hreferences, hmem⟩ := ht
  have hmem' : ∀ target ∈ t.disk.temporaries,
      target ∈ store.disk.temporaries ∧ target.session? ≠ some sessionId := by
    intro target htarget
    obtain ⟨hbefore, hother⟩ := (hmem target).mp htarget
    exact ⟨hbefore, of_decide_eq_false hother⟩
  have hsession' : t.disk.references.lookup sessionId = some markers := by
    rwa [hreferences]
  refine works_read rfl (works_ite (fun hempty => ?_) fun _ => ?_)
  · rw [hsession'] at hempty
    have hnone := (KeyedMap.isEmpty_iff markers).mp hempty
    have hclean : t.disk.sessionTemporaries sessionId = [] := by
      rw [Disk.sessionTemporaries, filter_eq_nil_iff]
      intro target htarget
      simpa using (hmem' target htarget).2
    refine works_act (fun choice => ?_) fun u hu => works_pure ?_
    · have hempty' : markers.isEmpty = true := hempty
      simp [Action.apply, Disk.removeSessionDirectory, hsession', hempty',
        hclean]
    · cases hu with
      | quiet hquiet => cases hquiet
      | removeSessionDirectory =>
        refine ⟨⟨?_, hsweeping.2⟩, fun s hs => ?_, fun d => ?_, hmem'⟩
        · rw [hsweeping.1]
          rfl
        · simp [hs, hreferences]
        · simp only [Store.withDisk_disk, Disk.reference_erase, if_true]
          rw [Disk.reference_of_lookup hsession, hnone d]
  · refine works_pure ⟨hsweeping, fun s _ => ?_, fun d => ?_, hmem'⟩
    · rw [hreferences]
    · unfold Disk.reference
      rw [hreferences]

theorem works_cleanupSessions {sessions : List SessionId} (removed : Bool)
    (hnodup : sessions.Nodup) (hpresent : ∀ s ∈ sessions,
      (store.disk.references.lookup s).isSome = true) :
    Works digestOf stored
      (fun _ t => store.Sweeping t ∧
        (∀ s, s ∉ sessions → t.disk.references.lookup s =
          store.disk.references.lookup s) ∧
        (∀ s d, t.disk.reference s d = store.disk.reference s d) ∧
        ∀ target ∈ t.disk.temporaries, target ∈ store.disk.temporaries ∧
          ∀ s ∈ sessions, target.session? ≠ some s)
      (cleanupSessions sessions removed) store := by
  induction sessions generalizing store removed with
  | nil =>
    exact works_pure ⟨⟨rfl, rfl⟩, fun _ _ => rfl, fun _ _ => rfl,
      fun target htarget => ⟨htarget, fun _ h => nomatch h⟩⟩
  | cons sessionId rest ih =>
    rw [nodup_cons] at hnodup
    obtain ⟨markers, hsession⟩ := Option.isSome_iff_exists.mp
      (hpresent sessionId mem_cons_self)
    refine works_bind ((works_cleanupSession hsession).mono fun gone t ht => ?_)
    obtain ⟨hsweeping, hother, hreference, hmem⟩ := ht
    refine (ih _ hnodup.2 fun s hs => ?_).mono fun _ u hu => ?_
    · rw [hother s ?_]
      · exact hpresent s (mem_cons_of_mem _ hs)
      · rintro rfl
        exact hnodup.1 hs
    obtain ⟨hsweeping', hother', hreference', hmem'⟩ := hu
    refine ⟨hsweeping.trans hsweeping', fun s hs => ?_, fun s d => ?_,
      fun target htarget => ?_⟩
    · rw [mem_cons, not_or] at hs
      rw [hother' s hs.2, hother s hs.1]
    · rw [hreference' s d]
      by_cases hs : s = sessionId
      · subst hs
        exact hreference d
      · unfold Disk.reference
        rw [hother s hs]
    · obtain ⟨hbefore, hfree⟩ := hmem' target htarget
      refine ⟨(hmem target hbefore).1, fun s hs => ?_⟩
      rcases mem_cons.mp hs with rfl | hs
      · exact (hmem target hbefore).2
      · exact hfree s hs

theorem works_syncIf (removed : Bool) (directory : Directory) :
    Works digestOf stored
      (fun _ t => t.disk = store.disk ∧ t.index = store.index)
      (syncIf removed directory) store :=
  works_ite (fun _ => works_sync_last fun _ ht => ⟨ht.1, ht.2.1⟩)
    fun _ => works_pure ⟨rfl, rfl⟩

/-- The sweep leaves no temporary and every reference. -/
theorem works_cleanupAtomicTemporaries :
    Works digestOf stored
      (fun _ t => store.Sweeping t ∧ t.disk.temporaries = [] ∧
        ∀ s d, t.disk.reference s d = store.disk.reference s d)
      cleanupAtomicTemporaries store := by
  refine works_read rfl (works_bind ?_)
  refine (works_cleanupSessions false (sortedKeys_nodup _ _)
    fun s hs => ?_).mono fun removed t ht => ?_
  · exact Option.isSome_iff_exists.mpr (mem_sortedKeys.mp hs)
  obtain ⟨hsweeping, hother, hreference, hmem⟩ := ht
  refine works_intact fun hintact _ => ?_
  have hhomeless : ∀ target ∈ t.disk.temporaries, target.session? = none := by
    intro target htarget
    cases hs : target.session? with
    | none => rfl
    | some s =>
      have hhoused := Disk.houses_iff.mp (hintact.housed target htarget) s hs
      refine absurd hs ((hmem target htarget).2 s ?_)
      by_contra habsent
      rw [hother s habsent] at hhoused
      exact habsent (mem_sortedKeys.mpr (Option.isSome_iff_exists.mp hhoused))
  refine works_bind ((works_syncIf removed _).mono fun _ u hu => ?_)
  refine works_bind ((works_cleanupAtomicFilesIn _ _).mono fun _ v hv => ?_)
  refine (works_cleanupAtomicFilesIn _ _).mono fun _ w hw => ?_
  obtain ⟨hsweeping₁, hreferences₁, hmem₁⟩ := hv
  obtain ⟨hsweeping₂, hreferences₂, hmem₂⟩ := hw
  have husweeping : t.Sweeping u := ⟨by rw [hu.1], hu.2⟩
  refine ⟨hsweeping.trans (husweeping.trans
    (hsweeping₁.trans hsweeping₂)), ?_, fun s d => ?_⟩
  · rw [eq_nil_iff_forall_not_mem]
    intro target htarget
    rw [hmem₂, hmem₁, hu.1] at htarget
    obtain ⟨⟨hbefore, hunreferenced⟩, hreleased⟩ := htarget
    have hnone := hhomeless target hbefore
    cases target with
    | reference s d => cases hnone
    | unreferenced d => simp [Target.parent] at hunreferenced
    | released s => simp [Target.parent] at hreleased
  · unfold Disk.reference
    rw [hreferences₂, hreferences₁, hu.1]
    exact hreference s d

/-! ## Releases that were interrupted -/

/-- Only references and GC markers differ. -/
def Store.Releasing (store after : Store) : Prop :=
  after.disk = { store.disk with
    references := after.disk.references
    unreferenced := after.disk.unreferenced }

theorem works_recoverReleasedSession {marker : ReleasedSessionMarker}
    (hclosed : store.disk.releasedSessions.lookup sessionId = some marker)
    (htemporaries : store.disk.temporaries = [])
    (hindex : store.index.isSome = true) (now : ℕ) :
    Works digestOf stored
      (fun _ t => store.Releasing t ∧ t.index.isSome = true ∧
        ∀ s, t.disk.references.lookup s =
          if s = sessionId then none
          else store.disk.references.lookup s)
      (recoverReleasedSession now sessionId) store := by
  obtain ⟨index, hindex⟩ := Option.isSome_iff_exists.mp hindex
  refine works_intact fun hintact horderly => ?_
  have hvalid := horderly.released sessionId marker hclosed
  refine works_read (show _ = Except.ok marker by simp [hclosed, hvalid])
    (works_exists ?_)
  cases hsession : store.disk.references.lookup sessionId with
  | none =>
    simp only [Place.present, hsession, Option.isSome_none]
    refine works_pure ⟨rfl, by simp [hindex], fun s => ?_⟩
    split
    next heq =>
      subst heq
      exact hsession
    next => rfl
  | some markers =>
    simp only [Place.present, hsession, Option.isSome_some, if_true]
    refine works_bind (works_exists ?_)
    simp only [Place.present, hsession, Option.isSome_some, if_true]
    obtain ⟨released, hreleased⟩ :=
      hintact.exists_readSession htemporaries hsession
    refine works_read (by rw [hsession]; exact hreleased)
      ((works_dropReferences _ hsession hreleased
        htemporaries hindex).mono fun _ t ht => works_pure ?_)
    obtain ⟨hdisk, hlookup, hindex', -⟩ := ht
    exact ⟨hdisk, by simp [hindex'], hlookup⟩

theorem works_recoverReleasedSessions
    (htemporaries : store.disk.temporaries = [])
    (hindex : store.index.isSome = true) (now : ℕ) :
    Works digestOf stored
      (fun _ t => store.Releasing t ∧
        ∀ s, t.disk.references.lookup s =
          if (store.disk.releasedSessions.lookup s).isSome then none
          else store.disk.references.lookup s)
      (recoverReleasedSessions now) store := by
  refine works_read (listMarkers_ok htemporaries _ _) ?_
  refine (works_forM (J := fun past t => store.Releasing t ∧
    t.index.isSome = true ∧ ∀ s, t.disk.references.lookup s =
      if s ∈ past then none else store.disk.references.lookup s) ?_
    ⟨rfl, hindex, fun s => by simp⟩).mono fun _ t ht => ?_
  · rintro past s rest hsplit t ⟨hdisk, hindex, hpast⟩
    obtain ⟨-, marker, hmarker⟩ := lookup_of_sortedKeys_eq hsplit
    have hclosed : t.disk.releasedSessions.lookup s = some marker := by
      rwa [hdisk]
    have htemporaries' : t.disk.temporaries = [] := by rwa [hdisk]
    refine (works_recoverReleasedSession hclosed htemporaries' hindex
      now).mono fun _ u hu => ⟨?_, hu.2.1, fun s' => ?_⟩
    · unfold Store.Releasing
      rw [hu.1, hdisk]
    · rw [hu.2.2 s', hpast s']
      by_cases hs' : s' = s
      · simp [hs']
      · simp [hs']
  · refine ⟨ht.1, fun s => ?_⟩
    rw [ht.2.2 s]
    by_cases hs : s ∈ sortedKeys sessionName store.disk.releasedSessions
    · have hsome := Option.isSome_iff_exists.mpr (mem_sortedKeys.mp hs)
      simp [hs, hsome]
    · have hnone : store.disk.releasedSessions.lookup s = none := by
        rw [mem_sortedKeys, not_exists] at hs
        exact Option.eq_none_iff_forall_not_mem.mpr hs
      simp [hs, hnone]

/-! ## Opening -/

/-- A store in order, compared with the tree it was opened on. -/
structure Recovered (disk : Disk) (store : Store) : Prop where
  objects : store.disk.objects = disk.objects
  released : store.disk.releasedSessions = disk.releasedSessions
  kept : ∀ sessionId, disk.releasedSessions.lookup sessionId = none →
    ∀ digest, store.disk.reference sessionId digest =
      disk.reference sessionId digest
  dropped : ∀ sessionId,
    (disk.releasedSessions.lookup sessionId).isSome = true →
      store.disk.references.lookup sessionId = none
  markers : ∀ digest, store.disk.MarkedRight digest
  trash : ∀ digest, store.disk.trash.lookup digest = none
  temporaries : store.disk.temporaries = []
  index : ∃ index, store.index = some index ∧
    store.disk.scanReferenceIndex = .ok index
  synced : store.unsynced = []

variable {config : FileEvidenceStoreConfig} {disk : Disk}
  {F : Faults filesystem} {system : System} {labels : List Label}

theorem works_new (hconfig : config.check = .ok ()) (now : ℕ) :
    Works digestOf stored (fun _ t => Recovered store.disk t)
      (new digestOf config now) store := by
  have hcheck : Works digestOf stored (fun _ t => t = store)
      (Script.ofExcept config.check : Fs Unit) store := by
    rw [hconfig]
    exact works_pure rfl
  refine works_bind (hcheck.mono fun _ t ht => ?_)
  subst ht
  refine works_bind (works_cleanupAtomicTemporaries.mono fun _ t₁ ht₁ => ?_)
  obtain ⟨hsweeping, htemporaries, hreference⟩ := ht₁
  refine works_bind (works_act (fun _ h => nomatch h) fun t₂ ht₂ =>
    works_sync_last fun t₃ ht₃ => ?_)
  have ht₂' : t₂ = t₁ := by
    cases ht₂
    rfl
  subst ht₂'
  have htemporaries₃ : t₃.disk.temporaries = [] := by rwa [ht₃.1]
  refine works_bind ((works_recoverGcTrash htemporaries₃).mono
    fun _ t₄ ht₄ => ?_)
  obtain ⟨hdisk₄, -, htrash₄, -⟩ := ht₄
  have htemporaries₄ : t₄.disk.temporaries = [] := by rwa [hdisk₄]
  refine works_bind ((works_rebuildReferenceIndex htemporaries₄).mono
    fun _ t₅ ht₅ => ?_)
  obtain ⟨hdisk₅, -, index, -, hindex₅⟩ := ht₅
  have htemporaries₅ : t₅.disk.temporaries = [] := by rwa [hdisk₅]
  refine works_bind ((works_recoverReleasedSessions htemporaries₅
    (by simp [hindex₅]) now).mono fun _ t₆ ht₆ => ?_)
  obtain ⟨hdisk₆, hlookup₆⟩ := ht₆
  have htemporaries₆ : t₆.disk.temporaries = [] := by rwa [hdisk₆]
  refine works_bind ((works_recoverReferenceState htemporaries₆ now).mono
    fun _ t₇ ht₇ => ?_)
  obtain ⟨hmarking, hsynced, hmarkers⟩ := ht₇
  have htemporaries₇ : t₇.disk.temporaries = [] :=
    hmarking.temporaries.trans htemporaries₆
  refine (works_rebuildReferenceIndex htemporaries₇).mono fun _ t₈ ht₈ => ?_
  obtain ⟨hdisk₈, hsynced₈, index₈, hscan₈, hindex₈⟩ := ht₈
  have hobjects : t₇.disk.objects = t.disk.objects := by
    rw [hmarking.objects, hdisk₆, hdisk₅, hdisk₄, ht₃.1, hsweeping.1]
  have hreleased₅ : t₅.disk.releasedSessions = t.disk.releasedSessions := by
    rw [hdisk₅, hdisk₄, ht₃.1, hsweeping.1]
  have hreferences₅ : ∀ s d, t₅.disk.reference s d = t.disk.reference s d := by
    intro s d
    rw [← hreference s d, hdisk₅, hdisk₄, ht₃.1]
    rfl
  rw [hreleased₅] at hlookup₆
  constructor
  · rwa [hdisk₈]
  · rwa [hdisk₈, hmarking.released, hdisk₆]
  · intro s hs d
    rw [hdisk₈, hmarking.reference, ← hreferences₅]
    unfold Disk.reference
    rw [hlookup₆ s]
    simp [hs]
  · intro s hs
    rw [hdisk₈, hmarking.references, hlookup₆ s]
    simp [hs]
  · rwa [hdisk₈]
  · intro d
    rw [hdisk₈, hmarking.trash, hdisk₆, hdisk₅]
    exact htrash₄ d
  · rwa [hdisk₈]
  · exact ⟨index₈, hindex₈, by rw [hdisk₈]; exact hscan₈⟩
  · exact hsynced₈.trans hsynced

/-- `new` on its own, from a tree that is intact and orderly. -/
theorem run_new (hconfig : config.check = .ok ())
    (hintact : disk.Intact digestOf stored) (horderly : disk.Orderly)
    (now : ℕ) (choose : Action → Store → ℕ) (fault : IoFault) :
    ((new digestOf config now).run choose fault ⟨disk, [], none⟩).1 = .ok () ∧
      (safety digestOf noFaults stored).invariant
        ((new digestOf config now).run choose fault ⟨disk, [], none⟩).2 ∧
      Recovered disk
        ((new digestOf config now).run choose fault ⟨disk, [], none⟩).2 := by
  have hinv : (safety digestOf noFaults stored).invariant ⟨disk, [], none⟩ := by
    intro disk' hdisk'
    rw [mem_singleton.mp hdisk']
    exact ⟨hintact, fun _ => horderly⟩
  have hkeep : ∀ (action : Action) (choice : ℕ) (s t : Store),
      (safety digestOf noFaults stored).invariant s →
      (safety digestOf noFaults stored).permitted action s →
      action.apply choice s = some t →
        (safety digestOf noFaults stored).invariant t :=
    fun _ _ _ _ hinv hmay happly =>
      safety_keep hinv hmay (effect_of_apply happly)
  have hsafe : Safe ((safety digestOf noFaults stored).setting .exclusive)
      (fun _ _ => True) (new digestOf config now) ⟨disk, [], none⟩ :=
    safe_new now
  have hwp := Prog.wp_keep (Script.wp_and hsafe
    (works_new hconfig now)) (J := (safety digestOf noFaults
      stored).invariant) (fun s t hst h => by
        obtain rfl : s = t := hst
        exact h)
    (fun action choice t u hmay hinv _ happly =>
      hkeep action choice t u hinv hmay happly) hinv
  have hrun := Prog.wp_run hwp hinv hkeep choose fault
  obtain ⟨hend, hinv'⟩ := hrun
  revert hend hinv'
  generalize (new digestOf config now).run choose fault ⟨disk, [], none⟩ =
    opened
  obtain ⟨result, after⟩ := opened
  intro hend hinv'
  cases result with
  | ok value => exact ⟨rfl, hinv', hend.2⟩
  | error e => exact hend.2.elim

/-- A closed session stays without references in every later run. -/
theorem closed_stays (hexact : Exact F) {after : System}
    (hsound : (safety digestOf F fun _ => True).Sound digestOf config system)
    (hclosed : ∀ disk ∈ system.store.disks, disk.Closed sessionId)
    (hrun : Transition.Run (System.Step digestOf config F) system labels
      after) : ∀ disk ∈ after.store.disks, disk.Closed sessionId := by
  have hstep : ∀ before label next,
      ((safety digestOf F fun _ => True).Sound digestOf config before ∧
        ∀ disk ∈ before.store.disks, disk.Closed sessionId) →
      System.Step digestOf config F before label next →
      (safety digestOf F fun _ => True).Sound digestOf config next ∧
        ∀ disk ∈ next.store.disks, disk.Closed sessionId := by
    rintro before label next ⟨hsound, hclosed⟩ hstep
    refine ⟨hsound.step (safety_holds F _) (safety_covers_true label) hstep, ?_⟩
    by_cases hcrash : ∃ fallback, label = .crash fallback
    · obtain ⟨fallback, rfl⟩ := hcrash
      obtain ⟨-, hstep⟩ := hstep
      simp only [System.step] at hstep
      split at hstep
      next => cases hstep
      next disk hdisk =>
        cases hstep
        intro disk' hdisk'
        rw [mem_singleton.mp hdisk']
        exact hclosed disk (mem_of_getElem? hdisk)
    · rcases hsound.change hstep fun fallback h => hcrash ⟨fallback, h⟩ with
        heq | ⟨action, hmay, heffect⟩
      · rwa [heq]
      · intro disk hdisk
        rcases heffect.disks hdisk with rfl | hdisk
        · exact (hclosed _ mem_cons_self).effect (hmay.2 hexact) heffect
        · exact hclosed disk hdisk
  exact (hrun.invariant hstep ⟨hsound, hclosed⟩).2

/-- In every run whose existence checks do not fail, with crashes anywhere,
also during recovery, and from every tree a crash may leave behind: opening
the store again succeeds and leaves it in order, every reference of a session
that was not released is there with its object as it was, and a session that
was released has no references then or in any later run. -/
theorem reopening_recovers {config : FileEvidenceStoreConfig}
    (hexact : Exact F) (hconfig : config.check = .ok ())
    (hrun : Transition.Run (System.Step digestOf config F) System.initial
      labels system) (hdisk : disk ∈ system.store.disks) (now : ℕ)
    (choose : Action → Store → ℕ) (fault : IoFault) :
    ∃ opened, (new digestOf config now).run choose fault
        ⟨disk, [], none⟩ = (.ok (), opened) ∧
      Recovered disk opened ∧
      (∀ s d marker, disk.releasedSessions.lookup s = none →
        disk.reference s d = some marker →
          opened.disk.reference s d = some marker ∧
          ∃ object, opened.disk.objects.lookup d = some object ∧
            disk.objects.lookup d = some object ∧
            validateObjectMetadata object.metadata d = .ok () ∧
            object.data.length = object.metadata.byteLength ∧
            digestOf object.data = d) ∧
      ∀ s, (disk.releasedSessions.lookup s).isSome = true →
        ∀ labels' later,
          Transition.Run (System.Step digestOf config F)
            ⟨opened, .serving, ∅⟩ labels' later →
          ∀ disk' ∈ later.store.disks, ∀ d, disk'.reference s d = none := by
  have hsound := safety_sound (fun label _ => safety_covers_true label) hrun
  obtain ⟨hintact, horderly⟩ := hsound.invariant disk hdisk
  obtain ⟨hok, hinv, hrecovered⟩ := run_new hconfig hintact
    (horderly hexact) now choose fault
  revert hok hinv hrecovered
  generalize (new digestOf config now).run choose fault ⟨disk, [], none⟩ =
    result
  obtain ⟨value, opened⟩ := result
  rintro rfl hinv hrecovered
  refine ⟨opened, rfl, hrecovered, ?_, ?_⟩
  · intro s d marker hopen hmarker
    obtain ⟨object, hobject, -⟩ := hintact.references s d marker hmarker
    obtain ⟨hmetadata, hlength, hcontent, -⟩ := hintact.objects d object hobject
    refine ⟨(hrecovered.kept s hopen d).trans hmarker, object, ?_, hobject,
      hmetadata, hlength, hcontent⟩
    rwa [hrecovered.objects]
  · intro s hreleased labels' later hrun' disk' hdisk' d
    have hopened : (safety digestOf F fun _ => True).Sound digestOf config
        ⟨opened, .serving, ∅⟩ := by
      refine Contract.sound_opened (fun disk' hdisk' => ?_)
        ⟨fun _ => trivial, fun _ => trivial⟩
      obtain ⟨hintact', horderly'⟩ := hinv disk' hdisk'
      exact ⟨hintact', fun _ => horderly' fun _ _ h => h⟩
    refine (closed_stays hexact hopened (fun disk'' hdisk'' => ?_) hrun'
      disk' hdisk').2 d
    have heq : disk'' = opened.disk := by
      unfold Store.disks at hdisk''
      rw [hrecovered.synced] at hdisk''
      exact mem_singleton.mp hdisk''
    subst heq
    refine ⟨?_, fun d => ?_⟩
    · rwa [hrecovered.released]
    · exact Disk.reference_of_absent (hrecovered.dropped s hreleased) d

/-- A second `put`, as far as the publication of its reference. -/
def cutPutLabels : List Label :=
  [.call 1 (.put ⟨⟨sampleSession, "image/png"⟩, none, none, [[3], [4, 5]]⟩),
    .check 1 false none, .stage 1 7 none, .enter 1 8] ++
    List.replicate 20 (.turn 1 (.go 0))

-- The crash falls before the directory of the new reference is synced, and
-- leaves the object without its reference and a temporary file.
theorem reopening_recovers_put :
    ∃ system : System, ∃ disk ∈ system.store.disks, ∃ opened,
      (system.store.disk.reference sampleSession secondDigest).isSome = true ∧
      (disk.reference sampleSession secondDigest).isSome = false ∧
      (disk.objects.lookup secondDigest).isSome = true ∧
      disk.temporaries.length = 1 ∧
      (new sampleDigestOf sampleConfig 9).run
        (fun _ _ => 0 : Action → Store → ℕ) (⟨"", ""⟩ : IoFault)
        ⟨disk, [], none⟩ = (.ok (), opened) ∧
      (opened.disk.reference sampleSession firstDigest).isSome = true ∧
      (opened.disk.unreferenced.lookup secondDigest).isSome = true ∧
      Recovered disk opened := by
  obtain ⟨system, hexec, disk, hdisk, hpublished, hfirst, hlost, hobject,
      hfile, hopen, hmarked⟩ : ∃ system,
      System.initial.calmRun sampleDigestOf sampleConfig
        (openLabels ++ putLabels 0 samplePut 24 ++ cutPutLabels) = some system ∧
      ∃ disk ∈ system.store.disks,
        (system.store.disk.reference sampleSession secondDigest).isSome = true ∧
        (disk.reference sampleSession firstDigest).isSome = true ∧
        (disk.reference sampleSession secondDigest).isSome = false ∧
        (disk.objects.lookup secondDigest).isSome = true ∧
        disk.temporaries.length = 1 ∧
        disk.releasedSessions.lookup sampleSession = none ∧
        (((new sampleDigestOf sampleConfig 9).run
          (fun _ _ => 0 : Action → Store → ℕ) (⟨"", ""⟩ : IoFault)
          ⟨disk, [], none⟩).2.disk.unreferenced.lookup secondDigest).isSome =
            true := by
    decide +kernel
  have hrun : Transition.Run (System.Step sampleDigestOf sampleConfig
      noFaults) System.initial _ system := System.run_of_calmRun hexec
  obtain ⟨opened, hopened, hrecovered, -, -⟩ := reopening_recovers
    (fun _ _ h => h) (by decide) hrun hdisk 9 (fun _ _ => 0) ⟨"", ""⟩
  refine ⟨system, disk, hdisk, opened, hpublished, hlost, hobject, hfile,
    hopened, ?_, ?_, hrecovered⟩
  · rwa [hrecovered.kept _ hopen]
  · rwa [hopened] at hmarked

end DeviceRail.EvidenceFs
