import DeviceRail.EvidenceFs.Safety

/-!
# What the operations do when they are alone and nothing fails

`Works` is the property of a program that is alone in an intact and orderly
store and meets no fault: it does not fail, and its result meets the
postcondition.  The lemmas below say what the parts of recovery, release and
collection leave behind.
-/

namespace DeviceRail.EvidenceFs

open Script KeyedMap Disk Place List Option

/-- A program that is alone, without faults. -/
def alone (digestOf : Content → Sha256Digest) (stored : Content → Prop) :
    Setting filesystem :=
  (safety digestOf noFaults stored).exclusive.free

/-- The program does not fail, and its result meets `post`. -/
def Works {α : Type} (digestOf : Content → Sha256Digest)
    (stored : Content → Prop) (post : α → Store → Prop) (x : Fs α)
    (store : Store) : Prop :=
  wp (alone digestOf stored) post (fun _ _ => False) x store

variable {digestOf : Content → Sha256Digest} {stored : Content → Prop}
  {α β : Type} {post post' : α → Store → Prop} {store : Store}
  {digest : Sha256Digest} {sessionId : SessionId}

/-! ## Rules -/

section

variable {x : Fs α} {f : β → Fs α} {value : α} {operation : String}
  {action : Action}

theorem works_intact
    (h : store.disk.Intact digestOf stored → store.disk.Orderly →
      Works digestOf stored post x store) :
    Works digestOf stored post x store := by
  refine Prog.wp_of_later fun t hst hinv => ?_
  obtain rfl : store = t := hst
  obtain ⟨hintact, horderly⟩ := hinv store.disk mem_cons_self
  exact h hintact (horderly fun _ _ h => h)

theorem Works.mono (h : Works digestOf stored post x store)
    (hpost : ∀ value t, post value t → post' value t) :
    Works digestOf stored post' x store :=
  wp_mono h (fun value t _ => hpost value t) fun _ _ _ h => h

theorem works_pure (h : post value store) :
    Works digestOf stored post (pure value : Fs α) store := by
  refine wp_pure fun t hst _ => ?_
  obtain rfl : store = t := hst
  exact h

theorem works_bind {x : Fs β} (h : Works digestOf stored
      (fun value t => Works digestOf stored post (f value) t) x store) :
    Works digestOf stored post (x >>= f) store :=
  wp_bind h

theorem works_ite {c : Prop} [Decidable c] {y : Fs α}
    (hx : c → Works digestOf stored post x store)
    (hy : ¬c → Works digestOf stored post y store) :
    Works digestOf stored post (if c then x else y) store :=
  wp_ite hx hy

theorem works_exists {place : Place} {f : Bool → Fs α}
    (h : Works digestOf stored post (f (place.present store.disk)) store) :
    Works digestOf stored post (pathExists place >>= f) store := by
  refine wp_exists fun t hst _ => ?_
  obtain rfl : store = t := hst
  exact ⟨h, fun hf => hf.elim⟩

theorem works_view {probe : filesystem.Probe}
    {view : Store → Except EvidenceError β} {value : β}
    (hview : view store = .ok value)
    (h : Works digestOf stored post (f value) store) :
    Works digestOf stored post (look probe view (fun fault =>
      .error (.io fault.operation fault.message)) >>= f) store := by
  refine wp_view (fun t v hst _ hv => ?_) (fun t e hst _ he => ?_)
    fun _ _ _ hf => hf.elim
  · obtain rfl : store = t := hst
    cases hview.symm.trans hv
    exact h
  · obtain rfl : store = t := hst
    cases hview.symm.trans he

theorem works_read {view : Disk → Except EvidenceError β}
    {value : β} (hview : view store.disk = .ok value)
    (h : Works digestOf stored post (f value) store) :
    Works digestOf stored post (read view >>= f) store :=
  works_view hview h

theorem works_read_last {view : Disk → Except EvidenceError α}
    (hview : view store.disk = .ok value) (h : post value store) :
    Works digestOf stored post (read view) store := by
  refine wp_look fun t hst _ => ⟨fun u htu _ => ?_, fun hf => hf.elim⟩
  obtain rfl : store = u := hst.trans htu
  obtain rfl : store = t := hst
  rwa [hview]

theorem works_inspect {f : Unit → Fs α}
    (h : Works digestOf stored post (f ()) store) :
    Works digestOf stored post (inspect >>= f) store :=
  works_read rfl h

theorem works_act {f : Unit → Fs α}
    (hcan : ∀ choice, action.apply choice store ≠ none)
    (h : ∀ t, Effect action store t → Works digestOf stored post (f ()) t) :
    Works digestOf stored post (act operation action >>= f) store := by
  refine wp_act (fun _ _ _ => trivial) (fun t u hst _ heffect => ?_)
    fun t hst _ hf => ?_
  · obtain rfl : store = t := hst
    exact h u heffect
  · obtain rfl : store = t := hst
    rcases hf with hf | ⟨choice, hnone⟩
    · exact hf.elim
    · exact absurd hnone (hcan choice)

theorem works_act_last {post : Unit → Store → Prop}
    (hcan : ∀ choice, action.apply choice store ≠ none)
    (h : ∀ t, Effect action store t → post () t) :
    Works digestOf stored post (act operation action) store := by
  refine wp_perform fun t hst _ => ?_
  obtain rfl : store = t := hst
  refine ⟨trivial, fun choice u hu v huv _ => ?_, fun hf => ?_⟩
  · obtain rfl : u = v := huv
    exact h u (effect_of_apply hu)
  · rcases hf with hf | ⟨choice, hnone⟩
    · exact hf.elim
    · exact absurd hnone (hcan choice)

theorem works_forM {γ : Type} {J : List γ → Store → Prop}
    {f : γ → Fs PUnit} {todo : List γ}
    (hbody : ∀ past x rest, todo = past ++ x :: rest → ∀ s, J past s →
      Works digestOf stored (fun _ t => J (past ++ [x]) t) (f x) s)
    (hs : J [] store) :
    Works digestOf stored (fun _ t => J todo t) (todo.forM f) store := by
  refine Script.wp_forM (I := filesystem) (J := J) []
    (fun past s t hst _ h => ?_) ?_ hs
  · obtain rfl : s = t := hst
    exact h
  · intro past x rest hsplit s hJ
    exact hbody past x rest hsplit s hJ

theorem works_removeAll {post : Unit → Store → Prop} {count : Disk → ℕ}
    {last : Action} {J : ℕ → Store → Prop} (hs : J (count store.disk) store)
    (hfile : ∀ files s, J (files + 1) s →
      Works digestOf stored (fun _ t => J files t) (act operation action) s)
    (hlast : ∀ s, J 0 s → Works digestOf stored post (act operation last) s) :
    Works digestOf stored post (do
      let files ← read fun disk => .ok (count disk)
      (List.replicate files ()).forM fun _ => act operation action
      act operation last) store := by
  refine works_read rfl (works_bind ?_)
  generalize count store.disk = files at hs ⊢
  induction files generalizing store with
  | zero => exact works_pure (hlast _ hs)
  | succ files ih =>
    exact works_bind ((hfile files store hs).mono fun _ _ ht => ih ht)

end

/-! ## Syncs -/

/-- Nothing changed but what a crash may undo. -/
def Store.Synced (store after : Store) : Prop :=
  after.disk = store.disk ∧ after.index = store.index ∧ after.unsynced = []

variable {directory : Directory} {after : Store} {entry : Entry}
  {marker : UnreferencedMarker}

theorem Store.synced_of_effect (h : Effect (.sync directory) store after) :
    store.Synced after := by
  cases h with
  | sync => exact ⟨rfl, rfl, rfl⟩
  | quiet hquiet => cases hquiet

theorem works_sync {f : Unit → Fs α}
    (h : ∀ t, store.Synced t → Works digestOf stored post (f ()) t) :
    Works digestOf stored post (syncDirectory directory >>= f) store :=
  works_act (fun _ h => nomatch h) fun t heffect =>
    h t (Store.synced_of_effect heffect)

theorem works_sync_last
    {post : Unit → Store → Prop} (h : ∀ t, store.Synced t → post () t) :
    Works digestOf stored post (syncDirectory directory) store :=
  works_act_last (fun _ h => nomatch h) fun t heffect =>
    h t (Store.synced_of_effect heffect)

/-! ## Atomic writes -/

theorem works_writeThroughTemporary (operation : String)
    (hhoused : store.disk.houses entry.target = true) :
    Works digestOf stored
      (fun _ t => t.disk = store.disk.write entry ∧ t.index = store.index)
      (writeThroughTemporary operation entry) store := by
  have hwrite : Works digestOf stored
      (fun _ t => t.disk = store.disk.write entry ∧ t.index = store.index)
      (do
        act "open private store file" (.createTemporary entry.target)
        act operation (.fillTemporary entry.target)
        act operation (.publish entry)) store := ?_
  · exact wp_handle (wp_mono hwrite (fun _ _ _ h => h) fun _ _ _ h => h.elim)
  refine works_act (fun choice => ?_) fun t ht => ?_
  · simp [Action.apply, createTemporary, hhoused]
  cases ht with
  | quiet hquiet => cases hquiet
  | createTemporary =>
    refine works_act (fun _ h => by cases h) fun t ht => ?_
    cases ht with
    | quiet =>
      refine works_act_last (fun choice => ?_) fun t ht => ?_
      · simp [Action.apply, publish]
      · cases ht with
        | quiet hquiet => cases hquiet
        | publish => cases entry <;> simp [write]

theorem works_atomicWriteJson (operation : String)
    (habsent : (file entry.target).present store.disk = false)
    (hhoused : store.disk.houses entry.target = true) :
    Works digestOf stored
      (fun _ t => t.disk = store.disk.write entry ∧ t.index = store.index)
      (atomicWriteJson operation entry) store := by
  refine works_inspect (works_exists ?_)
  rw [habsent]
  refine works_bind ((works_writeThroughTemporary operation hhoused).mono
    fun _ t ht => works_sync_last fun u hu => ?_)
  exact ⟨hu.1.trans ht.1, hu.2.1.trans ht.2⟩

/-! ## GC markers -/

/-- Only GC markers differ. -/
def Store.Marking (store after : Store) : Prop :=
  after.disk = { store.disk with unreferenced := after.disk.unreferenced } ∧
    after.index = store.index

theorem Store.Marking.refl (store : Store) : store.Marking store := ⟨rfl, rfl⟩

theorem Store.Marking.trans {a b c : Store} (hab : a.Marking b)
    (hbc : b.Marking c) : a.Marking c := by
  refine ⟨?_, hbc.2.trans hab.2⟩
  rw [hbc.1, hab.1]

theorem Store.Synced.marking (h : store.Synced after) : store.Marking after :=
  ⟨by rw [h.1], h.2.1⟩

/-- Only the GC marker of one digest differs, which has none left. -/
def Store.Unmarking (store : Store) (digest : Sha256Digest) (after : Store) :
    Prop :=
  store.Marking after ∧ ∀ d, after.disk.unreferenced.lookup d =
    if d = digest then none else store.disk.unreferenced.lookup d

theorem Store.Unmarking.refl
    (h : store.disk.unreferenced.lookup digest = none) :
    store.Unmarking digest store := by
  refine ⟨Store.Marking.refl _, fun d => ?_⟩
  split
  next heq =>
    subst heq
    exact h
  next => rfl

/-- Only the GC marker of one digest differs, which has one. -/
def Store.Marked (store : Store) (digest : Sha256Digest) (after : Store) :
    Prop :=
  store.Marking after ∧ (after.disk.unreferenced.lookup digest).isSome = true ∧
    ∀ d, d ≠ digest → after.disk.unreferenced.lookup d =
      store.disk.unreferenced.lookup d

theorem Store.Marked.refl
    (h : store.disk.unreferenced.lookup digest = some marker) :
    store.Marked digest store :=
  ⟨Store.Marking.refl _, by simp [h], fun _ _ => rfl⟩

theorem works_writeMarker (operation : String)
    (hmarker : store.disk.unreferenced.lookup digest = none) :
    Works digestOf stored (fun _ t => store.Marked digest t)
      (atomicWriteJson operation (.unreferenced digest marker)) store := by
  refine (works_atomicWriteJson _ ?_ rfl).mono fun _ t ht => ?_
  · simp [Entry.target, hmarker]
  · obtain ⟨hdisk, hindex⟩ := ht
    refine ⟨⟨?_, hindex⟩, ?_, fun d hd => ?_⟩
    · rw [hdisk]
      rfl
    · rw [hdisk]
      simp [write]
    · rw [hdisk]
      simp [write, hd]

theorem works_removeUnreferenced {operation : String}
    (hmarker : store.disk.unreferenced.lookup digest = some marker) :
    Works digestOf stored (fun _ t => store.Unmarking digest t)
      (act operation (.removeUnreferenced digest)) store := by
  refine works_act_last (fun choice => ?_) fun t ht => ?_
  · simp [Action.apply, removeUnreferenced, hmarker]
  · cases ht with
    | quiet hquiet => cases hquiet
    | removeUnreferenced => exact ⟨⟨rfl, rfl⟩, fun d => lookup_erase_ite _ _ _⟩

theorem works_removeUnreferencedMarkerIfPresent :
    Works digestOf stored (fun _ t => store.Unmarking digest t)
      (removeUnreferencedMarkerIfPresent digest) store := by
  refine works_exists ?_
  cases hmarker : store.disk.unreferenced.lookup digest with
  | none =>
    simp only [present, hmarker, isSome_none]
    exact works_pure (.refl hmarker)
  | some marker =>
    simp only [present, hmarker, isSome_some, if_true]
    refine works_inspect (works_bind
      ((works_removeUnreferenced hmarker).mono fun _ t ht => ?_))
    refine works_sync_last fun u hu => ⟨ht.1.trans hu.marking, ?_⟩
    rw [hu.1]
    exact ht.2

variable (releasedAtMs : ℕ) {object : ObjectDirectory}
  {markers : KeyedMap Sha256Digest ReferenceMarker} {index : ReferenceIndex}

theorem works_ensureUnreferencedMarker {byteLength : ℕ} (hmarked : ∀ marker,
      store.disk.unreferenced.lookup digest = some marker →
        validateUnreferencedMarker marker digest = .ok () ∧
          marker.byteLength = byteLength) :
    Works digestOf stored
      (fun created t => created =
          (store.disk.unreferenced.lookup digest).isNone ∧
        store.Marked digest t)
      (ensureUnreferencedMarker digest byteLength releasedAtMs) store := by
  refine works_exists ?_
  cases hmarker : store.disk.unreferenced.lookup digest with
  | some marker =>
    obtain ⟨hvalid, hlength⟩ := hmarked marker hmarker
    simp only [present, hmarker, isSome_some, if_true]
    refine works_read_last ?_ ⟨rfl, .refl hmarker⟩
    simp [hmarker, hvalid, hlength]
  | none =>
    simp only [present, hmarker, isSome_none]
    exact works_bind ((works_writeMarker _ hmarker).mono
      fun _ t ht => works_pure ⟨rfl, ht⟩)

/-! ## Recovery of the GC markers -/

/-- The marker exists iff the object is live and no session refers to it. -/
def Disk.MarkedRight (disk : Disk) (digest : Sha256Digest) : Prop :=
  (disk.unreferenced.lookup digest).isSome = true ↔
    (disk.objects.lookup digest).isSome = true ∧
      ∀ sessionId, disk.reference sessionId digest = none

theorem works_settleReferenced
    (hobject : store.disk.objects.lookup digest = some object) :
    Works digestOf stored (fun _ t => store.Unmarking digest t)
      (settleReferenced digest) store := by
  refine works_intact fun hintact _ => works_exists ?_
  simp only [present, hobject, isSome_some, if_true]
  refine works_read (hintact.readObjectMetadata hobject) (works_exists ?_)
  cases hmarker : store.disk.unreferenced.lookup digest with
  | none =>
    simp only [present, hmarker, isSome_none]
    exact works_pure (.refl hmarker)
  | some marker =>
    simp only [present, hmarker, isSome_some, if_true]
    exact works_inspect (works_removeUnreferenced hmarker)

theorem works_markOrphan
    (hobject : store.disk.objects.lookup digest = some object) (now : ℕ) :
    Works digestOf stored (fun _ t => store.Marked digest t)
      (markOrphan now digest) store := by
  refine works_intact fun hintact _ => ?_
  refine works_read (hintact.readObjectMetadata hobject) (works_exists ?_)
  cases hmarker : store.disk.unreferenced.lookup digest with
  | some marker =>
    simp only [present, hmarker, isSome_some, if_true]
    exact works_pure (.refl hmarker)
  | none =>
    simp only [present, hmarker, isSome_none]
    exact works_writeMarker _ hmarker

theorem works_dropMissingObjectMarker
    (hmarker : store.disk.unreferenced.lookup digest = some marker) :
    Works digestOf stored
      (fun _ t => store.Marking t ∧ ∀ d, t.disk.unreferenced.lookup d =
        if d = digest ∧ store.disk.objects.lookup d = none then none
        else store.disk.unreferenced.lookup d)
      (dropMissingObjectMarker digest) store := by
  refine works_intact fun _ horderly => ?_
  obtain ⟨hvalid, -⟩ := horderly.markers digest marker hmarker
  refine works_read (by rw [hmarker]; exact hvalid) (works_exists ?_)
  cases hobject : store.disk.objects.lookup digest with
  | some object =>
    simp only [present, hobject, isSome_some, if_true]
    refine works_pure ⟨Store.Marking.refl _, fun d => ?_⟩
    rw [if_neg ?_]
    rintro ⟨rfl, hnone⟩
    cases hobject.symm.trans hnone
  | none =>
    simp only [present, hobject, isSome_none]
    refine (works_removeUnreferenced hmarker).mono fun _ t ht =>
      ⟨ht.1, fun d => ?_⟩
    rw [ht.2 d]
    by_cases hd : d = digest
    · subst hd
      simp [hobject]
    · simp [hd]

namespace Store.Marking

variable (h : store.Marking after)

include h

theorem objects : after.disk.objects = store.disk.objects := by rw [h.1]

theorem trash : after.disk.trash = store.disk.trash := by rw [h.1]

theorem references : after.disk.references = store.disk.references := by
  rw [h.1]

theorem reference (s : SessionId) (d : Sha256Digest) :
    after.disk.reference s d = store.disk.reference s d := by
  unfold Disk.reference
  rw [h.references]

theorem released :
    after.disk.releasedSessions = store.disk.releasedSessions := by rw [h.1]

theorem temporaries : after.disk.temporaries = store.disk.temporaries := by
  rw [h.1]

end Store.Marking

/-- The first loop of recovery: no referenced digest keeps a marker. -/
theorem works_settleReferences {references : List Sha256Digest}
    (hobjects : ∀ d ∈ references, ∃ object,
      store.disk.objects.lookup d = some object) :
    Works digestOf stored
      (fun _ t => store.Marking t ∧
        ∀ d ∈ references, t.disk.unreferenced.lookup d = none)
      (references.forM settleReferenced) store := by
  refine works_forM (J := fun past t => store.Marking t ∧
    ∀ d ∈ past, t.disk.unreferenced.lookup d = none) ?_
    ⟨Store.Marking.refl _, fun _ h => nomatch h⟩
  rintro past d rest hsplit t ⟨hmarking, hpast⟩
  obtain ⟨object, hobject⟩ := hobjects d (by simp [hsplit])
  rw [← hmarking.objects] at hobject
  refine (works_settleReferenced hobject).mono fun _ u hu =>
    ⟨hmarking.trans hu.1, fun d' hd' => ?_⟩
  rw [hu.2 d']
  split
  next => rfl
  next hne =>
    rcases mem_append.mp hd' with hd' | hd'
    · exact hpast d' hd'
    · exact absurd (mem_singleton.mp hd') hne

/-- The second loop: every other object has a marker. -/
theorem works_markOrphans {references : List Sha256Digest} (now : ℕ)
    (hsettled : ∀ d ∈ references, store.disk.unreferenced.lookup d = none) :
    Works digestOf stored
      (fun _ t => store.Marking t ∧
        (∀ d ∈ references, t.disk.unreferenced.lookup d = none) ∧
        ∀ d, (store.disk.objects.lookup d).isSome = true → d ∉ references →
          (t.disk.unreferenced.lookup d).isSome = true)
      ((sortedKeys Sha256Digest.text store.disk.objects).forM fun digest =>
        if digest ∈ references then pure () else markOrphan now digest)
      store := by
  refine (works_forM (J := fun past t => store.Marking t ∧
    (∀ d ∈ references, t.disk.unreferenced.lookup d = none) ∧
    ∀ d ∈ past, d ∉ references →
      (t.disk.unreferenced.lookup d).isSome = true) ?_
    ⟨Store.Marking.refl _, hsettled, fun _ h => nomatch h⟩).mono
      fun _ t ht => ⟨ht.1, ht.2.1, fun d hd => ht.2.2 d
        (mem_sortedKeys.mpr (isSome_iff_exists.mp hd))⟩
  rintro past d rest hsplit t ⟨hmarking, hunmarked, hpast⟩
  refine works_ite (fun hd => ?_) fun hd => ?_
  · refine works_pure ⟨hmarking, hunmarked, fun d' hd' hfree => ?_⟩
    rcases mem_append.mp hd' with hd' | hd'
    · exact hpast d' hd' hfree
    · exact absurd (mem_singleton.mp hd' ▸ hd) hfree
  · obtain ⟨-, object, hobject⟩ := lookup_of_sortedKeys_eq hsplit
    rw [← hmarking.objects] at hobject
    refine (works_markOrphan hobject now).mono fun _ u hu =>
      ⟨hmarking.trans hu.1, fun d' hd' => ?_, fun d' hd' hfree => ?_⟩
    · rw [hu.2.2 d' ?_]
      · exact hunmarked d' hd'
      · rintro rfl
        exact hd hd'
    · by_cases heq : d' = d
      · subst heq
        exact hu.2.1
      · rw [hu.2.2 d' heq]
        rcases mem_append.mp hd' with hd' | hd'
        · exact hpast d' hd' hfree
        · exact absurd (mem_singleton.mp hd') heq

/-- The third loop: exactly the markers of missing objects go. -/
theorem works_dropMissingObjectMarkers :
    Works digestOf stored
      (fun _ t => store.Marking t ∧ ∀ d, t.disk.unreferenced.lookup d =
        if store.disk.objects.lookup d = none then none
        else store.disk.unreferenced.lookup d)
      ((sortedKeys Sha256Digest.text store.disk.unreferenced).forM
        dropMissingObjectMarker) store := by
  refine (works_forM (J := fun past t => store.Marking t ∧
    ∀ d, t.disk.unreferenced.lookup d =
      if d ∈ past ∧ store.disk.objects.lookup d = none then none
      else store.disk.unreferenced.lookup d) ?_
    ⟨Store.Marking.refl _, fun d => by simp⟩).mono
      fun _ t ht => ⟨ht.1, fun d => ?_⟩
  · rintro past d rest hsplit t ⟨hmarking, hpast⟩
    obtain ⟨hfresh, marker, hmarker⟩ := lookup_of_sortedKeys_eq hsplit
    have hmarker' : t.disk.unreferenced.lookup d = some marker := by
      rw [hpast d, if_neg fun h => hfresh h.1]
      exact hmarker
    refine (works_dropMissingObjectMarker hmarker').mono fun _ u hu =>
      ⟨hmarking.trans hu.1, fun d' => ?_⟩
    rw [hu.2 d', hpast d', hmarking.objects]
    by_cases hd' : d' = d
    · subst hd'
      simp [hfresh]
    · simp [hd']
  · rw [ht.2 d]
    by_cases hkey : d ∈ sortedKeys Sha256Digest.text store.disk.unreferenced
    · simp [hkey]
    · rw [mem_sortedKeys, not_exists] at hkey
      simp [eq_none_iff_forall_not_mem.mpr hkey]

theorem works_recoverReferenceState
    (htemporaries : store.disk.temporaries = []) (now : ℕ) :
    Works digestOf stored
      (fun _ t => store.Marking t ∧ t.unsynced = [] ∧
        ∀ digest, t.disk.MarkedRight digest)
      (recoverReferenceState now) store := by
  refine works_intact fun hintact _ => ?_
  obtain ⟨references, hreferences⟩ :=
    hintact.exists_rawReferencedDigests htemporaries
  have hreferenced : ∀ {d}, d ∈ references ↔
      ∃ s, (store.disk.reference s d).isSome = true :=
    mem_rawReferencedDigests hreferences
  refine works_read hreferences (works_bind ?_)
  refine (works_settleReferences fun d hd => ?_).mono fun _ t₁ ht₁ => ?_
  · obtain ⟨s, hs⟩ := hreferenced.mp hd
    obtain ⟨m, hm⟩ := isSome_iff_exists.mp hs
    obtain ⟨object, hobject, -⟩ := hintact.references s d m hm
    exact ⟨object, hobject⟩
  refine works_read rfl (works_bind ?_)
  refine (works_markOrphans now ht₁.2).mono fun _ t₂ ht₂ => ?_
  obtain ⟨hmarking, hunmarked, hmarked⟩ := ht₂
  have hmarking₂ := ht₁.1.trans hmarking
  refine works_read (listMarkers_ok
    (hmarking₂.temporaries.trans htemporaries) _ _) (works_bind ?_)
  refine works_dropMissingObjectMarkers.mono fun _ t₃ ht₃ => ?_
  have hall := hmarking₂.trans ht₃.1
  refine works_sync_last fun u hu =>
    ⟨hall.trans hu.marking, hu.2.2, fun d => ?_⟩
  unfold Disk.MarkedRight
  rw [hu.1, ht₃.2 d, hall.objects, hmarking₂.objects]
  simp only [hall.reference]
  have hreferences_iff : d ∉ references ↔
      ∀ s, store.disk.reference s d = none := by
    rw [hreferenced]
    simp
  rw [← hreferences_iff]
  constructor
  · intro hsome
    split at hsome
    next => cases hsome
    next hlive =>
      refine ⟨isSome_iff_ne_none.mpr hlive, fun hd => ?_⟩
      rw [hunmarked d hd] at hsome
      cases hsome
  · rintro ⟨hlive, hfree⟩
    rw [if_neg (isSome_iff_ne_none.mp hlive)]
    exact hmarked d (ht₁.1.objects.symm ▸ hlive) hfree

/-! ## The trash -/

/-- Only the trash differs, and only at one digest, which has none left. -/
def Store.Emptying (store : Store) (digest : Sha256Digest)
    (after : Store) : Prop :=
  after.disk = { store.disk with trash := after.disk.trash } ∧
    after.index = store.index ∧
    ∀ d, after.disk.trash.lookup d =
      if d = digest then none else store.disk.trash.lookup d

theorem works_removeTrash {entry : TrashEntry}
    (hentry : store.disk.trash.lookup digest = some entry)
    (operation : String) :
    Works digestOf stored (fun _ t => store.Emptying digest t)
      (removeTrash operation digest) store := by
  refine works_removeAll (J := fun files t =>
    t.disk = { store.disk with trash := t.disk.trash } ∧
    t.index = store.index ∧
    (∀ d, d ≠ digest → t.disk.trash.lookup d = store.disk.trash.lookup d) ∧
    ∃ left, t.disk.trash.lookup digest = some left ∧ left.remaining = files)
    ⟨rfl, rfl, fun _ _ => rfl, entry, hentry, by rw [hentry]; rfl⟩ ?_ ?_
  · rintro files t ⟨hdisk, hindex, hother, left, hleft, hcount⟩
    refine works_act_last (fun choice => ?_) fun u hu => ?_
    · simp [Action.apply, unlinkTrashFile, hleft, hcount]
    · cases hu with
      | quiet hquiet => cases hquiet
      | @unlinkTrashFile _ entry' _ hentry' _ =>
        cases hleft.symm.trans hentry'
        refine ⟨?_, hindex, fun d hd => ?_, _, AList.lookup_insert _,
          Nat.sub_eq_of_eq_add hcount⟩
        · rw [hdisk]
          rfl
        · rw [← hother d hd]
          simp [hd]
  · rintro t ⟨hdisk, hindex, hother, left, hleft, hempty⟩
    refine works_act_last (fun choice => ?_) fun u hu => ?_
    · simp [Action.apply, removeTrashDirectory, hleft, hempty]
    · cases hu with
      | quiet hquiet => cases hquiet
      | removeTrashDirectory =>
        refine ⟨?_, hindex, fun d => ?_⟩
        · rw [hdisk]
          rfl
        · simp only [Store.withDisk_disk, lookup_erase_ite]
          split
          next => rfl
          next hd => exact hother d hd

/-- An entry of the trash whose object is neither live nor referred to is
deleted with its marker. -/
theorem works_recoverGcTrashEntry {entry : TrashEntry}
    (hentry : store.disk.trash.lookup digest = some entry) :
    Works digestOf stored
      (fun _ t => t.disk = { store.disk with
          trash := t.disk.trash
          unreferenced := t.disk.unreferenced } ∧
        t.index = store.index ∧
        (∀ d, t.disk.trash.lookup d =
          if d = digest then none else store.disk.trash.lookup d) ∧
        ∀ d, t.disk.unreferenced.lookup d =
          if d = digest then none else store.disk.unreferenced.lookup d)
      (recoverGcTrashEntry digestOf digest false) store := by
  refine works_intact fun _ horderly => works_exists ?_
  have hdead : store.disk.objects.lookup digest = none := by
    cases hobject : store.disk.objects.lookup digest with
    | none => rfl
    | some object =>
      have hnone := horderly.apart digest object hobject
      cases hentry.symm.trans hnone
  simp only [present, hentry, isSome_some, if_true]
  refine works_inspect (works_exists ?_)
  simp only [present, hdead, isSome_none, Bool.false_eq_true, if_false]
  refine works_bind (works_removeUnreferencedMarkerIfPresent.mono
    fun _ t ht => ?_)
  have hentry' : t.disk.trash.lookup digest = some entry := by rwa [ht.1.trash]
  refine works_bind ((works_removeTrash hentry' _).mono fun _ u hu =>
    works_sync_last fun v hv => ?_)
  obtain ⟨hdisk, hindex, htrash⟩ := hu
  refine ⟨?_, hv.2.1.trans (hindex.trans ht.1.2), fun d => ?_, fun d => ?_⟩
  · rw [hv.1, hdisk, ht.1.1]
  · rw [hv.1, htrash d, ht.1.trash]
  · rw [hv.1, hdisk]
    exact ht.2 d

/-- Recovery empties the trash and drops the markers of what was in it. -/
theorem works_recoverGcTrash (htemporaries : store.disk.temporaries = []) :
    Works digestOf stored
      (fun _ t => t.disk = { store.disk with
          trash := t.disk.trash
          unreferenced := t.disk.unreferenced } ∧
        t.index = store.index ∧
        (∀ d, t.disk.trash.lookup d = none) ∧
        ∀ d, store.disk.trash.lookup d = none →
          t.disk.unreferenced.lookup d = store.disk.unreferenced.lookup d)
      (recoverGcTrash digestOf) store := by
  refine works_intact fun hintact horderly => ?_
  obtain ⟨references, hreferences⟩ :=
    hintact.exists_rawReferencedDigests htemporaries
  refine works_read hreferences (works_read rfl ?_)
  refine (works_forM (J := fun past t => t.disk = { store.disk with
        trash := t.disk.trash
        unreferenced := t.disk.unreferenced } ∧
      t.index = store.index ∧
      (∀ d, t.disk.trash.lookup d =
        if d ∈ past then none else store.disk.trash.lookup d) ∧
      ∀ d, d ∉ past → t.disk.unreferenced.lookup d =
        store.disk.unreferenced.lookup d) ?_
    ⟨rfl, rfl, fun d => by simp, fun _ _ => rfl⟩).mono fun _ t ht => ?_
  · rintro past d rest hsplit t ⟨hdisk, hindex, htrash, hmarkers⟩
    obtain ⟨hfresh, entry, hentry⟩ := lookup_of_sortedKeys_eq hsplit
    have hfree : d ∉ references := by
      rw [mem_rawReferencedDigests hreferences]
      rintro ⟨s, hs⟩
      obtain ⟨m, hm⟩ := isSome_iff_exists.mp hs
      obtain ⟨object, hobject, -⟩ := hintact.references s d m hm
      cases (horderly.apart d object hobject).symm.trans hentry
    have hentry' : t.disk.trash.lookup d = some entry := by
      rwa [htrash d, if_neg hfresh]
    rw [decide_eq_false hfree]
    refine (works_recoverGcTrashEntry hentry').mono fun _ u hu => ?_
    obtain ⟨hdisk', hindex', htrash', hmarkers'⟩ := hu
    refine ⟨?_, hindex'.trans hindex, fun d' => ?_, fun d' hd' => ?_⟩
    · rw [hdisk', hdisk]
    · rw [htrash' d', htrash d']
      by_cases hd' : d' = d
      · simp [hd']
      · simp [hd']
    · rw [mem_append, mem_singleton, not_or] at hd'
      rw [hmarkers' d', if_neg hd'.2]
      exact hmarkers d' hd'.1
  · obtain ⟨hdisk, hindex, htrash, hmarkers⟩ := ht
    refine ⟨hdisk, hindex, fun d => ?_, fun d hd => hmarkers d ?_⟩
    · rw [htrash d]
      split
      next => rfl
      next hkey =>
        rw [mem_sortedKeys, not_exists] at hkey
        exact eq_none_iff_forall_not_mem.mpr hkey
    · rw [mem_sortedKeys, hd]
      rintro ⟨_, h⟩
      cases h

/-! ## Dropping references -/

theorem works_rebuildReferenceIndex
    (htemporaries : store.disk.temporaries = []) :
    Works digestOf stored
      (fun _ t => t.disk = store.disk ∧ t.unsynced = store.unsynced ∧
        ∃ index, store.disk.scanReferenceIndex = .ok index ∧
          t.index = some index)
      rebuildReferenceIndex store := by
  refine works_intact fun hintact _ => ?_
  obtain ⟨index, hindex⟩ := hintact.exists_scanReferenceIndex htemporaries
  refine works_read hindex (works_act_last (fun _ h => nomatch h)
    fun t ht => ?_)
  cases ht with
  | rebuild => exact ⟨rfl, rfl, index, hindex, rfl⟩
  | quiet hquiet => cases hquiet

/-- Only the references of one session differ, and it has none left. -/
def Store.Dropping (store : Store) (sessionId : SessionId)
    (after : Store) : Prop :=
  after.disk = { store.disk with references := after.disk.references } ∧
    after.index = store.index ∧
    ∀ s, after.disk.references.lookup s =
      if s = sessionId then none else store.disk.references.lookup s

theorem works_removeSession
    (hsession : store.disk.references.lookup sessionId = some markers)
    (htemporaries : store.disk.temporaries = []) (operation : String) :
    Works digestOf stored (fun _ t => store.Dropping sessionId t)
      (removeSession operation sessionId) store := by
  refine works_removeAll (J := fun files t =>
    t.disk = { store.disk with references := t.disk.references } ∧
    t.index = store.index ∧
    (∀ s, s ≠ sessionId → t.disk.references.lookup s =
      store.disk.references.lookup s) ∧
    ∃ left, t.disk.references.lookup sessionId = some left ∧ left.len = files)
    ⟨rfl, rfl, fun _ _ => rfl, markers, hsession, by rw [hsession]; rfl⟩ ?_ ?_
  · rintro files t ⟨hdisk, hindex, hother, left, hleft, hcount⟩
    have hkeys : left.keys.length = left.len := by
      simp [AList.keys, List.keys, len]
    refine works_act_last (fun choice => ?_) fun u hu => ?_
    · have hbound : choice % left.keys.length < left.keys.length :=
        Nat.mod_lt _ (by omega)
      simp [Action.apply, unlinkReference, hleft, getElem?_eq_getElem hbound]
    · cases hu with
      | quiet hquiet => cases hquiet
      | @unlinkReference _ d left' _ hleft' hmarker =>
        cases hleft.symm.trans hleft'
        refine ⟨?_, hindex, fun s hs => ?_, _, AList.lookup_insert _, ?_⟩
        · rw [hdisk]
          rfl
        · rw [← hother s hs]
          simp [hs]
        · have hlen := len_erase_of_mem hmarker
          omega
  · rintro t ⟨hdisk, hindex, hother, left, hleft, hcount⟩
    have hempty : left.isEmpty = true :=
      isEmpty_iff.mpr (length_eq_zero_iff.mp hcount)
    have hclean : t.disk.sessionTemporaries sessionId = [] := by
      rw [hdisk]
      simp [sessionTemporaries, htemporaries]
    refine works_act_last (fun choice => ?_) fun u hu => ?_
    · simp [Action.apply, removeSessionDirectory, hleft, hempty, hclean]
    · cases hu with
      | quiet hquiet => cases hquiet
      | removeSessionDirectory =>
        refine ⟨?_, hindex, fun s => ?_⟩
        · rw [hdisk]
          rfl
        · simp only [Store.withDisk_disk, lookup_erase_ite]
          split
          next => rfl
          next hs => exact hother s hs

/-- The entries of a release whose digest is left without references and has
no marker yet. -/
def unmarkedEntries (index : ReferenceIndex) (disk : Disk)
    (released : List (Sha256Digest × ObjectMetadata)) :
    List (Sha256Digest × ObjectMetadata) :=
  released.filter fun entry =>
    (index.byDigest.lookup entry.1).getD 0 = 0 &&
      (disk.unreferenced.lookup entry.1).isNone

/-- A release report after more digests were marked. -/
def ReleaseReport.marked (report : ReleaseReport)
    (fresh : List (Sha256Digest × ObjectMetadata)) : ReleaseReport :=
  { report with
    newlyUnreferencedAssets := report.newlyUnreferencedAssets + fresh.length
    newlyUnreferencedBytes := fresh.foldl
      (fun bytes entry => saturatingAdd bytes entry.2.byteLength)
      report.newlyUnreferencedBytes }

theorem works_markReleased {released : List (Sha256Digest × ObjectMetadata)}
    (hnodup : (released.map Prod.fst).Nodup) (hindex : store.index = some index)
    (hlive : ∀ entry ∈ released, ∃ object,
      store.disk.objects.lookup entry.1 = some object ∧
        object.metadata = entry.2) (report : ReleaseReport) :
    Works digestOf stored
      (fun result t => store.Marking t ∧
        (∀ d, (t.disk.unreferenced.lookup d).isSome = true ↔
          (store.disk.unreferenced.lookup d).isSome = true ∨
            d ∈ released.map Prod.fst ∧ (index.byDigest.lookup d).getD 0 = 0) ∧
        result = report.marked (unmarkedEntries index store.disk released))
      (markReleased releasedAtMs released report) store := by
  induction released generalizing store report with
  | nil =>
    refine works_pure ⟨Store.Marking.refl _, fun d => ?_, rfl⟩
    simp
  | cons entry rest ih =>
    obtain ⟨digest, metadata⟩ := entry
    rw [map_cons, nodup_cons] at hnodup
    have hrest : ∀ entry ∈ rest, ∃ object,
        store.disk.objects.lookup entry.1 = some object ∧
          object.metadata = entry.2 :=
      fun entry hentry => hlive entry (mem_cons_of_mem _ hentry)
    refine works_intact fun _ horderly => works_view (by rw [hindex]) ?_
    refine works_ite (fun hzero => works_bind ?_) fun hcount => ?_
    · obtain ⟨object, hobject, hmetadata⟩ :=
        hlive (digest, metadata) mem_cons_self
      refine (works_ensureUnreferencedMarker releasedAtMs
        fun marker hmarker => ?_).mono fun created t ht => ?_
      · obtain ⟨hvalid, o, ho, hlength⟩ :=
          horderly.markers digest marker hmarker
        refine ⟨hvalid, ?_⟩
        rw [horderly.apart digest object hobject, hobject] at ho
        simp only [Option.some.injEq, map_none, reduceCtorEq, or_false] at ho
        rw [hlength, ← ho, hmetadata]
      obtain ⟨hcreated, hmarking, hsome, hother⟩ := ht
      have hfilter : unmarkedEntries index t.disk rest =
          unmarkedEntries index store.disk rest := by
        refine filter_congr fun entry hentry => ?_
        rw [hother entry.1 ?_]
        intro heq
        have hmem : entry.1 ∈ rest.map Prod.fst := mem_map_of_mem hentry
        exact hnodup.1 (heq ▸ hmem)
      have hrest' : ∀ entry ∈ rest, ∃ object,
          t.disk.objects.lookup entry.1 = some object ∧
            object.metadata = entry.2 := by
        rwa [hmarking.objects]
      have hindex' : t.index = some index := hmarking.2.trans hindex
      have hmarkers : ∀ d, ((t.disk.unreferenced.lookup d).isSome = true ∨
            d ∈ rest.map Prod.fst ∧ (index.byDigest.lookup d).getD 0 = 0) ↔
          (store.disk.unreferenced.lookup d).isSome = true ∨
            d ∈ ((digest, metadata) :: rest).map Prod.fst ∧
              (index.byDigest.lookup d).getD 0 = 0 := by
        intro d
        by_cases hd : d = digest
        · subst hd
          simp [hsome, hzero]
        · rw [hother d hd]
          simp [hd]
      have hunmarked : unmarkedEntries index store.disk
          ((digest, metadata) :: rest) =
          if created = true then
            (digest, metadata) :: unmarkedEntries index store.disk rest
          else unmarkedEntries index store.disk rest := by
        rw [hcreated]
        simp [unmarkedEntries, filter_cons, hzero]
      rw [hunmarked]
      refine works_ite (fun hyes => ?_) fun hno => ?_
      all_goals
        refine (ih hnodup.2 hindex' hrest' _).mono fun result u hu => ?_
        obtain ⟨hmarking', hmarkers', hresult⟩ := hu
        refine ⟨hmarking.trans hmarking',
          fun d => (hmarkers' d).trans (hmarkers d), ?_⟩
        rw [hresult, hfilter]
      · rw [if_pos hyes]
        simp [ReleaseReport.marked, Nat.add_assoc, Nat.add_comm 1]
      · rw [if_neg hno]
    · refine (ih hnodup.2 hindex hrest report).mono fun result u hu => ?_
      obtain ⟨hmarking', hmarkers', hresult⟩ := hu
      refine ⟨hmarking', fun d => ?_, ?_⟩
      · rw [hmarkers' d, map_cons, mem_cons]
        by_cases hd : d = digest
        · subst hd
          simp [hcount]
        · simp [hd]
      · rw [hresult]
        simp [unmarkedEntries, hcount]

/-- What a release leaves behind once it has read the session's markers. -/
theorem works_dropReferences {released : List (Sha256Digest × ObjectMetadata)}
    (hsession : store.disk.references.lookup sessionId = some markers)
    (hread : store.disk.readSession
      (store.disk.checkReference sessionId) sessionId markers =
        .ok released) (htemporaries : store.disk.temporaries = [])
    (hindex : store.index = some index) :
    Works digestOf stored
      (fun result t => t.disk = { store.disk with
          references := t.disk.references
          unreferenced := t.disk.unreferenced } ∧
        (∀ s, t.disk.references.lookup s =
          if s = sessionId then none
          else store.disk.references.lookup s) ∧
        t.index = some (index.sessionRemoved sessionId
          (released.map Prod.fst)) ∧
        (∀ d, (t.disk.unreferenced.lookup d).isSome = true ↔
          (store.disk.unreferenced.lookup d).isSome = true ∨
            d ∈ released.map Prod.fst ∧
              ((index.sessionRemoved sessionId
                (released.map Prod.fst)).byDigest.lookup d).getD 0 = 0) ∧
        result = ReleaseReport.marked ⟨sessionId, released.length, 0, 0⟩
          (unmarkedEntries (index.sessionRemoved sessionId
            (released.map Prod.fst)) store.disk released))
      (dropReferences sessionId releasedAtMs released) store := by
  refine works_bind ((works_removeSession hsession htemporaries _).mono
    fun _ t ht => ?_)
  obtain ⟨hdisk, hindex', hlookup⟩ := ht
  refine works_act (fun _ h => nomatch h) fun u hu => ?_
  have hu' : u.disk = t.disk ∧ u.index = some (index.sessionRemoved
      sessionId (released.map Prod.fst)) := by
    cases hu with
    | quiet hquiet => cases hquiet
    | sessionRemoved =>
      refine ⟨rfl, ?_⟩
      rw [hindex', hindex]
      rfl
  refine works_sync fun v hv => ?_
  have hv' : v.disk = t.disk := hv.1.trans hu'.1
  have hlive : ∀ entry ∈ released, ∃ object,
      v.disk.objects.lookup entry.1 = some object ∧
        object.metadata = entry.2 := by
    intro entry hentry
    obtain ⟨marker, -, hcheck⟩ := readSession_check hread entry hentry
    rw [hv', hdisk]
    exact checkReference_eq_ok hcheck
  have hnodup : (released.map Prod.fst).Nodup := by
    rw [readSession_eq_ok hread]
    exact sortedKeys_nodup _ markers
  refine (works_markReleased releasedAtMs hnodup (hv.2.1.trans hu'.2) hlive
    _).mono fun result w hw => ?_
  obtain ⟨hmarking, hmarkers, hresult⟩ := hw
  have hmarkers_eq : v.disk.unreferenced = store.disk.unreferenced := by
    rw [hv', hdisk]
  refine ⟨?_, fun s => ?_, ?_, fun d => ?_, ?_⟩
  · rw [hmarking.1, hv', hdisk]
  · rw [hmarking.references, hv']
    exact hlookup s
  · exact hmarking.2.trans (hv.2.1.trans hu'.2)
  · rw [hmarkers d, hmarkers_eq]
  · rw [hresult]
    unfold unmarkedEntries
    rw [hmarkers_eq]

end DeviceRail.EvidenceFs
