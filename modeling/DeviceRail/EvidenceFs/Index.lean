import DeviceRail.EvidenceFs.Effects
import Mathlib.Algebra.GroupWithZero.Nat

/-!
# The reference index and the scan of the disk

The index counts, for every digest, the sessions that hold a marker for it
and, for every session, its markers.  `Matches` says that it counts a tree; the
scan that rebuilds it always does, and adding or removing references keeps it
so when the tree changes the same way.
-/

namespace DeviceRail.EvidenceFs

open Fallible List

/-! ## Counts -/

/-- A count as it is stored: zero is not. -/
def nonzero (n : ℕ) : Option ℕ := if n = 0 then none else some n

theorem nonzero_getD (n : ℕ) : (nonzero n).getD 0 = n := by
  unfold nonzero
  split
  next h => exact h.symm
  next => rfl

theorem nonzero_isSome {n : ℕ} : (nonzero n).isSome = true ↔ n ≠ 0 := by
  unfold nonzero
  split
  next h => simp [h]
  next h => simp [h]

section

variable {κ : Type} [DecidableEq κ] {counts : KeyedMap κ ℕ} {f : κ → ℕ}

/-- The map stores the counts `f`. -/
def Counts (counts : KeyedMap κ ℕ) (f : κ → ℕ) : Prop :=
  ∀ key, counts.lookup key = nonzero (f key)

theorem Counts.congr {g : κ → ℕ} (h : Counts counts f)
    (heq : ∀ key, g key = f key) : Counts counts g := by
  intro key
  rw [heq key]
  exact h key

theorem Counts.bump (h : Counts counts f) (key : κ) :
    Counts (ReferenceIndex.bump counts key)
      fun other => f other + if other = key then 1 else 0 := by
  intro other
  unfold ReferenceIndex.bump
  rw [KeyedMap.lookup_insert_ite, h key, nonzero_getD]
  split
  next heq =>
    subst heq
    simp [nonzero]
  next hne => simpa [hne] using h other

theorem Counts.bumps (h : Counts counts f) (keys : List κ) :
    Counts (keys.foldl ReferenceIndex.bump counts)
      fun key => f key + keys.count key := by
  induction keys generalizing counts f with
  | nil => exact h
  | cons key rest ih =>
    refine (ih (h.bump key)).congr fun other => ?_
    by_cases heq : other = key
    · subst heq
      simp
      omega
    · simp [heq, Ne.symm heq]

end

/-! ## The index of a tree -/

/-- The index counts the references of a tree. -/
structure ReferenceIndex.Matches (index : ReferenceIndex) (disk : Disk) :
    Prop where
  byDigest : Counts index.byDigest fun digest => (disk.holders digest).card
  bySession : Counts index.bySession
    fun sessionId => (disk.owned sessionId).card

variable {κ ν : Type}

theorem mem_pairs [DecidableEq κ] {name : κ → String} {m : KeyedMap κ ν}
    {key : κ} {value : ν} :
    (key, value) ∈ pairs name m ↔ m.lookup key = some value := by
  unfold pairs
  rw [mem_insertionSort, mem_map, ← Option.mem_def, AList.mem_lookup_iff]
  constructor
  · rintro ⟨⟨key', value'⟩, hmem, heq⟩
    cases heq
    exact hmem
  · exact fun hmem => ⟨⟨key, value⟩, hmem, rfl⟩

theorem sortedKeys_perm (name : κ → String) (m : KeyedMap κ ν) :
    (sortedKeys name m).Perm m.keys := by
  refine ((perm_insertionSort _ _).map Prod.fst).trans (.of_eq ?_)
  simp [AList.keys, List.keys]

theorem sortedKeys_nodup (name : κ → String) (m : KeyedMap κ ν) :
    (sortedKeys name m).Nodup :=
  (sortedKeys_perm name m).nodup_iff.mpr m.keys_nodup

theorem mem_sortedKeys [DecidableEq κ] {name : κ → String} {m : KeyedMap κ ν}
    {key : κ} : key ∈ sortedKeys name m ↔ ∃ value, m.lookup key = some value :=
  (sortedKeys_perm name m).mem_iff.trans (m.mem_keys_iff_lookup key)

/-- A pass over the keys meets each key once, with its entry. -/
theorem lookup_of_sortedKeys_eq [DecidableEq κ] {name : κ → String}
    {m : KeyedMap κ ν} {key : κ} {past rest : List κ}
    (h : sortedKeys name m = past ++ key :: rest) :
    key ∉ past ∧ ∃ value, m.lookup key = some value := by
  have hnodup := sortedKeys_nodup name m
  rw [h] at hnodup
  refine ⟨fun hpast => (nodup_append.mp hnodup).2.2 key hpast key
    mem_cons_self rfl, ?_⟩
  rw [← mem_sortedKeys, h]
  exact mem_append_right _ mem_cons_self

/-- The sessions of a tree with the digests of their markers. -/
def Disk.sessions (disk : Disk) : List (SessionId × List Sha256Digest) :=
  (pairs sessionName disk.references).map fun entry =>
    (entry.1, sortedKeys Sha256Digest.text entry.2)

variable {disk : Disk} {sessionId : SessionId} {α : Type}
  {markers : KeyedMap Sha256Digest ReferenceMarker} {digest : Sha256Digest}
  {digestOf : Content → Sha256Digest} {metadata : ObjectMetadata}
  {index : ReferenceIndex} {digests : List Sha256Digest}
  {check : Sha256Digest → ReferenceMarker → Except EvidenceError α}
  {found : List (Sha256Digest × α)} {object : ObjectDirectory}

theorem Disk.mem_sessions :
    (sessionId, digests) ∈ disk.sessions ↔
      ∃ markers, disk.references.lookup sessionId = some markers ∧
        digests = sortedKeys Sha256Digest.text markers := by
  unfold sessions
  rw [mem_map]
  constructor
  · rintro ⟨⟨s, markers⟩, hmem, heq⟩
    cases heq
    exact ⟨markers, mem_pairs.mp hmem, rfl⟩
  · rintro ⟨markers, hlookup, rfl⟩
    exact ⟨(sessionId, markers), mem_pairs.mpr hlookup, rfl⟩

theorem Disk.sessions_keys (disk : Disk) :
    disk.sessions.map Prod.fst = sortedKeys sessionName disk.references := by
  simp [sessions, sortedKeys, Function.comp_def]

theorem listMarkers_eq_ok {kind : String} {here : Target → Bool}
    {entries listed : List α}
    (h : listMarkers kind disk here entries = .ok listed) :
    listed = entries := by
  unfold listMarkers at h
  split at h
  next => cases h
  next =>
    cases h
    rfl

theorem Disk.readSession_eq_ok
    (h : disk.readSession check sessionId markers = .ok found) :
    found.map Prod.fst = sortedKeys Sha256Digest.text markers := by
  obtain ⟨listed, hlisted, hmarkers⟩ := bind_eq_ok.mp h
  rw [sortedKeys, ← listMarkers_eq_ok hlisted]
  refine map_of_mapM_eq_ok hmarkers fun entry result hentry => ?_
  obtain ⟨value, -, heq⟩ := bind_eq_ok.mp hentry
  cases heq
  rfl

theorem Disk.scan_eq_ok {check : SessionId → Sha256Digest → ReferenceMarker →
      Except EvidenceError α}
    {found : List (SessionId × List (Sha256Digest × α))}
    (h : disk.scan check = .ok found) :
    found.map (fun entry => (entry.1, entry.2.map Prod.fst)) =
      disk.sessions := by
  refine map_of_mapM_eq_ok h fun entry result hentry => ?_
  obtain ⟨session, hsession, heq⟩ := bind_eq_ok.mp hentry
  cases heq
  rw [readSession_eq_ok hsession]

theorem Disk.mem_rawReferencedDigests
    (h : disk.rawReferencedDigests = .ok digests) :
    digest ∈ digests ↔
      ∃ sessionId, (disk.reference sessionId digest).isSome = true := by
  obtain ⟨found, hfound, heq⟩ := bind_eq_ok.mp h
  cases heq
  have hsessions := scan_eq_ok hfound
  rw [mem_insertionSort, mem_dedup, mem_flatMap]
  have hmem : ∀ sessionId, (disk.reference sessionId digest).isSome = true ↔
      ∃ keys, (sessionId, keys) ∈ disk.sessions ∧ digest ∈ keys := by
    intro sessionId
    simp only [mem_sessions]
    unfold reference
    cases hsession : disk.references.lookup sessionId with
    | none => simp
    | some markers => simp [mem_sortedKeys, Option.isSome_iff_exists]
  simp only [hmem, ← hsessions, mem_map]
  constructor
  · rintro ⟨entry, hentry, hdigest⟩
    exact ⟨entry.1, entry.2.map Prod.fst, ⟨entry, hentry, rfl⟩,
      mem_map.mpr hdigest⟩
  · rintro ⟨sessionId, keys, ⟨entry, hentry, heq⟩, hdigest⟩
    cases heq
    exact ⟨entry, hentry, mem_map.mp hdigest⟩

/-! ## What a read returns -/

theorem Disk.readSession_check
    (h : disk.readSession check sessionId markers = .ok found) :
    ∀ entry ∈ found, ∃ marker,
      markers.lookup entry.1 = some marker ∧
        check entry.1 marker = .ok entry.2 := by
  obtain ⟨listed, hlisted, hmarkers⟩ := bind_eq_ok.mp h
  rw [listMarkers_eq_ok hlisted, mapM_eq_ok] at hmarkers
  intro entry hentry
  obtain ⟨source, hsource, hpair⟩ := exists_of_forall₂ hmarkers hentry
  obtain ⟨value, hvalue, heq⟩ := bind_eq_ok.mp hpair
  cases heq
  exact ⟨source.2, mem_pairs.mp hsource, hvalue⟩

theorem Disk.verifyContent_eq_ok {text : String}
    (h : verifyContent digestOf object digest text = .ok metadata) :
    object.metadata = metadata := by
  unfold verifyContent at h
  repeat' split at h
  all_goals cases h
  rfl

theorem Disk.verifyObject_eq_ok
    (h : disk.verifyObject digestOf digest = .ok metadata) :
    ∃ object, disk.objects.lookup digest = some object ∧
      object.metadata = metadata := by
  unfold verifyObject at h
  split at h
  next => cases h
  next object hobject => exact ⟨object, hobject, verifyContent_eq_ok h⟩

theorem Disk.readObjectMetadata_eq_ok
    (h : disk.readObjectMetadata digest = .ok metadata) :
    ∃ object, disk.objects.lookup digest = some object ∧
      object.metadata = metadata := by
  unfold readObjectMetadata at h
  repeat' split at h
  all_goals cases h
  next object hobject _ _ => exact ⟨object, hobject, rfl⟩

theorem Disk.checkReference_eq_ok {marker : ReferenceMarker}
    (h : disk.checkReference sessionId digest marker = .ok metadata) :
    ∃ object, disk.objects.lookup digest = some object ∧
      object.metadata = metadata := by
  unfold checkReference at h
  repeat' split at h
  all_goals cases h
  next hmetadata _ => exact readObjectMetadata_eq_ok hmetadata

theorem stage_eq_ok {config : FileEvidenceStoreConfig} {call : PutCall}
    {now : ℕ} (h : stage digestOf config call now = .ok (digest, object)) :
    ∃ content, readInput config call.input [] = .ok content ∧
      content.length ≠ 0 ∧ digest = digestOf content ∧
      object = ⟨content, ⟨storeVersion, hashAlgorithm,
        (digestOf content).text, call.request.mediaType, content.length,
        now⟩⟩ := by
  obtain ⟨-, -, h⟩ := bind_eq_ok.mp h
  obtain ⟨content, hcontent, h⟩ := bind_eq_ok.mp h
  obtain ⟨hlength, h⟩ := guard_eq_ok.mp h
  obtain ⟨-, -, h⟩ := bind_eq_ok.mp h
  obtain ⟨-, -, h⟩ := bind_eq_ok.mp h
  cases h
  exact ⟨content, hcontent, hlength, rfl, rfl⟩

/-! ## The scan counts the tree -/

theorem indexSessions_byDigest (sessions : List (SessionId × List Sha256Digest))
    {f : Sha256Digest → ℕ} (h : Counts index.byDigest f) :
    Counts (sessions.foldl (fun index entry =>
        Disk.indexSession index entry.1 entry.2) index).byDigest
      fun digest => f digest +
        (sessions.map fun entry => entry.2.count digest).sum := by
  induction sessions generalizing index f with
  | nil => exact h
  | cons entry rest ih =>
    have hentry : Counts
        (Disk.indexSession index entry.1 entry.2).byDigest
        fun digest => f digest + entry.2.count digest :=
      h.bumps entry.2
    refine (ih hentry).congr fun digest => ?_
    rw [map_cons, sum_cons, Nat.add_assoc]

theorem indexSessions_bySession
    (sessions : List (SessionId × List Sha256Digest))
    (hnodup : (sessions.map Prod.fst).Nodup) (index : ReferenceIndex) :
    (∀ s, s ∉ sessions.map Prod.fst → (sessions.foldl (fun index entry =>
        Disk.indexSession index entry.1 entry.2) index).bySession.lookup s =
        index.bySession.lookup s) ∧
    ∀ entry ∈ sessions, index.bySession.lookup entry.1 = none →
      (sessions.foldl (fun index entry =>
        Disk.indexSession index entry.1 entry.2) index).bySession.lookup
          entry.1 = nonzero entry.2.length := by
  induction sessions generalizing index with
  | nil => exact ⟨fun _ _ => rfl, fun _ h => by cases h⟩
  | cons entry rest ih =>
    rw [map_cons, nodup_cons] at hnodup
    obtain ⟨hother, hrest⟩ := ih hnodup.2
      (Disk.indexSession index entry.1 entry.2)
    have hlookup : ∀ s, s ≠ entry.1 →
        (Disk.indexSession index entry.1 entry.2).bySession.lookup s =
          index.bySession.lookup s := by
      intro s hs
      unfold Disk.indexSession
      split
      next => simp [hs]
      next => rfl
    constructor
    · intro s hs
      rw [map_cons, mem_cons, not_or] at hs
      rw [foldl_cons, hother s hs.2, hlookup s hs.1]
    · intro entry' hmem hnone
      rw [foldl_cons]
      rcases mem_cons.mp hmem with rfl | hmem
      · rw [hother entry'.1 hnodup.1]
        unfold Disk.indexSession nonzero
        split
        next hpos => simp [Nat.pos_iff_ne_zero.mp hpos]
        next hpos =>
          have hzero : entry'.2.length = 0 := by omega
          simpa [hzero] using hnone
      · refine hrest entry' hmem ?_
        rw [hlookup entry'.1 ?_]
        · exact hnone
        · intro heq
          exact hnodup.1 (heq ▸ mem_map_of_mem hmem)

/-- The number of sessions that hold a digest, counted over the
directories. -/
theorem Disk.card_holders (disk : Disk) (digest : Sha256Digest) :
    (disk.holders digest).card =
      (disk.sessions.map fun entry => entry.2.count digest).sum := by
  have hlist : disk.holders digest =
      (disk.references.keys.filter fun sessionId =>
        (disk.reference sessionId digest).isSome).toFinset := by
    simp [holders]
  rw [hlist, toFinset_card_of_nodup (disk.references.keys_nodup.filter _),
    ← countP_eq_length_filter,
    ← (sortedKeys_perm sessionName disk.references).countP_eq, ← sessions_keys,
    countP_map]
  have hcount : ∀ entry ∈ disk.sessions, entry.2.count digest =
      if (disk.reference entry.1 digest).isSome then 1 else 0 := by
    intro entry hentry
    obtain ⟨markers, hsession, hkeys⟩ := mem_sessions.mp hentry
    rw [hkeys, reference_of_lookup hsession,
      List.Nodup.count (sortedKeys_nodup _ markers)]
    exact if_congr (mem_sortedKeys.trans Option.isSome_iff_exists.symm) rfl rfl
  have hsum : ∀ sessions : List (SessionId × List Sha256Digest),
      (∀ entry ∈ sessions, entry.2.count digest =
        if (disk.reference entry.1 digest).isSome then 1 else 0) →
      sessions.countP ((fun sessionId =>
        (disk.reference sessionId digest).isSome) ∘ Prod.fst) =
        (sessions.map fun entry => entry.2.count digest).sum := by
    intro sessions hall
    induction sessions with
    | nil => rfl
    | cons entry rest ih =>
      rw [countP_cons, map_cons, sum_cons,
        ih fun e he => hall e (mem_cons_of_mem _ he),
        hall entry mem_cons_self, Nat.add_comm]
      rfl
  exact hsum _ hcount

theorem Disk.card_owned (disk : Disk)
    (h : disk.references.lookup sessionId = some markers) :
    (disk.owned sessionId).card = markers.len := by
  unfold owned
  rw [h]
  rw [toFinset_card_of_nodup markers.keys_nodup]
  simp [AList.keys, List.keys, KeyedMap.len]

theorem Disk.matches_of_scan
    (h : disk.scanReferenceIndex = .ok index) : index.Matches disk := by
  obtain ⟨found, hfound, heq⟩ := bind_eq_ok.mp h
  have hsessions := scan_eq_ok hfound
  have hindex : index = disk.sessions.foldl (fun index entry =>
      indexSession index entry.1 entry.2) ⟨∅, ∅⟩ := by
    rw [← hsessions, foldl_map]
    exact (Except.ok.inj heq).symm
  subst hindex
  constructor
  · refine (indexSessions_byDigest (f := fun _ => 0) disk.sessions
      fun _ => rfl).congr fun digest => ?_
    rw [card_holders, Nat.zero_add]
  · intro sessionId
    obtain ⟨hother, hmine⟩ := indexSessions_bySession disk.sessions
      (by rw [sessions_keys]; exact sortedKeys_nodup _ _) ⟨∅, ∅⟩
    cases hsession : disk.references.lookup sessionId with
    | none =>
      rw [hother sessionId ?_]
      · simp [owned, hsession, nonzero]
      · rw [sessions_keys, mem_sortedKeys, hsession]
        rintro ⟨_, h⟩
        cases h
    | some markers =>
      rw [hmine (sessionId, sortedKeys Sha256Digest.text markers)
        (mem_sessions.mpr ⟨markers, hsession, rfl⟩) rfl]
      change nonzero _ = nonzero (disk.owned sessionId).card
      rw [card_owned disk hsession, (sortedKeys_perm _ markers).length_eq]
      simp [AList.keys, List.keys, KeyedMap.len]

theorem ReferenceIndex.Matches.mem_keys (h : index.Matches disk) :
    digest ∈ index.byDigest.keys ↔
      ∃ sessionId, (disk.reference sessionId digest).isSome = true := by
  rw [KeyedMap.mem_keys_iff_lookup, ← Option.isSome_iff_exists,
    h.byDigest digest, nonzero_isSome, Finset.card_ne_zero]
  constructor
  · rintro ⟨sessionId, hmem⟩
    exact ⟨sessionId, Disk.mem_holders.mp hmem⟩
  · rintro ⟨sessionId, hmem⟩
    exact ⟨sessionId, Disk.mem_holders.mpr hmem⟩

end DeviceRail.EvidenceFs
