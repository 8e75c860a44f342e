import DeviceRail.Bundle.Model
import DeviceRail.Support.KeyedMap
import Mathlib.Data.Finset.Card

/-!
# Typed evidence references

The collector of the bundle validator: it counts the typed references of a
session, keeps one reference of each digest, and refuses a digest that appears
with two media types or, as a UI snapshot, with two byte lengths.
-/

namespace DeviceRail

open List

structure ReferenceCollector where
  typedReferenceCount : ℕ
  byDigest : KeyedMap Sha256Digest AssetRef
  declaredByteLengths : KeyedMap Sha256Digest ℕ

namespace ReferenceCollector

def new : ReferenceCollector := ⟨0, ∅, ∅⟩

def assetLimit (limits : BundleLimits) : ModelError :=
  .limitExceeded "unique typed Evidence assets" limits.maxAssets

def add (limits : BundleLimits) (collector : ReferenceCollector)
    (reference : AssetRef) : Except ModelError ReferenceCollector :=
  let count := collector.typedReferenceCount + 1
  if limits.maxTypedReferences < count then
    .error (.limitExceeded "typed Evidence references"
      limits.maxTypedReferences)
  else
    match Sha256Digest.fromAssetRef reference with
    | .error _ => .error .invalidEvidenceReference
    | .ok digest =>
      match collector.byDigest.lookup digest with
      | some existing =>
        if existing.mediaType ≠ reference.mediaType then
          .error (.conflictingEvidenceMediaType digest.text)
        else .ok { collector with typedReferenceCount := count }
      | none =>
        if limits.maxAssets ≤ collector.byDigest.len then
          .error (assetLimit limits)
        else
          .ok { collector with
            typedReferenceCount := count
            byDigest := collector.byDigest.insert digest reference }

def addWithLength (limits : BundleLimits) (collector : ReferenceCollector)
    (reference : AssetRef) (byteLength : ℕ) :
    Except ModelError ReferenceCollector :=
  match collector.add limits reference with
  | .error e => .error e
  | .ok collector =>
    match Sha256Digest.fromAssetRef reference with
    | .error _ => .error .invalidEvidenceReference
    | .ok digest =>
      match collector.declaredByteLengths.lookup digest with
      | some existing =>
        if existing ≠ byteLength then
          .error (.conflictingEvidenceByteLength digest.text)
        else .ok collector
      | none =>
        .ok { collector with
          declaredByteLengths :=
            collector.declaredByteLengths.insert digest byteLength }

end ReferenceCollector

/-- A typed reference, with the byte length a UI snapshot declares. -/
structure TypedReference where
  asset : AssetRef
  byteLength : Option ℕ
deriving DecidableEq, Repr

variable {references : List TypedReference} {reference : TypedReference}
  {digest : Sha256Digest}

namespace TypedReference

/-- The digest of a canonical reference. -/
def digest? (reference : TypedReference) : Option Sha256Digest :=
  (Sha256Digest.fromAssetRef reference.asset).toOption

/-- The reference can be collected next to the given ones. -/
structure Agrees (reference : TypedReference)
    (references : List TypedReference) : Prop where
  canonical : reference.digest?.isSome = true
  mediaType : ∀ other ∈ references, other.digest? = reference.digest? →
    other.asset.mediaType = reference.asset.mediaType
  byteLength : ∀ other ∈ references, other.digest? = reference.digest? →
    ∀ length length', other.byteLength = some length →
      reference.byteLength = some length' → length = length'

/-- Canonical references that agree on the media type and on the declared
length of every digest. -/
structure Coherent (references : List TypedReference) : Prop where
  canonical : ∀ reference ∈ references, reference.digest?.isSome = true
  mediaType : ∀ reference ∈ references, ∀ other ∈ references,
    other.digest? = reference.digest? →
      other.asset.mediaType = reference.asset.mediaType
  byteLength : ∀ reference ∈ references, ∀ other ∈ references,
    other.digest? = reference.digest? →
    ∀ length length', other.byteLength = some length →
      reference.byteLength = some length' → length = length'

theorem coherent_snoc :
    Coherent (references ++ [reference]) ↔
      Coherent references ∧ reference.Agrees references := by
  constructor
  · rintro ⟨hcanonical, hmedia, hlength⟩
    simp only [forall_mem_append, forall_mem_singleton]
      at hcanonical hmedia hlength
    refine ⟨⟨hcanonical.1, ?_, ?_⟩, hcanonical.2, hmedia.2.1, hlength.2.1⟩
    · exact fun first hfirst => (hmedia.1 first hfirst).1
    · exact fun first hfirst => (hlength.1 first hfirst).1
  · rintro ⟨h, hagrees⟩
    constructor <;> simp only [forall_mem_append, forall_mem_singleton]
    · exact ⟨h.canonical, hagrees.canonical⟩
    · refine ⟨fun first hfirst => ⟨h.mediaType first hfirst, fun hdigest => ?_⟩,
        hagrees.mediaType, fun _ => trivial⟩
      exact (hagrees.mediaType first hfirst hdigest.symm).symm
    · refine ⟨fun first hfirst => ⟨h.byteLength first hfirst, ?_⟩,
        hagrees.byteLength, ?_⟩
      · intro hdigest length length' hlength hlength'
        exact (hagrees.byteLength first hfirst hdigest.symm length' length
          hlength' hlength).symm
      · intro _ length length' hlength hlength'
        exact Option.some.inj (hlength.symm.trans hlength')

/-- The digests of a list of references. -/
def digests (references : List TypedReference) : Finset Sha256Digest :=
  (references.filterMap digest?).toFinset

theorem mem_digests :
    digest ∈ digests references ↔
      ∃ reference ∈ references, reference.digest? = some digest := by
  simp [digests]

theorem digests_snoc (h : reference.digest? = some digest) :
    digests (references ++ [reference]) =
      insert digest (digests references) := by
  ext other
  simp [digests, filterMap_append, h, eq_comm]

theorem digests_subset_snoc (references : List TypedReference)
    (reference : TypedReference) :
    digests references ⊆ digests (references ++ [reference]) := by
  intro digest hmem
  obtain ⟨found, hfound, hdigest⟩ := mem_digests.mp hmem
  exact mem_digests.mpr ⟨found, mem_append_left _ hfound, hdigest⟩

theorem digest?_eq_some :
    reference.digest? = some digest ↔
      Sha256Digest.fromAssetRef reference.asset = .ok digest := by
  unfold digest?
  cases Sha256Digest.fromAssetRef reference.asset <;> simp [Except.toOption]

end TypedReference

namespace ReferenceCollector

open TypedReference

/-- Collect a reference, with its length when it declares one. -/
def addTyped (limits : BundleLimits) (collector : ReferenceCollector)
    (reference : TypedReference) : Except ModelError ReferenceCollector :=
  match reference.byteLength with
  | none => collector.add limits reference.asset
  | some byteLength => collector.addWithLength limits reference.asset byteLength

/-- Collect references in order. -/
def addAll (limits : BundleLimits) (collector : ReferenceCollector) :
    List TypedReference → Except ModelError ReferenceCollector
  | [] => .ok collector
  | reference :: references => do
      let collector ← collector.addTyped limits reference
      collector.addAll limits references

theorem addAll_append (limits : BundleLimits) (collector : ReferenceCollector)
    (first second : List TypedReference) :
    collector.addAll limits (first ++ second) = (do
      let collector ← collector.addAll limits first
      collector.addAll limits second) := by
  induction first generalizing collector with
  | nil => rfl
  | cons reference first ih =>
    simp only [cons_append, addAll]
    cases collector.addTyped limits reference with
    | error error => rfl
    | ok next => exact ih next

/-- The assets of the collector are those it was given. -/
structure HoldsAssets (collector : ReferenceCollector)
    (references : List TypedReference) : Prop where
  count : collector.typedReferenceCount = references.length
  assets : collector.byDigest.len = (digests references).card
  known : ∀ digest, digest ∈ digests references ↔
    ∃ asset, collector.byDigest.lookup digest = some asset
  mediaType : ∀ reference ∈ references, ∀ digest asset,
    reference.digest? = some digest →
    collector.byDigest.lookup digest = some asset →
      asset.mediaType = reference.asset.mediaType

/-- The collector holds what it was given. -/
structure Holds (collector : ReferenceCollector)
    (references : List TypedReference) : Prop
    extends HoldsAssets collector references where
  declared : ∀ digest length,
    collector.declaredByteLengths.lookup digest = some length ↔
      ∃ reference ∈ references, reference.digest? = some digest ∧
        reference.byteLength = some length

/-- Limits under which the references can be collected. -/
structure Room (limits : BundleLimits) (references : List TypedReference) :
    Prop where
  count : references.length ≤ limits.maxTypedReferences
  assets : (digests references).card ≤ limits.maxAssets

theorem Room.of_snoc {limits : BundleLimits}
    {references : List TypedReference} {reference : TypedReference}
    (h : Room limits (references ++ [reference])) : Room limits references := by
  refine ⟨?_, ?_⟩
  · have hcount := h.count
    rw [length_append] at hcount
    omega
  · exact (Finset.card_le_card (digests_subset_snoc references reference)).trans
      h.assets

theorem holds_new : new.Holds [] := by
  refine ⟨⟨?_, ?_, ?_, ?_⟩, ?_⟩ <;> simp [new, digests, KeyedMap.len]

section

variable {limits : BundleLimits} {collector next : ReferenceCollector}

/-- What collecting an asset does. -/
inductive Added (limits : BundleLimits) (collector : ReferenceCollector)
    (digest : Sha256Digest) (asset : AssetRef) : ReferenceCollector → Prop
  | known (existing : AssetRef)
      (hlookup : collector.byDigest.lookup digest = some existing)
      (hmedia : existing.mediaType = asset.mediaType) :
      Added limits collector digest asset
        { collector with
          typedReferenceCount := collector.typedReferenceCount + 1 }
  | inserted (hlookup : collector.byDigest.lookup digest = none)
      (hroom : collector.byDigest.len < limits.maxAssets) :
      Added limits collector digest asset
        { collector with
          typedReferenceCount := collector.typedReferenceCount + 1
          byDigest := collector.byDigest.insert digest asset }

variable {asset : AssetRef}

theorem add_eq_ok :
    collector.add limits asset = .ok next ↔
      collector.typedReferenceCount + 1 ≤ limits.maxTypedReferences ∧
        ∃ digest, Sha256Digest.fromAssetRef asset = .ok digest ∧
          Added limits collector digest asset next := by
  constructor
  · intro h
    obtain ⟨hcount, h⟩ := guard_eq_ok.mp h
    split at h
    next => cases h
    next digest hdigest =>
      refine ⟨not_lt.mp hcount, digest, hdigest, ?_⟩
      split at h
      next existing hlookup =>
        obtain ⟨hmedia, h⟩ := guard_eq_ok.mp h
        cases h
        exact .known existing hlookup (not_not.mp hmedia)
      next hlookup =>
        obtain ⟨hroom, h⟩ := guard_eq_ok.mp h
        cases h
        exact .inserted hlookup (not_le.mp hroom)
  · rintro ⟨hcount, digest, hdigest, hadded⟩
    cases hadded with
    | known existing hlookup hmedia =>
      simp [add, hcount.not_gt, hdigest, hlookup, hmedia]
    | inserted hlookup hroom =>
      simp [add, hcount.not_gt, hdigest, hlookup, hroom.not_ge]

theorem Added.declaredByteLengths
    (h : Added limits collector digest asset next) :
    next.declaredByteLengths = collector.declaredByteLengths := by
  cases h <;> rfl

theorem HoldsAssets.notMem (h : collector.HoldsAssets references)
    (hlookup : collector.byDigest.lookup digest = none) :
    digest ∉ digests references := by
  rw [h.known, hlookup]
  rintro ⟨_, ⟨⟩⟩

theorem HoldsAssets.snoc (h : collector.HoldsAssets references)
    (hdigest : reference.digest? = some digest)
    (hadded : Added limits collector digest reference.asset next) :
    next.HoldsAssets (references ++ [reference]) := by
  have hdigests : digests (references ++ [reference]) =
      insert digest (digests references) := digests_snoc hdigest
  have hcount : collector.typedReferenceCount + 1 =
      (references ++ [reference]).length := by
    rw [length_append, length_singleton, h.count]
  cases hadded with
  | known existing hlookup hmedia =>
    rw [Finset.insert_eq_of_mem ((h.known digest).mpr ⟨existing, hlookup⟩)]
      at hdigests
    refine ⟨hcount, hdigests ▸ h.assets, hdigests ▸ h.known,
      forall_mem_append.mpr ⟨h.mediaType, ?_⟩⟩
    rw [forall_mem_singleton]
    intro other asset hother hasset
    cases hdigest.symm.trans hother
    cases hlookup.symm.trans hasset
    exact hmedia
  | inserted hlookup hroom =>
    have hnot := h.notMem hlookup
    refine ⟨hcount, ?_, ?_, forall_mem_append.mpr ⟨?_, ?_⟩⟩
    · rw [hdigests, Finset.card_insert_of_notMem hnot, ← h.assets]
      exact KeyedMap.len_insert_of_lookup_none hlookup
    · intro other
      rw [hdigests, Finset.mem_insert, KeyedMap.lookup_insert_ite]
      split
      next heq => simp [heq]
      next hne => simpa [hne] using h.known other
    · intro found hfound other asset hother hasset
      rw [KeyedMap.lookup_insert_ite, if_neg] at hasset
      · exact h.mediaType found hfound other asset hother hasset
      · rintro rfl
        exact hnot (mem_digests.mpr ⟨found, hfound, hother⟩)
    · rw [forall_mem_singleton]
      intro other asset hother hasset
      cases hdigest.symm.trans hother
      rw [KeyedMap.lookup_insert_ite, if_pos rfl] at hasset
      cases hasset
      rfl

/-- What declaring a length does. -/
inductive Declared (collector : ReferenceCollector) (digest : Sha256Digest) :
    Option ℕ → ReferenceCollector → Prop
  | nothing : Declared collector digest none collector
  | again (byteLength : ℕ)
      (hlookup : collector.declaredByteLengths.lookup digest =
        some byteLength) :
      Declared collector digest (some byteLength) collector
  | fresh (byteLength : ℕ)
      (hlookup : collector.declaredByteLengths.lookup digest = none) :
      Declared collector digest (some byteLength)
        { collector with
          declaredByteLengths :=
            collector.declaredByteLengths.insert digest byteLength }

theorem addWithLength_eq_ok {byteLength : ℕ} :
    collector.addWithLength limits asset byteLength = .ok next ↔
      collector.typedReferenceCount + 1 ≤ limits.maxTypedReferences ∧
        ∃ digest middle, Sha256Digest.fromAssetRef asset = .ok digest ∧
          Added limits collector digest asset middle ∧
          Declared middle digest (some byteLength) next := by
  constructor
  · intro h
    unfold addWithLength at h
    split at h
    next => cases h
    next middle hadd =>
      obtain ⟨hcount, digest, hdigest, hadded⟩ := add_eq_ok.mp hadd
      refine ⟨hcount, digest, middle, hdigest, hadded, ?_⟩
      simp only [hdigest] at h
      split at h
      next existing hlookup =>
        obtain ⟨hsame, h⟩ := guard_eq_ok.mp h
        cases h
        exact .again byteLength (not_not.mp hsame ▸ hlookup)
      next hlookup =>
        cases h
        exact .fresh byteLength hlookup
  · rintro ⟨hcount, digest, middle, hdigest, hadded, hdeclared⟩
    have hadd := add_eq_ok.mpr ⟨hcount, digest, hdigest, hadded⟩
    cases hdeclared with
    | again _ hlookup | fresh _ hlookup =>
      simp [addWithLength, hadd, hdigest, hlookup]

theorem addTyped_eq_ok :
    collector.addTyped limits reference = .ok next ↔
      collector.typedReferenceCount + 1 ≤ limits.maxTypedReferences ∧
        ∃ digest middle, reference.digest? = some digest ∧
          Added limits collector digest reference.asset middle ∧
          Declared middle digest reference.byteLength next := by
  simp only [digest?_eq_some]
  unfold addTyped
  cases reference.byteLength with
  | some byteLength => exact addWithLength_eq_ok
  | none =>
    refine add_eq_ok.trans (and_congr_right fun _ => exists_congr fun digest => ?_)
    constructor
    · rintro ⟨hdigest, hadded⟩
      exact ⟨next, hdigest, hadded, .nothing⟩
    · rintro ⟨middle, hdigest, hadded, hdeclared⟩
      cases hdeclared
      exact ⟨hdigest, hadded⟩

theorem Declared.holdsAssets {length : Option ℕ}
    (h : Declared collector digest length next)
    (hassets : collector.HoldsAssets references) :
    next.HoldsAssets references := by
  cases h with
  | fresh =>
    exact ⟨hassets.count, hassets.assets, hassets.known, hassets.mediaType⟩
  | _ => exact hassets

theorem Holds.snoc (h : collector.Holds references)
    (hadd : collector.addTyped limits reference = .ok next) :
    next.Holds (references ++ [reference]) := by
  obtain ⟨-, digest, middle, hdigest, hadded, hdeclared⟩ :=
    addTyped_eq_ok.mp hadd
  refine ⟨hdeclared.holdsAssets (h.toHoldsAssets.snoc hdigest hadded), ?_⟩
  intro other length
  have hold := h.declared other length
  rw [← hadded.declaredByteLengths] at hold
  have hsplit : (∃ found ∈ references ++ [reference],
      found.digest? = some other ∧ found.byteLength = some length) ↔
      (∃ found ∈ references, found.digest? = some other ∧
        found.byteLength = some length) ∨
      (digest = other ∧ reference.byteLength = some length) := by
    simp only [mem_append, mem_singleton, or_and_right, exists_or,
      exists_eq_left, hdigest, Option.some.injEq]
  rw [hsplit, ← hold]
  generalize reference.byteLength = declared at hdeclared
  cases hdeclared with
  | nothing => simp
  | again byteLength hlookup =>
    constructor
    · exact Or.inl
    · rintro (hfound | ⟨rfl, hlength⟩)
      · exact hfound
      · rwa [← hlength]
  | fresh byteLength hlookup =>
    rw [KeyedMap.lookup_insert_ite]
    split
    next heq =>
      subst heq
      simp [hlookup]
    next hne => simp [Ne.symm hne]

/-- A reference is collected exactly when it agrees with the ones before. -/
theorem Holds.addTyped_ok_iff (h : collector.Holds references)
    (hroom : Room limits (references ++ [reference])) :
    (∃ next, collector.addTyped limits reference = .ok next) ↔
      reference.Agrees references := by
  have hcount : collector.typedReferenceCount + 1 ≤
      limits.maxTypedReferences := by
    have hle := hroom.count
    rw [length_append, length_singleton] at hle
    rwa [h.count]
  simp only [addTyped_eq_ok, hcount, true_and]
  constructor
  · rintro ⟨next, digest, middle, hdigest, hadded, hdeclared⟩
    refine ⟨by rw [hdigest]; rfl, ?_, ?_⟩
    · intro other hother hsame
      rw [hdigest] at hsame
      cases hadded with
      | known existing hlookup hmedia =>
        rw [← h.mediaType other hother digest existing hsame hlookup, hmedia]
      | inserted hlookup _ =>
        exact absurd (mem_digests.mpr ⟨other, hother, hsame⟩) (h.notMem hlookup)
    · intro other hother hsame length length' hlength hlength'
      rw [hdigest] at hsame
      rw [hlength'] at hdeclared
      have hlookup : middle.declaredByteLengths.lookup digest =
          some length := by
        rw [hadded.declaredByteLengths]
        exact (h.declared digest length).mpr ⟨other, hother, hsame, hlength⟩
      cases hdeclared with
      | again _ hfound => rwa [hlookup, Option.some.injEq] at hfound
      | fresh _ hfound => cases hlookup.symm.trans hfound
  · intro hagrees
    obtain ⟨digest, hdigest⟩ := Option.isSome_iff_exists.mp hagrees.canonical
    obtain ⟨middle, hadded⟩ : ∃ middle,
        Added limits collector digest reference.asset middle := by
      cases hlookup : collector.byDigest.lookup digest with
      | some existing =>
        refine ⟨_, .known existing hlookup ?_⟩
        obtain ⟨other, hother, hsame⟩ :=
          mem_digests.mp ((h.known digest).mpr ⟨existing, hlookup⟩)
        rw [h.mediaType other hother digest existing hsame hlookup]
        exact hagrees.mediaType other hother (hsame.trans hdigest.symm)
      | none =>
        refine ⟨_, .inserted hlookup ?_⟩
        have hassets := hroom.assets
        rw [digests_snoc hdigest, Finset.card_insert_of_notMem
          (h.notMem hlookup), ← h.assets] at hassets
        exact hassets
    obtain ⟨next, hdeclared⟩ : ∃ next,
        Declared middle digest reference.byteLength next := by
      cases hlength : reference.byteLength with
      | none => exact ⟨middle, .nothing⟩
      | some byteLength =>
        cases hlookup : middle.declaredByteLengths.lookup digest with
        | none => exact ⟨_, .fresh byteLength hlookup⟩
        | some existing =>
          have hold := hlookup
          rw [hadded.declaredByteLengths] at hold
          obtain ⟨other, hother, hsame, hdeclared⟩ :=
            (h.declared digest existing).mp hold
          have heq := hagrees.byteLength other hother
            (hsame.trans hdigest.symm) existing byteLength hdeclared hlength
          subst heq
          exact ⟨middle, .again existing hlookup⟩
    exact ⟨next, digest, middle, hdigest, hadded, hdeclared⟩

theorem addTyped_len_le (hadd : collector.addTyped limits reference = .ok next)
    (h : collector.byDigest.len ≤ limits.maxAssets) :
    next.byDigest.len ≤ limits.maxAssets := by
  obtain ⟨-, digest, middle, -, hadded, hdeclared⟩ := addTyped_eq_ok.mp hadd
  have hmiddle : middle.byDigest.len ≤ limits.maxAssets := by
    cases hadded with
    | known => exact h
    | inserted hlookup hroom =>
      have hlen := KeyedMap.len_insert_of_lookup_none (v := reference.asset)
        hlookup
      exact hlen.le.trans hroom
  generalize reference.byteLength = declared at hdeclared
  cases hdeclared <;> exact hmiddle

theorem addAll_len_le (hadd : collector.addAll limits references = .ok next)
    (h : collector.byDigest.len ≤ limits.maxAssets) :
    next.byDigest.len ≤ limits.maxAssets := by
  induction references generalizing collector with
  | nil =>
    cases hadd
    exact h
  | cons reference references ih =>
    obtain ⟨middle, hmiddle, hrest⟩ := bind_eq_ok.mp hadd
    exact ih hrest (addTyped_len_le hmiddle h)

theorem addAll_snoc :
    collector.addAll limits (references ++ [reference]) = (do
      let middle ← collector.addAll limits references
      middle.addTyped limits reference) := by
  rw [addAll_append]
  congr 1
  funext middle
  simp only [addAll]
  cases middle.addTyped limits reference <;> rfl

/-- The references of a session can be collected exactly when they are
coherent. -/
theorem addAll_new (hroom : Room limits references) :
    (∃ collector, new.addAll limits references = .ok collector) ↔
      Coherent references := by
  suffices hboth : ((∃ collector, new.addAll limits references =
      .ok collector) ↔ Coherent references) ∧
      ∀ collector, new.addAll limits references = .ok collector →
        collector.Holds references from hboth.1
  induction references using List.reverseRecOn with
  | nil =>
    refine ⟨⟨fun _ => by constructor <;> simp, fun _ => ⟨new, rfl⟩⟩, ?_⟩
    intro collector heq
    cases heq
    exact holds_new
  | append_singleton references reference ih =>
    obtain ⟨hiff, hholds⟩ := ih hroom.of_snoc
    refine ⟨?_, ?_⟩
    · rw [coherent_snoc, addAll_snoc]
      constructor
      · rintro ⟨next, hnext⟩
        obtain ⟨middle, hmiddle, hadd⟩ := bind_eq_ok.mp hnext
        exact ⟨hiff.mp ⟨middle, hmiddle⟩,
          ((hholds middle hmiddle).addTyped_ok_iff hroom).mp ⟨next, hadd⟩⟩
      · rintro ⟨hcoherent, hagrees⟩
        obtain ⟨middle, hmiddle⟩ := hiff.mpr hcoherent
        obtain ⟨next, hadd⟩ :=
          ((hholds middle hmiddle).addTyped_ok_iff hroom).mpr hagrees
        exact ⟨next, bind_eq_ok.mpr ⟨middle, hmiddle, hadd⟩⟩
    · intro next hnext
      rw [addAll_snoc] at hnext
      obtain ⟨middle, hmiddle, hadd⟩ := bind_eq_ok.mp hnext
      exact (hholds middle hmiddle).snoc hadd

end

end ReferenceCollector

end DeviceRail
