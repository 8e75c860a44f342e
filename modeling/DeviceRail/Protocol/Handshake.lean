import DeviceRail.Bundle.Model
import Mathlib.Data.List.ProdSigma
import Mathlib.Data.Prod.Lex
import Mathlib.Order.Bounds.Basic
import Mathlib.Order.MinMax

/-!
# Negotiation of the protocol version

An offer denotes a set of versions.  `negotiate_protocol` keeps the newest
common version of each pair of ranges; the result is the greatest version of
the intersection.
-/

namespace DeviceRail

/-- The derived order: by major version, then by minor version. -/
instance ProtocolVersion.linearOrder : LinearOrder ProtocolVersion :=
  .lift' (fun version => toLex (version.major, version.minor)) fun a b h => by
    cases a
    cases b
    cases h
    rfl

/-- A contiguous range of minor versions within one major version. -/
structure ProtocolRange where
  major : ℕ
  minMinor : ℕ
  maxMinor : ℕ

structure ProtocolOffer where
  ranges : List ProtocolRange

inductive ProtocolIncompatibilityReason where
  | clientTooOld
  | serverTooOld
  | noCommonVersion

inductive ProtocolNegotiationError where
  | emptyClientOffer
  | emptyServerOffer
  | invalidClientRange
  | invalidServerRange
  | incompatible (reason : ProtocolIncompatibilityReason)

namespace ProtocolRange

variable (range : ProtocolRange)

def isValid : Bool := range.minMinor ≤ range.maxMinor

def minimum : ProtocolVersion := ⟨range.major, range.minMinor⟩

def maximum : ProtocolVersion := ⟨range.major, range.maxMinor⟩

/-- The newest version of two ranges, if they overlap. -/
def candidate? (client server : ProtocolRange) : Option ProtocolVersion :=
  if client.major ≠ server.major then none
  else if max client.minMinor server.minMinor ≤
      min client.maxMinor server.maxMinor then
    some ⟨client.major, min client.maxMinor server.maxMinor⟩
  else none

end ProtocolRange

namespace ProtocolOffer

variable (offer : ProtocolOffer)

def minimum : Option ProtocolVersion :=
  (offer.ranges.map ProtocolRange.minimum).min?

def maximum : Option ProtocolVersion :=
  (offer.ranges.map ProtocolRange.maximum).max?

/-- The versions that the offer denotes. -/
def versions : Set ProtocolVersion :=
  { version | ∃ range ∈ offer.ranges, range.major = version.major ∧
    range.minMinor ≤ version.minor ∧ version.minor ≤ range.maxMinor }

def Valid : Prop :=
  offer.ranges ≠ [] ∧ ∀ range ∈ offer.ranges, range.minMinor ≤ range.maxMinor

end ProtocolOffer

def validateOffer (offer : ProtocolOffer) (isClient : Bool) :
    Except ProtocolNegotiationError Unit :=
  if offer.ranges.isEmpty then
    .error (if isClient then .emptyClientOffer else .emptyServerOffer)
  else if offer.ranges.any (fun range => !range.isValid) then
    .error (if isClient then .invalidClientRange else .invalidServerRange)
  else .ok ()

def incompatibilityReason (client server : ProtocolOffer) :
    ProtocolIncompatibilityReason :=
  if client.maximum.any fun clientMax => server.minimum.any (clientMax < ·) then
    .clientTooOld
  else if server.maximum.any fun serverMax => client.minimum.any (serverMax < ·)
  then .serverTooOld
  else .noCommonVersion

/-- The two nested loops, with the version selected so far. -/
def selectVersion (client server : ProtocolOffer) : Option ProtocolVersion :=
  (client.ranges.product server.ranges).foldl (fun selected ranges =>
    match ranges.1.candidate? ranges.2 with
    | none => selected
    | some candidate => some (selected.elim candidate (max · candidate))) none

def negotiateProtocol (client server : ProtocolOffer) :
    Except ProtocolNegotiationError ProtocolVersion := do
  validateOffer client true
  validateOffer server false
  match selectVersion client server with
  | some version => return version
  | none => throw (.incompatible (incompatibilityReason client server))

section

variable {client server offer : ProtocolOffer} {version : ProtocolVersion}

theorem le_of_minor {a b : ProtocolVersion} (hmajor : a.major = b.major)
    (hminor : a.minor ≤ b.minor) : a ≤ b :=
  Prod.Lex.le_iff.mpr (.inr ⟨hmajor, hminor⟩)

/-- The version candidates, in the order of the loops. -/
def candidates (client server : ProtocolOffer) : List ProtocolVersion :=
  (client.ranges.product server.ranges).filterMap fun ranges =>
    ranges.1.candidate? ranges.2

theorem selectVersion_eq :
    selectVersion client server = (candidates client server).max? := by
  suffices hfold : ∀ (pairs : List (ProtocolRange × ProtocolRange)) selected,
      pairs.foldl _ selected = (selected.toList ++ pairs.filterMap fun ranges =>
        ranges.1.candidate? ranges.2).max? from hfold _ none
  intro pairs
  induction pairs with
  | nil => rintro (_ | _) <;> rfl
  | cons ranges pairs ih =>
    intro selected
    rw [List.foldl_cons, ih, List.filterMap_cons]
    cases ranges.1.candidate? ranges.2 <;> cases selected <;> rfl

theorem mem_candidates : version ∈ candidates client server ↔
    ∃ clientRange ∈ client.ranges, ∃ serverRange ∈ server.ranges,
      clientRange.candidate? serverRange = some version := by
  simp [candidates, and_assoc]

theorem mem_versions_of_candidate (h : version ∈ candidates client server) :
    version ∈ client.versions ∩ server.versions := by
  obtain ⟨clientRange, hclient, serverRange, hserver, h⟩ := mem_candidates.mp h
  simp only [ProtocolRange.candidate?, ite_not] at h
  split at h <;> try cases h
  split at h <;> cases h
  exact ⟨⟨clientRange, hclient, by simp; omega⟩,
    ⟨serverRange, hserver, by simp; omega⟩⟩

theorem exists_candidate_ge (h : version ∈ client.versions ∩ server.versions) :
    ∃ candidate ∈ candidates client server, version ≤ candidate := by
  obtain ⟨⟨clientRange, hclient, _⟩, ⟨serverRange, hserver, _⟩⟩ := h
  have hcandidate : clientRange.candidate? serverRange =
      some ⟨clientRange.major, min clientRange.maxMinor serverRange.maxMinor⟩ := by
    rw [ProtocolRange.candidate?, if_neg (by omega), if_pos (by omega)]
  refine ⟨_, mem_candidates.mpr ⟨_, hclient, _, hserver, hcandidate⟩, ?_⟩
  exact le_of_minor (by simp; omega) (by simp; omega)

theorem selectVersion_eq_some_iff : selectVersion client server = some version ↔
    IsGreatest (client.versions ∩ server.versions) version := by
  rw [selectVersion_eq, List.max?_eq_some_iff]
  constructor
  · rintro ⟨hmem, hmax⟩
    refine ⟨mem_versions_of_candidate hmem, fun other hother => ?_⟩
    obtain ⟨candidate, hcandidate, hle⟩ := exists_candidate_ge hother
    exact hle.trans (hmax candidate hcandidate)
  · rintro ⟨hmem, hmax⟩
    have hbound : ∀ other ∈ candidates client server, other ≤ version :=
      fun other h => hmax (mem_versions_of_candidate h)
    obtain ⟨candidate, hcandidate, hle⟩ := exists_candidate_ge hmem
    cases hle.antisymm (hbound candidate hcandidate)
    exact ⟨hcandidate, hbound⟩

theorem selectVersion_isSome_iff : (∃ version,
    selectVersion client server = some version) ↔
      (client.versions ∩ server.versions).Nonempty := by
  constructor
  · rintro ⟨version, h⟩
    exact ⟨version, (selectVersion_eq_some_iff.mp h).1⟩
  · rintro ⟨version, hmem⟩
    obtain ⟨candidate, hcandidate, -⟩ := exists_candidate_ge hmem
    rw [selectVersion_eq, ← Option.isSome_iff_exists]
    exact List.isSome_max?_of_mem hcandidate

theorem selectVersion_eq_of_versions {client' server' : ProtocolOffer}
    (h : client'.versions ∩ server'.versions = client.versions ∩ server.versions) :
    selectVersion client' server' = selectVersion client server :=
  Option.ext fun version => by simp only [selectVersion_eq_some_iff, h]

theorem validateOffer_ok_iff {isClient : Bool} :
    validateOffer offer isClient = .ok () ↔ offer.Valid := by
  simp only [validateOffer, ProtocolOffer.Valid, ProtocolRange.isValid]
  split_ifs <;> simp_all

theorem negotiateProtocol_ok_iff : negotiateProtocol client server = .ok version ↔
    client.Valid ∧ server.Valid ∧ selectVersion client server = some version := by
  rw [← @validateOffer_ok_iff client true, ← @validateOffer_ok_iff server false]
  simp only [negotiateProtocol]
  cases validateOffer client true <;> cases validateOffer server false <;>
    cases selectVersion client server <;>
    simp [bind, Except.bind, pure, Except.pure, throw, throwThe,
      MonadExceptOf.throw]

/-- Nothing that is read of an offer depends on the order of its ranges. -/
theorem reads_perm {offer' : ProtocolOffer}
    (h : offer'.ranges.Perm offer.ranges) :
    offer'.versions = offer.versions ∧
      validateOffer offer' = validateOffer offer ∧
      offer'.minimum = offer.minimum ∧ offer'.maximum = offer.maximum := by
  refine ⟨?_, funext fun _ => ?_, Option.ext fun _ => ?_, Option.ext fun _ => ?_⟩
  · simp only [ProtocolOffer.versions, h.mem_iff]
  · simp only [validateOffer, h.isEmpty_eq, h.any_eq]
  · simp only [ProtocolOffer.minimum, List.min?_eq_some_iff, (h.map _).mem_iff]
  · simp only [ProtocolOffer.maximum, List.max?_eq_some_iff, (h.map _).mem_iff]

theorem lt_of_bounds {a b : ProtocolOffer}
    (h : (a.maximum.any fun high => b.minimum.any (high < ·)) = true) :
    ∀ old ∈ a.versions, ∀ new ∈ b.versions, old < new := by
  simp only [Option.any_eq_true, decide_eq_true_eq, ProtocolOffer.maximum,
    ProtocolOffer.minimum, List.max?_eq_some_iff, List.min?_eq_some_iff] at h
  obtain ⟨high, ⟨-, hhigh⟩, low, ⟨-, hlow⟩, hlt⟩ := h
  rintro old ⟨range, hrange, hmajor, -, hmax⟩ new
    ⟨range', hrange', hmajor', hmin, -⟩
  calc old ≤ range.maximum := le_of_minor hmajor.symm hmax
    _ ≤ high := hhigh _ (List.mem_map_of_mem hrange)
    _ < low := hlt
    _ ≤ range'.minimum := hlow _ (List.mem_map_of_mem hrange')
    _ ≤ new := le_of_minor hmajor' hmin

/-- Negotiation succeeds iff both offers are valid and denote a common version,
and gives the greatest one, whatever the order of the ranges and of the offers;
between valid offers without one a peer is too old only if all its versions are
older. -/
theorem negotiateProtocol_exact (client server : ProtocolOffer) :
    (∀ version, negotiateProtocol client server = .ok version ↔
      client.Valid ∧ server.Valid ∧
        IsGreatest (client.versions ∩ server.versions) version) ∧
    ((∃ version, negotiateProtocol client server = .ok version) ↔
      client.Valid ∧ server.Valid ∧
        (client.versions ∩ server.versions).Nonempty) ∧
    (∀ client' server' : ProtocolOffer, client'.ranges.Perm client.ranges →
      server'.ranges.Perm server.ranges →
      negotiateProtocol client' server' = negotiateProtocol client server) ∧
    (∀ version, negotiateProtocol server client = .ok version ↔
      negotiateProtocol client server = .ok version) ∧
    (client.Valid → server.Valid → client.versions ∩ server.versions = ∅ →
      ∃ reason, negotiateProtocol client server = .error (.incompatible reason) ∧
        (reason = .clientTooOld → ∀ old ∈ client.versions,
          ∀ new ∈ server.versions, old < new) ∧
        (reason = .serverTooOld → ∀ old ∈ server.versions,
          ∀ new ∈ client.versions, old < new)) := by
  refine ⟨?greatest, ?succeeds, ?order, ?swap, ?disjoint⟩
  case greatest =>
    intro version
    rw [negotiateProtocol_ok_iff, selectVersion_eq_some_iff]
  case succeeds =>
    simp only [negotiateProtocol_ok_iff, ← selectVersion_isSome_iff,
      exists_and_left]
  case order =>
    intro client' server' hclient hserver
    obtain ⟨hversions, hvalid, hmin, hmax⟩ := reads_perm hclient
    obtain ⟨hversions', hvalid', hmin', hmax'⟩ := reads_perm hserver
    have hselect : selectVersion client' server' = selectVersion client server :=
      selectVersion_eq_of_versions (by rw [hversions, hversions'])
    simp only [negotiateProtocol, incompatibilityReason, hselect, hvalid,
      hvalid', hmin, hmin', hmax, hmax']
  case swap =>
    intro version
    rw [negotiateProtocol_ok_iff, negotiateProtocol_ok_iff, and_left_comm,
      selectVersion_eq_of_versions (Set.inter_comm _ _)]
  case disjoint =>
    intro hclient hserver hempty
    have hnone : selectVersion client server = none := by
      rw [Option.eq_none_iff_forall_ne_some]
      intro version hsome
      exact Set.not_nonempty_iff_eq_empty.mpr hempty
        (selectVersion_isSome_iff.mp ⟨version, hsome⟩)
    refine ⟨incompatibilityReason client server, ?_, ?_⟩
    · rw [negotiateProtocol, validateOffer_ok_iff.mpr hclient,
        validateOffer_ok_iff.mpr hserver, hnone]
      rfl
    · unfold incompatibilityReason
      split_ifs with hlow hhigh
      · exact ⟨fun _ => lt_of_bounds hlow, nofun⟩
      · exact ⟨nofun, fun _ => lt_of_bounds hhigh⟩
      · exact ⟨nofun, nofun⟩

/-- Empty offers denote no common version, and are refused before that. -/
theorem negotiateProtocol_empty :
    (ProtocolOffer.mk []).versions ∩ (ProtocolOffer.mk []).versions = ∅ ∧
      ∀ reason, negotiateProtocol ⟨[]⟩ ⟨[]⟩ ≠ .error (.incompatible reason) :=
  ⟨by simp [ProtocolOffer.versions], nofun⟩

end

end DeviceRail
