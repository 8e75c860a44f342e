import DeviceRail.Evidence.Reference
import Mathlib.Data.Finset.Insert

/-!
# The evidence writer of one operation

A driver writes evidence through a writer that is bound to one session and
keeps a receipt of every reference the store issued.  What the store answers is
part of a use of the writer, so that any store behaves as some list of uses.
-/

namespace DeviceRail

/-- The fields of an asset reference, as the writer's ledger keeps them. -/
structure EvidenceReceipt where
  id : String
  mediaType : String
  uri : String
  sha256 : Option String
deriving DecidableEq, Repr

/-- `EvidenceReceipt::from`. -/
def EvidenceReceipt.fromAssetRef (asset : AssetRef) : EvidenceReceipt :=
  ⟨asset.id, asset.mediaType, asset.uri, asset.sha256⟩

theorem EvidenceReceipt.fromAssetRef_injective :
    Function.Injective EvidenceReceipt.fromAssetRef := by
  rintro ⟨_, _, _, _⟩ ⟨_, _, _, _⟩ h
  cases h
  rfl

/-- The store behind a writer: an injected one, or `UnavailableEvidenceStore`. -/
inductive EvidenceBackend where
  | injected
  | unavailable
deriving DecidableEq, Repr

abbrev EvidenceAnswer := Except EvidenceError StoredEvidence

/-- One use of the writer, with the answer of an injected store.  A UI snapshot
is written through `put` once it has been encoded. -/
inductive EvidenceUse where
  | put (mediaType : String) (answer : EvidenceAnswer)
  | attach (asset : AssetRef) (answer : EvidenceAnswer)

structure SessionEvidenceWriter where
  sessionId : SessionId
  store : EvidenceBackend
  receipts : Finset EvidenceReceipt

namespace SessionEvidenceWriter

def new (sessionId : SessionId) (store : EvidenceBackend) :
    SessionEvidenceWriter :=
  ⟨sessionId, store, ∅⟩

variable (writer : SessionEvidenceWriter)

def record (stored : StoredEvidence) : SessionEvidenceWriter :=
  { writer with
    receipts :=
      insert (EvidenceReceipt.fromAssetRef stored.assetRef) writer.receipts }

/-- The answer of the writer's store. -/
def ask (answer : EvidenceAnswer) : EvidenceAnswer :=
  match writer.store with
  | .injected => answer
  | .unavailable => .error .unavailable

/-- Keep a receipt of what the store issued. -/
def settle (answer : EvidenceAnswer) : EvidenceAnswer × SessionEvidenceWriter :=
  match writer.ask answer with
  | .error e => (.error e, writer)
  | .ok stored => (.ok stored, writer.record stored)

def put (mediaType : String) (answer : EvidenceAnswer) :
    EvidenceAnswer × SessionEvidenceWriter :=
  match PutEvidence.new writer.sessionId mediaType with
  | .error e => (.error e, writer)
  | .ok _ => writer.settle answer

def attach (_asset : AssetRef) (answer : EvidenceAnswer) :
    EvidenceAnswer × SessionEvidenceWriter :=
  writer.settle answer

def perform :
    EvidenceUse → EvidenceAnswer × SessionEvidenceWriter
  | .put mediaType answer => writer.put mediaType answer
  | .attach asset answer => writer.attach asset answer

/-- The uses of one operation, with the answers the driver sees. -/
def performAll (writer : SessionEvidenceWriter) :
    List EvidenceUse → List EvidenceAnswer × SessionEvidenceWriter
  | [] => ([], writer)
  | use :: uses =>
    let (answer, writer) := writer.perform use
    let (answers, writer) := writer.performAll uses
    (answer :: answers, writer)

/-- `receipts_match`: the returned references are exactly the issued ones. -/
def receiptsMatch (returned : List AssetRef) : Bool :=
  decide (writer.receipts =
    (returned.map EvidenceReceipt.fromAssetRef).toFinset)

/-! ## Runs of a writer -/

/-- Every receipt names a canonical reference. -/
def Canonical : Prop :=
  ∀ receipt ∈ writer.receipts, ∃ stored : StoredEvidence,
    receipt = EvidenceReceipt.fromAssetRef stored.assetRef

theorem perform_cases (use : EvidenceUse) :
    (∃ error, writer.perform use = (.error error, writer)) ∨
    (writer.store = .injected ∧
      ∃ stored, writer.perform use = (.ok stored, writer.record stored)) := by
  have hsettle : ∀ answer,
      (∃ error, writer.settle answer = (.error error, writer)) ∨
      (writer.store = .injected ∧
        ∃ stored, writer.settle answer =
          (.ok stored, writer.record stored)) := by
    intro answer
    cases hstore : writer.store with
    | unavailable => simp [settle, ask, hstore]
    | injected =>
      cases answer with
      | error e => simp [settle, ask, hstore]
      | ok stored => simp [settle, ask, hstore]
  cases use with
  | put mediaType answer =>
    simp only [perform, put]
    split
    next e _ => exact Or.inl ⟨e, rfl⟩
    next => exact hsettle answer
  | attach asset answer => exact hsettle answer

variable {writer : SessionEvidenceWriter}

/-- A writer without a store stores and attaches nothing. -/
theorem performAll_unavailable
    (hstore : writer.store = .unavailable) (uses : List EvidenceUse) :
    (writer.performAll uses).2 = writer ∧
      ∀ answer ∈ (writer.performAll uses).1, ∃ error, answer = .error error := by
  induction uses with
  | nil =>
    refine ⟨rfl, ?_⟩
    intro answer hmem
    cases hmem
  | cons use uses ih =>
    obtain ⟨error, hperform⟩ : ∃ error,
        writer.perform use = (.error error, writer) := by
      rcases writer.perform_cases use with herror | ⟨hinjected, -⟩
      · exact herror
      · cases hstore.symm.trans hinjected
    simp only [performAll, hperform]
    refine ⟨ih.1, ?_⟩
    intro answer hmem
    rcases List.mem_cons.mp hmem with rfl | hlater
    · exact ⟨error, rfl⟩
    · exact ih.2 answer hlater

/-- Whatever a driver does with its writer, the receipts stay canonical. -/
theorem Canonical.performAll (h : writer.Canonical) (uses : List EvidenceUse) :
    (writer.performAll uses).2.Canonical := by
  induction uses generalizing writer with
  | nil => exact h
  | cons use uses ih =>
    simp only [SessionEvidenceWriter.performAll]
    apply ih
    rcases writer.perform_cases use with ⟨error, hperform⟩ |
      ⟨-, stored, hperform⟩
    · rwa [hperform]
    · rw [hperform]
      intro receipt hmem
      rcases Finset.mem_insert.mp hmem with rfl | hold
      · exact ⟨stored, rfl⟩
      · exact h receipt hold

/-- References that match the receipts of a canonical ledger are canonical. -/
theorem Canonical.fromAssetRef (h : writer.Canonical) {returned : List AssetRef}
    (hmatch : writer.receiptsMatch returned = true) {asset : AssetRef}
    (hmem : asset ∈ returned) :
    ∃ digest, Sha256Digest.fromAssetRef asset = .ok digest := by
  have hreceipts := of_decide_eq_true hmatch
  have hreceipt : EvidenceReceipt.fromAssetRef asset ∈ writer.receipts := by
    rw [hreceipts, List.mem_toFinset]
    exact List.mem_map_of_mem hmem
  obtain ⟨stored, hstored⟩ := h _ hreceipt
  have hasset := EvidenceReceipt.fromAssetRef_injective hstored
  exact ⟨stored.metadata.digest, hasset ▸ stored.fromAssetRef_assetRef⟩

end SessionEvidenceWriter

end DeviceRail
