import DeviceRail.EventStore.Store
import Mathlib.Data.List.Find

/-!
# References a session can reach

The check of a verdict's evidence against the log of its session.  One pass over
the log removes the references it meets from the wanted ones, and stops once
none is left.
-/

namespace DeviceRail

open List

namespace TestEventPayload

def assetRefs : TestEventPayload → List AssetRef
  | .observationCaptured observation => observation.assetRefs
  | .actionCompleted _ (.succeeded result) => result.assetRefs
  | .mediaFrameCaptured frame => [frame.evidence]
  | .verdictRecorded verdict => verdict.evidence
  | _ => []

/-- The reference occurs in an observation, a successful result, a frame or a
verdict. -/
inductive RefersTo (asset : AssetRef) : TestEventPayload → Prop
  | observation {observation} (h : asset ∈ observation.assetRefs) :
      RefersTo asset (.observationCaptured observation)
  | result {callId result} (h : asset ∈ result.assetRefs) :
      RefersTo asset (.actionCompleted callId (.succeeded result))
  | frame {frame} (h : asset = frame.evidence) :
      RefersTo asset (.mediaFrameCaptured frame)
  | verdict {verdict} (h : asset ∈ verdict.evidence) :
      RefersTo asset (.verdictRecorded verdict)

theorem refersTo_iff {asset : AssetRef} {payload : TestEventPayload} :
    RefersTo asset payload ↔ asset ∈ payload.assetRefs := by
  constructor
  · intro h
    cases h <;> simpa [assetRefs]
  · intro h
    unfold assetRefs at h
    split at h
    next => exact .observation h
    next => exact .result h
    next => exact .frame (mem_singleton.mp h)
    next => exact .verdict h
    next => cases h

end TestEventPayload

/-- One event's part of the pass. -/
def removeReferences (missing : Finset AssetRef) (event : TestEvent) :
    Finset AssetRef :=
  event.payload.assetRefs.foldl Finset.erase missing

/-- The pass; `none` when it stops before the end of the log. -/
def scanMissing (missing : Finset AssetRef) :
    List TestEvent → Option (Finset AssetRef)
  | [] => some missing
  | event :: events =>
    if removeReferences missing event = ∅ then none
    else scanMissing (removeReferences missing event) events

def MemoryEventStore.firstUnreachableAssetReference (store : MemoryEventStore)
    (sessionId : SessionId) (assets : List AssetRef) :
    Except EventStoreError (Option AssetRef) :=
  match store.sessions.lookup sessionId with
  | none => .error (.sessionNotFound sessionId)
  | some log =>
    match scanMissing assets.toFinset log.events with
    | none => .ok none
    | some missing => .ok (assets.find? (· ∈ missing))

/-- Some event of the log refers to the asset. -/
def SessionLog.Reaches (log : SessionLog) (asset : AssetRef) : Prop :=
  ∃ event ∈ log.events, event.payload.RefersTo asset

variable {missing : Finset AssetRef} {asset : AssetRef} {event : TestEvent}
  {events : List TestEvent}

theorem mem_foldl_erase {removed : List AssetRef} :
    asset ∈ removed.foldl Finset.erase missing ↔
      asset ∈ missing ∧ asset ∉ removed := by
  induction removed generalizing missing with
  | nil => simp
  | cons reference removed ih =>
    rw [foldl_cons, ih, Finset.mem_erase, mem_cons]
    tauto

theorem mem_foldl_removeReferences :
    asset ∈ events.foldl removeReferences missing ↔
      asset ∈ missing ∧ ∀ event ∈ events, ¬event.payload.RefersTo asset := by
  induction events generalizing missing with
  | nil => simp
  | cons event events ih =>
    rw [foldl_cons, ih, removeReferences, mem_foldl_erase,
      forall_mem_cons, TestEventPayload.refersTo_iff, and_assoc]

/-- Stopping early loses nothing. -/
theorem scanMissing_getD :
    (scanMissing missing events).getD ∅ =
      events.foldl removeReferences missing := by
  induction events generalizing missing with
  | nil => rfl
  | cons event events ih =>
    rw [scanMissing, foldl_cons]
    split
    next hempty =>
      ext asset
      simp [hempty, mem_foldl_removeReferences]
    next => exact ih

/-- The pass finds the first reference of the input that the log does not reach,
whether it stops early or not, and a repeated reference changes nothing. -/
theorem first_unreachable_asset_reference_spec (store : MemoryEventStore)
    (sessionId : SessionId) (assets : List AssetRef) :
    let answer := store.firstUnreachableAssetReference sessionId
    match store.sessions.lookup sessionId with
    | none => answer assets = .error (.sessionNotFound sessionId)
    | some log =>
      (∀ asset, answer assets = .ok (some asset) ↔ ¬log.Reaches asset ∧
        ∃ before after, assets = before ++ asset :: after ∧
          ∀ other ∈ before, log.Reaches other) ∧
      (answer assets = .ok none ↔ ∀ asset ∈ assets, log.Reaches asset) ∧
      answer assets = .ok (assets.find?
        (· ∈ log.events.foldl removeReferences assets.toFinset)) ∧
      ∀ before after : List AssetRef, ∀ asset ∈ before,
        answer (before ++ asset :: after) = answer (before ++ after) := by
  intro answer
  cases hlog : store.sessions.lookup sessionId with
  | none =>
    simp only [answer, MemoryEventStore.firstUnreachableAssetReference, hlog]
  | some log =>
    have hpass : ∀ assets : List AssetRef, answer assets = .ok (assets.find?
        (· ∈ log.events.foldl removeReferences assets.toFinset)) := by
      intro assets
      simp only [answer, MemoryEventStore.firstUnreachableAssetReference, hlog,
        ← scanMissing_getD]
      cases scanMissing assets.toFinset log.events with
      | none => exact congrArg _ (find?_eq_none.mpr (by simp)).symm
      | some missing => rfl
    classical
    have hfind : ∀ assets : List AssetRef,
        answer assets = .ok (assets.find? (¬log.Reaches ·)) := by
      intro assets
      rw [hpass]
      refine congrArg _ (find?_congr fun asset hasset => ?_)
      simp [mem_foldl_removeReferences, SessionLog.Reaches, hasset]
    refine ⟨fun asset => ?_, ?_, hpass assets,
      fun before after asset hmem => ?_⟩
    · simp [hfind, find?_eq_some_iff_append]
    · simp [hfind]
    · rw [hfind, hfind, find?_append, find?_append]
      cases hbefore : before.find? (¬log.Reaches ·) with
      | none =>
        have hreached : log.Reaches asset := by
          simpa using find?_eq_none.mp hbefore asset hmem
        simp [hreached]
      | some first => rfl

end DeviceRail
