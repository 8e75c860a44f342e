import Mathlib.Data.List.Infix
import Mathlib.Data.Set.Insert

/-!
# Append-only keyed logs with tombstones

The abstract behaviour of a store that keeps one event list per key: a key is
created once, its list only grows at the end, a sealed list no longer grows,
and a removed key leaves a tombstone that forbids its reuse.  The rules at the
end of the file say what this means for the two ends of a run.
-/

namespace AppendOnly

variable {κ ε : Type*}

/-- The retained lists and the keys that were ever created. -/
structure State (κ ε : Type*) where
  retained : κ → Option (List ε)
  used : Set κ

/-- No retained key without its tombstone. -/
def Tombstoned (s : State κ ε) : Prop :=
  ∀ k es, s.retained k = some es → k ∈ s.used

/-- What one step may do to the lists; `closed` says which lists are sealed. -/
structure Extends (closed : List ε → Prop) (s t : State κ ε) : Prop where
  used_mono : s.used ⊆ t.used
  grows : ∀ k es es', s.retained k = some es → t.retained k = some es' →
    es <+: es' ∧ (closed es → es' = es)
  no_revival : ∀ k, k ∈ s.used → s.retained k = none → t.retained k = none

theorem Extends.refl (closed : List ε → Prop) (s : State κ ε) :
    Extends closed s s where
  used_mono := subset_rfl
  grows := by
    intro k es es' hs ht
    cases hs.symm.trans ht
    exact ⟨List.prefix_refl _, fun _ => rfl⟩
  no_revival := by
    intro k _ hnone
    exact hnone

/-- Growth composes: a key retained at both ends was retained in between, since
a removed key is never created again. -/
theorem Extends.trans {closed : List ε → Prop} {s t u : State κ ε}
    (htomb : Tombstoned s)
    (hst : Extends closed s t) (htu : Extends closed t u) :
    Extends closed s u where
  used_mono := hst.used_mono.trans htu.used_mono
  grows := by
    intro k es es'' hs hu
    have hused : k ∈ t.used := hst.used_mono (htomb k es hs)
    cases ht : t.retained k with
    | none => cases (htu.no_revival k hused ht).symm.trans hu
    | some es' =>
      obtain ⟨hpre, hclosed⟩ := hst.grows k es es' hs ht
      obtain ⟨hpre', hclosed'⟩ := htu.grows k es' es'' ht hu
      refine ⟨hpre.trans hpre', ?_⟩
      intro hc
      have heq := hclosed hc
      subst heq
      exact hclosed' hc
  no_revival := by
    intro k hused hnone
    exact htu.no_revival k (hst.used_mono hused) (hst.no_revival k hused hnone)

end AppendOnly
