import Mathlib.Data.List.Nodup

/-!
# Lists that grow at the end

Index facts about a list with one more element at its end, and about the
position of an element that carries a key no other element carries.
-/

namespace Indexed

open List

variable {α β : Type*} {xs : List α} {x y : α} {i : ℕ} {f : α → Option β}

/-- An entry of an extended list is an old entry or the new last one. -/
theorem getElem?_snoc_eq_some :
    (xs ++ [x])[i]? = some y ↔ xs[i]? = some y ∨ i = xs.length ∧ y = x := by
  rw [getElem?_append]
  split
  next hlt =>
    constructor
    · exact Or.inl
    · rintro (h | ⟨rfl, -⟩)
      · exact h
      · exact absurd hlt (Nat.lt_irrefl _)
  next hge =>
    have hnone : xs[i]? = none := getElem?_eq_none (by omega)
    rw [hnone, getElem?_singleton]
    constructor
    · intro h
      split at h
      next hzero =>
        cases h
        exact Or.inr ⟨by omega, rfl⟩
      next => cases h
    · rintro (h | ⟨rfl, rfl⟩)
      · cases h
      · simp

/-- Two entries with the same key are at the same index when keys do not
repeat. -/
theorem eq_of_filterMap_nodup {j : ℕ} {key : β}
    (hnodup : (xs.filterMap f).Nodup) (hi : xs[i]? = some x)
    (hx : f x = some key) (hj : xs[j]? = some y) (hy : f y = some key) :
    i = j := by
  induction xs generalizing i j with
  | nil => simp at hi
  | cons z zs ih =>
    have hmem : ∀ {k : ℕ} {w : α}, zs[k]? = some w → f w = some key →
        key ∈ zs.filterMap f := by
      intro k w hk hw
      exact mem_filterMap.mpr ⟨w, mem_of_getElem? hk, hw⟩
    cases i with
    | zero =>
      cases j with
      | zero => rfl
      | succ j =>
        simp only [getElem?_cons_zero, Option.some.injEq] at hi
        subst hi
        rw [filterMap_cons_some hx] at hnodup
        exact absurd (hmem hj hy) (nodup_cons.mp hnodup).1
    | succ i =>
      cases j with
      | zero =>
        simp only [getElem?_cons_zero, Option.some.injEq] at hj
        subst hj
        rw [filterMap_cons_some hy] at hnodup
        exact absurd (hmem hi hx) (nodup_cons.mp hnodup).1
      | succ j =>
        have htail : (zs.filterMap f).Nodup := by
          cases hz : f z with
          | none => rwa [filterMap_cons_none hz] at hnodup
          | some _ =>
            rw [filterMap_cons_some hz] at hnodup
            exact (nodup_cons.mp hnodup).2
        rw [ih htail hi hj]

/-- Adding an element with a fresh key, or none, keeps keys distinct. -/
theorem filterMap_nodup_snoc (hnodup : (xs.filterMap f).Nodup)
    (hfresh : ∀ key, f x = some key → key ∉ xs.filterMap f) :
    ((xs ++ [x]).filterMap f).Nodup := by
  rw [filterMap_append]
  cases hx : f x with
  | none => simpa [filterMap_cons, hx] using hnodup
  | some key =>
    have hkey := hfresh key hx
    simp only [filterMap_cons, hx, filterMap_nil]
    rw [nodup_append]
    refine ⟨hnodup, nodup_singleton _, ?_⟩
    intro a ha b hb
    rw [mem_singleton] at hb
    subst hb
    rintro rfl
    exact hkey ha

end Indexed
