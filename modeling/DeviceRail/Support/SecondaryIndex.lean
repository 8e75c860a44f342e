import DeviceRail.Support.KeyedMap
import Mathlib.Data.Finset.Basic

/-!
# Secondary indexes

A partial function `f` from places to values is stored together with indexes
derived from it: the place of a value by its key, the keys of the values of a
group, and the set of some image of the values.  Each index is specified
against `f`, and each way to change `f` at one place (take the value away, put
one where there was none, replace one by another with the same key and group)
comes with the change of the index that keeps the specification.
-/

namespace SecondaryIndex

variable {κ ν ι γ ε : Type*}

/-- `index` finds the place of a value from its key. -/
def Locates (f : κ → Option ν) (key : ν → ι) [DecidableEq ι]
    (index : KeyedMap ι κ) : Prop :=
  ∀ i k, index.lookup i = some k ↔ ∃ v, f k = some v ∧ key v = i

/-- The set an index lists under a group, empty when it lists none. -/
def bucket [DecidableEq γ] (index : KeyedMap γ (Finset ι)) (g : γ) : Finset ι :=
  (index.lookup g).getD ∅

/-- `index` lists the keys of the values of each group, and no group without
values. -/
structure Groups (f : κ → Option ν) (group : ν → γ) (key : ν → ι)
    [DecidableEq γ] (index : KeyedMap γ (Finset ι)) : Prop where
  mem : ∀ g i, i ∈ bucket index g ↔
    ∃ k v, f k = some v ∧ group v = g ∧ key v = i
  nonempty : ∀ g, index.lookup g ≠ some ∅

/-- `image` has the images of the values and nothing else. -/
def Collects (f : κ → Option ν) (entry : ν → ε) (image : Finset ε) : Prop :=
  ∀ e, e ∈ image ↔ ∃ k v, f k = some v ∧ entry v = e

section

variable [DecidableEq ι] {f : κ → Option ν} {key : ν → ι}
  {index : KeyedMap ι κ}

section

variable (h : Locates f key index) {k : κ} {v v' : ν}

include h

theorem Locates.place_unique {k' : κ} (hv : f k = some v) (hv' : f k' = some v')
    (hkey : key v = key v') : k = k' := by
  have hk := (h (key v) k).mpr ⟨v, hv, rfl⟩
  have hk' := (h (key v) k').mpr ⟨v', hv', hkey.symm⟩
  rw [hk] at hk'
  exact Option.some.inj hk'

theorem Locates.not_key {i : ι} (hi : i ∉ index) (hv : f k = some v) :
    key v ≠ i := by
  rintro rfl
  have hlookup := (h (key v) k).mpr ⟨v, hv, rfl⟩
  cases (AList.lookup_eq_none.mpr hi).symm.trans hlookup

variable [DecidableEq κ] {k : κ} {v : ν}

theorem Locates.take (hv : f k = some v) :
    Locates (Function.update f k none) key (index.erase (key v)) := by
  intro i k'
  rw [KeyedMap.lookup_erase_ite]
  by_cases hplace : k' = k
  · subst hplace
    have hnone : ¬(if i = key v then none else index.lookup i) = some k' := by
      split
      · simp
      next hi =>
        intro hlookup
        obtain ⟨w, hw, hkey⟩ := (h i k').mp hlookup
        cases hv.symm.trans hw
        exact hi hkey.symm
    simp [hnone]
  · rw [Function.update_of_ne hplace]
    by_cases hi : i = key v
    · subst hi
      have hno : ¬∃ w, f k' = some w ∧ key w = key v := by
        rintro ⟨w, hw, hkey⟩
        exact hplace (h.place_unique hw hv hkey)
      simp [hno]
    · rw [if_neg hi]
      exact h i k'

theorem Locates.put (hfree : f k = none) (hfresh : key v ∉ index) :
    Locates (Function.update f k (some v)) key (index.insert (key v) k) := by
  intro i k'
  rw [KeyedMap.lookup_insert_ite]
  by_cases hplace : k' = k
  · subst hplace
    rw [Function.update_self]
    by_cases hi : i = key v
    · simp [hi]
    · rw [if_neg hi]
      constructor
      · intro hlookup
        obtain ⟨w, hw, -⟩ := (h i k').mp hlookup
        cases hfree.symm.trans hw
      · rintro ⟨w, hw, hkey⟩
        cases hw
        exact absurd hkey.symm hi
  · rw [Function.update_of_ne hplace]
    by_cases hi : i = key v
    · subst hi
      have hno : ¬∃ w, f k' = some w ∧ key w = key v := by
        rintro ⟨w, hw, hkey⟩
        exact h.not_key hfresh hw hkey
      have hne : ¬k = k' := fun heq => hplace heq.symm
      simp [hno, hne]
    · rw [if_neg hi]
      exact h i k'

theorem Locates.replace (hv : f k = some v) (hkey : key v' = key v) :
    Locates (Function.update f k (some v')) key index := by
  intro i k'
  rw [h i k']
  by_cases hplace : k' = k
  · subst hplace
    rw [Function.update_self, hv]
    simp [hkey]
  · rw [Function.update_of_ne hplace]

end

end

section

variable {f : κ → Option ν} {k : κ} {v : ν} {p : ν → Prop}

/-- No other value has a property that only the value at `k` has. -/
theorem not_exists_ne (hp : ∀ k' w, f k' = some w → p w → k' = k) :
    ¬∃ k' w, k' ≠ k ∧ f k' = some w ∧ p w := by
  rintro ⟨k', w, hplace, hw, hpw⟩
  exact hplace (hp k' w hw hpw)

/-- A value that lacks the property does not matter. -/
theorem exists_ne_of_not (hv : ∀ w, f k = some w → ¬p w) :
    (∃ k' w, k' ≠ k ∧ f k' = some w ∧ p w) ↔ ∃ k' w, f k' = some w ∧ p w := by
  constructor
  · rintro ⟨k', w, -, hw, hp⟩
    exact ⟨k', w, hw, hp⟩
  · rintro ⟨k', w, hw, hp⟩
    refine ⟨k', w, ?_, hw, hp⟩
    rintro rfl
    exact hv w hw hp

variable [DecidableEq κ]

/-- The values left when one is taken away. -/
theorem exists_update_none :
    (∃ k' w, Function.update f k none k' = some w ∧ p w) ↔
      ∃ k' w, k' ≠ k ∧ f k' = some w ∧ p w := by
  constructor
  · rintro ⟨k', w, hw, hp⟩
    by_cases hplace : k' = k
    · subst hplace
      simp at hw
    · rw [Function.update_of_ne hplace] at hw
      exact ⟨k', w, hplace, hw, hp⟩
  · rintro ⟨k', w, hplace, hw, hp⟩
    exact ⟨k', w, by rwa [Function.update_of_ne hplace], hp⟩

/-- The values when one is put in place. -/
theorem exists_update_some :
    (∃ k' w, Function.update f k (some v) k' = some w ∧ p w) ↔
      p v ∨ ∃ k' w, k' ≠ k ∧ f k' = some w ∧ p w := by
  constructor
  · rintro ⟨k', w, hw, hp⟩
    by_cases hplace : k' = k
    · subst hplace
      rw [Function.update_self] at hw
      cases hw
      exact .inl hp
    · rw [Function.update_of_ne hplace] at hw
      exact .inr ⟨k', w, hplace, hw, hp⟩
  · rintro (hp | ⟨k', w, hplace, hw, hp⟩)
    · exact ⟨k, v, by simp, hp⟩
    · exact ⟨k', w, by rwa [Function.update_of_ne hplace], hp⟩

section

variable [DecidableEq ε] {entry : ν → ε} {image : Finset ε}

theorem Collects.take (h : Collects f entry image) (hv : f k = some v)
    (hunique : ∀ k' w, f k' = some w → entry w = entry v → k' = k) :
    Collects (Function.update f k none) entry (image.erase (entry v)) := by
  intro e
  rw [Finset.mem_erase, h e, exists_update_none]
  by_cases he : e = entry v
  · subst he
    exact iff_of_false (by simp)
      (not_exists_ne (p := fun w => entry w = entry v) hunique)
  · rw [exists_ne_of_not]
    · simp [he]
    · intro w hw hentry
      cases hv.symm.trans hw
      exact he hentry.symm

theorem Collects.put (h : Collects f entry image) (hfree : f k = none) :
    Collects (Function.update f k (some v)) entry (insert (entry v) image) := by
  intro e
  rw [Finset.mem_insert, h e, exists_update_some, exists_ne_of_not]
  · rw [eq_comm]
  · intro w hw
    cases hfree.symm.trans hw

theorem Collects.replace (h : Collects f entry image) {v' : ν}
    (hv : f k = some v)
    (hunique : ∀ k' w, f k' = some w → entry w = entry v → k' = k) :
    Collects (Function.update f k (some v')) entry
      (insert (entry v') (image.erase (entry v))) := by
  have htake := h.take hv hunique
  have hput := htake.put (k := k) (v := v') (by simp)
  rwa [Function.update_idem] at hput

end

section

variable [DecidableEq γ] [DecidableEq ι] {group : ν → γ} {key : ν → ι}
  {index : KeyedMap γ (Finset ι)}

/-- Take a key out of a group, and the group out when nothing is left. -/
def dropKey (index : KeyedMap γ (Finset ι)) (g : γ) (i : ι) :
    KeyedMap γ (Finset ι) :=
  match index.lookup g with
  | none => index
  | some keys =>
    if keys.erase i = ∅ then index.erase g
    else index.insert g (keys.erase i)

theorem bucket_dropKey (g g' : γ) (i : ι) :
    bucket (dropKey index g i) g' =
      if g' = g then (bucket index g).erase i else bucket index g' := by
  unfold dropKey
  split
  next hnone =>
    by_cases hg : g' = g
    · subst hg
      simp [bucket, hnone]
    · rw [if_neg hg]
  next keys hkeys =>
    by_cases hg : g' = g
    · subst hg
      split
      next hempty => simp [bucket, hkeys, hempty]
      next => simp [bucket, hkeys]
    · rw [if_neg hg]
      split
      next => simp [bucket, hg]
      next => simp [bucket, hg]

theorem lookup_dropKey_ne_empty (hne : ∀ g, index.lookup g ≠ some ∅)
    (g g' : γ) (i : ι) : (dropKey index g i).lookup g' ≠ some ∅ := by
  unfold dropKey
  split
  next => exact hne g'
  next keys _ =>
    split
    next =>
      rw [KeyedMap.lookup_erase_ite]
      split
      next => simp
      next => exact hne g'
    next hleft =>
      rw [KeyedMap.lookup_insert_ite]
      split
      next =>
        intro heq
        exact hleft (Option.some.inj heq)
      next => exact hne g'

theorem Groups.take (h : Groups f group key index) (hv : f k = some v)
    (hunique : ∀ k' w, f k' = some w → key w = key v → k' = k) :
    Groups (Function.update f k none) group key
      (dropKey index (group v) (key v)) := by
  refine ⟨fun g i => ?_, fun g => lookup_dropKey_ne_empty h.nonempty _ g _⟩
  rw [bucket_dropKey, exists_update_none]
  by_cases hi : i = key v
  · subst hi
    have hnone : ¬∃ k' w, k' ≠ k ∧ f k' = some w ∧
        (group w = g ∧ key w = key v) :=
      not_exists_ne (p := fun w => group w = g ∧ key w = key v)
        fun k' w hw hp => hunique k' w hw hp.2
    split
    next => exact iff_of_false (by simp) hnone
    next hg =>
      rw [h.mem]
      constructor
      · rintro ⟨k', w, hw, hgroup, hkey⟩
        have hplace := hunique k' w hw hkey
        subst hplace
        cases hv.symm.trans hw
        exact absurd hgroup.symm hg
      · exact fun hex => absurd hex hnone
  · rw [exists_ne_of_not]
    · split
      next hg =>
        subst hg
        rw [Finset.mem_erase, h.mem]
        simp [hi]
      next => rw [h.mem]
    · rintro w hw ⟨-, hkey⟩
      cases hv.symm.trans hw
      exact hi hkey.symm

theorem Groups.put (h : Groups f group key index) (hfree : f k = none) :
    Groups (Function.update f k (some v)) group key
      (index.insert (group v) (insert (key v) (bucket index (group v)))) := by
  refine ⟨fun g i => ?_, fun g => ?_⟩
  · have hothers : (∃ k' w, k' ≠ k ∧ f k' = some w ∧
        (group w = g ∧ key w = i)) ↔ i ∈ bucket index g := by
      rw [h.mem, exists_ne_of_not]
      intro w hw
      cases hfree.symm.trans hw
    rw [exists_update_some, hothers, bucket, KeyedMap.lookup_insert_ite]
    split
    next hg =>
      subst hg
      simp [eq_comm]
    next hg =>
      have hne : ¬group v = g := fun heq => hg heq.symm
      simp [hne, bucket]
  · rw [KeyedMap.lookup_insert_ite]
    split
    next => simp
    next => exact h.nonempty g

omit [DecidableEq ι] in
theorem Groups.replace (h : Groups f group key index) {v' : ν}
    (hv : f k = some v) (hgroup : group v' = group v) (hkey : key v' = key v) :
    Groups (Function.update f k (some v')) group key index := by
  refine ⟨fun g i => ?_, h.nonempty⟩
  rw [h.mem, exists_update_some]
  constructor
  · rintro ⟨k', w, hw, hp⟩
    by_cases hplace : k' = k
    · subst hplace
      cases hv.symm.trans hw
      exact .inl ⟨hgroup.trans hp.1, hkey.trans hp.2⟩
    · exact .inr ⟨k', w, hplace, hw, hp⟩
  · rintro (⟨hg, hi⟩ | ⟨k', w, -, hw, hp⟩)
    · exact ⟨k, v, hv, hgroup.symm.trans hg, hkey.symm.trans hi⟩
    · exact ⟨k', w, hw, hp⟩

end

end

section

variable {f : κ → Option ν} {key : ν → ι}

/-- The specification determines the index. -/
theorem Locates.lookup_eq [DecidableEq ι] {index index' : KeyedMap ι κ}
    (h : Locates f key index) (h' : Locates f key index') (i : ι) :
    index.lookup i = index'.lookup i := by
  ext k
  exact (h i k).trans (h' i k).symm

theorem Groups.lookup_eq [DecidableEq γ] {group : ν → γ}
    {index index' : KeyedMap γ (Finset ι)} (h : Groups f group key index)
    (h' : Groups f group key index') (g : γ) :
    index.lookup g = index'.lookup g := by
  have hbucket : bucket index g = bucket index' g := by
    ext i
    rw [h.mem, h'.mem]
  have hne := h.nonempty g
  have hne' := h'.nonempty g
  unfold bucket at hbucket
  cases hlookup : index.lookup g with
  | none =>
    cases hlookup' : index'.lookup g with
    | none => rfl
    | some keys =>
      rw [hlookup, hlookup'] at hbucket
      exact absurd (by rw [hlookup', ← show ∅ = keys from hbucket]) hne'
  | some keys =>
    cases hlookup' : index'.lookup g with
    | none =>
      rw [hlookup, hlookup'] at hbucket
      exact absurd (by rw [hlookup, show keys = ∅ from hbucket]) hne
    | some keys' =>
      rw [hlookup, hlookup'] at hbucket
      exact congrArg some hbucket

theorem Collects.eq {entry : ν → ε} {image image' : Finset ε}
    (h : Collects f entry image) (h' : Collects f entry image') :
    image = image' := by
  ext e
  rw [h e, h' e]

end

end SecondaryIndex
