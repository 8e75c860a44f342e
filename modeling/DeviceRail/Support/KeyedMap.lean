import Mathlib.Data.List.AList

/-!
# Keyed maps

Finite maps with one value type, on top of Mathlib's association lists: the
operations a hash map or an ordered map of a program needs beyond insertion
and removal (filtering by a predicate, updating a value in place, asking for
emptiness and size), each with the lookup lemma that replaces its definition.
-/

/-- A finite map from keys `κ` to values `ν`. -/
abbrev KeyedMap (κ ν : Type*) := AList (fun _ : κ => ν)

namespace KeyedMap

open Option List

variable {κ ν : Type*}

section

/-- Number of entries. -/
def len (m : KeyedMap κ ν) : ℕ := m.entries.length

/-- The map has no entry. -/
def isEmpty (m : KeyedMap κ ν) : Bool := m.entries.isEmpty

/-- The values, in the order of the entries. -/
def values (m : KeyedMap κ ν) : List ν := m.entries.map (fun entry => entry.2)

variable [DecidableEq κ]

theorem isEmpty_iff (m : KeyedMap κ ν) :
    m.isEmpty = true ↔ ∀ k, m.lookup k = none := by
  constructor
  · intro h k
    have hentries : m.entries = [] := by simpa [isEmpty] using h
    rw [AList.lookup_eq_none, AList.mem_keys, AList.keys, hentries]
    simp
  · intro h
    rw [isEmpty, List.isEmpty_iff]
    by_contra hne
    obtain ⟨⟨k, v⟩, hmem⟩ := List.exists_mem_of_ne_nil _ hne
    have hlookup : v ∈ m.lookup k := AList.mem_lookup_iff.mpr hmem
    rw [h k] at hlookup
    simp at hlookup

theorem eq_empty_of_lookup {m : KeyedMap κ ν} (h : ∀ k, m.lookup k = none) :
    m = ∅ := by
  have hentries : m.entries = [] := by simpa [isEmpty] using m.isEmpty_iff.mpr h
  exact AList.ext hentries

end

/-- Apply a function to every value. -/
def mapValues (f : ν → ν) (m : KeyedMap κ ν) : KeyedMap κ ν where
  entries := m.entries.map (fun entry => ⟨entry.1, f entry.2⟩)
  nodupKeys := by
    have hkeys : (m.entries.map
        (fun entry => (⟨entry.1, f entry.2⟩ : Sigma fun _ : κ => ν))).keys =
          m.entries.keys := by
      simp [List.keys, Function.comp_def]
    rw [List.NodupKeys, hkeys]
    exact m.nodupKeys

variable [DecidableEq κ] {m : KeyedMap κ ν} {k : κ} {f : ν → ν} {v : ν}

theorem lookup_insert_ite (m : KeyedMap κ ν) (k k' : κ) (v : ν) :
    (m.insert k v).lookup k' = if k' = k then some v else m.lookup k' := by
  by_cases h : k' = k
  · subst h
    simp
  · simp [h, AList.lookup_insert_ne h]

theorem lookup_erase_ite (m : KeyedMap κ ν) (k k' : κ) :
    (m.erase k).lookup k' = if k' = k then none else m.lookup k' := by
  by_cases h : k' = k
  · subst h
    simp
  · simp [h, AList.lookup_erase_ne h]

section

variable {m : KeyedMap κ ν} {k k' : κ} {v v' : ν} {P : κ → ν → Prop}

/-- What holds of the new entry and of every other one holds after an
update. -/
theorem forall_update {m' : KeyedMap κ ν}
    (hlookup : ∀ k', m'.lookup k' = if k' = k then some v else m.lookup k')
    (hnew : P k v) (hold : ∀ k' v, k' ≠ k → m.lookup k' = some v → P k' v) :
    ∀ k' v', m'.lookup k' = some v' → P k' v' := by
  intro k' v' h
  rw [hlookup] at h
  split at h
  next heq =>
    cases h
    subst heq
    exact hnew
  next hne => exact hold k' v' hne h

theorem forall_insert (hnew : P k v)
    (hold : ∀ k v, m.lookup k = some v → P k v) :
    ∀ k' v', (m.insert k v).lookup k' = some v' → P k' v' :=
  forall_update (lookup_insert_ite m k · v) hnew fun k' v' _ => hold k' v'

/-- A symmetric relation between the old entries, and from the new entry to
the others, relates the entries after an insertion. -/
theorem pairwise_insert {R : ν → ν → Prop} (hsymm : ∀ v v', R v v' → R v' v)
    (hnew : ∀ k' v', m.lookup k' = some v' → k' ≠ k → R v v')
    (hold : ∀ k k' v v', m.lookup k = some v → m.lookup k' = some v' →
      k ≠ k' → R v v') :
    ∀ k₁ k₂ v₁ v₂, (m.insert k v).lookup k₁ = some v₁ →
      (m.insert k v).lookup k₂ = some v₂ → k₁ ≠ k₂ → R v₁ v₂ := by
  intro k₁ k₂ v₁ v₂ h₁ h₂ hne
  rw [lookup_insert_ite] at h₁ h₂
  split at h₁
  next heq₁ =>
    cases h₁
    split at h₂
    next heq₂ => exact absurd (heq₁.trans heq₂.symm) hne
    next hne₂ => exact hnew k₂ v₂ h₂ hne₂
  next hne₁ =>
    split at h₂
    next =>
      cases h₂
      exact hsymm _ _ (hnew k₁ v₁ h₁ hne₁)
    next => exact hold k₁ k₂ v₁ v₂ h₁ h₂ hne

/-- What holds of every entry holds after a removal. -/
theorem forall_erase (hold : ∀ k v, m.lookup k = some v → P k v) :
    ∀ k' v', (m.erase k).lookup k' = some v' → P k' v' := by
  intro k' v' h
  rw [lookup_erase_ite] at h
  split at h
  next => cases h
  next => exact hold k' v' h

/-- An insertion at a free key keeps every entry. -/
theorem lookup_insert_of_free (hfree : m.lookup k = none)
    (h : m.lookup k' = some v') : (m.insert k v).lookup k' = some v' := by
  rw [lookup_insert_ite, if_neg ?_, h]
  rintro rfl
  cases hfree.symm.trans h

theorem isSome_lookup_insert (h : (m.lookup k').isSome = true) :
    ((m.insert k v).lookup k').isSome = true := by
  rw [lookup_insert_ite]
  split
  next => rfl
  next => exact h

end

theorem lookup_mapValues (f : ν → ν) (m : KeyedMap κ ν) (k : κ) :
    (m.mapValues f).lookup k = (m.lookup k).map f := by
  ext w
  rw [← mem_def, AList.mem_lookup_iff, map_eq_some_iff]
  simp only [mapValues, List.mem_map, ← mem_def, AList.mem_lookup_iff]
  constructor
  · rintro ⟨⟨k', v⟩, hmem, heq⟩
    cases heq
    exact ⟨v, hmem, rfl⟩
  · rintro ⟨v, hmem, rfl⟩
    exact ⟨⟨k, v⟩, hmem, rfl⟩

/-- Keep the entries whose value satisfies `p`. -/
def retain (p : ν → Bool) (m : KeyedMap κ ν) : KeyedMap κ ν where
  entries := m.entries.filter (fun entry => p entry.2)
  nodupKeys := List.NodupKeys.sublist filter_sublist m.nodupKeys

theorem lookup_retain (p : ν → Bool) (m : KeyedMap κ ν) (k : κ) :
    (m.retain p).lookup k = (m.lookup k).filter p := by
  ext v
  rw [← mem_def, ← mem_def, AList.mem_lookup_iff, mem_def,
    filter_eq_some_iff, ← mem_def, AList.mem_lookup_iff]
  simp [retain]

/-- Replace the value at `k` in place, when there is one. -/
def adjust (k : κ) (f : ν → ν) (m : KeyedMap κ ν) : KeyedMap κ ν :=
  match m.lookup k with
  | none => m
  | some v => m.replace k (f v)

private theorem dlookup_kreplace (k k' : κ) (v : ν)
    (l : List (Sigma fun _ : κ => ν)) :
    (l.kreplace k v).dlookup k' =
      if k' = k then (l.dlookup k).map (fun _ => v) else l.dlookup k' := by
  induction l with
  | nil => simp [List.kreplace]
  | cons entry rest ih =>
    obtain ⟨a, w⟩ := entry
    by_cases ha : k = a
    · subst ha
      have hreplace : List.kreplace k v (⟨k, w⟩ :: rest) = ⟨k, v⟩ :: rest := by
        simp [List.kreplace]
      rw [hreplace]
      by_cases hk : k' = k
      · subst hk
        simp
      · rw [dlookup_cons_ne rest ⟨k, v⟩ hk,
          dlookup_cons_ne rest ⟨k, w⟩ hk, if_neg hk]
    · have hreplace : List.kreplace k v (⟨a, w⟩ :: rest) =
          ⟨a, w⟩ :: List.kreplace k v rest := by
        simp [List.kreplace, lookmap_cons_none, ha]
      rw [hreplace]
      by_cases hk : k' = a
      · subst hk
        have hne : ¬k' = k := fun h => ha h.symm
        simp [hne]
      · rw [dlookup_cons_ne (List.kreplace k v rest) ⟨a, w⟩ hk, ih,
          dlookup_cons_ne rest ⟨a, w⟩ hk,
          dlookup_cons_ne rest ⟨a, w⟩ ha]

theorem lookup_adjust (k k' : κ) (f : ν → ν) (m : KeyedMap κ ν) :
    (m.adjust k f).lookup k' =
      if k' = k then (m.lookup k).map f else m.lookup k' := by
  unfold adjust
  cases hk : m.lookup k with
  | none =>
    by_cases h : k' = k
    · subst h
      simp [hk]
    · simp [h]
  | some v =>
    have hentries : m.entries.dlookup k = some v := hk
    change (m.entries.kreplace k (f v)).dlookup k' = _
    rw [dlookup_kreplace, hentries]
    rfl

/-- What holds of the entry with its new value and of every other one holds
after a change. -/
theorem forall_adjust {P : κ → ν → Prop}
    (hnew : ∀ v, m.lookup k = some v → P k (f v))
    (hold : ∀ k' v, k' ≠ k → m.lookup k' = some v → P k' v) :
    ∀ k' v, (m.adjust k f).lookup k' = some v → P k' v := by
  intro k' v h
  rw [lookup_adjust] at h
  split at h
  next heq =>
    obtain ⟨old, hk, rfl⟩ := map_eq_some_iff.mp h
    exact heq ▸ hnew old hk
  next hne => exact hold k' v hne h

/-- Writing back the value that is there changes nothing. -/
theorem adjust_eq_self (h : ∀ v, m.lookup k = some v → f v = v) :
    m.adjust k f = m := by
  unfold adjust
  cases hk : m.lookup k with
  | none => rfl
  | some v =>
    have hmem : Sigma.mk k v ∈ m.entries := AList.mem_lookup_iff.mp hk
    apply AList.ext
    simp only [h v hk]
    exact kreplace_self m.nodupKeys hmem

theorem mem_iff_lookup (m : KeyedMap κ ν) (k : κ) :
    k ∈ m ↔ ∃ v, m.lookup k = some v := by
  rw [← AList.lookup_isSome, isSome_iff_exists]

theorem mem_values_of_lookup (h : m.lookup k = some v) : v ∈ m.values := by
  rw [← mem_def, AList.mem_lookup_iff] at h
  exact List.mem_map.mpr ⟨⟨k, v⟩, h, rfl⟩

theorem mem_keys_iff_lookup (m : KeyedMap κ ν) (k : κ) :
    k ∈ m.keys ↔ ∃ v, m.lookup k = some v := by
  rw [← AList.mem_keys, mem_iff_lookup]

theorem len_insert_of_lookup_none (h : m.lookup k = none) :
    len (m.insert k v) = m.len + 1 := by
  have hnot : k ∉ m := AList.lookup_eq_none.mp h
  rw [AList.insert_of_notMem hnot]
  rfl

theorem len_erase_of_mem (h : k ∈ m.keys) : len (m.erase k) + 1 = m.len := by
  have hlen : ∀ m : KeyedMap κ ν, m.len = m.keys.length := fun m => by
    simp [len, AList.keys, List.keys]
  rw [hlen, hlen, AList.keys_erase, length_erase_of_mem h]
  have hpos := length_pos_of_mem h
  omega

end KeyedMap
