import DeviceRail.Bundle.Canonical
import Mathlib.Data.List.Nodup
import Mathlib.Data.List.Perm.Subperm

/-!
# The canonical form is canonical

Every value has a normal form, with the entries of its objects sorted.  The
writer gives a value and its normal form the same bytes, and the reader gives
the normal form back, at any nesting it allows.  So the bytes determine the
value up to the order of keys, and what `from_canonical_slice` accepts is
exactly what the writer produces.
-/

namespace DeviceRail.CanonicalJson

open Json Sequence List

variable {ν : Type}

/-! ## Values by their parts -/

namespace Json

variable {values : List (Json ν)} {entries : List (String × Json ν)} {n : ℕ}

theorem wellFormedList_iff :
    WellFormedList values ↔ ∀ value ∈ values, value.WellFormed := by
  induction values with
  | nil => simp [WellFormedList]
  | cons value values ih => rw [WellFormedList, ih, forall_mem_cons]

theorem wellFormedEntries_iff :
    WellFormedEntries entries ↔ ∀ entry ∈ entries, entry.2.WellFormed := by
  induction entries with
  | nil => simp [WellFormedEntries]
  | cons entry entries ih => rw [WellFormedEntries, ih, forall_mem_cons]

theorem nestingList_le :
    nestingList values ≤ n ↔ ∀ value ∈ values, value.nesting ≤ n := by
  induction values with
  | nil => simp [nestingList]
  | cons value values ih => rw [nestingList, Nat.max_le, ih, forall_mem_cons]

theorem nestingEntries_le :
    nestingEntries entries ≤ n ↔ ∀ entry ∈ entries, entry.2.nesting ≤ n := by
  induction entries with
  | nil => simp [nestingEntries]
  | cons entry entries ih =>
    rw [nestingEntries, Nat.max_le, ih, forall_mem_cons]

theorem equalLists_iff {others : List (Json ν)} :
    EqualLists values others ↔ List.Forall₂ Equal values others := by
  induction values generalizing others with
  | nil => simp [EqualLists]
  | cons value values ih =>
    rw [EqualLists, List.forall₂_cons_left_iff]
    simp only [ih]
    constructor
    · rintro ⟨other, others', rfl, hvalue, hvalues⟩
      exact ⟨other, others', hvalue, hvalues, rfl⟩
    · rintro ⟨other, others', hvalue, hvalues, rfl⟩
      exact ⟨other, others', rfl, hvalue, hvalues⟩

theorem equalEntries_iff {others : List (String × Json ν)} :
    EqualEntries entries others ↔ ∀ entry ∈ entries, ∃ other,
      others.lookup entry.1 = some other ∧ entry.2.Equal other := by
  induction entries with
  | nil => simp [EqualEntries]
  | cons entry entries ih => rw [EqualEntries, ih, forall_mem_cons]

/-- Induction over a value, with the parts of arrays and objects. -/
@[elab_as_elim]
theorem inductionOn {P : Json ν → Prop} (null : P .null)
    (bool : ∀ value, P (.bool value)) (number : ∀ value, P (.number value))
    (string : ∀ value, P (.string value))
    (array : ∀ values, (∀ value ∈ values, P value) → P (.array values))
    (object : ∀ entries, (∀ entry ∈ entries, P entry.2) →
      P (.object entries)) (value : Json ν) : P value := by
  induction hsize : value.nesting using Nat.strong_induction_on
    generalizing value with
  | _ size ih =>
    cases value with
    | null => exact null
    | bool value => exact bool value
    | number value => exact number value
    | string value => exact string value
    | array values =>
      refine array values fun value hvalue => ih value.nesting ?_ value rfl
      rw [← hsize, nesting]
      exact Nat.lt_succ_of_le (nestingList_le.mp le_rfl value hvalue)
    | object entries =>
      refine object entries fun entry hentry =>
        ih entry.2.nesting ?_ entry.2 rfl
      rw [← hsize, nesting]
      exact Nat.lt_succ_of_le (nestingEntries_le.mp le_rfl entry hentry)

end Json

theorem writeValues_eq (scalars : Scalars ν) (values : List (Json ν)) :
    writeValues scalars values = values.map (writeValue scalars) := by
  induction values with
  | nil => rfl
  | cons value values ih => rw [writeValues, ih, map_cons]

/-- Replace the values of entries. -/
def mapEntries {α β : Type} (f : α → β) (entries : List (String × α)) :
    List (String × β) :=
  entries.map fun entry => (entry.1, f entry.2)

theorem writeEntries_eq (scalars : Scalars ν)
    (entries : List (String × Json ν)) :
    writeEntries scalars entries = mapEntries (writeValue scalars) entries := by
  induction entries with
  | nil => rfl
  | cons entry entries ih =>
    rw [writeEntries, ih]
    rfl

variable {α : Type} {scalars : Scalars ν} {input rest : List UInt8}
  {value a b : Json ν} {entries : List (String × α)} {byte : UInt8}
  {nesting : ℕ}

theorem keys_mapEntries {β : Type} (f : α → β) (entries : List (String × α)) :
    (mapEntries f entries).map Prod.fst = entries.map Prod.fst := by
  simp [mapEntries, Function.comp_def]

/-! ## Sorting entries -/

section

variable {β : Type}

theorem sortEntries_perm (entries : List (String × α)) :
    (sortEntries entries).Perm entries :=
  mergeSort_perm _ _

theorem sortEntries_pairwise (entries : List (String × α)) :
    (sortEntries entries).Pairwise fun a b => a.1 ≤ b.1 := by
  have h : (sortEntries entries).Pairwise
      fun a b => decide (a.1 ≤ b.1) = true := by
    refine pairwise_mergeSort (fun a b c hab hbc => ?_) (fun a b => ?_) entries
    · simp only [decide_eq_true_eq] at hab hbc ⊢
      exact le_trans hab hbc
    · simp only [Bool.or_eq_true, decide_eq_true_eq]
      exact le_total a.1 b.1
  exact h.imp of_decide_eq_true

theorem sortEntries_mapEntries (f : α → β) (entries : List (String × α)) :
    sortEntries (mapEntries f entries) = mapEntries f (sortEntries entries) := by
  symm
  exact map_mergeSort fun a _ b _ => rfl

theorem sortEntries_sortEntries (entries : List (String × α)) :
    sortEntries (sortEntries entries) = sortEntries entries := by
  apply mergeSort_of_pairwise
  simpa using sortEntries_pairwise entries

/-- Entries with distinct keys are sorted alike exactly when they are the
same entries. -/
theorem sortEntries_eq_iff {entries others : List (String × α)}
    (hnodup : (entries.map Prod.fst).Nodup) :
    sortEntries entries = sortEntries others ↔ entries.Perm others := by
  constructor
  · intro heq
    exact ((sortEntries_perm entries).symm.trans (heq ▸ .refl _)).trans
      (sortEntries_perm others)
  · intro hperm
    refine List.Perm.eq_of_pairwise (fun a b ha hb hab hba => ?_)
      (sortEntries_pairwise entries) (sortEntries_pairwise others)
      (((sortEntries_perm entries).trans hperm).trans
        (sortEntries_perm others).symm)
    refine inj_on_of_nodup_map hnodup
      ((sortEntries_perm entries).mem_iff.mp ha) ?_ (le_antisymm hab hba)
    exact hperm.mem_iff.mpr ((sortEntries_perm others).mem_iff.mp hb)

end

/-! ## The normal form -/

namespace Json

mutual

/-- The value with the entries of all its objects sorted. -/
def sorted : Json ν → Json ν
  | .null => .null
  | .bool value => .bool value
  | .number value => .number value
  | .string value => .string value
  | .array values => .array (sortedList values)
  | .object entries => .object (sortEntries (sortedEntries entries))

def sortedList : List (Json ν) → List (Json ν)
  | [] => []
  | value :: values => value.sorted :: sortedList values

def sortedEntries : List (String × Json ν) → List (String × Json ν)
  | [] => []
  | (key, value) :: entries => (key, value.sorted) :: sortedEntries entries

end

theorem sorted_array (values : List (Json ν)) :
    (array values).sorted = .array (values.map sorted) := by
  rw [sorted]
  congr 1
  induction values with
  | nil => rfl
  | cons value values ih => rw [sortedList, ih, map_cons]

theorem sortedEntries_eq (entries : List (String × Json ν)) :
    sortedEntries entries = mapEntries sorted entries := by
  induction entries with
  | nil => rfl
  | cons entry entries ih =>
    rw [sortedEntries, ih]
    rfl

theorem sorted_object (entries : List (String × Json ν)) :
    (object entries).sorted =
      .object (mapEntries sorted (sortEntries entries)) := by
  rw [sorted, sortedEntries_eq, sortEntries_mapEntries]

theorem sorted_sorted (value : Json ν) : value.sorted.sorted = value.sorted := by
  induction value using inductionOn with
  | array values ih =>
    rw [sorted_array, sorted_array, map_map]
    congr 1
    exact map_congr_left ih
  | object entries ih =>
    rw [sorted_object, sorted_object, sortEntries_mapEntries,
      sortEntries_sortEntries]
    congr 1
    rw [mapEntries, mapEntries, map_map]
    refine map_congr_left fun entry hentry => ?_
    have hmem := (sortEntries_perm entries).mem_iff.mp hentry
    exact Prod.ext rfl (ih entry hmem)
  | _ => rfl

end Json

theorem writeValue_sorted (scalars : Scalars ν) (value : Json ν) :
    writeValue scalars value.sorted = writeValue scalars value := by
  induction value using inductionOn with
  | array values ih =>
    rw [sorted_array, writeValue, writeValue, writeValues_eq,
      writeValues_eq, map_map]
    congr 3
    exact map_congr_left ih
  | object entries ih =>
    rw [sorted_object, writeValue, writeValue, writeEntries_eq,
      writeEntries_eq, sortEntries_mapEntries, sortEntries_mapEntries,
      sortEntries_mapEntries, sortEntries_sortEntries]
    congr 4
    rw [mapEntries, mapEntries, map_map]
    refine map_congr_left fun entry hentry => ?_
    have hmem := (sortEntries_perm entries).mem_iff.mp hentry
    exact Prod.ext rfl (ih entry hmem)
  | _ => rfl

/-! ## Equality is equality of normal forms -/

namespace Json

theorem lookup_eq_some_iff (hnodup : (entries.map Prod.fst).Nodup)
    {key : String} {value : α} :
    entries.lookup key = some value ↔ (key, value) ∈ entries := by
  induction entries with
  | nil => simp
  | cons entry entries ih =>
    obtain ⟨first, other⟩ := entry
    rw [map_cons, nodup_cons] at hnodup
    by_cases hkey : key = first
    · subst hkey
      rw [lookup_cons_self, Option.some.injEq, mem_cons, Prod.mk.injEq]
      constructor
      · rintro rfl
        exact .inl ⟨rfl, rfl⟩
      · rintro (⟨-, rfl⟩ | hmem)
        · rfl
        · exact absurd (mem_map_of_mem hmem) hnodup.1
    · rw [lookup_cons, beq_false_of_ne hkey, mem_cons, Prod.mk.injEq]
      simpa [hkey] using ih hnodup.2

/-- Objects are equal exactly when they have the same entries up to the
equality of their values. -/
theorem entries_perm_iff {entries others : List (String × Json ν)}
    (hnodup : (entries.map Prod.fst).Nodup)
    (hnodup' : (others.map Prod.fst).Nodup) :
    (mapEntries sorted entries).Perm (mapEntries sorted others) ↔
      entries.length = others.length ∧ ∀ entry ∈ entries, ∃ other,
        others.lookup entry.1 = some other ∧ entry.2.sorted = other.sorted := by
  constructor
  · intro hperm
    refine ⟨by simpa [mapEntries] using hperm.length_eq, fun entry hentry => ?_⟩
    have hmem : (entry.1, entry.2.sorted) ∈ mapEntries sorted others :=
      hperm.mem_iff.mp (mem_map_of_mem hentry)
    obtain ⟨⟨key, other⟩, hother, heq⟩ := mem_map.mp hmem
    obtain ⟨rfl, hsorted⟩ := Prod.mk.inj heq
    exact ⟨other, (lookup_eq_some_iff hnodup').mpr hother, hsorted.symm⟩
  · rintro ⟨hlength, hall⟩
    have hkeys : (mapEntries sorted entries).Nodup := by
      refine List.Nodup.of_map Prod.fst ?_
      rwa [keys_mapEntries]
    have hsubset : mapEntries sorted entries ⊆ mapEntries sorted others := by
      intro pair hpair
      obtain ⟨entry, hentry, rfl⟩ := mem_map.mp hpair
      obtain ⟨other, hother, hsorted⟩ := hall entry hentry
      rw [hsorted]
      exact mem_map.mpr ⟨_, (lookup_eq_some_iff hnodup').mp hother, rfl⟩
    refine (hkeys.subperm hsubset).perm_of_length_le ?_
    simp [mapEntries, hlength]

theorem forall₂_iff_map_eq {R : Json ν → Json ν → Prop}
    {values others : List (Json ν)} (h : ∀ value ∈ values, ∀ other ∈ others,
      R value other ↔ value.sorted = other.sorted) :
    List.Forall₂ R values others ↔ values.map sorted = others.map sorted := by
  induction values generalizing others with
  | nil => cases others <;> simp
  | cons value values ih =>
    cases others with
    | nil => simp
    | cons other others =>
      rw [List.forall₂_cons, map_cons, map_cons, List.cons.injEq,
        h value mem_cons_self other mem_cons_self]
      exact and_congr_right fun _ => ih fun value hvalue other hother =>
        h value (mem_cons_of_mem _ hvalue) other (mem_cons_of_mem _ hother)

/-- Two values are equal up to the order of keys exactly when they have the
same normal form. -/
theorem equal_iff_sorted (ha : a.WellFormed) (hb : b.WellFormed) :
    a.Equal b ↔ a.sorted = b.sorted := by
  induction a using inductionOn generalizing b with
  | null => cases b <;> simp [Equal, sorted]
  | array values ih =>
    cases b with
    | array others =>
      rw [WellFormed, wellFormedList_iff] at ha hb
      rw [sorted_array, sorted_array, array.injEq, Equal]
      simp only [array.injEq, exists_eq_left', equalLists_iff]
      exact forall₂_iff_map_eq fun value hvalue other hother =>
        ih value hvalue (ha value hvalue) (hb other hother)
    | _ => simp [Equal, sorted]
  | object entries ih =>
    cases b with
    | object others =>
      rw [WellFormed, wellFormedEntries_iff] at ha hb
      rw [sorted, sorted, sortedEntries_eq, sortedEntries_eq,
        object.injEq, sortEntries_eq_iff (by rw [keys_mapEntries]; exact ha.1),
        entries_perm_iff ha.1 hb.1, Equal]
      simp only [object.injEq, exists_eq_left', equalEntries_iff]
      refine and_congr_right fun _ =>
        forall₂_congr fun entry hentry => exists_congr fun other =>
          and_congr_right fun hother => ?_
      have hmem := (lookup_eq_some_iff hb.1).mp hother
      exact ih entry hentry (ha.2 entry hentry) (hb.2 _ hmem)
    | _ => simp [Equal, sorted]
  | _ => cases b <;> simp [Equal, sorted, eq_comm]

end Json

/-! ## Reading back -/

/-- The tokens after a value in a canonical text. -/
def Delimited (rest : List UInt8) : Prop :=
  ∃ byte tail, rest = byte :: tail ∧
    (byte = comma ∨ byte = closeArray ∨ byte = closeObject ∨ byte = lineFeed)

/-- The assumption on the text form of single numbers and strings: each is
read back where a value can end, and starts the way JSON tells it by. -/
structure Scalars.Inverse (scalars : Scalars ν) : Prop where
  number_parses : ∀ value rest, Delimited rest →
    scalars.parseNumber (scalars.writeNumber value ++ rest) = some (value, rest)
  string_parses : ∀ value rest,
    scalars.parseString (scalars.writeString value ++ rest) = some (value, rest)
  number_starts : ∀ value, ∃ byte tail,
    scalars.writeNumber value = byte :: tail ∧ isNumberStart byte = true
  string_starts : ∀ value, ∃ tail, scalars.writeString value = quote :: tail

theorem isNumberStart_ne {other : UInt8} (h : isNumberStart byte = true)
    (hother : isNumberStart other = false) : byte ≠ other := by
  rintro rfl
  cases h.symm.trans hother

/-- The bytes a value can start with. -/
def StartsValue (byte : UInt8) : Prop :=
  byte = 'n'.toUInt8 ∨ byte = 't'.toUInt8 ∨ byte = 'f'.toUInt8 ∨
    byte = quote ∨ isNumberStart byte = true ∨ byte = openArray ∨
    byte = openObject

/-- A value starts with neither a blank nor a closing bracket. -/
theorem StartsValue.inside (h : StartsValue byte) :
    isSpace byte = false ∧ byte ≠ closeArray ∧ byte ≠ closeObject := by
  rcases h with rfl | rfl | rfl | rfl | h | rfl | rfl
  case inr.inr.inr.inr.inl =>
    refine ⟨?_, isNumberStart_ne h (by decide), isNumberStart_ne h (by decide)⟩
    simp only [isSpace, Bool.or_eq_false_iff, beq_eq_false_iff_ne]
    refine ⟨⟨⟨?_, ?_⟩, ?_⟩, ?_⟩ <;> exact isNumberStart_ne h (by decide)
  all_goals decide

theorem parseLiteral_append (text : String) (value : Json ν)
    (rest : List UInt8) :
    parseLiteral text value (ascii text ++ rest) = some (value, rest) := by
  have hprefix : (ascii text).isPrefixOf (ascii text ++ rest) = true := by
    rw [ isPrefixOf_iff_prefix]
    exact prefix_append _ _
  rw [parseLiteral, if_pos hprefix, drop_left]

theorem parseNested_bool (scalars : Scalars ν)
    (inner : Option (List UInt8 → Option (Json ν × List UInt8)))
    (value : Bool) (rest : List UInt8) :
    parseNested scalars inner (writeValue scalars (.bool value) ++ rest) =
      some (.bool value, rest) := by
  cases value with
  | true => exact parseLiteral_append "true" (.bool true) rest
  | false => exact parseLiteral_append "false" (.bool false) rest

theorem collect_of_nodup (hnodup : (entries.map Prod.fst).Nodup) :
    collect entries = entries := by
  have hfold : ∀ map : List (String × α),
      ((map ++ entries).map Prod.fst).Nodup →
        entries.foldl insertEntry map = map ++ entries := by
    clear hnodup
    induction entries with
    | nil => simp
    | cons entry entries ih =>
      intro map hmap
      have hinsert : insertEntry map entry = map ++ [entry] := by
        rw [insertEntry, filter_eq_self.mpr]
        intro other hother
        rw [map_append, nodup_append'] at hmap
        have hapart := hmap.2.2 (mem_map_of_mem hother)
        rw [bne_iff_ne]
        intro heq
        exact hapart (heq ▸ mem_cons_self)
      rw [foldl_cons, hinsert, ih]
      · simp
      · simpa using hmap
  simpa [collect] using hfold [] (by simpa using hnodup)

section

variable {scalars : Scalars ν} (hscalars : scalars.Inverse)

include hscalars

theorem writeValue_starts (value : Json ν) :
    ∃ byte tail, writeValue scalars value = byte :: tail ∧
      StartsValue byte := by
  cases value with
  | null => exact ⟨_, _, rfl, .inl rfl⟩
  | bool value =>
    cases value with
    | true => exact ⟨_, _, rfl, .inr (.inl rfl)⟩
    | false => exact ⟨_, _, rfl, .inr (.inr (.inl rfl))⟩
  | number value =>
    obtain ⟨byte, tail, htext, hbyte⟩ := hscalars.number_starts value
    exact ⟨byte, tail, htext, .inr (.inr (.inr (.inr (.inl hbyte))))⟩
  | string value =>
    obtain ⟨tail, htext⟩ := hscalars.string_starts value
    exact ⟨_, tail, htext, .inr (.inr (.inr (.inl rfl)))⟩
  | array values =>
    exact ⟨_, _, rfl, .inr (.inr (.inr (.inr (.inr (.inl rfl)))))⟩
  | object entries =>
    exact ⟨_, _, rfl, .inr (.inr (.inr (.inr (.inr (.inr rfl)))))⟩

theorem dropWhile_writeValue (value : Json ν) (rest : List UInt8) :
    (writeValue scalars value ++ rest).dropWhile isSpace =
      writeValue scalars value ++ rest := by
  obtain ⟨byte, tail, htext, hbyte⟩ := writeValue_starts hscalars value
  rw [htext, cons_append, dropWhile_cons_of_neg (by simp [hbyte.inside.1])]

section

variable (inner : Option (List UInt8 → Option (Json ν × List UInt8)))

theorem parseNested_number (value : ν) (hrest : Delimited rest) :
    parseNested scalars inner (scalars.writeNumber value ++ rest) =
      some (.number value, rest) := by
  have hdrop := dropWhile_writeValue hscalars (.number value) rest
  have hparses := hscalars.number_parses value rest hrest
  obtain ⟨byte, tail, htext, hbyte⟩ := hscalars.number_starts value
  rw [writeValue, htext, cons_append] at hdrop
  rw [htext, cons_append] at hparses ⊢
  have hne : ∀ {other}, isNumberStart other = false → byte ≠ other :=
    isNumberStart_ne hbyte
  unfold parseNested
  simp only [hdrop, if_neg (@hne 'n'.toUInt8 (by decide)),
    if_neg (@hne 't'.toUInt8 (by decide)), if_neg (@hne 'f'.toUInt8 (by decide)),
    if_neg (@hne quote (by decide)), hbyte, if_true, hparses]
  rfl

theorem parseNested_string (value : String) (rest : List UInt8) :
    parseNested scalars inner (scalars.writeString value ++ rest) =
      some (.string value, rest) := by
  have hdrop := dropWhile_writeValue hscalars (.string value) rest
  have hparses := hscalars.string_parses value rest
  obtain ⟨tail, htext⟩ := hscalars.string_starts value
  rw [writeValue, htext, cons_append] at hdrop
  rw [htext, cons_append] at hparses ⊢
  have hn : quote ≠ 'n'.toUInt8 := by decide
  have ht : quote ≠ 't'.toUInt8 := by decide
  have hf : quote ≠ 'f'.toUInt8 := by decide
  unfold parseNested
  simp only [hdrop, if_neg hn, if_neg ht, if_neg hf, if_true, hparses]
  rfl

end

variable {item : List UInt8 → Option (Json ν × List UInt8)}

theorem readable_value {marks : Sequence.Marks UInt8}
    (hmarks : marks = arrayMarks ∨ marks = objectMarks)
    (hreads : ∀ rest, Delimited rest →
      item (writeValue scalars value ++ rest) = some (value.sorted, rest)) :
    Sequence.Readable marks item (writeValue scalars value) value.sorted := by
  obtain ⟨byte, tail, htext, hbyte⟩ := writeValue_starts hscalars value
  obtain ⟨hspace, harray, hobject⟩ := hbyte.inside
  refine ⟨⟨byte, tail, htext, ?_⟩, fun rest hrest => hreads rest ?_⟩
  · rcases hmarks with rfl | rfl
    · exact ⟨hspace, harray⟩
    · exact ⟨hspace, hobject⟩
  · obtain ⟨tail, hclose | hseparator⟩ := hrest
    · rcases hmarks with rfl | rfl
      · exact ⟨_, tail, hclose, .inr (.inl rfl)⟩
      · exact ⟨_, tail, hclose, .inr (.inr (.inl rfl))⟩
    · rcases hmarks with rfl | rfl <;> exact ⟨_, tail, hseparator, .inl rfl⟩

theorem readable_entry {entry : String × Json ν}
    (hreads : ∀ rest, Delimited rest →
      item (writeValue scalars entry.2 ++ rest) = some (entry.2.sorted, rest)) :
    Sequence.Readable objectMarks (parseEntry scalars item)
      (writeEntry scalars (entry.1, writeValue scalars entry.2))
      (entry.1, entry.2.sorted) := by
  have hvalue := readable_value hscalars (.inr rfl) hreads
  obtain ⟨tail, htext⟩ := hscalars.string_starts entry.1
  refine ⟨⟨quote, _, by rw [writeEntry, htext]; rfl, by decide, by decide⟩,
    fun rest hrest => ?_⟩
  have hparses := hscalars.string_parses entry.1
    (colon :: (writeValue scalars entry.2 ++ rest))
  rw [writeEntry, append_assoc, cons_append]
  rw [htext, cons_append] at hparses ⊢
  unfold parseEntry
  rw [dropWhile_cons_of_neg (by decide)]
  simp only [if_true, hparses, Option.bind_eq_bind, Option.bind_some]
  rw [dropWhile_cons_of_neg (by decide)]
  simp only [if_true, hvalue.reads rest hrest, Option.bind_some]
  rfl

theorem parseNested_array {values : List (Json ν)}
    (hreads : ∀ value ∈ values, ∀ rest, Delimited rest →
      item (writeValue scalars value ++ rest) = some (value.sorted, rest))
    (rest : List UInt8) :
    parseNested scalars (some item)
        (writeValue scalars (.array values) ++ rest) =
      some ((array values).sorted, rest) := by
  have hitems : List.Forall₂ (Sequence.Readable arrayMarks item)
      (values.map (writeValue scalars)) (values.map sorted) := by
    rw [List.forall₂_map_left_iff, List.forall₂_map_right_iff,
      List.forall₂_same]
    exact fun value hvalue =>
      readable_value hscalars (.inl rfl) (hreads value hvalue)
  have hread : read arrayMarks item
      (join comma (values.map (writeValue scalars)) ++
        closeArray :: rest) = some (values.map sorted, rest) :=
    read_join (by constructor <;> decide) hitems rest
  have htext : writeValue scalars (.array values) ++ rest =
      openArray :: (join comma (values.map (writeValue scalars)) ++
        closeArray :: rest) := by
    rw [writeValue, writeValues_eq, cons_append, append_assoc]
    rfl
  rw [htext, sorted_array]
  change (read arrayMarks item _ >>= _) = _
  rw [hread]
  rfl

theorem parseNested_object {entries : List (String × Json ν)}
    (hnodup : (entries.map Prod.fst).Nodup)
    (hreads : ∀ entry ∈ entries, ∀ rest, Delimited rest →
      item (writeValue scalars entry.2 ++ rest) =
        some (entry.2.sorted, rest)) (rest : List UInt8) :
    parseNested scalars (some item)
        (writeValue scalars (.object entries) ++ rest) =
      some ((object entries).sorted, rest) := by
  have hperm := sortEntries_perm entries
  have hitems : List.Forall₂
      (Sequence.Readable objectMarks (parseEntry scalars item))
      ((mapEntries (writeValue scalars) (sortEntries entries)).map
        (writeEntry scalars))
      (mapEntries sorted (sortEntries entries)) := by
    rw [mapEntries, mapEntries, map_map, List.forall₂_map_left_iff,
      List.forall₂_map_right_iff, List.forall₂_same]
    exact fun entry hentry =>
      readable_entry hscalars (hreads entry (hperm.mem_iff.mp hentry))
  have hread := read_join (by constructor <;> decide) hitems rest
  have hkeys : ((mapEntries sorted (sortEntries entries)).map
      Prod.fst).Nodup := by
    rw [keys_mapEntries]
    exact (hperm.map Prod.fst).nodup_iff.mpr hnodup
  have htext : writeValue scalars (.object entries) ++ rest =
      openObject :: (join objectMarks.separator
        ((mapEntries (writeValue scalars) (sortEntries entries)).map
          (writeEntry scalars)) ++ objectMarks.close :: rest) := by
    rw [writeValue, writeEntries_eq, sortEntries_mapEntries,
      cons_append, append_assoc]
    rfl
  rw [htext, sorted_object]
  change (read objectMarks (parseEntry scalars item) _ >>= _) = _
  rw [hread]
  change some (object (collect _), rest) = _
  rw [collect_of_nodup hkeys]

/-- The reader gives back the normal form of what was written, wherever a
value can end. -/
theorem parseValue_writeValue (hvalue : value.WellFormed)
    (hnesting : value.nesting ≤ nesting) (hrest : Delimited rest) :
    parseValue scalars nesting (writeValue scalars value ++ rest) =
      some (value.sorted, rest) := by
  induction value using inductionOn generalizing nesting rest with
  | null => cases nesting <;> exact parseLiteral_append "null" .null rest
  | bool value => cases nesting <;> exact parseNested_bool scalars _ value rest
  | number value =>
    cases nesting <;> exact parseNested_number hscalars _ value hrest
  | string value =>
    cases nesting <;> exact parseNested_string hscalars _ value rest
  | array values ih =>
    cases nesting with
    | zero => cases hnesting
    | succ nesting =>
      rw [Json.WellFormed, Json.wellFormedList_iff] at hvalue
      rw [Json.nesting, Nat.add_le_add_iff_right, nestingList_le] at hnesting
      exact parseNested_array hscalars (fun value hmem rest hrest =>
        ih value hmem (hvalue value hmem) (hnesting value hmem) hrest) rest
  | object entries ih =>
    cases nesting with
    | zero => cases hnesting
    | succ nesting =>
      rw [Json.WellFormed, Json.wellFormedEntries_iff] at hvalue
      rw [Json.nesting, Nat.add_le_add_iff_right, nestingEntries_le] at hnesting
      exact parseNested_object hscalars hvalue.1 (fun entry hmem rest hrest =>
        ih entry hmem (hvalue.2 entry hmem) (hnesting entry hmem) hrest) rest

end

/-! ## What is read is well formed -/

theorem nodup_keys_insertEntry {map : List (String × α)}
    (hmap : (map.map Prod.fst).Nodup) (entry : String × α) :
    ((insertEntry map entry).map Prod.fst).Nodup := by
  rw [insertEntry, map_append, nodup_append']
  refine ⟨hmap.sublist (filter_sublist.map _), nodup_singleton _, ?_⟩
  intro key hkey hentry
  obtain ⟨other, hother, rfl⟩ := mem_map.mp hkey
  have hne := (mem_filter.mp hother).2
  rw [bne_iff_ne] at hne
  exact hne (mem_singleton.mp hentry)

theorem collect_keys_nodup (entries : List (String × α)) :
    ((collect entries).map Prod.fst).Nodup := by
  have hfold : ∀ map : List (String × α), (map.map Prod.fst).Nodup →
      ((entries.foldl insertEntry map).map Prod.fst).Nodup := by
    induction entries with
    | nil => exact fun map hmap => hmap
    | cons entry entries ih =>
      exact fun map hmap => ih _ (nodup_keys_insertEntry hmap entry)
  exact hfold [] nodup_nil

theorem mem_of_mem_collect {entry : String × α} (h : entry ∈ collect entries) :
    entry ∈ entries := by
  have hfold : ∀ map : List (String × α),
      entry ∈ entries.foldl insertEntry map → entry ∈ map ∨ entry ∈ entries := by
    clear h
    induction entries with
    | nil => exact fun map h => .inl h
    | cons first entries ih =>
      intro map h
      rcases ih _ h with h | h
      · rw [insertEntry, mem_append, mem_singleton] at h
        rcases h with h | rfl
        · exact .inl (mem_filter.mp h).1
        · exact .inr mem_cons_self
      · exact .inr (mem_cons_of_mem _ h)
  rcases hfold [] h with h | h
  · cases h
  · exact h

theorem parseEntry_eq_some {item : List UInt8 → Option (Json ν × List UInt8)}
    {entry : String × Json ν}
    (h : parseEntry scalars item input = some (entry, rest)) :
    ∃ before after, item before = some (entry.2, after) := by
  unfold parseEntry at h
  split at h
  · cases h
  obtain ⟨-, h⟩ := Option.ite_none_right_eq_some.mp h
  simp only [Option.bind_eq_bind, Option.bind_eq_some_iff] at h
  obtain ⟨⟨key, middle⟩, -, h⟩ := h
  split at h
  · cases h
  obtain ⟨-, h⟩ := Option.ite_none_right_eq_some.mp h
  simp only [Option.bind_eq_some_iff] at h
  obtain ⟨⟨value, last⟩, hvalue, h⟩ := h
  cases h
  exact ⟨_, _, hvalue⟩

theorem parseLiteral_eq_some {text : String} {result : Json ν}
    (h : parseLiteral text value input = some (result, rest)) :
    result = value := by
  obtain ⟨-, h⟩ := Option.ite_none_right_eq_some.mp h
  cases h
  rfl

/-- What the reader accepts is well formed and within its nesting, when what
it accepts inside is. -/
theorem parseNested_bounds
    {inner : Option (List UInt8 → Option (Json ν × List UInt8))}
    (hinner : ∀ item, inner = some item → ∃ n, nesting = n + 1 ∧
      ∀ input value rest, item input = some (value, rest) →
        value.WellFormed ∧ value.nesting ≤ n)
    (h : parseNested scalars inner input = some (value, rest)) :
    value.WellFormed ∧ value.nesting ≤ nesting := by
  have hflat : (value.WellFormed ∧ value.nesting = 0) →
      value.WellFormed ∧ value.nesting ≤ nesting :=
    fun ⟨hvalue, hzero⟩ => ⟨hvalue, hzero ▸ Nat.zero_le _⟩
  unfold parseNested at h
  split at h
  · cases h
  simp only [Option.bind_eq_bind] at h
  repeat' split at h
  iterate 3
    · exact hflat (by rw [parseLiteral_eq_some h]; exact ⟨trivial, rfl⟩)
  iterate 2
    obtain ⟨⟨scalar, last⟩, -, h⟩ := Option.bind_eq_some_iff.mp h
    cases h
    exact hflat ⟨trivial, rfl⟩
  · simp only [Option.bind_eq_some_iff] at h
    obtain ⟨item, hitem, ⟨values, last⟩, hread, h⟩ := h
    cases h
    obtain ⟨n, rfl, hitems⟩ := hinner item hitem
    have hvalues : ∀ value ∈ values, value.WellFormed ∧ value.nesting ≤ n := by
      intro value hvalue
      obtain ⟨before, after, hparse⟩ := mem_of_read hread hvalue
      exact hitems _ _ _ hparse
    rw [Json.WellFormed, Json.wellFormedList_iff, Json.nesting]
    exact ⟨fun value hvalue => (hvalues value hvalue).1, Nat.succ_le_succ
      (nestingList_le.mpr fun value hvalue => (hvalues value hvalue).2)⟩
  · simp only [Option.bind_eq_some_iff] at h
    obtain ⟨item, hitem, ⟨entries, last⟩, hread, h⟩ := h
    cases h
    obtain ⟨n, rfl, hitems⟩ := hinner item hitem
    have hentries : ∀ entry ∈ collect entries,
        entry.2.WellFormed ∧ entry.2.nesting ≤ n := by
      intro entry hentry
      obtain ⟨_, _, hparse⟩ := mem_of_read hread (mem_of_mem_collect hentry)
      obtain ⟨_, _, hvalue⟩ := parseEntry_eq_some hparse
      exact hitems _ _ _ hvalue
    rw [Json.WellFormed, Json.wellFormedEntries_iff, Json.nesting]
    exact ⟨⟨collect_keys_nodup entries,
      fun entry hentry => (hentries entry hentry).1⟩, Nat.succ_le_succ
      (nestingEntries_le.mpr fun entry hentry => (hentries entry hentry).2)⟩
  · cases h

theorem parseValue_bounds
    (h : parseValue scalars nesting input = some (value, rest)) :
    value.WellFormed ∧ value.nesting ≤ nesting := by
  induction nesting generalizing value input rest with
  | zero =>
    refine parseNested_bounds (fun item hitem => ?_) h
    cases hitem
  | succ nesting ih =>
    refine parseNested_bounds (fun item hitem => ⟨nesting, rfl, ?_⟩) h
    cases hitem
    exact fun input value rest hparse => ih hparse

theorem fromCanonicalSlice_eq_ok
    (h : fromCanonicalSlice scalars input = .ok value) :
    value.WellFormed ∧ value.nesting ≤ maxNesting ∧
      toCanonicalBytes scalars value = input := by
  unfold fromCanonicalSlice at h
  split at h
  · cases h
  next parsed hparsed =>
  split at h <;> cases h
  next hbytes =>
  unfold parseDocument at hparsed
  simp only [Option.bind_eq_bind, Option.bind_eq_some_iff] at hparsed
  obtain ⟨⟨read, rest⟩, hread, hrest⟩ := hparsed
  obtain ⟨-, hrest⟩ := Option.ite_none_right_eq_some.mp hrest
  cases hrest
  obtain ⟨hvalue, hnesting⟩ := parseValue_bounds hread
  exact ⟨hvalue, hnesting, hbytes⟩

theorem delimited_lineFeed : Delimited [lineFeed] :=
  ⟨lineFeed, [], rfl, .inr (.inr (.inr rfl))⟩

theorem fromCanonicalSlice_toCanonicalBytes (hscalars : scalars.Inverse)
    (hvalue : value.WellFormed) (hnesting : value.nesting ≤ maxNesting) :
    fromCanonicalSlice scalars (toCanonicalBytes scalars value) =
      .ok value.sorted := by
  have hparse := parseValue_writeValue hscalars hvalue hnesting
    delimited_lineFeed
  have hdocument : parseDocument scalars (toCanonicalBytes scalars value) =
      some value.sorted := by
    rw [parseDocument, toCanonicalBytes, hparse]
    rfl
  rw [fromCanonicalSlice, hdocument]
  have hbytes : toCanonicalBytes scalars value.sorted =
      toCanonicalBytes scalars value := by
    rw [toCanonicalBytes, toCanonicalBytes, writeValue_sorted]
  simp only [hbytes, if_true]

theorem sorted_eq_of_toCanonicalBytes (hscalars : scalars.Inverse)
    (ha : a.WellFormed) (hb : b.WellFormed)
    (h : toCanonicalBytes scalars a = toCanonicalBytes scalars b) :
    a.sorted = b.sorted := by
  have hread : ∀ {value : Json ν}, value.WellFormed →
      value.nesting ≤ max a.nesting b.nesting →
      parseValue scalars (max a.nesting b.nesting)
        (toCanonicalBytes scalars value) = some (value.sorted, [lineFeed]) := by
    intro value hvalue hle
    exact parseValue_writeValue hscalars hvalue hle delimited_lineFeed
  have ha' := hread ha (le_max_left _ _)
  rw [h, hread hb (le_max_right _ _)] at ha'
  exact (Prod.mk.inj (Option.some.inj ha')).1.symm

theorem toCanonicalBytes_eq_iff (hscalars : scalars.Inverse) (ha : a.WellFormed)
    (hb : b.WellFormed) :
    toCanonicalBytes scalars a = toCanonicalBytes scalars b ↔ a.Equal b := by
  rw [equal_iff_sorted ha hb]
  refine ⟨sorted_eq_of_toCanonicalBytes hscalars ha hb, fun h => ?_⟩
  rw [toCanonicalBytes, toCanonicalBytes, ← writeValue_sorted scalars a, h,
    writeValue_sorted]

/-- Two values have the same bytes exactly when they are equal up to the order
of keys.  What `from_canonical_slice` accepts is exactly what
`to_canonical_bytes` writes for a value the reader's nesting allows: writing
what was read and reading what was written give back the bytes and the value,
and no value is read from two texts. -/
theorem canonical_encoding_exact (scalars : Scalars ν)
    (hscalars : scalars.Inverse) :
    (∀ a b : Json ν, a.WellFormed → b.WellFormed →
      (toCanonicalBytes scalars a = toCanonicalBytes scalars b ↔ a.Equal b)) ∧
    (∀ input, (∃ value, fromCanonicalSlice scalars input = .ok value) ↔
      ∃ value : Json ν, value.WellFormed ∧ value.nesting ≤ maxNesting ∧
        toCanonicalBytes scalars value = input) ∧
    (∀ input value, fromCanonicalSlice scalars input = .ok value →
      value.WellFormed ∧ toCanonicalBytes scalars value = input) ∧
    (∀ value : Json ν, value.WellFormed → value.nesting ≤ maxNesting →
      ∃ read, fromCanonicalSlice scalars (toCanonicalBytes scalars value) =
          .ok read ∧ read.Equal value) ∧
    (∀ input other a b, fromCanonicalSlice scalars input = .ok a →
      fromCanonicalSlice scalars other = .ok b → a.Equal b →
        input = other) := by
  refine ⟨fun a b ha hb => toCanonicalBytes_eq_iff hscalars ha hb, ?_, ?_, ?_,
    ?_⟩
  · intro input
    constructor
    · rintro ⟨value, hvalue⟩
      exact ⟨value, fromCanonicalSlice_eq_ok hvalue⟩
    · rintro ⟨value, hvalue, hnesting, rfl⟩
      exact ⟨_, fromCanonicalSlice_toCanonicalBytes hscalars hvalue hnesting⟩
  · intro input value hvalue
    obtain ⟨hwell, -, hbytes⟩ := fromCanonicalSlice_eq_ok hvalue
    exact ⟨hwell, hbytes⟩
  · intro value hvalue hnesting
    have hread := fromCanonicalSlice_toCanonicalBytes hscalars hvalue hnesting
    refine ⟨value.sorted, hread, ?_⟩
    have hwell := (fromCanonicalSlice_eq_ok hread).1
    exact (equal_iff_sorted hwell hvalue).mpr value.sorted_sorted
  · intro input other a b ha hb hequal
    obtain ⟨hwell, -, rfl⟩ := fromCanonicalSlice_eq_ok ha
    obtain ⟨hwell', -, rfl⟩ := fromCanonicalSlice_eq_ok hb
    exact (toCanonicalBytes_eq_iff hscalars hwell hwell').mpr hequal

/-! ## A text form -/

/-- Read the bytes of a string up to its closing quote; a byte after a
backslash stands for itself. -/
def unescape : Bool → List UInt8 → Option (List UInt8 × List UInt8)
  | _, [] => none
  | true, byte :: rest =>
    (unescape false rest).map fun read => (byte :: read.1, read.2)
  | false, byte :: rest =>
    if byte = quote then some ([], rest)
    else if byte = '\\'.toUInt8 then unescape true rest
    else (unescape false rest).map fun read => (byte :: read.1, read.2)

/-- A quote or a backslash is written after a backslash. -/
def escapeByte (byte : UInt8) : List UInt8 :=
  if byte = quote ∨ byte = '\\'.toUInt8 then ['\\'.toUInt8, byte] else [byte]

/-- Numbers of one binary digit, and strings with escapes. -/
def sampleScalars : Scalars Bool where
  writeNumber value := if value then ascii "1" else ascii "0"
  writeString value :=
    quote :: (value.toUTF8.data.toList.flatMap escapeByte ++ [quote])
  parseNumber input := some (input.head? == some '1'.toUInt8, input.drop 1)
  parseString input := do
    let (bytes, rest) ← unescape false (input.drop 1)
    let value ← String.fromUTF8? ⟨⟨bytes⟩⟩
    return (value, rest)

theorem unescape_escape (bytes rest : List UInt8) :
    unescape false (bytes.flatMap escapeByte ++ quote :: rest) =
      some (bytes, rest) := by
  induction bytes with
  | nil => rfl
  | cons byte bytes ih =>
    rw [flatMap_cons, append_assoc, escapeByte]
    split
    next hspecial =>
      change (unescape false
        (bytes.flatMap escapeByte ++ quote :: rest)).map _ = _
      rw [ih]
      rfl
    next hplain =>
      rw [not_or] at hplain
      rw [cons_append, nil_append, unescape, if_neg hplain.1,
        if_neg hplain.2, ih]
      rfl

theorem sampleScalars_inverse : sampleScalars.Inverse := by
  refine ⟨fun value rest _ => ?_, fun value rest => ?_, fun value => ?_,
    fun value => ⟨_, rfl⟩⟩
  · cases value <;> rfl
  · have hread := unescape_escape value.toUTF8.data.toList rest
    have hvalid : String.fromUTF8? value.toUTF8 = some value := by
      simp [String.fromUTF8?, String.fromUTF8, value.isValidUTF8]
    simp only [sampleScalars, cons_append, append_assoc, nil_append,
      drop_succ_cons, drop_zero, hread, Option.bind_eq_bind, Option.bind_some]
    rw [hvalid]
    rfl
  · cases value <;> exact ⟨_, _, rfl, by decide⟩

/-- An object is read back from its bytes, whatever order its keys had. -/
theorem canonical_encoding_exact_object :
    ∃ read, fromCanonicalSlice sampleScalars (toCanonicalBytes sampleScalars
        (.object [("b", .number true), ("a", .array [.null])])) = .ok read ∧
      read.Equal (.object [("b", .number true), ("a", .array [.null])]) :=
  (canonical_encoding_exact sampleScalars sampleScalars_inverse).2.2.2.1 _
    (by simp [Json.WellFormed, Json.WellFormedEntries, Json.WellFormedList])
    (by decide)

end DeviceRail.CanonicalJson
