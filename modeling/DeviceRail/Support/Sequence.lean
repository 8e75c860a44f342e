import Mathlib.Data.List.Basic

/-!
# Separated sequences

Writing a sequence of items with separators between them and a closing token
after them, and reading it back with blank tokens allowed around every item.
The reader is built over a reader of single items; one round-trip lemma serves
every kind of item.
-/

namespace Sequence

open List

variable {α β γ : Type*}

/-- The items one after another, with separators between them. -/
def join (separator : β) : List (List β) → List β
  | [] => []
  | [item] => item
  | item :: items => item ++ separator :: join separator items

theorem join_eq_flatten (separator : β) (item : List β)
    (items : List (List β)) :
    join separator (item :: items) =
      item ++ (items.map (separator :: ·)).flatten := by
  induction items generalizing item with
  | nil => simp [join]
  | cons next items ih => simp [join, ih]

/-- The brackets, separators and blanks of a kind of sequence. -/
structure Marks (β : Type*) where
  blank : β → Bool
  separator : β
  close : β

variable [DecidableEq β] (marks : Marks β) (item : List β → Option (α × List β))

/-- Read on after an item.  Every round reads at least one token, so that the
length of the input is enough fuel. -/
def readRest : ℕ → List β → Option (List α × List β)
  | 0, _ => none
  | fuel + 1, input =>
    match input.dropWhile marks.blank with
    | [] => none
    | token :: rest =>
      if token = marks.close then some ([], rest)
      else if token = marks.separator then do
        let (first, rest) ← item rest
        let (others, rest) ← readRest fuel rest
        return (first :: others, rest)
      else none

/-- Read a sequence after its opening token. -/
def read (input : List β) : Option (List α × List β) :=
  match input.dropWhile marks.blank with
  | [] => none
  | token :: rest =>
    if token = marks.close then some ([], rest)
    else do
      let (first, rest) ← item (token :: rest)
      let (others, rest) ← readRest marks item rest.length rest
      return (first :: others, rest)

variable {marks item} {fuel : ℕ} {input rest : List β} {items : List α} {x : α}
  {texts : List (List β)}

/-! ## What is read was an item -/

theorem mem_of_readRest
    (h : readRest marks item fuel input = some (items, rest)) (hx : x ∈ items) :
    ∃ before after, item before = some (x, after) := by
  induction fuel generalizing input items rest with
  | zero => cases h
  | succ fuel ih =>
    unfold readRest at h
    split at h
    · cases h
    split at h
    · cases h
      cases hx
    obtain ⟨-, h⟩ := Option.ite_none_right_eq_some.mp h
    simp only [Option.bind_eq_bind, Option.bind_eq_some_iff] at h
    obtain ⟨⟨first, middle⟩, hfirst, ⟨others, last⟩, hothers, h⟩ := h
    cases h
    rcases mem_cons.mp hx with rfl | hx
    · exact ⟨_, _, hfirst⟩
    · exact ih hothers hx

theorem mem_of_read (h : read marks item input = some (items, rest))
    (hx : x ∈ items) : ∃ before after, item before = some (x, after) := by
  unfold read at h
  split at h
  · cases h
  split at h
  · cases h
    cases hx
  simp only [Option.bind_eq_bind, Option.bind_eq_some_iff] at h
  obtain ⟨⟨first, middle⟩, hfirst, ⟨others, last⟩, hothers, h⟩ := h
  cases h
  rcases mem_cons.mp hx with rfl | hx
  · exact ⟨_, _, hfirst⟩
  · exact mem_of_readRest hothers hx

/-! ## Reading what was written -/

/-- The tokens that may follow an item. -/
def Follows (marks : Marks β) (rest : List β) : Prop :=
  ∃ tail, rest = marks.close :: tail ∨ rest = marks.separator :: tail

omit [DecidableEq β] in
theorem follows_rest (texts : List (List β)) (tail : List β) :
    Follows marks ((texts.map (marks.separator :: ·)).flatten ++
      marks.close :: tail) := by
  cases texts with
  | nil => exact ⟨tail, .inl rfl⟩
  | cons text texts => exact ⟨_, .inr rfl⟩

/-- The marks can be told apart. -/
structure Marks.Distinct (marks : Marks β) : Prop where
  close_not_blank : marks.blank marks.close = false
  separator_not_blank : marks.blank marks.separator = false
  close_ne_separator : marks.close ≠ marks.separator

/-- A written item is read back whatever mark follows it, and starts with
neither a blank nor the closing mark. -/
structure Readable (marks : Marks β) (item : List β → Option (α × List β))
    (text : List β) (value : α) : Prop where
  starts : ∃ token tail, text = token :: tail ∧ marks.blank token = false ∧
    token ≠ marks.close
  reads : ∀ rest, Follows marks rest → item (text ++ rest) = some (value, rest)

section

variable (hmarks : marks.Distinct)
  (hitems : List.Forall₂ (Readable marks item) texts items)
include hmarks hitems

theorem readRest_join (hfuel : texts.length < fuel) (tail : List β) :
    readRest marks item fuel
        ((texts.map (marks.separator :: ·)).flatten ++ marks.close :: tail) =
      some (items, tail) := by
  induction hitems generalizing fuel with
  | nil =>
    obtain ⟨fuel, rfl⟩ := Nat.exists_eq_add_of_lt hfuel
    simp [readRest, hmarks.close_not_blank]
  | @cons text value texts items hreadable hrest ih =>
    obtain ⟨fuel, rfl⟩ : ∃ n, fuel = n + 1 := ⟨fuel - 1, by omega⟩
    rw [length_cons] at hfuel
    have hread := hreadable.reads _ (follows_rest texts tail)
    simp only [map_cons, flatten_cons, append_assoc, cons_append]
    rw [readRest, dropWhile_cons_of_neg (by simp [hmarks.separator_not_blank])]
    simp only [if_neg hmarks.close_ne_separator.symm, if_pos, hread,
      Option.bind_eq_bind, Option.bind_some,
      ih (by omega : texts.length < fuel)]
    rfl

/-- The round trip: what is written item by item is read back. -/
theorem read_join (tail : List β) :
    read marks item (join marks.separator texts ++ marks.close :: tail) =
      some (items, tail) := by
  cases hitems with
  | nil => simp [join, read, hmarks.close_not_blank]
  | @cons text value texts items hreadable hrest =>
    obtain ⟨token, text', htext, hblank, hclose⟩ := hreadable.starts
    have hread := hreadable.reads _ (follows_rest texts tail)
    have hlength : texts.length < ((texts.map
        (marks.separator :: ·)).flatten ++ marks.close :: tail).length := by
      have hle : ∀ texts : List (List β), texts.length ≤
          ((texts.map (marks.separator :: ·)).flatten).length := by
        intro texts
        induction texts with
        | nil => simp
        | cons other texts ih =>
          simp only [map_cons, flatten_cons, length_append, length_cons]
          omega
      have h := hle texts
      simp only [length_append, length_cons]
      omega
    rw [join_eq_flatten, append_assoc]
    rw [htext] at hread ⊢
    rw [cons_append] at hread ⊢
    rw [read, dropWhile_cons_of_neg (by simp [hblank])]
    simp only [if_neg hclose, hread, Option.bind_eq_bind, Option.bind_some,
      readRest_join hmarks hrest hlength]
    rfl

end

end Sequence
