import Mathlib.Data.List.Nodup
import Mathlib.Logic.Relation

/-!
# Ordered forests and their preorder listings

A preorder listing names every node with its parent.  It is read from the left
with the stack of the nodes that may still get children.
-/

namespace Listing

open List

variable {α : Type*}

/-- The first tree's root and children, and the other trees. -/
inductive Forest (α : Type*) where
  | nil
  | cons (root : α) (children siblings : Forest α)

namespace Forest

def preorder (parent : Option α) : Forest α → List (α × Option α)
  | nil => []
  | cons root children siblings => (root, parent) ::
    (children.preorder (some root) ++ siblings.preorder parent)

def roots : Forest α → List α
  | nil => []
  | cons root _ siblings => root :: siblings.roots

end Forest

/-- The second node is a child of the first. -/
def Child (nodes : List (α × Option α)) (a b : α) : Prop := (b, some a) ∈ nodes

/-- The nodes are further children of the stack, and further trees. -/
def Remaining : List α → List (α × Option α) → List α → Prop
  | [], nodes, roots => ∃ forest : Forest α,
    nodes = forest.preorder none ∧ forest.roots = roots
  | a :: stack, nodes, roots => ∃ (forest : Forest α) (rest : _),
    nodes = forest.preorder (some a) ++ rest ∧ Remaining stack rest roots

/-- The roots that a node adds. -/
def ownRoots (id : α) : Option α → List α
  | none => [id]
  | some _ => []

/-- The part of the stack that a child leaves open. -/
def ancestors [DecidableEq α] (stack : List α) : Option α → List α
  | none => []
  | some a => stack.dropWhile (· ≠ a)

variable {stack roots : List α} {nodes before after : List (α × Option α)}
  {id a : α} {parent : Option α}

theorem ancestors_sublist [DecidableEq α] :
    (ancestors stack parent).Sublist stack := by
  cases parent with
  | none => exact nil_sublist _
  | some a => exact dropWhile_sublist _

theorem remaining_nil : Remaining stack [] roots ↔ roots = [] := by
  induction stack with
  | nil =>
    constructor
    · rintro ⟨_ | _, hnodes, rfl⟩
      · rfl
      · cases hnodes
    · rintro rfl
      exact ⟨.nil, rfl, rfl⟩
  | cons a stack ih =>
    constructor
    · rintro ⟨forest, rest, hnodes, hrest⟩
      cases (append_eq_nil_iff.mp hnodes.symm).2
      exact ih.mp hrest
    · exact fun h => ⟨.nil, [], rfl, ih.mpr h⟩

theorem remaining_cons [DecidableEq α] (hstack : stack.Nodup) :
    Remaining stack ((id, parent) :: nodes) roots ↔
      (∀ a, parent = some a → a ∈ stack) ∧
      ∃ roots', roots = ownRoots id parent ++ roots' ∧
        Remaining (id :: ancestors stack parent) nodes roots' := by
  induction stack with
  | nil =>
    constructor
    · rintro ⟨_ | ⟨root, children, siblings⟩, hnodes, rfl⟩ <;> cases hnodes
      exact ⟨nofun, _, rfl, children, _, rfl, siblings, rfl, rfl⟩
    · rintro ⟨hmem, h⟩
      cases parent with
      | none =>
        obtain ⟨_, rfl, children, _, rfl, siblings, rfl, rfl⟩ := h
        exact ⟨.cons id children siblings, rfl, rfl⟩
      | some a => cases hmem a rfl
  | cons b stack ih =>
    have hfind : ancestors (b :: stack) parent =
        if parent = some b then b :: stack else ancestors stack parent := by
      cases parent with
      | none => rfl
      | some a => by_cases hab : b = a <;> simp [ancestors, hab, Ne.symm]
    constructor
    · rintro ⟨_ | ⟨root, children, siblings⟩, rest, hnodes, hrest⟩ <;>
        cases hnodes
      · obtain ⟨hmem, h⟩ := (ih (nodup_cons.mp hstack).2).mp hrest
        have hne : parent ≠ some b := fun hb =>
          (nodup_cons.mp hstack).1 (hmem b hb)
        rw [hfind, if_neg hne]
        exact ⟨fun a ha => .tail b (hmem a ha), h⟩
      · rw [hfind, if_pos rfl]
        exact ⟨by simp, roots, rfl, children, _, append_assoc _ _ _,
          siblings, rest, rfl, hrest⟩
    · rintro ⟨hmem, h⟩
      by_cases hb : parent = some b
      · rw [hfind, if_pos hb] at h
        obtain ⟨_, rfl, children, _, rfl, siblings, rest, rfl, hrest⟩ := h
        exact ⟨.cons id children siblings, rest,
          by simp [hb, Forest.preorder], by simpa [hb, ownRoots]⟩
      · rw [hfind, if_neg hb] at h
        exact ⟨.nil, _, rfl, (ih (nodup_cons.mp hstack).2).mpr
          ⟨fun a ha => by have := hmem a ha; grind, h⟩⟩

theorem Remaining.drop [DecidableEq α]
    (h : Remaining stack (before ++ after) roots)
    (hnodup : ((before ++ after).map Prod.fst ++ stack).Nodup) :
    ∃ stack' roots', stack' ⊆ before.map Prod.fst ++ stack ∧
      (after.map Prod.fst ++ stack').Nodup ∧ Remaining stack' after roots' := by
  induction before generalizing stack roots with
  | nil => exact ⟨stack, roots, List.Subset.refl _, hnodup, h⟩
  | cons node before ih =>
    obtain ⟨-, _, -, hrest⟩ :=
      (remaining_cons (nodup_append.mp hnodup).2.1).mp h
    have hsub : (node.1 :: ancestors stack node.2).Sublist (node.1 :: stack) :=
      ancestors_sublist.cons_cons _
    obtain ⟨stack', roots', hstack, hafter⟩ := ih hrest
      ((nodup_middle.mpr hnodup).sublist (hsub.append_left _))
    exact ⟨stack', roots', fun _ hmem => perm_middle.subset
      ((hsub.append_left _).subset (hstack hmem)), hafter⟩

theorem Remaining.parent_mem [DecidableEq α]
    (h : Remaining stack (before ++ (id, some a) :: after) roots)
    (hnodup : ((before ++ (id, some a) :: after).map Prod.fst ++ stack).Nodup) :
    a ∈ before.map Prod.fst ++ stack := by
  obtain ⟨stack', _, hstack, hopen, hread⟩ := h.drop hnodup
  obtain ⟨hparent, -⟩ := (remaining_cons (nodup_append.mp hopen).2.1).mp hread
  exact hstack (hparent a rfl)

theorem transGen_of_mem {forest : Forest α} {b : α}
    (hsub : forest.preorder (some a) ⊆ nodes)
    (hmem : b ∈ (forest.preorder (some a)).map Prod.fst) :
    Relation.TransGen (Child nodes) a b := by
  induction forest generalizing a with
  | nil => cases hmem
  | cons root children siblings ihc ihs =>
    simp only [Forest.preorder, cons_subset, append_subset,
      map_cons, map_append, mem_cons, mem_append]
      at hsub hmem
    obtain ⟨hroot, hchildren, hsiblings⟩ := hsub
    rcases hmem with rfl | hmem | hmem
    · exact .single hroot
    · exact .head hroot (ihc hchildren hmem)
    · exact ihs hsiblings hmem

/-- The parent of a node comes before it, and its descendants follow it without
a gap. -/
theorem Remaining.subtree [DecidableEq α] (h : Remaining [] nodes roots)
    (hnodup : (nodes.map Prod.fst).Nodup)
    (hnodes : nodes = before ++ (id, parent) :: after) :
    (∀ a, parent = some a → a ∈ before.map Prod.fst) ∧
    ∃ subtree rest, after = subtree ++ rest ∧ ∀ a, a ∈ subtree.map Prod.fst ↔
      Relation.TransGen (Child nodes) id a := by
  subst hnodes
  rw [← append_nil (List.map _ _)] at hnodup
  obtain ⟨stack, _, hstack, hopen, hread⟩ := h.drop hnodup
  obtain ⟨hparent, _, -, forest, rest, rfl, hrest⟩ :=
    (remaining_cons (nodup_append.mp hopen).2.1).mp hread
  rw [append_nil] at hstack
  refine ⟨fun a ha => hstack (hparent a ha), _, rest, rfl, fun a =>
    ⟨transGen_of_mem fun _ hmem => by simp [hmem], fun hdesc => ?_⟩⟩
  have hclosed : ∀ {a b},
      a = id ∨ a ∈ (forest.preorder (some id)).map Prod.fst → Child
        (before ++ (id, parent) :: (forest.preorder (some id) ++ rest)) a b →
      b ∈ (forest.preorder (some id)).map Prod.fst := by
    intro a b ha hchild
    simp only [Child, mem_append, mem_cons] at hchild
    rcases hchild with hmem | heq | hmem | hmem
    · obtain ⟨first, last, rfl⟩ := append_of_mem hmem
      rw [append_assoc] at h hnodup
      have := h.parent_mem hnodup
      grind
    · have := hstack (hparent a (Prod.mk.inj heq).2.symm)
      grind
    · exact mem_map_of_mem hmem
    · obtain ⟨first, last, rfl⟩ := append_of_mem hmem
      rcases mem_append.mp (hrest.parent_mem
        (hopen.sublist (.append (by simp) ancestors_sublist))) with hmem | hmem
      · grind
      · have := hstack (ancestors_sublist.subset hmem)
        grind
  induction hdesc with
  | single hchild => exact hclosed (.inl rfl) hchild
  | tail _ hchild ih => exact hclosed (.inr ih) hchild

end Listing
