import DeviceRail.Protocol.Ui
import DeviceRail.Support.Preorder

/-!
# UI snapshots

A snapshot is a forest of nodes in preorder.  `UiSnapshot::validate` reads the
nodes once, with the stack of the open ancestors, innermost first.
-/

namespace DeviceRail

open Listing Fallible List

def maxUiRoleLength : ℕ := 256

def maxUiTextLength : ℕ := 65536

structure UiRect where
  x : Float64
  y : Float64
  width : Float64
  height : Float64

def UiRect.isValid (rect : UiRect) : Bool :=
  rect.x.isFinite && rect.y.isFinite && rect.width.isFinite &&
    rect.height.isFinite && rect.width.geZero && rect.height.geZero

/-- The fields that validation reads. -/
structure UiNode where
  stableNodeId : String
  parentStableNodeId : Option String
  role : String
  name : Option String
  value : Option String
  identifier : Option String
  text : Option String
  bounds : Option UiRect

def validateOptional (value : Option String) (field : String) (max : ℕ) :
    Except UiContractError Unit :=
  if value.any (max < ·.length) then .error (.fieldTooLong field) else .ok ()

def UiNode.validate (node : UiNode) : Except UiContractError Unit := do
  validateRequired node.stableNodeId "stableNodeId" maxUiIdentifierLength
  if let some parent := node.parentStableNodeId then
    validateRequired parent "parentStableNodeId" maxUiIdentifierLength
  validateRequired node.role "role" maxUiRoleLength
  validateOptional node.name "name" maxUiTextLength
  validateOptional node.value "value" maxUiTextLength
  validateOptional node.identifier "identifier" maxUiIdentifierLength
  validateOptional node.text "text" maxUiTextLength
  if node.bounds.any (!·.isValid) then
    throw (.invalidBounds node.stableNodeId)

structure UiSnapshot where
  formatVersion : ℕ
  context : UiContextRef
  rootStableNodeIds : List String
  nodes : List UiNode

/-- The variables of the loop over the nodes. -/
structure UiScan where
  seen : List String
  stack : List String
  actualRoots : List String

/-- One round of the loop. -/
def UiScan.visit (scan : UiScan) (node : UiNode) :
    Except UiContractError UiScan := do
  node.validate
  let id := node.stableNodeId
  if id ∈ scan.seen then .error (.duplicateStableNodeId id)
  else match node.parentStableNodeId with
    | none => .ok ⟨id :: scan.seen, [id], scan.actualRoots ++ [id]⟩
    | some parent =>
      if parent ∉ id :: scan.seen then .error (.missingOrLateParent id)
      else if parent ∉ scan.stack then .error (.invalidPreorder id)
      else .ok ⟨id :: scan.seen, id :: scan.stack.dropWhile (· ≠ parent),
        scan.actualRoots⟩

def UiSnapshot.validate (snapshot : UiSnapshot) :
    Except UiContractError Unit :=
  if snapshot.formatVersion ≠ uiSnapshotFormatVersion then
    .error (.unsupportedSnapshotFormat snapshot.formatVersion)
  else do
    snapshot.context.validate
    if snapshot.nodes = [] ∨ snapshot.rootStableNodeIds = [] then
      .error .emptySnapshot
    else if maxUiSnapshotNodes < snapshot.nodes.length then
      .error (.tooManyNodes snapshot.nodes.length)
    else do
      let scan ← snapshot.nodes.foldlM UiScan.visit ⟨[], [], []⟩
      if scan.actualRoots ≠ snapshot.rootStableNodeIds then
        .error .invalidRootOrder
      else .ok ()

/-- The node in the listing of a forest. -/
def UiNode.entry (node : UiNode) : String × Option String :=
  (node.stableNodeId, node.parentStableNodeId)

def UiSnapshot.entries (snapshot : UiSnapshot) :
    List (String × Option String) :=
  snapshot.nodes.map UiNode.entry

namespace UiScan

variable {scan scan' : UiScan} {node : UiNode} {nodes : List UiNode}
  {all : List String}

theorem visit_eq_ok (hstack : scan.stack ⊆ scan.seen) :
    scan.visit node = .ok scan' ↔ node.validate = .ok () ∧
      node.stableNodeId ∉ scan.seen ∧
      (∀ a, node.parentStableNodeId = some a → a ∈ scan.stack) ∧
      ⟨node.stableNodeId :: scan.seen,
        node.stableNodeId :: ancestors scan.stack node.parentStableNodeId,
        scan.actualRoots ++
          ownRoots node.stableNodeId node.parentStableNodeId⟩ = scan' := by
  unfold visit
  rw [bind_eq_ok]
  cases node.validate <;> cases node.parentStableNodeId <;>
    simp +contextual [guard_eq_ok, ancestors, ownRoots]
  grind

/-- The scan accepts the further nodes iff they are valid, new and what remains
of a forest below the stack. -/
theorem visits_iff (hstack : scan.stack.Sublist scan.seen)
    (hseen : scan.seen.Nodup) :
    (∃ scan', nodes.foldlM visit scan = .ok scan' ∧ scan'.actualRoots = all) ↔
    (∀ node ∈ nodes, node.validate = .ok ()) ∧
      ((nodes.map UiNode.entry).map Prod.fst ++ scan.seen).Nodup ∧
      ∃ roots, all = scan.actualRoots ++ roots ∧
        Remaining scan.stack (nodes.map UiNode.entry) roots := by
  induction nodes generalizing scan with
  | nil => simp [hseen, remaining_nil, pure, Except.pure, eq_comm]
  | cons node nodes ih =>
    simp only [foldlM_cons, bind_eq_ok, visit_eq_ok hstack.subset,
      forall_mem_cons, map_cons, UiNode.entry, cons_append,
      ← @nodup_middle _ node.stableNodeId]
    by_cases hnew : node.stableNodeId ∈ scan.seen
    · simp [hnew, nodup_middle]
    have hnext := fun roots => @ih ⟨_, node.stableNodeId ::
      ancestors scan.stack node.parentStableNodeId, roots⟩
      ((ancestors_sublist.trans hstack).cons_cons _)
      (nodup_cons.mpr ⟨hnew, hseen⟩)
    simp [remaining_cons (hseen.sublist hstack), hnew, and_assoc, hnext]
    grind

end UiScan

namespace UiSnapshot

/-- The nodes are the preorder of a forest with distinct ids and the given
roots. -/
structure WellFormed (snapshot : UiSnapshot) : Prop where
  version : snapshot.formatVersion = uiSnapshotFormatVersion
  context : snapshot.context.validate = .ok ()
  nodes : ∀ node ∈ snapshot.nodes, node.validate = .ok ()
  nonempty : 1 ≤ snapshot.nodes.length
  bounded : snapshot.nodes.length ≤ maxUiSnapshotNodes
  distinct : (snapshot.entries.map Prod.fst).Nodup
  forest : ∃ forest : Forest String, snapshot.entries = forest.preorder none ∧
    forest.roots = snapshot.rootStableNodeIds

/-- A snapshot is accepted iff it is well-formed.  Then no node is below itself,
parents come first, and the nodes below a node follow it without a gap. -/
theorem validate_exact (snapshot : UiSnapshot) :
    (snapshot.validate = .ok () ↔ snapshot.WellFormed) ∧
    (snapshot.WellFormed →
      (∀ id, ¬Relation.TransGen (Child snapshot.entries) id id) ∧
      ∀ before id parent after,
        snapshot.entries = before ++ (id, parent) :: after →
        (∀ a, parent = some a → a ∈ before.map Prod.fst) ∧
        ∃ subtree rest, after = subtree ++ rest ∧ ∀ a,
          a ∈ subtree.map Prod.fst ↔
            Relation.TransGen (Child snapshot.entries) id a) := by
  constructor
  · have hscan := @UiScan.visits_iff ⟨[], [], []⟩ snapshot.nodes
      snapshot.rootStableNodeIds (.refl _) nodup_nil
    simp only [append_nil, nil_append, exists_eq_left'] at hscan
    simp only [validate, guard_eq_ok, bind_eq_ok, not_not, not_or, and_true,
      hscan]
    constructor
    · rintro ⟨hversion, _, hcontext, ⟨hnonempty, -⟩, hbounded, hnodes, hdistinct,
        hforest⟩
      exact ⟨hversion, hcontext, hnodes, length_pos_iff.mpr hnonempty,
        Nat.not_lt.mp hbounded, hdistinct, hforest⟩
    · intro h
      refine ⟨h.version, (), h.context, ⟨length_pos_iff.mp h.nonempty, ?_⟩,
        Nat.not_lt.mpr h.bounded, h.nodes, h.distinct, h.forest⟩
      obtain ⟨_ | _, hentries, hroots⟩ := h.forest
      · have := h.nonempty
        simp_all [entries, Forest.preorder]
      · exact hroots ▸ cons_ne_nil _ _
  · intro h
    have hforest : Remaining [] snapshot.entries snapshot.rootStableNodeIds :=
      h.forest
    refine ⟨fun id hcycle => ?_, fun _ _ _ _ => hforest.subtree h.distinct⟩
    obtain ⟨a, -, hchild⟩ := Relation.TransGen.tail'_iff.mp hcycle
    obtain ⟨before, after, hentries⟩ := append_of_mem hchild
    obtain ⟨-, subtree, rest, rfl, hbelow⟩ :=
      hforest.subtree h.distinct hentries
    have hdistinct := h.distinct
    grind

end UiSnapshot

end DeviceRail
