import DeviceRail.Bundle.Model
import Mathlib.Logic.Relation

/-!
# Sizes of JSON values

The bundle validator walks an arbitrary JSON value with an explicit work list,
so that neither a deep nor a wide value can exhaust the stack.  The walk is
compared with the recursive notions of size: the number of nodes and the
height.
-/

namespace DeviceRail

open List

/-! ## Nodes and height -/

mutual

/-- The number of nodes of a value. -/
def Value.nodes : Value → ℕ
  | .array values => 1 + Value.listNodes values
  | .object entries => 1 + Value.entryNodes entries
  | .null => 1
  | .bool _ => 1
  | .number _ => 1
  | .string _ => 1

def Value.listNodes : List Value → ℕ
  | [] => 0
  | value :: values => value.nodes + Value.listNodes values

def Value.entryNodes : List (String × Value) → ℕ
  | [] => 0
  | (_, value) :: entries => value.nodes + Value.entryNodes entries

end

mutual

/-- The number of nodes on a longest path. -/
def Value.height : Value → ℕ
  | .array values => 1 + Value.listHeight values
  | .object entries => 1 + Value.entryHeight entries
  | .null => 1
  | .bool _ => 1
  | .number _ => 1
  | .string _ => 1

def Value.listHeight : List Value → ℕ
  | [] => 0
  | value :: values => max value.height (Value.listHeight values)

def Value.entryHeight : List (String × Value) → ℕ
  | [] => 0
  | (_, value) :: entries => max value.height (Value.entryHeight entries)

end

namespace Value

/-- The direct parts of a value. -/
def children : Value → List Value
  | .array values => values
  | .object entries => entries.map Prod.snd
  | _ => []

theorem listNodes_eq (values : List Value) :
    listNodes values = (values.map nodes).sum := by
  induction values with
  | nil => rfl
  | cons value values ih => rw [listNodes, ih, map_cons, sum_cons]

theorem entryNodes_eq (entries : List (String × Value)) :
    entryNodes entries = ((entries.map Prod.snd).map nodes).sum := by
  induction entries with
  | nil => rfl
  | cons entry entries ih => rw [entryNodes, ih, map_cons, map_cons, sum_cons]

theorem nodes_eq (value : Value) :
    value.nodes = 1 + (value.children.map nodes).sum := by
  cases value with
  | array values => rw [nodes, listNodes_eq, children]
  | object entries => rw [nodes, entryNodes_eq, children]
  | _ => rfl

theorem nodes_pos (value : Value) : 0 < value.nodes := by
  rw [nodes_eq]
  omega

variable {bound : ℕ}

theorem listHeight_le {values : List Value} :
    listHeight values ≤ bound ↔ ∀ value ∈ values, value.height ≤ bound := by
  induction values with
  | nil => simp [listHeight]
  | cons value values ih => rw [listHeight, Nat.max_le, ih, forall_mem_cons]

theorem entryHeight_le {entries : List (String × Value)} :
    entryHeight entries ≤ bound ↔
      ∀ value ∈ entries.map Prod.snd, value.height ≤ bound := by
  induction entries with
  | nil => simp [entryHeight]
  | cons entry entries ih =>
    rw [entryHeight, Nat.max_le, ih, map_cons, forall_mem_cons]

theorem height_le_succ {value : Value} :
    value.height ≤ bound + 1 ↔
      ∀ child ∈ value.children, child.height ≤ bound := by
  have hone : ∀ height, 1 + height ≤ bound + 1 ↔ height ≤ bound := by omega
  cases value with
  | array values => rw [height, hone, listHeight_le, children]
  | object entries => rw [height, hone, entryHeight_le, children]
  | _ => simp [height, children]

theorem height_pos (value : Value) : 0 < value.height := by
  cases value <;> simp only [height] <;> omega

theorem length_le_sum_nodes (values : List Value) :
    values.length ≤ (values.map nodes).sum := by
  induction values with
  | nil => simp
  | cons value values ih =>
    have hpos := value.nodes_pos
    simp only [length_cons, map_cons, sum_cons]
    omega

end Value

/-! ## The walk -/

def jsonNodeLimit (limits : BundleLimits) : ModelError :=
  .limitExceeded "event JSON nodes" limits.maxJsonNodes

/-- The body of the loop of `validate_json_value` for a node that may still be
observed, with `remaining` others: its children go on top of the work list. -/
def expandJson (limits : BundleLimits) (remaining : ℕ) :
    Value × ℕ → List (Value × ℕ) → Except ModelError (List (Value × ℕ))
  | (value, depth), pending =>
    if limits.maxJsonDepth < depth then .error .jsonDepthLimit
    else if usizeMax < depth + 1 then .error .jsonDepthLimit
    else if remaining < pending.length then .error (jsonNodeLimit limits)
    else if remaining - pending.length < value.children.length then
      .error (jsonNodeLimit limits)
    else .ok (value.children.reverse.map (·, depth + 1) ++ pending)

/-- The loop: `remaining` nodes may still be observed, and the work list is a
stack of values with their depths. -/
def validateJsonLoop (limits : BundleLimits) :
    ℕ → List (Value × ℕ) → Except ModelError Unit
  | _, [] => .ok ()
  | 0, (_, depth) :: _ =>
    if limits.maxJsonDepth < depth then .error .jsonDepthLimit
    else .error (jsonNodeLimit limits)
  | remaining + 1, entry :: pending => do
    let pending ← expandJson limits remaining entry pending
    validateJsonLoop limits remaining pending

def validateJsonValue (limits : BundleLimits) (root : Value)
    (initialDepth : ℕ) : Except ModelError Unit :=
  validateJsonLoop limits limits.maxJsonNodes [(root, initialDepth)]

/-- The value fits below a depth. -/
def DepthFits (limits : BundleLimits) (entry : Value × ℕ) : Prop :=
  entry.2 + entry.1.height ≤ limits.maxJsonDepth + 1 ∧
    entry.2 + entry.1.height ≤ usizeMax

variable {limits : BundleLimits} {remaining : ℕ} {pending : List (Value × ℕ)}

/-- A value fits when it fits itself and its children fit one level down. -/
theorem depthFits_iff {value : Value} {depth : ℕ} :
    DepthFits limits (value, depth) ↔
      (depth ≤ limits.maxJsonDepth ∧ depth + 1 ≤ usizeMax) ∧
        ∀ child ∈ value.children, DepthFits limits (child, depth + 1) := by
  have hstep : ∀ bound, depth + value.height ≤ bound ↔
      depth + 1 ≤ bound ∧
        ∀ child ∈ value.children, depth + 1 + child.height ≤ bound := by
    intro bound
    have hpos := value.height_pos
    constructor
    · intro hle
      have hheight : value.height ≤ (bound - (depth + 1)) + 1 := by omega
      have hchildren := Value.height_le_succ.mp hheight
      refine ⟨by omega, fun child hmem => ?_⟩
      have hchild := hchildren child hmem
      omega
    · rintro ⟨hdepth, hchildren⟩
      have hheight : value.height ≤ (bound - (depth + 1)) + 1 := by
        apply Value.height_le_succ.mpr
        intro child hmem
        have hchild := hchildren child hmem
        omega
      omega
  unfold DepthFits
  simp only [hstep]
  constructor
  · rintro ⟨⟨hdepth, hchildren⟩, hsize, hchildren'⟩
    exact ⟨⟨by omega, hsize⟩, fun child hmem =>
      ⟨hchildren child hmem, hchildren' child hmem⟩⟩
  · rintro ⟨⟨hdepth, hsize⟩, hchildren⟩
    exact ⟨⟨by omega, fun child hmem => (hchildren child hmem).1⟩, hsize,
      fun child hmem => (hchildren child hmem).2⟩

theorem expandJson_eq_ok {depth : ℕ} {value : Value}
    {pending' : List (Value × ℕ)} :
    expandJson limits remaining (value, depth) pending = .ok pending' ↔
      depth ≤ limits.maxJsonDepth ∧ depth + 1 ≤ usizeMax ∧
        pending.length ≤ remaining ∧
        value.children.length ≤ remaining - pending.length ∧
        value.children.reverse.map (·, depth + 1) ++ pending = pending' := by
  simp only [expandJson, Fallible.guard_eq_ok, Except.ok.injEq, not_lt]

/-- The walk accepts exactly the work lists that fit: the early exits refuse
nothing else. -/
theorem validateJsonLoop_eq_ok (remaining : ℕ) (pending : List (Value × ℕ)) :
    validateJsonLoop limits remaining pending = .ok () ↔
      (pending.map (fun entry => entry.1.nodes)).sum ≤ remaining ∧
        ∀ entry ∈ pending, DepthFits limits entry := by
  induction remaining generalizing pending with
  | zero =>
    cases pending with
    | nil => simp [validateJsonLoop]
    | cons entry pending =>
      obtain ⟨value, depth⟩ := entry
      have hpos := value.nodes_pos
      have hfail : validateJsonLoop limits 0 ((value, depth) :: pending) ≠
          .ok () := by
        unfold validateJsonLoop
        split <;> simp
      simp only [hfail, map_cons, sum_cons, false_iff]
      omega
  | succ remaining ih =>
    cases pending with
    | nil => simp [validateJsonLoop]
    | cons entry pending =>
      obtain ⟨value, depth⟩ := entry
      have hnodes := value.nodes_eq
      have hlength : pending.length ≤
          (pending.map (fun entry => entry.1.nodes)).sum := by
        simpa [Function.comp_def] using
          Value.length_le_sum_nodes (pending.map Prod.fst)
      have hchildren := Value.length_le_sum_nodes value.children
      have hsum : ((value.children.reverse.map (·, depth + 1) ++
          pending).map (fun entry => entry.1.nodes)).sum =
          (value.children.map Value.nodes).sum +
            (pending.map (fun entry => entry.1.nodes)).sum := by
        rw [map_append, sum_append, map_map, map_reverse, sum_reverse]
        rfl
      have hfits : (∀ entry ∈ value.children.reverse.map (·, depth + 1) ++
          pending, DepthFits limits entry) ↔
          (∀ child ∈ value.children, DepthFits limits (child, depth + 1)) ∧
            ∀ entry ∈ pending, DepthFits limits entry := by
        simp only [forall_mem_append, forall_mem_map, mem_reverse]
      rw [map_cons, sum_cons, forall_mem_cons, depthFits_iff]
      rw [validateJsonLoop, Fallible.bind_eq_ok]
      simp only [expandJson_eq_ok]
      constructor
      · rintro ⟨_, ⟨hdepth, hnext, -, -, rfl⟩, hok⟩
        rw [ih, hsum, hfits] at hok
        obtain ⟨hle, hbelow, hrest⟩ := hok
        exact ⟨by omega, ⟨⟨hdepth, hnext⟩, hbelow⟩, hrest⟩
      · rintro ⟨hle, ⟨⟨hdepth, hnext⟩, hbelow⟩, hrest⟩
        refine ⟨_, ⟨hdepth, hnext, by omega, by omega, rfl⟩, ?_⟩
        rw [ih, hsum, hfits]
        exact ⟨by omega, hbelow, hrest⟩

/-- The value is within the limits. -/
def JsonFits (limits : BundleLimits) (root : Value) (initialDepth : ℕ) : Prop :=
  root.nodes ≤ limits.maxJsonNodes ∧ DepthFits limits (root, initialDepth)

theorem validateJsonValue_eq_ok {root : Value} {initialDepth : ℕ} :
    validateJsonValue limits root initialDepth = .ok () ↔
      JsonFits limits root initialDepth := by
  unfold validateJsonValue
  rw [validateJsonLoop_eq_ok]
  simp [JsonFits]

/-! ## Every node and every work list -/

/-- `NodeAt root initialDepth node depth`: a node of the root and its depth. -/
inductive NodeAt (root : Value) (initialDepth : ℕ) : Value → ℕ → Prop
  | root : NodeAt root initialDepth root initialDepth
  | child {node child : Value} {depth : ℕ}
      (hnode : NodeAt root initialDepth node depth)
      (hchild : child ∈ node.children) : NodeAt root initialDepth child (depth + 1)

/-- A pass of the loop that goes on, with the work list that its body left. -/
inductive JsonPass (limits : BundleLimits) :
    ℕ × List (Value × ℕ) → ℕ × List (Value × ℕ) → Prop
  | continue {remaining entry pending pending'}
      (hbody : expandJson limits remaining entry pending = .ok pending') :
      JsonPass limits (remaining + 1, entry :: pending) (remaining, pending')

section

variable {root node : Value} {initialDepth depth : ℕ}

theorem NodeAt.depthFits (h : NodeAt root initialDepth node depth)
    (hroot : DepthFits limits (root, initialDepth)) :
    DepthFits limits (node, depth) := by
  induction h with
  | root => exact hroot
  | child _ hchild ih => exact (depthFits_iff.mp ih).2 _ hchild

theorem depthFits_of_nodes (root : Value) (initialDepth : ℕ)
    (h : ∀ node depth, NodeAt root initialDepth node depth →
      depth ≤ limits.maxJsonDepth ∧ depth + 1 ≤ usizeMax) :
    DepthFits limits (root, initialDepth) := by
  generalize hroom : limits.maxJsonDepth - initialDepth = room
  induction room generalizing root initialDepth with
  | zero =>
    refine depthFits_iff.mpr ⟨h _ _ .root, fun child hchild => ?_⟩
    have hbelow := (h _ _ (.child .root hchild)).1
    omega
  | succ room ih =>
    refine depthFits_iff.mpr ⟨h _ _ .root, fun child hchild =>
      ih child (initialDepth + 1) (fun node depth hnode => ?_) (by omega)⟩
    refine h node depth ?_
    induction hnode with
    | root => exact .child .root hchild
    | child _ hbelow ih => exact .child ih hbelow

variable {state state' : ℕ × List (Value × ℕ)}

theorem JsonPass.same_answer (h : JsonPass limits state state') :
    validateJsonLoop limits state'.1 state'.2 =
      validateJsonLoop limits state.1 state.2 := by
  obtain ⟨hbody⟩ := h
  rw [validateJsonLoop.eq_def limits (_ + 1)]
  simp only [hbody, Fallible.ok_bind]

theorem JsonPass.length_le (h : JsonPass limits state state') :
    state'.2.length ≤ state'.1 ∧ state'.1 < state.1 := by
  obtain ⟨hbody⟩ := h
  obtain ⟨-, -, hpending, havailable, rfl⟩ := expandJson_eq_ok.mp hbody
  simp only [length_append, length_map, length_reverse]
  omega

/-- A walk that accepts makes passes until its work list is empty. -/
theorem exists_jsonPasses
    (hok : validateJsonLoop limits remaining pending = .ok ()) :
    ∃ left, Relation.ReflTransGen (JsonPass limits) (remaining, pending)
      (left, []) := by
  induction remaining generalizing pending with
  | zero =>
    cases pending with
    | nil => exact ⟨0, .refl⟩
    | cons entry pending =>
      unfold validateJsonLoop at hok
      split at hok <;> cases hok
  | succ remaining ih =>
    cases pending with
    | nil => exact ⟨remaining + 1, .refl⟩
    | cons entry pending =>
      obtain ⟨pending', hbody, hrest⟩ := Fallible.bind_eq_ok.mp hok
      obtain ⟨left, hpasses⟩ := ih hrest
      exact ⟨left, .head (.continue hbody) hpasses⟩

end

/-- The walk accepts a value exactly when its nodes are not too many and none
of them is too deep.  It then makes passes until no entry is left, and after
every pass the work list is within the limit on nodes, or is the root alone. -/
theorem json_walk_exact (limits : BundleLimits) (root : Value)
    (initialDepth : ℕ) :
    (validateJsonValue limits root initialDepth = .ok () ↔
      root.nodes ≤ limits.maxJsonNodes ∧
        ∀ node depth, NodeAt root initialDepth node depth →
          depth ≤ limits.maxJsonDepth ∧ depth < usizeMax) ∧
    (validateJsonValue limits root initialDepth = .ok () →
      ∃ left, Relation.ReflTransGen (JsonPass limits)
        (limits.maxJsonNodes, [(root, initialDepth)]) (left, [])) ∧
    ∀ state, Relation.ReflTransGen (JsonPass limits)
        (limits.maxJsonNodes, [(root, initialDepth)]) state →
      validateJsonLoop limits state.1 state.2 =
          validateJsonValue limits root initialDepth ∧
        state.1 ≤ limits.maxJsonNodes ∧
        state.2.length ≤ max 1 limits.maxJsonNodes := by
  refine ⟨?_, exists_jsonPasses, ?_⟩
  · rw [validateJsonValue_eq_ok]
    refine and_congr_right fun _ => ⟨fun hfits node depth hnode => ?_,
      depthFits_of_nodes root initialDepth⟩
    exact (depthFits_iff.mp (hnode.depthFits hfits)).1
  · intro state hpasses
    induction hpasses with
    | refl => exact ⟨rfl, Nat.le_refl _, Nat.le_max_left _ _⟩
    | tail _ hpass ih =>
      obtain ⟨hanswer, hle, -⟩ := ih
      obtain ⟨hlength, hless⟩ := hpass.length_le
      exact ⟨hpass.same_answer.trans hanswer, by omega, by omega⟩

/-- A value at the greatest depth is refused under the greatest limit, and the
work list holds the root even when no node is allowed. -/
theorem json_walk_outside_limits :
    ((∀ node depth, NodeAt .null usizeMax node depth → depth ≤ usizeMax) ∧
      validateJsonValue { BundleLimits.default with maxJsonDepth := usizeMax }
        .null usizeMax = .error .jsonDepthLimit) ∧
    ∃ state, Relation.ReflTransGen
        (JsonPass { BundleLimits.default with maxJsonNodes := 0 })
        (0, [(.null, 0)]) state ∧ 0 < state.2.length := by
  refine ⟨⟨fun node depth hnode => ?_, rfl⟩, _, .refl, Nat.zero_lt_one⟩
  suffices hroot : node = .null ∧ depth = usizeMax from
    Nat.le_of_eq hroot.2
  induction hnode with
  | root => exact ⟨rfl, rfl⟩
  | child _ hchild ih =>
    rw [ih.1] at hchild
    cases hchild

end DeviceRail
