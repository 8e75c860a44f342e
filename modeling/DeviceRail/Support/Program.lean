import Mathlib.Logic.Basic

/-!
# Interruptible programs

Sequential programs over a state they share with others.  A program looks at
the state or acts on it, one primitive at a time; the environment may change
the state between two primitives, may let a primitive fail, and may stop the
program anywhere.  Programs are finite trees, so that a program that is run
alone always ends.

The rules below are those of a rely-guarantee logic in weakest-precondition
form.  A `Setting` says what the environment may do (`rely`, the faults) and
what the program must respect (`permitted`); `wp` is the property of a program
that every primitive it performs is permitted and that the postcondition holds
where it ends.
-/

/-- The primitives of a program: the states, the actions with their effect,
the kinds of looks, and what a fault reports.  An action may depend on a choice
of the environment, and it may be impossible in a state. -/
structure Interface where
  State : Type
  Action : Type
  Probe : Type
  Fault : Type
  Choice : Type
  apply : Action → Choice → State → Option State

/-- A program: a result, a look at the state, or an action, with what follows
a success and what follows a fault. -/
inductive Prog (I : Interface) (α : Type) where
  | done (value : α)
  | look (probe : I.Probe) (next : Except I.Fault I.State → Prog I α)
  | act (action : I.Action) (next : Except I.Fault Unit → Prog I α)

/-- What the environment does at the next primitive. -/
inductive Turn (I : Interface) where
  | go (choice : I.Choice)
  | fault (fault : I.Fault)

/-- Which primitives may fail, in which states. -/
structure Faults (I : Interface) where
  look : I.Probe → I.State → Prop
  act : I.Action → I.State → Prop

/-- The assumptions a program is run under, and what it may do. -/
structure Setting (I : Interface) where
  faults : Faults I
  invariant : I.State → Prop
  rely : I.State → I.State → Prop
  permitted : I.Action → I.State → Prop
  rely_refl : ∀ s, rely s s
  rely_trans : ∀ s t u, rely s t → rely t u → rely s u

/-- The same setting, with everything permitted. -/
def Setting.free {I : Interface} (K : Setting I) : Setting I :=
  { K with permitted := fun _ _ => True }

variable {I : Interface} {α β : Type}

namespace Prog

def bind : Prog I α → (α → Prog I β) → Prog I β
  | .done value, f => f value
  | .look probe next, f => .look probe fun seen => (next seen).bind f
  | .act action next, f => .act action fun answer => (next answer).bind f

/-! ## Execution -/

/-- One primitive of a program. -/
def step : Prog I α → I.State → Turn I → Option (Prog I α × I.State)
  | .done _, _, _ => none
  | .look _ next, s, .go _ => some (next (.ok s), s)
  | .look _ next, s, .fault fault => some (next (.error fault), s)
  | .act action next, s, .go choice =>
    (I.apply action choice s).map fun t => (next (.ok ()), t)
  | .act _ next, s, .fault fault => some (next (.error fault), s)

/-- The environment's turn is possible: it strikes a primitive that may fail,
or an action that the state does not allow. -/
def Admits (F : Faults I) : Prog I α → I.State → Turn I → Prop
  | .look probe _, s, .fault _ => F.look probe s
  | .act action _, s, .fault _ =>
    F.act action s ∨ ∃ choice, I.apply action choice s = none
  | _, _, .go _ => True
  | .done _, _, .fault _ => False

/-- A whole run that is left alone and meets no fault; `fault` is what an
impossible action reports. -/
def run (choose : I.Action → I.State → I.Choice) (fault : I.Fault) :
    Prog I α → I.State → α × I.State
  | .done value, s => (value, s)
  | .look _ next, s => (next (.ok s)).run choose fault s
  | .act action next, s =>
    match I.apply action (choose action s) s with
    | some t => (next (.ok ())).run choose fault t
    | none => (next (.error fault)).run choose fault s

/-! ## Weakest preconditions -/

/-- Every primitive the program performs is permitted, and it ends in a state
where its result meets `post`. -/
def wp (K : Setting I) (post : α → I.State → Prop) :
    Prog I α → I.State → Prop
  | .done value, s => ∀ t, K.rely s t → K.invariant t → post value t
  | .look probe next, s => ∀ t, K.rely s t → K.invariant t →
      wp K post (next (.ok t)) t ∧
        (K.faults.look probe t → ∀ fault, wp K post (next (.error fault)) t)
  | .act action next, s => ∀ t, K.rely s t → K.invariant t →
      K.permitted action t ∧
        (∀ choice u, I.apply action choice t = some u →
          wp K post (next (.ok ())) u) ∧
        ((K.faults.act action t ∨ ∃ choice, I.apply action choice t = none) →
          ∀ fault, wp K post (next (.error fault)) t)

section

variable {K : Setting I} {post post' : α → I.State → Prop} {p : Prog I α}
  {t : I.State}

/-- The environment cannot break a precondition. -/
theorem wp_stable {s : I.State} (h : wp K post p s) (hst : K.rely s t) :
    wp K post p t := by
  cases p with
  | _ => exact fun u htu => h u (K.rely_trans _ _ _ hst htu)

variable {s : I.State}

/-- A program that may start where it is meets every condition its
precondition gives in the states the environment can lead to. -/
theorem wp_mono (h : wp K post p s) (hpost : ∀ value t, K.invariant t →
      (∀ u, K.rely t u → K.invariant u → post value u) → post' value t) :
    wp K post' p s := by
  induction p generalizing s with
  | done value =>
    intro t hst hinv
    exact hpost value t hinv fun u htu hu => h u (K.rely_trans _ _ _ hst htu) hu
  | look probe next ih =>
    intro t hst hinv
    obtain ⟨hok, hfault⟩ := h t hst hinv
    exact ⟨ih _ hok, fun hf fault => ih _ (hfault hf fault)⟩
  | act action next ih =>
    intro t hst hinv
    obtain ⟨hmay, hok, hfault⟩ := h t hst hinv
    exact ⟨hmay, fun choice u hu => ih _ (hok choice u hu),
      fun hf fault => ih _ (hfault hf fault)⟩

/-- It is enough to look at the states the environment can lead to. -/
theorem wp_of_later (h : ∀ t, K.rely s t → K.invariant t → wp K post p t) :
    wp K post p s := by
  cases p with
  | _ => exact fun t hst hinv => h t hst hinv t (K.rely_refl t) hinv

theorem wp_bind {f : α → Prog I β} {post : β → I.State → Prop}
    (h : wp K (fun value t => wp K post (f value) t) p s) :
    wp K post (p.bind f) s := by
  induction p generalizing s with
  | done value => exact wp_of_later h
  | look probe next ih =>
    intro t hst hinv
    obtain ⟨hok, hfault⟩ := h t hst hinv
    exact ⟨ih _ hok, fun hf fault => ih _ (hfault hf fault)⟩
  | act action next ih =>
    intro t hst hinv
    obtain ⟨hmay, hok, hfault⟩ := h t hst hinv
    exact ⟨hmay, fun choice u hu => ih _ (hok choice u hu),
      fun hf fault => ih _ (hfault hf fault)⟩

/-- What one admitted primitive of a program that may run does: it is a look
and changes nothing, or a permitted action; and the rest may run. -/
theorem wp_step {q : Prog I α} {turn : Turn I} (h : wp K post p s)
    (hinv : K.invariant s) (hadmits : p.Admits K.faults s turn)
    (hstep : p.step s turn = some (q, t)) :
    wp K post q t ∧
      (t = s ∨ ∃ action choice, K.permitted action s ∧
        I.apply action choice s = some t) := by
  cases p with
  | done value => cases hstep
  | look probe next =>
    obtain ⟨hok, hfault⟩ := h s (K.rely_refl s) hinv
    cases turn with
    | go choice =>
      cases hstep
      exact ⟨hok, .inl rfl⟩
    | fault fault =>
      cases hstep
      exact ⟨hfault hadmits fault, .inl rfl⟩
  | act action next =>
    obtain ⟨hmay, hok, hfault⟩ := h s (K.rely_refl s) hinv
    cases turn with
    | go choice =>
      obtain ⟨u, hu, heq⟩ := Option.map_eq_some_iff.mp hstep
      cases heq
      exact ⟨hok choice _ hu, .inr ⟨action, choice, hmay, hu⟩⟩
    | fault fault =>
      cases hstep
      exact ⟨hfault hadmits fault, .inl rfl⟩

/-- What a program meets can be shown in parts, one of them without looking at
what is permitted. -/
theorem wp_and (h : wp K post p s) (h' : wp K.free post' p s) :
    wp K (fun value t => post value t ∧ post' value t) p s := by
  induction p generalizing s with
  | done value => exact fun t hst hinv => ⟨h t hst hinv, h' t hst hinv⟩
  | look probe next ih =>
    intro t hst hinv
    obtain ⟨hok, hfault⟩ := h t hst hinv
    obtain ⟨hok', hfault'⟩ := h' t hst hinv
    exact ⟨ih _ hok hok',
      fun hf fault => ih _ (hfault hf fault) (hfault' hf fault)⟩
  | act action next ih =>
    intro t hst hinv
    obtain ⟨hmay, hok, hfault⟩ := h t hst hinv
    obtain ⟨-, hok', hfault'⟩ := h' t hst hinv
    exact ⟨hmay, fun choice u hu => ih _ (hok choice u hu) (hok' choice u hu),
      fun hf fault => ih _ (hfault hf fault) (hfault' hf fault)⟩

/-- A property that the environment and every permitted action keep holds
where the program ends. -/
theorem wp_keep {J : I.State → Prop} (h : wp K post p s)
    (hrely : ∀ s t, K.rely s t → J s → J t)
    (hkeep : ∀ action choice t u, K.permitted action t → K.invariant t →
      J t → I.apply action choice t = some u → J u) (hs : J s) :
    wp K (fun value t => post value t ∧ J t) p s := by
  induction p generalizing s with
  | done value => exact fun t hst hinv => ⟨h t hst hinv, hrely s t hst hs⟩
  | look probe next ih =>
    intro t hst hinv
    have ht := hrely s t hst hs
    obtain ⟨hok, hfault⟩ := h t hst hinv
    exact ⟨ih _ hok ht, fun hf fault => ih _ (hfault hf fault) ht⟩
  | act action next ih =>
    intro t hst hinv
    have ht := hrely s t hst hs
    obtain ⟨hmay, hok, hfault⟩ := h t hst hinv
    exact ⟨hmay, fun choice u hu =>
        ih _ (hok choice u hu) (hkeep action choice t u hmay hinv ht hu),
      fun hf fault => ih _ (hfault hf fault) ht⟩

/-- A finished program meets its postcondition. -/
theorem wp_done {value : α} (h : wp K post (.done value) s)
    (hinv : K.invariant s) : post value s :=
  h s (K.rely_refl s) hinv

/-- A run that is left alone ends where the postcondition holds. -/
theorem wp_run (h : wp K post p s) (hinv : K.invariant s)
    (hkeep : ∀ action choice s t, K.invariant s → K.permitted action s →
      I.apply action choice s = some t → K.invariant t)
    (choose : I.Action → I.State → I.Choice) (fault : I.Fault) :
    post (p.run choose fault s).1 (p.run choose fault s).2 := by
  induction p generalizing s with
  | done value => exact wp_done h hinv
  | look probe next ih => exact ih _ (h s (K.rely_refl s) hinv).1 hinv
  | act action next ih =>
    obtain ⟨hmay, hok, hfault⟩ := h s (K.rely_refl s) hinv
    simp only [run]
    split
    next t ht => exact ih _ (hok _ t ht) (hkeep action _ s t hinv hmay ht)
    next ht => exact ih _ (hfault (.inr ⟨_, ht⟩) fault) hinv

end

/-! ## The actions of a program -/

/-- Every action of the program, on every branch, satisfies `P`. -/
def Only (P : I.Action → Prop) : Prog I α → Prop
  | .done _ => True
  | .look _ next => ∀ seen, (next seen).Only P
  | .act action next => P action ∧ ∀ answer, (next answer).Only P

section

variable {P : I.Action → Prop} {p : Prog I α}

theorem Only.bind {f : α → Prog I β} (hp : p.Only P)
    (hf : ∀ value, (f value).Only P) : (p.bind f).Only P := by
  induction p with
  | done value => exact hf value
  | look probe next ih => exact fun seen => ih seen (hp seen)
  | act action next ih => exact ⟨hp.1, fun answer => ih answer (hp.2 answer)⟩

/-- A property that the environment and the actions of a program keep holds
where the program ends, when the property permits these actions. -/
theorem Only.wp {K : Setting I} {J : I.State → Prop} {s : I.State}
    (hp : p.Only P) (hrely : ∀ s t, K.rely s t → J s → J t)
    (hmay : ∀ action t, P action → K.invariant t → J t → K.permitted action t)
    (hkeep : ∀ action choice t u, P action → K.invariant t → J t →
      I.apply action choice t = some u → J u) (hs : J s) :
    Prog.wp K (fun _ t => J t) p s := by
  induction p generalizing s with
  | done value => exact fun t hst _ => hrely s t hst hs
  | look probe next ih =>
    intro t hst hinv
    have ht := hrely s t hst hs
    exact ⟨ih _ (hp _) ht, fun _ fault => ih _ (hp _) ht⟩
  | act action next ih =>
    intro t hst hinv
    have ht := hrely s t hst hs
    exact ⟨hmay action t hp.1 hinv ht, fun choice u hu =>
        ih _ (hp.2 _) (hkeep action choice t u hp.1 hinv ht hu),
      fun _ fault => ih _ (hp.2 _) ht⟩

end

end Prog

/-! ## Fallible programs -/

/-- A program that ends with a value or with an error. -/
def Script (I : Interface) (ε α : Type) : Type := Prog I (Except ε α)

namespace Script

variable {ε : Type} {c : Prop}

def bind (x : Script I ε α) (f : α → Script I ε β) : Script I ε β :=
  Prog.bind x fun
    | .ok value => f value
    | .error e => Prog.done (.error e)

def handle (x : Script I ε α) (h : ε → Script I ε α) : Script I ε α :=
  Prog.bind x fun
    | .ok value => Prog.done (.ok value)
    | .error e => h e

instance : Monad (Script I ε) where
  pure value := Prog.done (.ok value)
  bind := bind

instance : MonadExcept ε (Script I ε) where
  throw e := Prog.done (.error e)
  tryCatch := handle

def ofExcept (result : Except ε α) : Script I ε α := Prog.done result

/-- Look at the state. -/
def look (probe : I.Probe) (seen : I.State → Except ε α)
    (failed : I.Fault → Except ε α) : Script I ε α :=
  Prog.look probe fun
    | .ok s => Prog.done (seen s)
    | .error fault => Prog.done (failed fault)

/-- Perform one action. -/
def perform (action : I.Action) (failed : I.Fault → ε) : Script I ε Unit :=
  Prog.act action fun
    | .ok () => Prog.done (.ok ())
    | .error fault => Prog.done (.error (failed fault))

/-- The postcondition of a fallible program, by its two ends. -/
def Ends (ok : α → I.State → Prop) (err : ε → I.State → Prop) :
    Except ε α → I.State → Prop
  | .ok value => ok value
  | .error e => err e

/-- Weakest precondition with one postcondition for each way to end. -/
def wp (K : Setting I) (ok : α → I.State → Prop)
    (err : ε → I.State → Prop) (x : Script I ε α) (s : I.State) : Prop :=
  Prog.wp K (Ends ok err) x s

section

variable {K : Setting I} {ok ok' : α → I.State → Prop}
  {err err' : ε → I.State → Prop} {s : I.State} {x : Script I ε α} {γ : Type}
  {f : γ → Script I ε PUnit} {todo : List γ}

theorem wp_stable {t : I.State} (h : wp K ok err x s) (hst : K.rely s t) :
    wp K ok err x t :=
  Prog.wp_stable h hst

theorem wp_pure {value : α} (h : ∀ t, K.rely s t → K.invariant t → ok value t) :
    wp K ok err (pure value : Script I ε α) s :=
  h

theorem wp_throw {e : ε} (h : ∀ t, K.rely s t → K.invariant t → err e t) :
    wp K ok err (throw e : Script I ε α) s :=
  h

theorem wp_ofExcept {result : Except ε α}
    (h : ∀ t, K.rely s t → K.invariant t → Ends ok err result t) :
    wp K ok err (ofExcept result) s :=
  h

theorem wp_mono (h : wp K ok err x s)
    (hok : ∀ value t, K.invariant t → ok value t → ok' value t)
    (herr : ∀ e t, K.invariant t → err e t → err' e t) : wp K ok' err' x s := by
  refine Prog.wp_mono h fun result t hinv hall => ?_
  have ht := hall t (K.rely_refl t) hinv
  cases result with
  | ok value => exact hok value t hinv ht
  | error e => exact herr e t hinv ht

theorem wp_bind {f : α → Script I ε β} {ok : β → I.State → Prop}
    (h : wp K (fun value t => wp K ok err (f value) t) err x s) :
    wp K ok err (x >>= f) s := by
  apply Prog.wp_bind
  refine Prog.wp_mono h fun result t hinv hall => ?_
  cases result with
  | ok value => exact hall t (K.rely_refl t) hinv
  | error e => exact fun u htu hu => hall u htu hu

theorem wp_handle {f : ε → Script I ε α}
    (h : wp K ok (fun e t => wp K ok err (f e) t) x s) :
    wp K ok err (tryCatch x f) s := by
  apply Prog.wp_bind
  refine Prog.wp_mono h fun result t hinv hall => ?_
  cases result with
  | ok value => exact fun u htu hu => hall u htu hu
  | error e => exact hall t (K.rely_refl t) hinv

theorem wp_look {probe : I.Probe} {seen : I.State → Except ε α}
    {failed : I.Fault → Except ε α} (h : ∀ t, K.rely s t → K.invariant t →
      (∀ u, K.rely t u → K.invariant u → Ends ok err (seen t) u) ∧
        (K.faults.look probe t → ∀ fault u, K.rely t u → K.invariant u →
          Ends ok err (failed fault) u)) :
    wp K ok err (look probe seen failed) s :=
  h

theorem wp_perform {action : I.Action} {failed : I.Fault → ε}
    {ok : Unit → I.State → Prop} (h : ∀ t, K.rely s t → K.invariant t →
      K.permitted action t ∧
        (∀ choice u, I.apply action choice t = some u →
          ∀ v, K.rely u v → K.invariant v → ok () v) ∧
        ((K.faults.act action t ∨ ∃ choice, I.apply action choice t = none) →
          ∀ fault u, K.rely t u → K.invariant u → err (failed fault) u)) :
    wp K ok err (perform action failed) s :=
  h

theorem wp_ite [Decidable c] {y : Script I ε α} (hx : c → wp K ok err x s)
    (hy : ¬c → wp K ok err y s) : wp K ok err (if c then x else y) s := by
  split
  next hc => exact hx hc
  next hc => exact hy hc

/-- A loop over a list keeps an invariant that speaks of what was done so
far. -/
theorem wp_forM {J : List γ → I.State → Prop} (past : List γ)
    (hrely : ∀ past s t, K.rely s t → K.invariant t → J past s → J past t)
    (hbody : ∀ past' x rest, past ++ todo = past' ++ x :: rest →
      ∀ s, J past' s → wp K (fun _ t => J (past' ++ [x]) t) err (f x) s)
    (hs : J past s) :
    wp K (fun _ t => J (past ++ todo) t) err (todo.forM f) s := by
  induction todo generalizing past s with
  | nil =>
    refine wp_pure fun t hst hinv => ?_
    rw [List.append_nil]
    exact hrely past s t hst hinv hs
  | cons x rest ih =>
    refine wp_bind (wp_mono (hbody past x rest rfl s hs) ?_ ?_)
    · intro _ t _ ht
      have hsplit : past ++ x :: rest = past ++ [x] ++ rest := by simp
      rw [hsplit]
      refine ih _ (fun past' y rest' h => hbody past' y rest' ?_) ht
      rw [hsplit, h]
    · exact fun _ _ _ h => h

/-- A loop whose body keeps an invariant. -/
theorem wp_forM_keep {J : I.State → Prop}
    (hrely : ∀ s t, K.rely s t → K.invariant t → J s → J t)
    (hbody : ∀ x ∈ todo, ∀ s, J s → wp K (fun _ t => J t) err (f x) s)
    (hs : J s) : wp K (fun _ t => J t) err (todo.forM f) s := by
  refine wp_forM (J := fun _ => J) [] (fun _ => hrely) ?_ hs
  intro past x rest hsplit s hJ
  refine hbody x ?_ s hJ
  rw [List.nil_append] at hsplit
  rw [hsplit]
  exact List.mem_append_right _ List.mem_cons_self

theorem wp_and (h : wp K ok err x s) (h' : wp K.free ok' err' x s) :
    wp K (fun value t => ok value t ∧ ok' value t)
      (fun e t => err e t ∧ err' e t) x s := by
  refine Prog.wp_mono (Prog.wp_and h h') fun result t hinv hall => ?_
  have ht := hall t (K.rely_refl t) hinv
  cases result with
  | _ => exact ht

end

/-! ## The actions of a fallible program -/

/-- Every action of the program satisfies `P`. -/
def Only (P : I.Action → Prop) (x : Script I ε α) : Prop := Prog.Only P x

section

variable {P : I.Action → Prop} {s : I.State} {J : I.State → Prop}
  {K : Setting I} {x : Script I ε α}

theorem only_pure (value : α) : Only P (pure value : Script I ε α) := trivial

theorem only_throw (e : ε) : Only P (throw e : Script I ε α) := trivial

theorem only_look (probe : I.Probe) (seen : I.State → Except ε α)
    (failed : I.Fault → Except ε α) : Only P (look probe seen failed) := by
  intro answer
  cases answer <;> trivial

theorem only_perform {action : I.Action} (h : P action)
    (failed : I.Fault → ε) : Only P (perform action failed) := by
  refine ⟨h, fun answer => ?_⟩
  cases answer <;> trivial

theorem Only.bind {f : α → Script I ε β} (hx : Only P x)
    (hf : ∀ value, Only P (f value)) : Only P (x >>= f) := by
  refine Prog.Only.bind hx fun result => ?_
  cases result with
  | ok value => exact hf value
  | error e => trivial

theorem Only.handle {f : ε → Script I ε α} (hx : Only P x)
    (hf : ∀ e, Only P (f e)) : Only P (tryCatch x f) := by
  refine Prog.Only.bind hx fun result => ?_
  cases result with
  | ok value => trivial
  | error e => exact hf e

theorem only_ite [Decidable c] {y : Script I ε α} (hx : c → Only P x)
    (hy : ¬c → Only P y) : Only P (if c then x else y) := by
  split
  next hc => exact hx hc
  next hc => exact hy hc

theorem only_forM {γ : Type} {f : γ → Script I ε PUnit} {todo : List γ}
    (h : ∀ x ∈ todo, Only P (f x)) : Only P (todo.forM f) := by
  induction todo with
  | nil => exact only_pure _
  | cons x rest ih =>
    refine Only.bind (h x List.mem_cons_self) fun _ => ?_
    exact ih fun y hy => h y (List.mem_cons_of_mem _ hy)

/-- A property that permits the actions of a program and is kept by them. -/
theorem wp_only (hx : Only P x) (hrely : ∀ s t, K.rely s t → J s → J t)
    (hmay : ∀ action t, P action → K.invariant t → J t → K.permitted action t)
    (hkeep : ∀ action choice t u, P action → K.invariant t → J t →
      I.apply action choice t = some u → J u) (hs : J s) :
    wp K (fun _ t => J t) (fun _ t => J t) x s := by
  refine Prog.wp_mono (Prog.Only.wp hx hrely hmay hkeep hs)
    fun result t hinv hall => ?_
  have ht := hall t (K.rely_refl t) hinv
  cases result <;> exact ht

/-- What a program meets, together with a property its actions keep. -/
theorem Only.wp_and {ok : α → I.State → Prop} {err : ε → I.State → Prop}
    (hx : Only P x) (h : wp K ok err x s)
    (hrely : ∀ s t, K.rely s t → J s → J t)
    (hkeep : ∀ action choice t u, P action → K.invariant t → J t →
      I.apply action choice t = some u → J u) (hs : J s) :
    wp K (fun value t => ok value t ∧ J t) (fun e t => err e t ∧ J t) x s := by
  exact Script.wp_and h
    (wp_only (K := K.free) hx hrely (fun _ _ _ _ _ => trivial) hkeep hs)

end

end Script
