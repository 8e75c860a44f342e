import DeviceRail.EvidenceFs.Actions
import DeviceRail.EvidenceFs.Runs

/-!
# Rules for the programs of the store

The weakest-precondition rules of the filesystem primitives, each together
with what follows it.  `Safe` leaves open how a program fails: it says that
every action is permitted and what holds after a success.  A `Frame` is a
property that permits a set of actions and survives them.
-/

namespace DeviceRail.EvidenceFs

open Script

variable {K : Setting filesystem} {α β : Type} {store : Store} {place : Place}

section

variable {ok : β → Store → Prop} {err : EvidenceError → Store → Prop}

theorem wp_exists {f : Bool → Fs β} (h : ∀ t, K.rely store t → K.invariant t →
      wp K ok err (f (place.present t.disk)) t ∧
        (K.faults.look (.present place) t → wp K ok err (f false) t)) :
    wp K ok err (pathExists place >>= f) store := by
  refine wp_bind (wp_look fun t hst hinv => ?_)
  obtain ⟨hseen, hmissed⟩ := h t hst hinv
  exact ⟨fun u htu _ => wp_stable hseen htu,
    fun hf _ u htu _ => wp_stable (hmissed hf) htu⟩

theorem wp_view {probe : filesystem.Probe}
    {view : Store → Except EvidenceError α} {f : α → Fs β}
    (hok : ∀ t value, K.rely store t → K.invariant t →
      view t = .ok value → wp K ok err (f value) t)
    (herr : ∀ t e, K.rely store t → K.invariant t →
      view t = .error e → ∀ u, K.rely t u → K.invariant u → err e u)
    (hfault : ∀ t, K.rely store t → K.invariant t →
      K.faults.look probe t → ∀ operation message u, K.rely t u →
        K.invariant u → err (.io operation message) u) :
    wp K ok err (look probe view (fun fault =>
      .error (.io fault.operation fault.message)) >>= f) store := by
  refine wp_bind (wp_look fun t hst hinv => ⟨fun u htu hu => ?_, ?_⟩)
  · cases hview : view t with
    | ok value => exact wp_stable (hok t value hst hinv hview) htu
    | error e => exact herr t e hst hinv hview u htu hu
  · exact fun hf fault u htu hu =>
      hfault t hst hinv hf fault.operation fault.message u htu hu

/-- What `consult` returns. -/
def consulted (known : ReferenceIndex → α)
    (scanned : Disk → Except EvidenceError α) (store : Store) :
    Except EvidenceError α :=
  match store.index with
  | some index => .ok (known index)
  | none => scanned store.disk

theorem wp_act {operation : String} {action : Action} {f : Unit → Fs β}
    (hmay : ∀ t, K.rely store t → K.invariant t → K.permitted action t)
    (hok : ∀ t u, K.rely store t → K.invariant t → Effect action t u →
      wp K ok err (f ()) u) (hfault : ∀ t, K.rely store t → K.invariant t →
      (K.faults.act action t ∨ ∃ choice, action.apply choice t = none) →
        ∀ message u, K.rely t u → K.invariant u →
          err (.io operation message) u) :
    wp K ok err (act operation action >>= f) store := by
  refine wp_bind (wp_perform fun t hst hinv => ?_)
  refine ⟨hmay t hst hinv, fun choice u hu v huv _ => ?_, ?_⟩
  · exact wp_stable (hok t u hst hinv (effect_of_apply hu)) huv
  · exact fun hf fault u htu hu => hfault t hst hinv hf fault.message u htu hu

end

/-! ## Safety -/

variable {action : Action}

section

variable {post post' : α → Store → Prop} {J : Store → Prop} {P : Action → Prop}

/-- Every action is permitted, and `post` holds after a success. -/
def Safe (K : Setting filesystem) (post : α → Store → Prop) (x : Fs α)
    (store : Store) : Prop :=
  wp K post (fun _ _ => True) x store

variable {x y : Fs α} {f : β → Fs α} {operation : String}

theorem Safe.mono (h : Safe K post x store)
    (hpost : ∀ value t, K.invariant t → post value t → post' value t) :
    Safe K post' x store :=
  wp_mono h hpost fun _ _ _ _ => trivial

theorem safe_pure {value : α}
    (h : ∀ t, K.rely store t → K.invariant t → post value t) :
    Safe K post (pure value : Fs α) store :=
  wp_pure h

theorem safe_throw (e : EvidenceError) : Safe K post (throw e : Fs α) store :=
  wp_throw fun _ _ _ => trivial

theorem safe_ofExcept {result : Except EvidenceError α}
    (h : ∀ value t, K.rely store t → K.invariant t → result = .ok value →
      post value t) : Safe K post (Script.ofExcept result) store := by
  refine wp_ofExcept fun t hst hinv => ?_
  cases result with
  | ok value => exact h value t hst hinv rfl
  | error e => trivial

theorem safe_bind {x : Fs β}
    (h : Safe K (fun value t => Safe K post (f value) t) x store) :
    Safe K post (x >>= f) store :=
  wp_bind h

theorem Safe.bind {x : Fs β} {middle : β → Store → Prop}
    (h : Safe K middle x store)
    (hf : ∀ value t, K.invariant t → middle value t → Safe K post (f value) t) :
    Safe K post (x >>= f) store :=
  safe_bind (h.mono hf)

theorem safe_handle {f : EvidenceError → Fs α}
    (h : wp K post (fun e t => Safe K post (f e) t) x store) :
    Safe K post (tryCatch x f) store :=
  wp_handle h

theorem safe_ite {c : Prop} [Decidable c] (hx : c → Safe K post x store)
    (hy : ¬c → Safe K post y store) : Safe K post (if c then x else y) store :=
  wp_ite hx hy

/-- Existence checks do not fail. -/
def Exact (F : Faults filesystem) : Prop :=
  ∀ place store, ¬F.look (.present place) store

theorem safe_exists (hx : ∀ t, K.rely store t → K.invariant t →
      place.present t.disk = true → Safe K post x t)
    (hy : ∀ t, K.rely store t → K.invariant t →
      (Exact K.faults → place.present t.disk = false) → Safe K post y t) :
    Safe K post
      (pathExists place >>= fun found => if found = true then x else y)
      store := by
  refine wp_exists fun t hst hinv => ⟨?_, fun hf => ?_⟩
  · cases hpresent : place.present t.disk with
    | true => exact hx t hst hinv hpresent
    | false => exact hy t hst hinv fun _ => hpresent
  · exact hy t hst hinv fun hexact => absurd hf (hexact place t)

theorem safe_read {view : Disk → Except EvidenceError β}
    (h : ∀ t value, K.rely store t → K.invariant t →
      view t.disk = .ok value → Safe K post (f value) t) :
    Safe K post (read view >>= f) store :=
  wp_view h (fun _ _ _ _ _ _ _ _ => trivial) (fun _ _ _ _ _ _ _ _ _ => trivial)

theorem safe_inspect {f : Unit → Fs α}
    (h : ∀ t, K.rely store t → K.invariant t → Safe K post (f ()) t) :
    Safe K post (inspect >>= f) store :=
  safe_read fun t _ hst hinv _ => h t hst hinv

theorem safe_consult {known : ReferenceIndex → β}
    {scanned : Disk → Except EvidenceError β}
    (h : ∀ t value, K.rely store t → K.invariant t →
      consulted known scanned t = .ok value → Safe K post (f value) t) :
    Safe K post (consult known scanned >>= f) store :=
  wp_view h (fun _ _ _ _ _ _ _ _ => trivial) (fun _ _ _ _ _ _ _ _ _ => trivial)

theorem safe_act {f : Unit → Fs α}
    (hmay : ∀ t, K.rely store t → K.invariant t → K.permitted action t)
    (h : ∀ t u, K.rely store t → K.invariant t → Effect action t u →
      Safe K post (f ()) u) : Safe K post (act operation action >>= f) store :=
  wp_act hmay h (fun _ _ _ _ _ _ _ _ => trivial)

theorem safe_act_last {post : Unit → Store → Prop}
    (hmay : ∀ t, K.rely store t → K.invariant t → K.permitted action t)
    (h : ∀ t u, K.rely store t → K.invariant t → Effect action t u →
      ∀ v, K.rely u v → K.invariant v → post () v) :
    Safe K post (act operation action) store :=
  wp_perform fun t hst hinv =>
    ⟨hmay t hst hinv,
      fun _ u hu v huv hv => h t u hst hinv (effect_of_apply hu) v huv hv,
      fun _ _ _ _ _ => trivial⟩

/-- A property that permits the actions `P` and is kept by them. -/
structure Frame (K : Setting filesystem) (P : Action → Prop)
    (J : Store → Prop) : Prop where
  rely : ∀ {s t}, K.rely s t → J s → J t
  may : ∀ {action t}, P action → K.invariant t → J t → K.permitted action t
  keep : ∀ {action t u}, P action → K.invariant t → J t →
    Effect action t u → J u

theorem safe_only (hframe : Frame K P J) (hx : Only P x)
    (hs : J store) : Safe K (fun _ t => J t) x store := by
  refine wp_mono (wp_only hx (fun _ _ => hframe.rely)
    (fun _ _ hP hinv hJ => hframe.may hP hinv hJ) ?_ hs)
    (fun _ _ _ h => h) fun _ _ _ _ => trivial
  exact fun _ _ _ _ hP hinv hJ happly =>
    hframe.keep hP hinv hJ (effect_of_apply happly)

/-- A part of a program that a frame covers, and what follows it. -/
theorem safe_seq {x : Fs β} (hframe : Frame K P J)
    (hx : Only P x) (hs : J store)
    (h : ∀ value t, K.invariant t → J t → Safe K post (f value) t) :
    Safe K post (x >>= f) store :=
  (safe_only hframe hx hs).bind h

/-- A property that the actions of a program keep, beside what it meets. -/
theorem Safe.and_only (h : Safe K post x store) (hx : Only P x)
    (hrely : ∀ {s t}, K.rely s t → J s → J t)
    (hkeep : ∀ {action t u}, P action → K.invariant t → J t →
      Effect action t u → J u) (hs : J store) :
    Safe K (fun value t => post value t ∧ J t) x store := by
  refine wp_mono (hx.wp_and h (fun _ _ => hrely) ?_ hs)
    (fun _ _ _ h => h) fun _ _ _ _ => trivial
  exact fun _ _ _ _ hP hinv hJ happly =>
    hkeep hP hinv hJ (effect_of_apply happly)

theorem safe_forM {γ : Type} {f : γ → Fs PUnit} {todo : List γ}
    (hrely : ∀ {s t}, K.rely s t → J s → J t)
    (hbody : ∀ x ∈ todo, ∀ s, J s → Safe K (fun _ t => J t) (f x) s)
    (hs : J store) : Safe K (fun _ t => J t) (todo.forM f) store :=
  wp_forM_keep (fun _ _ hst _ h => hrely hst h) hbody hs

end

/-! ## Settings -/

namespace Footprint

/-- An action that a call with this footprint may perform. -/
def Within (action : Action) : Footprint → Prop
  | .shared sessionId digest => action.Within sessionId digest
  | .exclusive => True

end Footprint

section

variable {C : Contract} {footprint : Footprint} {a b : Store}
  {digest : Sha256Digest}

theorem Contract.setting_permitted {store : Store}
    (h : C.permitted action store) (hwithin : footprint.Within action) :
    (C.setting footprint).permitted action store := by
  cases footprint with
  | shared s d => exact ⟨h, hwithin⟩
  | exclusive => exact h

/-- What a call that holds an object can rely on. -/
theorem Contract.object_undisturbed (hholds : footprint.HoldsObject digest)
    (hrely : (C.setting footprint).rely a b) :
    ObjectUndisturbed digest a b := by
  cases footprint with
  | shared s d =>
    cases hholds
    have hsame : Undisturbed s digest a b := hrely
    exact hsame.toObjectUndisturbed
  | exclusive =>
    cases hrely
    exact .refl digest a

/-- The actions on an object and its GC marker are those of a call that holds
the object. -/
theorem Footprint.within_object (hholds : footprint.HoldsObject digest)
    (h : ∀ sessionId, action.Within sessionId digest) :
    footprint.Within action := by
  cases footprint with
  | shared s d =>
    cases hholds
    exact h s
  | exclusive => trivial

end

end DeviceRail.EvidenceFs
