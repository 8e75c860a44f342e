import DeviceRail.EvidenceFs.Effects

/-!
# What a whole run keeps

A `Contract` collects what is said of the store: an invariant of its state,
the actions its calls may perform, what holds of a session and of an object
that no call works on, and what a call that has returned tells about the
state.  What holds of a session may speak of the digests that calls for it
have reported as stored.  `Contract.Holds` is what has to be shown about the
programs of the calls, each on its own; `Contract.Sound.run` then gives the
contract for every run, with any interleaving, faults and crashes.
-/

namespace DeviceRail.EvidenceFs

open DeviceRail.EvidenceFs.System

/-! ## Reported digests -/

/-- The session a `put` or an `attach` works for. -/
def Request.session? : Request → Option SessionId
  | .put call => some call.request.sessionId
  | .attach sessionId _ => some sessionId
  | .releaseSession _ _ => none
  | .gc _ => none

/-- The digests one result reports as stored for a session. -/
def gains (request : Request) (result : Except EvidenceError Reply)
    (sessionId : SessionId) : Set Sha256Digest :=
  { digest | request.session? = some sessionId ∧
    ∃ evidence, result = .ok (.stored evidence) ∧
      evidence.metadata.digest = digest }

/-- The digests that were reported as stored for a session. -/
def System.ledger (system : System) (sessionId : SessionId) :
    Set Sha256Digest :=
  { digest | ∃ id request result,
    system.tasks.lookup id = some ⟨request, .returned result⟩ ∧
      digest ∈ gains request result sessionId }

/-! ## Contracts -/

structure Contract where
  faults : Faults filesystem
  /-- Whether the runs may crash. -/
  crashes : Prop
  invariant : Store → Prop
  /-- What a closed store satisfies beyond the invariant. -/
  fresh : Store → Prop
  permitted : Action → Store → Prop
  ofSession : Set Sha256Digest → SessionId → Store → Prop
  ofObject : Sha256Digest → Store → Prop
  told : Request → Except EvidenceError Reply → Store → Prop
  /-- The contents that calls may write. -/
  stored : Content → Prop

def Footprint.HoldsSession (sessionId : SessionId) : Footprint → Prop
  | .shared s _ => s = sessionId
  | .exclusive => True

def Footprint.HoldsObject (digest : Sha256Digest) : Footprint → Prop
  | .shared _ d => d = digest
  | .exclusive => True

/-- The session that a call holds is the one it works for. -/
def Footprint.Serves (request : Request) : Footprint → Prop
  | .shared s _ => request.session? = some s
  | .exclusive => request.session? = none

theorem Footprint.compatible_comm (a b : Footprint) :
    a.compatible b = b.compatible a := by
  cases a <;> cases b <;> simp [compatible, eq_comm]

variable {a b : Footprint} {system : System} {F : Faults filesystem}
  {label : Label} {labels : List Label}

theorem Footprint.shared_of_compatible (h : a.compatible b = true) :
    ∃ s d s' d', a = .shared s d ∧ b = .shared s' d' ∧ s ≠ s' ∧ d ≠ d' := by
  cases a with
  | exclusive => cases b <;> cases h
  | shared s d =>
    cases b with
    | exclusive => cases h
    | shared s' d' =>
      simp only [compatible, Bool.and_eq_true, decide_eq_true_eq] at h
      refine ⟨s, d, s', d', rfl, rfl, ?_, ?_⟩
      · rintro rfl
        exact h.2 rfl
      · rintro rfl
        exact h.1 rfl

theorem Footprint.apart_of_compatible (h : a.compatible b = true) :
    (∀ s, a.HoldsSession s → ¬b.HoldsSession s) ∧
      ∀ d, a.HoldsObject d → ¬b.HoldsObject d := by
  obtain ⟨s, d, s', d', rfl, rfl, hs, hd⟩ := shared_of_compatible h
  exact ⟨fun _ hsame hother => hs (hsame.trans hother.symm),
    fun _ hsame hother => hd (hsame.trans hother.symm)⟩

namespace Contract

variable (C : Contract)

/-- The setting of a call that works on one session and one object. -/
def shared (sessionId : SessionId) (digest : Sha256Digest) :
    Setting filesystem where
  faults := C.faults
  invariant := C.invariant
  rely := Undisturbed sessionId digest
  permitted action store :=
    C.permitted action store ∧ action.Within sessionId digest
  rely_refl := Undisturbed.refl
  rely_trans _ _ _ := Undisturbed.trans

/-- The setting of a call that is alone. -/
def exclusive : Setting filesystem where
  faults := C.faults
  invariant := C.invariant
  rely := Eq
  permitted := C.permitted
  rely_refl _ := rfl
  rely_trans _ _ _ := Eq.trans

def setting : Footprint → Setting filesystem
  | .shared sessionId digest => C.shared sessionId digest
  | .exclusive => C.exclusive

/-- What holds of everything a call works on before it enters and after it
leaves. -/
def settled (ledger : SessionId → Set Sha256Digest) (store : Store) :
    Footprint → Prop
  | .shared sessionId digest =>
    C.ofSession (ledger sessionId) sessionId store ∧ C.ofObject digest store
  | .exclusive =>
    (∀ sessionId, C.ofSession (ledger sessionId) sessionId store) ∧
      ∀ digest, C.ofObject digest store

/-- Where a call ends: its result is in the ledger, and what it worked on is
settled. -/
def post (ledger : SessionId → Set Sha256Digest) (request : Request)
    (footprint : Footprint) (result : Except EvidenceError Reply)
    (after : Store) : Prop :=
  C.settled (fun s => ledger s ∪ gains request result s) after footprint ∧
    C.told request result after

/-- Where `new` ends. -/
def postNew (result : Except EvidenceError Unit) (after : Store) : Prop :=
  match result with
  | .ok () => C.settled (fun _ => ∅) after .exclusive
  | .error _ => C.fresh { after with index := none }

variable (digestOf : Content → Sha256Digest) (config : FileEvidenceStoreConfig)

/-- The input of a `put` is among the contents that calls may write. -/
def Feeds : Request → Prop
  | .put call =>
    ∀ content, readInput config call.input [] = .ok content → C.stored content
  | _ => True

/-- The object a `put` has staged is the one its input gives. -/
def Stages (request : Request) : Phase → Prop
  | .staged digest object =>
    ∃ call now, request = .put call ∧
      stage digestOf config call now = .ok (digest, object)
  | _ => True

/-- A request whose parameters were checked. -/
def Typed : Request → Prop
  | .put call => validateMediaType call.request.mediaType = .ok ()
  | _ => True

/-- What has to be shown of the calls, one at a time. -/
structure Holds : Prop where
  keep : ∀ {action store after}, C.invariant store →
    C.permitted action store → Effect action store after → C.invariant after
  crash : ∀ {store disk}, C.crashes → C.invariant store →
    disk ∈ store.disks → C.invariant ⟨disk, [], none⟩ ∧ C.fresh ⟨disk, [], none⟩
  forget : ∀ {store}, C.invariant store →
    C.invariant { store with index := none }
  told_keep : ∀ {action store after request result}, C.invariant store →
    C.permitted action store → Effect action store after →
      C.told request result store → C.told request result after
  refused : ∀ {request e store}, start request ≠ some .called ∨
      (∃ call, request = .put call) →
    C.told request (.error e) store
  session_kept : ∀ {ledger s s' d' action store after}, s ≠ s' →
    action.Within s' d' → Effect action store after →
      C.ofSession ledger s store → C.ofSession ledger s after
  object_kept : ∀ {d s' d' action store after}, d ≠ d' →
    action.Within s' d' → Effect action store after →
      C.ofObject d store → C.ofObject d after
  body : ∀ {request phase now footprint body store}, Typed request →
    C.Feeds config request → Stages digestOf config request phase →
    body? digestOf config request phase now = some (footprint, body) →
    C.invariant store → ∀ ledger, C.settled ledger store footprint →
      Prog.wp (C.setting footprint) (C.post ledger request footprint) body store
  new : ∀ {now store}, C.invariant store → store.index = none →
    C.fresh store →
      Prog.wp C.exclusive C.postNew (new digestOf config now) store

/-- The state of the system while the contract is kept. -/
structure Sound (system : System) : Prop where
  invariant : C.invariant system.store
  unserved : system.mode.isServing = false → system.tasks = ∅
  closed : system.mode = .closed →
    system.store.index = none ∧ C.fresh system.store
  opening : ∀ body, system.mode = .opening body →
    Prog.wp C.exclusive C.postNew body system.store
  typed : ∀ id task, system.tasks.lookup id = some task →
    Typed task.request ∧ C.Feeds config task.request ∧
      Stages digestOf config task.request task.phase
  inside : ∀ id request footprint body,
    system.tasks.lookup id = some ⟨request, .inside footprint body⟩ →
      footprint.Serves request ∧
        Prog.wp (C.setting footprint)
          (C.post system.ledger request footprint) body system.store
  apart : ∀ id id' task task' footprint footprint', id ≠ id' →
    system.tasks.lookup id = some task →
    system.tasks.lookup id' = some task' →
    task.phase.footprint? = some footprint →
    task'.phase.footprint? = some footprint' →
      footprint.compatible footprint' = true
  session : system.mode.isServing = true → ∀ s,
    (∀ id task footprint, system.tasks.lookup id = some task →
      task.phase.footprint? = some footprint → ¬footprint.HoldsSession s) →
      C.ofSession (system.ledger s) s system.store
  object : system.mode.isServing = true → ∀ d,
    (∀ id task footprint, system.tasks.lookup id = some task →
      task.phase.footprint? = some footprint → ¬footprint.HoldsObject d) →
      C.ofObject d system.store
  told : ∀ id request result,
    system.tasks.lookup id = some ⟨request, .returned result⟩ →
      C.told request result system.store

end Contract

/-! ## Bookkeeping of the tasks -/

namespace System

theorem compatible_of_admits {footprint : Footprint}
    (h : system.admits footprint = true) {id : ℕ} {task : Task}
    {other : Footprint} (htask : system.tasks.lookup id = some task)
    (hother : task.phase.footprint? = some other) :
    footprint.compatible other = true := by
  unfold admits at h
  rw [List.all_eq_true] at h
  exact h other (List.mem_filterMap.mpr
    ⟨task, KeyedMap.mem_values_of_lookup htask, hother⟩)

end System

namespace Contract

variable {C : Contract} {digestOf : Content → Sha256Digest}
  {config : FileEvidenceStoreConfig}

theorem setting_invariant (footprint : Footprint) :
    (C.setting footprint).invariant = C.invariant := by
  cases footprint <;> rfl

theorem setting_faults (footprint : Footprint) :
    (C.setting footprint).faults = C.faults := by
  cases footprint <;> rfl

/-- The system after one task moved on, possibly with another store. -/
def moved (system : System) (id : ℕ) (request : Request) (phase : Phase)
    (store : Store) : System :=
  { system with store := store }.setPhase id request phase

/-- Somebody else than `id` is inside with this footprint. -/
def Beside (system : System) (id : ℕ) (footprint : Footprint) : Prop :=
  ∃ id' task, id' ≠ id ∧ system.tasks.lookup id' = some task ∧
    task.phase.footprint? = some footprint

/-- A task that holds `held` and the others do not hold what `H` asks for. -/
def Unheld (system : System) (id : ℕ) (held : Option Footprint)
    (H : Footprint → Prop) : Prop :=
  (∀ footprint, held = some footprint → ¬H footprint) ∧
    ∀ other, Beside system id other → ¬H other

/-- What a phase adds to the ledger. -/
def added (request : Request) (sessionId : SessionId) :
    Phase → Set Sha256Digest
  | .returned result => gains request result sessionId
  | _ => ∅

theorem lookup_moved (system : System) (id id' : ℕ) (request : Request)
    (phase : Phase) (store : Store) :
    (moved system id request phase store).tasks.lookup id' =
      if id' = id then some ⟨request, phase⟩
      else system.tasks.lookup id' :=
  KeyedMap.lookup_insert_ite _ _ _ _

variable {request : Request} {id : ℕ} {phase : Phase} {store : Store}

theorem ledger_moved (hbefore : ∀ request' result,
      system.tasks.lookup id ≠ some ⟨request', .returned result⟩)
    (s : SessionId) :
    (moved system id request phase store).ledger s =
      system.ledger s ∪ added request s phase := by
  ext digest
  constructor
  · rintro ⟨id', request', result, htask, hgain⟩
    rw [lookup_moved] at htask
    split at htask
    next =>
      cases htask
      exact .inr hgain
    next => exact .inl ⟨id', request', result, htask, hgain⟩
  · rintro (⟨id', request', result, htask, hgain⟩ | hadded)
    · refine ⟨id', request', result, ?_, hgain⟩
      rw [lookup_moved, if_neg ?_]
      · exact htask
      · rintro rfl
        exact hbefore request' result htask
    · cases phase with
      | returned result =>
        refine ⟨id, request, result, ?_, hadded⟩
        rw [lookup_moved, if_pos rfl]
      | _ => cases hadded

variable {result : Except EvidenceError Reply} {task : Task} {after : Store}
  {now : ℕ} {body : Fs Reply}

/-- A call that ends does not notice entries of the ledger that are not about
what it holds. -/
theorem post_congr {ledger ledger' : SessionId → Set Sha256Digest}
    {footprint : Footprint}
    (h : ∀ s, footprint.HoldsSession s → ledger' s = ledger s)
    (hpost : C.post ledger request footprint result after) :
    C.post ledger' request footprint result after := by
  refine ⟨?_, hpost.2⟩
  cases footprint with
  | shared s d =>
    refine ⟨?_, hpost.1.2⟩
    change C.ofSession (ledger' s ∪ gains request result s) s after
    rw [h s rfl]
    exact hpost.1.1
  | exclusive =>
    refine ⟨fun s => ?_, hpost.1.2⟩
    change C.ofSession (ledger' s ∪ gains request result s) s after
    rw [h s trivial]
    exact hpost.1.1 s

section

variable (hsound : C.Sound digestOf config system)
  (hserving : system.mode.isServing = true)
include hsound hserving

/-- One task moves on: what has to hold of its new phase and of the store for
the contract to be kept. -/
theorem Sound.moved (hinv : C.invariant store) (hbefore : ∀ request' result,
      system.tasks.lookup id ≠ some ⟨request', .returned result⟩)
    (htyped : Typed request ∧ C.Feeds config request ∧
      Stages digestOf config request phase)
    (hinside : ∀ footprint body, phase = .inside footprint body →
      footprint.Serves request ∧
        Prog.wp (C.setting footprint)
          (C.post system.ledger request footprint) body store)
    (hbeside : ∀ other, Beside system id other →
      (C.setting other).rely system.store store ∧
        (∀ footprint, phase.footprint? = some footprint →
          footprint.compatible other = true) ∧
        ∀ s, other.HoldsSession s → added request s phase = ∅)
    (hsession : ∀ s, Unheld system id phase.footprint? (·.HoldsSession s) →
      C.ofSession (system.ledger s ∪ added request s phase) s store)
    (hobject : ∀ d, Unheld system id phase.footprint? (·.HoldsObject d) →
      C.ofObject d store)
    (htold : ∀ request result, C.told request result system.store →
      C.told request result store)
    (hreturned : ∀ result, phase = .returned result →
      C.told request result store) :
    C.Sound digestOf config (moved system id request phase store) := by
  have hlookup := fun id' => lookup_moved system id id' request phase store
  have hledger : ∀ s,
      (Contract.moved system id request phase store).ledger s =
        system.ledger s ∪ added request s phase := ledger_moved hbefore
  have hheld : ∀ H : Footprint → Prop,
      (∀ id' task footprint, (Contract.moved system id request phase
          store).tasks.lookup id' = some task →
        task.phase.footprint? = some footprint → ¬H footprint) →
      Unheld system id phase.footprint? H := by
    intro H hfree
    refine ⟨fun footprint hf => hfree id ⟨request, phase⟩ footprint ?_ hf, ?_⟩
    · rw [hlookup, if_pos rfl]
    · rintro other ⟨id', task, hne, htask, hf⟩
      refine hfree id' task other ?_ hf
      rwa [hlookup, if_neg hne]
  refine
    { invariant := hinv
      unserved := fun h => absurd (hserving.symm.trans h) (by decide)
      closed := fun h => absurd hserving
        (ne_of_eq_of_ne (congrArg Mode.isServing h) Bool.false_ne_true)
      opening := fun body h => absurd hserving
        (ne_of_eq_of_ne (congrArg Mode.isServing h) Bool.false_ne_true)
      typed := KeyedMap.forall_insert htyped hsound.typed
      inside := fun id' request' footprint body h => ?_
      apart := fun id₁ id₂ task₁ task₂ f₁ f₂ hne h₁ h₂ hf₁ hf₂ => ?_
      session := fun _ s hfree => ?_
      object := fun _ d hfree => ?_
      told := fun id' request' result h => ?_ }
  · rw [hlookup] at h
    split at h
    next =>
      cases h
      obtain ⟨hserves, hwp⟩ := hinside footprint body rfl
      refine ⟨hserves, Prog.wp_mono hwp fun result t hinv' hpost => ?_⟩
      refine post_congr (fun s _ => ?_)
        (hpost t ((C.setting footprint).rely_refl t) hinv')
      rw [hledger]
      exact Set.union_empty _
    next hne =>
      obtain ⟨hserves, hwp⟩ := hsound.inside id' request' footprint body h
      obtain ⟨hrely, -, hadded⟩ := hbeside footprint ⟨id', _, hne, h, rfl⟩
      refine ⟨hserves, Prog.wp_mono (Prog.wp_stable hwp hrely)
        fun result t hinv' hpost => ?_⟩
      refine post_congr (fun s hs => ?_)
        (hpost t ((C.setting footprint).rely_refl t) hinv')
      rw [hledger, hadded s hs]
      exact Set.union_empty _
  · refine KeyedMap.pairwise_insert (R := fun v v' => ∀ f f',
      v.phase.footprint? = some f → v'.phase.footprint? = some f' →
        f.compatible f' = true) ?_ ?_ ?_ id₁ id₂ task₁ task₂ h₁ h₂ hne f₁ f₂
      hf₁ hf₂
    · intro v v' h f f' hf hf'
      rw [Footprint.compatible_comm]
      exact h f' f hf' hf
    · exact fun id' v' h hne f f' hf hf' =>
        (hbeside f' ⟨id', v', hne, h, hf'⟩).2.1 f hf
    · exact fun id₁ id₂ v v' h₁ h₂ hne f f' =>
        hsound.apart id₁ id₂ v v' f f' hne h₁ h₂
  · rw [hledger]
    exact hsession s (hheld (·.HoldsSession s) hfree)
  · exact hobject d (hheld (·.HoldsObject d) hfree)
  · rw [hlookup] at h
    split at h
    next =>
      cases h
      exact hreturned result rfl
    next => exact htold request' result (hsound.told id' request' result h)

/-- What neither a task outside nor anybody else holds is settled. -/
theorem Sound.free {held : Option Footprint}
    (hheld : ∀ task, system.tasks.lookup id = some task →
      task.phase.footprint? = held) :
    (∀ s, Unheld system id held (·.HoldsSession s) →
      C.ofSession (system.ledger s) s system.store) ∧
    ∀ d, Unheld system id held (·.HoldsObject d) →
      C.ofObject d system.store := by
  have hall : ∀ H, Unheld system id held H →
      ∀ id' task footprint, system.tasks.lookup id' = some task →
        task.phase.footprint? = some footprint → ¬H footprint := by
    intro H hfree id' task footprint htask hf
    by_cases hid : id' = id
    · subst hid
      exact hfree.1 footprint ((hheld task htask).symm.trans hf)
    · exact hfree.2 footprint ⟨id', task, hid, htask, hf⟩
  exact ⟨fun s hfree => hsound.session hserving s (hall _ hfree),
    fun d hfree => hsound.object hserving d (hall _ hfree)⟩

end

/-- A phase that is neither inside nor reports anything. -/
def Idle : Phase → Prop
  | .called => True
  | .streaming => True
  | .staged _ _ => True
  | .inside _ _ => False
  | .returned result => ∃ e, result = .error e

theorem Idle.footprint (h : Idle phase) : phase.footprint? = none := by
  cases phase with
  | inside footprint body => cases h
  | _ => rfl

theorem Idle.added (h : Idle phase) (request : Request) (s : SessionId) :
    added request s phase = ∅ := by
  cases phase with
  | returned result =>
    obtain ⟨e, rfl⟩ := h
    refine Set.eq_empty_of_forall_notMem ?_
    rintro digest ⟨-, evidence, hresult, -⟩
    cases hresult
  | _ => rfl

section

variable (hsound : C.Sound digestOf config system)
  (hserving : system.mode.isServing = true)
include hsound hserving

/-- A task that has neither entered nor returned moves on without entering. -/
theorem Sound.outside (hbefore : ∀ task, system.tasks.lookup id = some task →
      task.phase.footprint? = none ∧
        ∀ result, task.phase ≠ .returned result) (hafter : Idle phase)
    (htyped : Typed request ∧ C.Feeds config request ∧
      Stages digestOf config request phase)
    (hreturned : ∀ result, phase = .returned result →
      C.told request result system.store) :
    C.Sound digestOf config (system.setPhase id request phase) := by
  obtain ⟨hsession, hobject⟩ := hsound.free hserving
    fun task htask => (hbefore task htask).1
  have hnone := hafter.footprint
  refine hsound.moved hserving hsound.invariant ?_ htyped ?_ ?_ ?_ ?_
    (fun _ _ h => h) hreturned
  · exact fun request' result htask => (hbefore _ htask).2 result rfl
  · rintro footprint body rfl
    cases hafter
  · intro other _
    refine ⟨(C.setting other).rely_refl _, fun footprint hf => ?_,
      fun s _ => hafter.added request s⟩
    cases hnone.symm.trans hf
  · intro s hfree
    rw [hafter.added, Set.union_empty]
    exact hsession s ⟨nofun, hfree.2⟩
  · exact fun d hfree => hobject d ⟨nofun, hfree.2⟩

/-- What nobody holds is settled, so a call that is let in finds it so. -/
theorem Sound.settled_of_admits {footprint : Footprint}
    (hadmits : system.admits footprint = true) :
    C.settled system.ledger system.store footprint := by
  have hother := fun {id task other} htask hf =>
    Footprint.apart_of_compatible
      (@compatible_of_admits _ _ hadmits id task other htask hf)
  cases footprint with
  | shared s d =>
    exact ⟨hsound.session hserving s fun _ _ _ h hf => (hother h hf).1 s rfl,
      hsound.object hserving d fun _ _ _ h hf => (hother h hf).2 d rfl⟩
  | exclusive =>
    exact ⟨fun s => hsound.session hserving s fun _ _ _ h hf =>
        (hother h hf).1 s trivial,
      fun d => hsound.object hserving d fun _ _ _ h hf =>
        (hother h hf).2 d trivial⟩

end

theorem serves_of_body {footprint : Footprint}
    (h : body? digestOf config request phase now = some (footprint, body)) :
    footprint.Serves request ∧ phase.footprint? = none ∧
      ∀ result, phase ≠ .returned result := by
  cases request <;> cases phase <;> try cases h
  case attach.called =>
    simp only [body?] at h
    split at h <;> cases h
    exact ⟨rfl, rfl, fun _ h => nomatch h⟩
  all_goals exact ⟨rfl, rfl, fun _ h => nomatch h⟩

theorem Sound.enter (hholds : C.Holds digestOf config)
    (hsound : C.Sound digestOf config system) {footprint : Footprint}
    (hserving : system.mode.isServing = true)
    (htask : system.tasks.lookup id = some task)
    (hbody : body? digestOf config task.request task.phase now =
      some (footprint, body)) (hadmits : system.admits footprint = true) :
    C.Sound digestOf config
      (system.setPhase id task.request (.inside footprint body)) := by
  obtain ⟨hserves, hnone, hunreturned⟩ := serves_of_body hbody
  have houtside : ∀ task', system.tasks.lookup id = some task' →
      task'.phase.footprint? = none := by
    intro task' htask'
    cases htask.symm.trans htask'
    exact hnone
  obtain ⟨htyped, hfeeds, hstages⟩ := hsound.typed id task htask
  have hwp := hholds.body htyped hfeeds hstages hbody hsound.invariant
    system.ledger (hsound.settled_of_admits hserving hadmits)
  obtain ⟨hsession, hobject⟩ := hsound.free hserving houtside
  refine hsound.moved hserving hsound.invariant ?_
    ⟨htyped, hfeeds, trivial⟩ ?_ ?_ ?_ ?_ (fun _ _ h => h)
    (fun _ h => nomatch h)
  · intro request' result htask'
    cases htask.symm.trans htask'
    exact hunreturned result rfl
  · intro footprint' body' h
    cases h
    exact ⟨hserves, hwp⟩
  · rintro other ⟨id', task', -, htask', hf⟩
    refine ⟨(C.setting other).rely_refl _, fun footprint' hf' => ?_,
      fun _ _ => rfl⟩
    cases hf'
    exact compatible_of_admits hadmits htask' hf
  · intro s hfree
    exact (Set.union_empty (system.ledger s)).symm ▸ hsession s ⟨nofun, hfree.2⟩
  · exact fun d hfree => hobject d ⟨nofun, hfree.2⟩

theorem gains_of_serves {footprint : Footprint} {s : SessionId}
    (hserves : footprint.Serves request)
    (hfree : ¬footprint.HoldsSession s) : gains request result s = ∅ := by
  refine Set.eq_empty_of_forall_notMem ?_
  rintro digest ⟨hsession, -⟩
  cases footprint with
  | shared s' d' => exact hfree (Option.some.inj (hserves.symm.trans hsession))
  | exclusive => exact hfree trivial

theorem Sound.leave (hsound : C.Sound digestOf config system)
    {footprint : Footprint} (hserving : system.mode.isServing = true)
    (htask : system.tasks.lookup id =
      some ⟨request, .inside footprint (.done result)⟩) :
    C.Sound digestOf config
      (system.setPhase id request (.returned result)) := by
  obtain ⟨hserves, hwp⟩ := hsound.inside id request footprint _ htask
  obtain ⟨hsettled, htold⟩ := Prog.wp_done hwp
    (by rw [setting_invariant]; exact hsound.invariant)
  obtain ⟨htyped, hfeeds, -⟩ := hsound.typed id _ htask
  obtain ⟨hsession, hobject⟩ := hsound.free hserving fun task' htask' => by
    cases htask.symm.trans htask'
    exact rfl
  refine hsound.moved hserving hsound.invariant ?_
    ⟨htyped, hfeeds, trivial⟩ (fun _ _ h => nomatch h) ?_ ?_ ?_
    (fun _ _ h => h) ?_
  · intro request' result' htask'
    cases htask.symm.trans htask'
  · rintro other ⟨id', task', hne, htask', hf⟩
    refine ⟨(C.setting other).rely_refl _, (fun _ h => nomatch h),
      fun s hholds => ?_⟩
    refine gains_of_serves hserves fun h => ?_
    exact (Footprint.apart_of_compatible (hsound.apart id id' _ _ _ _ hne.symm
      htask htask' rfl hf)).1 s h hholds
  · intro s hfree
    by_cases hholds : footprint.HoldsSession s
    · cases footprint with
      | shared s' d' =>
        cases hholds
        exact hsettled.1
      | exclusive => exact hsettled.1 s
    · change C.ofSession (system.ledger s ∪ gains request result s) s
        system.store
      rw [gains_of_serves hserves hholds, Set.union_empty]
      refine hsession s ⟨fun footprint' h => ?_, hfree.2⟩
      cases h
      exact hholds
  · intro d hfree
    by_cases hholds : footprint.HoldsObject d
    · cases footprint with
      | shared s' d' =>
        cases hholds
        exact hsettled.2
      | exclusive => exact hsettled.2 d
    · refine hobject d ⟨fun footprint' h => ?_, hfree.2⟩
      cases h
      exact hholds
  · intro result' h
    cases h
    exact htold

/-- What a call that is inside may have done: nothing, or a permitted action
on what it holds. -/
def Did (C : Contract) (footprint : Footprint) (store after : Store) : Prop :=
  after = store ∨ ∃ action, C.permitted action store ∧
    Effect action store after ∧
    ∀ s d, footprint = .shared s d → action.Within s d

/-- One primitive of a call keeps the invariant and what is settled, and does
not disturb the others. -/
theorem Holds.did (hholds : C.Holds digestOf config) {footprint : Footprint}
    (hinv : C.invariant store) (hdid : C.Did footprint store after) :
    C.invariant after ∧
      (∀ request result, C.told request result store →
        C.told request result after) ∧
      (∀ ledger s, ¬footprint.HoldsSession s → C.ofSession ledger s store →
        C.ofSession ledger s after) ∧
      (∀ d, ¬footprint.HoldsObject d → C.ofObject d store →
        C.ofObject d after) ∧
      ∀ other, footprint.compatible other = true →
        (C.setting other).rely store after := by
  rcases hdid with rfl | ⟨action, hmay, heffect, hwithin⟩
  · exact ⟨hinv, fun _ _ h => h, fun _ _ _ h => h, fun _ _ h => h,
      fun other _ => (C.setting other).rely_refl _⟩
  · refine ⟨hholds.keep hinv hmay heffect,
      fun _ _ h => hholds.told_keep hinv hmay heffect h, ?_, ?_, ?_⟩
    · intro ledger s hfree h
      cases footprint with
      | shared s' d' =>
        exact hholds.session_kept (fun h => hfree h.symm)
          (hwithin s' d' rfl) heffect h
      | exclusive => exact absurd trivial hfree
    · intro d hfree h
      cases footprint with
      | shared s' d' =>
        exact hholds.object_kept (fun h => hfree h.symm)
          (hwithin s' d' rfl) heffect h
      | exclusive => exact absurd trivial hfree
    · intro other hcompat
      obtain ⟨s, d, s', d', rfl, rfl, hs, hd⟩ :=
        Footprint.shared_of_compatible hcompat
      exact ⟨session_undisturbed_of_within hs.symm (hwithin s d rfl) heffect,
        object_undisturbed_of_within hd.symm (hwithin s d rfl) heffect⟩

theorem did_of_step {α : Type} {footprint : Footprint} {post : α → Store → Prop}
    {body rest : Prog filesystem α} {turn : Turn filesystem}
    (hwp : Prog.wp (C.setting footprint) post body store)
    (hinv : C.invariant store) (hadmits : body.Admits C.faults store turn)
    (hstep : body.step store turn = some (rest, after)) :
    Prog.wp (C.setting footprint) post rest after ∧
      C.Did footprint store after := by
  have hinv' : (C.setting footprint).invariant store := by
    rwa [setting_invariant]
  have hadmits' : body.Admits (C.setting footprint).faults store turn := by
    rw [setting_faults]
    exact hadmits
  obtain ⟨hrest, hcase⟩ := Prog.wp_step hwp hinv' hadmits' hstep
  refine ⟨hrest, ?_⟩
  rcases hcase with rfl | ⟨action, choice, hmay, happly⟩
  · exact .inl rfl
  · refine .inr ⟨action, ?_, effect_of_apply happly, ?_⟩
    · cases footprint with
      | shared s d => exact hmay.1
      | exclusive => exact hmay
    · rintro s d rfl
      exact hmay.2

theorem Sound.turn (hholds : C.Holds digestOf config)
    (hsound : C.Sound digestOf config system) {footprint : Footprint}
    {body rest : Body} {turn : Turn filesystem} {store : Store}
    (hserving : system.mode.isServing = true)
    (htask : system.tasks.lookup id = some ⟨request, .inside footprint body⟩)
    (hadmits : body.Admits C.faults system.store turn)
    (hstep : body.step system.store turn = some (rest, store)) :
    C.Sound digestOf config ({ system with store := store }.setPhase id
      request (.inside footprint rest)) := by
  obtain ⟨hserves, hwp⟩ := hsound.inside id request footprint body htask
  obtain ⟨hrest, hdid⟩ := did_of_step hwp hsound.invariant hadmits hstep
  obtain ⟨hinv, htold, hsession, hobject, hrely⟩ :=
    hholds.did hsound.invariant hdid
  obtain ⟨htyped, hfeeds, -⟩ := hsound.typed id _ htask
  obtain ⟨hfreeSession, hfreeObject⟩ := hsound.free hserving
    fun task' htask' => by
      cases htask.symm.trans htask'
      exact rfl
  refine hsound.moved hserving hinv ?_ ⟨htyped, hfeeds, trivial⟩ ?_ ?_ ?_
    ?_ htold (fun _ h => nomatch h)
  · intro request' result' htask'
    cases htask.symm.trans htask'
  · intro footprint' body' h
    cases h
    exact ⟨hserves, hrest⟩
  · rintro other ⟨id', task', hne, htask', hf⟩
    have hcompat := hsound.apart id id' _ _ _ _ hne.symm htask htask' rfl hf
    refine ⟨hrely other hcompat, fun footprint' h => ?_, fun _ _ => rfl⟩
    cases h
    exact hcompat
  · intro s hfree
    exact (Set.union_empty (system.ledger s)).symm ▸ hsession _ s
      (hfree.1 footprint rfl) (hfreeSession s hfree)
  · intro d hfree
    exact hobject d (hfree.1 footprint rfl) (hfreeObject d hfree)

/-! ## Opening and closing -/

theorem sound_unserved {mode : Mode} (hmode : mode.isServing = false)
    (hinv : C.invariant store)
    (hclosed : mode = .closed → store.index = none ∧ C.fresh store)
    (hopening : ∀ body, mode = .opening body →
      Prog.wp C.exclusive C.postNew body store) :
    C.Sound digestOf config ⟨store, mode, ∅⟩ where
  invariant := hinv
  unserved _ := rfl
  closed := hclosed
  opening := hopening
  typed _ _ h := by cases h
  inside _ _ _ _ h := by cases h
  apart _ _ _ _ _ _ _ h := by cases h
  session h := absurd (hmode.symm.trans h) (by decide)
  object h := absurd (hmode.symm.trans h) (by decide)
  told _ _ _ h := by cases h

theorem sound_opened (hinv : C.invariant store)
    (hsettled : C.settled (fun _ => ∅) store .exclusive) :
    C.Sound digestOf config ⟨store, .serving, ∅⟩ where
  invariant := hinv
  unserved h := by cases h
  closed h := by cases h
  opening _ h := by cases h
  typed _ _ h := by cases h
  inside _ _ _ _ h := by cases h
  apart _ _ _ _ _ _ _ h := by cases h
  session _ s _ := by
    have hledger : ledger ⟨store, .serving, ∅⟩ s = ∅ := by
      refine Set.eq_empty_of_forall_notMem ?_
      rintro digest ⟨_, _, _, h, -⟩
      cases h
    rw [hledger]
    exact hsettled.1 s
  object _ d _ := hsettled.2 d
  told _ _ _ h := by cases h

/-! ## Steps and runs -/

/-- The labels of the runs the contract is about. -/
def Covers (C : Contract) (config : FileEvidenceStoreConfig) : Label → Prop
  | .call _ request => C.Feeds config request
  | .crash _ => C.crashes
  | _ => True

theorem Sound.serving_of_lookup (hsound : C.Sound digestOf config system)
    (h : system.tasks.lookup id = some task) :
    system.mode.isServing = true := by
  by_contra hmode
  rw [hsound.unserved (Bool.not_eq_true _ ▸ hmode)] at h
  cases h

section

variable (hholds : C.Holds digestOf config)
  (hsound : C.Sound digestOf config system)

include hholds hsound

theorem Sound.call {after : System} (hfeeds : C.Feeds config request)
    (hstep : system.step digestOf config (.call id request) = some after) :
    C.Sound digestOf config after := by
  obtain ⟨hfree, hstep⟩ := Option.ite_none_right_eq_some.mp hstep
  obtain ⟨phase, hstart, rfl⟩ := Option.map_eq_some_iff.mp hstep
  have hphase : phase = .called ∨ ∃ e, phase = .returned (.error e) := by
    cases request <;> simp only [start] at hstart
    · split at hstart <;> cases hstart
      exact .inl rfl
    · split at hstart <;> cases hstart
      · exact .inl rfl
      · exact .inr ⟨_, rfl⟩
    · exact .inl (Option.some.inj hstart).symm
    · exact .inl (Option.some.inj hstart).symm
  have htyped : Typed request := by
    cases request with
    | put call =>
      simp only [start, PutEvidence.new] at hstart
      show validateMediaType call.request.mediaType = .ok ()
      cases hmedia : validateMediaType call.request.mediaType with
      | ok value => rfl
      | error e =>
        rw [hmedia] at hstart
        cases hstart
    | _ => trivial
  refine hsound.outside hfree.1 (fun task h => ?_) ?_ ⟨htyped, hfeeds, ?_⟩ ?_
  · cases (Option.isNone_iff_eq_none.mp hfree.2).symm.trans h
  · rcases hphase with rfl | ⟨e, rfl⟩
    · trivial
    · exact ⟨e, rfl⟩
  · rcases hphase with rfl | ⟨e, rfl⟩ <;> trivial
  · intro result hresult
    rcases hphase with rfl | ⟨e, rfl⟩ <;> cases hresult
    exact hholds.refused (.inl (by simp [hstart]))

theorem Sound.put_outside {call : PutCall} {before : Phase}
    (htask : system.tasks.lookup id = some ⟨.put call, before⟩)
    (hbefore : before = .called ∨ before = .streaming)
    (hphase : phase = .streaming ∨
      (∃ now digest object, phase = .staged digest object ∧
        stage digestOf config call now = .ok (digest, object)) ∨
      ∃ e, phase = .returned (.error e)) :
    C.Sound digestOf config (system.setPhase id (.put call) phase) := by
  obtain ⟨htyped, hfeeds, -⟩ := hsound.typed id _ htask
  refine hsound.outside (hsound.serving_of_lookup htask)
    (fun task h => ?_) ?_ ⟨htyped, hfeeds, ?_⟩ ?_
  · cases htask.symm.trans h
    rcases hbefore with rfl | rfl <;> exact ⟨rfl, nofun⟩
  · rcases hphase with rfl | ⟨_, _, _, rfl, -⟩ | ⟨e, rfl⟩
    · trivial
    · trivial
    · exact ⟨e, rfl⟩
  · rcases hphase with rfl | ⟨now, digest, object, rfl, hstage⟩ | ⟨_, rfl⟩
    · trivial
    · exact ⟨call, now, rfl, hstage⟩
    · trivial
  · rintro result rfl
    rcases hphase with h | ⟨_, _, _, h, -⟩ | ⟨e, h⟩ <;> cases h
    exact hholds.refused (.inr ⟨call, rfl⟩)

theorem Sound.step {after : System} (hcovers : C.Covers config label)
    (hstep : System.Step digestOf config C.faults system label after) :
    C.Sound digestOf config after := by
  obtain ⟨hfaulty, hstep⟩ := hstep
  cases label <;> simp only [System.step] at hstep
  case call id request => exact hsound.call hholds hcovers hstep
  case check id missed fault =>
    repeat' split at hstep
    all_goals cases hstep
    next htask _ _ _ =>
      exact hsound.put_outside hholds htask (.inl rfl) (.inl rfl)
    next htask _ _ e _ =>
      exact hsound.put_outside hholds htask (.inl rfl) (.inr (.inr ⟨e, rfl⟩))
  case stage id now fault =>
    repeat' split at hstep
    all_goals cases hstep
    next htask _ _ =>
      exact hsound.put_outside hholds htask (.inr rfl) (.inr (.inr ⟨_, rfl⟩))
    next htask _ _ digest object hstage =>
      exact hsound.put_outside hholds htask (.inr rfl)
        (.inr (.inl ⟨now, digest, object, rfl, hstage⟩))
    next htask _ _ e _ =>
      exact hsound.put_outside hholds htask (.inr rfl) (.inr (.inr ⟨e, rfl⟩))
  case enter id now =>
    repeat' split at hstep
    all_goals cases hstep
    next htask _ _ _ hbody hadmits =>
      exact hsound.enter hholds (hsound.serving_of_lookup htask) htask hbody
        hadmits
  case turn id turn =>
    repeat' split at hstep
    all_goals cases hstep
    next request footprint body htask _ _ _ hrest =>
      exact hsound.turn hholds (hsound.serving_of_lookup htask) htask
        (hfaulty request footprint body htask) hrest
  case leave id =>
    split at hstep
    next htask =>
      cases hstep
      exact hsound.leave (hsound.serving_of_lookup htask) htask
    next => cases hstep
  case crash fallback =>
    split at hstep
    next => cases hstep
    next disk hdisk =>
      cases hstep
      obtain ⟨hinv, hfresh⟩ := hholds.crash hcovers hsound.invariant
        (List.mem_of_getElem? hdisk)
      exact sound_unserved rfl hinv (fun _ => ⟨rfl, hfresh⟩)
        (fun _ h => nomatch h)
  case reopen now =>
    split at hstep
    next hmode =>
      cases hstep
      rw [hsound.unserved (by rw [hmode]; rfl)]
      refine sound_unserved rfl hsound.invariant (fun h => nomatch h) ?_
      intro body hbody
      cases hbody
      exact hholds.new hsound.invariant (hsound.closed hmode).1
        (hsound.closed hmode).2
    next => cases hstep
  case recover turn =>
    repeat' split at hstep
    all_goals cases hstep
    next body hmode _ _ _ hrest =>
      have hopening : Prog.wp (C.setting .exclusive) C.postNew body
          system.store := hsound.opening body hmode
      obtain ⟨hwp, hdid⟩ := did_of_step hopening hsound.invariant
        (hfaulty body hmode) hrest
      rw [hsound.unserved (by rw [hmode]; rfl)]
      refine sound_unserved rfl (hholds.did hsound.invariant hdid).1
        (fun h => nomatch h) ?_
      intro body' hbody'
      cases hbody'
      exact hwp
  case opened =>
    split at hstep
    next hmode =>
      cases hstep
      have hpost := Prog.wp_done (hsound.opening _ hmode) hsound.invariant
      rw [hsound.unserved (by rw [hmode]; rfl)]
      exact sound_opened hsound.invariant hpost
    next hmode =>
      cases hstep
      have hpost := Prog.wp_done (hsound.opening _ hmode) hsound.invariant
      rw [hsound.unserved (by rw [hmode]; rfl)]
      exact sound_unserved rfl (hholds.forget hsound.invariant)
        (fun _ => ⟨rfl, hpost⟩) (fun _ h => nomatch h)
    next => cases hstep

theorem Sound.run {after : System}
    (hcovers : ∀ label ∈ labels, C.Covers config label)
    (hrun : Transition.Run (System.Step digestOf config C.faults) system
      labels after) : C.Sound digestOf config after := by
  refine (hrun.guarded hcovers).invariant (I := C.Sound digestOf config) ?_
    hsound
  exact fun s label t hs hstep => hs.step hholds hstep.1 hstep.2

end

/-- What a call that is inside may have done to the tree. -/
theorem Did.change {footprint : Footprint} (h : C.Did footprint store after) :
    after.disks = store.disks ∨
      ∃ action, C.permitted action store ∧ Effect action store after := by
  rcases h with rfl | ⟨action, hmay, heffect, -⟩
  · exact .inl rfl
  · exact .inr ⟨action, hmay, heffect⟩

/-- What a step other than a crash does to the tree: nothing, or what one
permitted action does. -/
theorem Sound.change (hsound : C.Sound digestOf config system)
    {after : System}
    (hstep : System.Step digestOf config C.faults system label after)
    (hcrash : ∀ fallback, label ≠ .crash fallback) :
    after.store.disks = system.store.disks ∨
      ∃ action, C.permitted action system.store ∧
        Effect action system.store after.store := by
  obtain ⟨hfaulty, hstep⟩ := hstep
  cases label <;> simp only [System.step] at hstep
  case call id request =>
    split at hstep
    next =>
      obtain ⟨phase, -, rfl⟩ := Option.map_eq_some_iff.mp hstep
      exact .inl rfl
    next => cases hstep
  case turn id turn =>
    repeat' split at hstep
    all_goals cases hstep
    next request footprint body htask _ _ _ hrest =>
      exact (did_of_step (hsound.inside id request footprint body htask).2
        hsound.invariant (hfaulty request footprint body htask) hrest).2.change
  case crash fallback => exact absurd rfl (hcrash fallback)
  case recover turn =>
    repeat' split at hstep
    all_goals cases hstep
    next body hmode _ _ _ hrest =>
      have hopening : Prog.wp (C.setting .exclusive) C.postNew body
          system.store := hsound.opening body hmode
      exact (did_of_step hopening hsound.invariant (hfaulty body hmode)
        hrest).2.change
  all_goals
    repeat' split at hstep
    all_goals cases hstep <;> exact .inl rfl

end Contract

/-! ## Runs without faults -/

/-- No primitive fails that the state allows. -/
def noFaults : Faults filesystem := ⟨fun _ _ => False, fun _ _ => False⟩

/-- A step that reports no fault. -/
def Label.calm : Label → Bool
  | .check _ missed fault => !missed && fault.isNone
  | .stage _ _ fault => fault.isNone
  | .turn _ (.fault _) => false
  | .recover (.fault _) => false
  | _ => true

theorem System.faulty_of_calm (h : label.calm = true) :
    Faulty F system label := by
  cases label with
  | check id missed fault =>
    simp only [Label.calm, Bool.and_eq_true, Bool.not_eq_true',
      Option.isNone_iff_eq_none] at h
    intro call phase _
    simp [h.1, h.2]
  | stage id now fault =>
    simp only [Label.calm, Option.isNone_iff_eq_none] at h
    intro hfault
    simp [h] at hfault
  | turn id turn =>
    cases turn with
    | fault fault => cases h
    | go choice =>
      intro request footprint body _
      cases body <;> trivial
  | recover turn =>
    cases turn with
    | fault fault => cases h
    | go choice =>
      intro body _
      cases body <;> trivial
  | _ => trivial

/-- A schedule without faults. -/
def System.calmRun (digestOf : Content → Sha256Digest)
    (config : FileEvidenceStoreConfig) (system : System)
    (labels : List Label) : Option System :=
  Transition.exec (fun system label =>
    if label.calm then system.step digestOf config label else none) system
    labels

theorem System.run_of_calmRun {digestOf : Content → Sha256Digest}
    {config : FileEvidenceStoreConfig} {after : System}
    (h : system.calmRun digestOf config labels = some after) :
    Transition.Run (Step digestOf config F) system labels after := by
  refine Transition.run_of_exec (fun before label after hstep => ?_) h
  split at hstep
  next hcalm => exact ⟨faulty_of_calm hcalm, hstep⟩
  next => cases hstep

end DeviceRail.EvidenceFs
