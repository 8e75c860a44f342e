import DeviceRail.EvidenceFs.Operations
import DeviceRail.Support.Transition

/-!
# The evidence store under concurrent calls, faults and crashes

A process serves any number of calls at once.  `put` and `attach` hold the
gate of their object, the gate of their session and the store gate for
reading; `release_session` and `gc` hold the store gate for writing.  The two
kinds of stripes and the store gate are modelled by who may be inside at the
same time.  Every primitive of a call is one step, taken in any order the
gates allow.

A crash may come between any two steps.  It falls back to one of the trees
seen since the last successful sync, and the store is then opened again.
-/

namespace DeviceRail.EvidenceFs

/-! ## Calls -/

inductive Request where
  | put (call : PutCall)
  | attach (sessionId : SessionId) (asset : AssetRef)
  | releaseSession (sessionId : SessionId) (releasedAtMs : ℕ)
  | gc (policy : GcPolicy)
deriving DecidableEq, Repr

inductive Reply where
  | stored (evidence : StoredEvidence)
  | released (report : ReleaseReport)
  | collected (report : GcReport)

/-- What a call holds while it is inside: the gates of one session and one
object with the store gate for reading, or the store gate for writing. -/
inductive Footprint where
  | shared (sessionId : SessionId) (digest : Sha256Digest)
  | exclusive
deriving DecidableEq, Repr

/-- The stripe of `object_gate`: the first byte of the digest. -/
def objectStripe (digest : Sha256Digest) : List Char :=
  digest.text.toList.take 2

/-- The stripe of `session_gate`: the first byte of the identifier. -/
def sessionStripe (sessionId : SessionId) : BitVec 8 :=
  sessionId.uuid.bits.extractLsb' 120 8

/-- Two calls may be inside together. -/
def Footprint.compatible : Footprint → Footprint → Bool
  | .shared s d, .shared s' d' =>
    decide (objectStripe d ≠ objectStripe d') &&
      decide (sessionStripe s ≠ sessionStripe s')
  | _, _ => false

/-- The body of a call that is inside. -/
abbrev Body := Prog filesystem (Except EvidenceError Reply)

inductive Phase where
  /-- Nothing was done yet. -/
  | called
  /-- A `put` found its session open and streams its input. -/
  | streaming
  /-- A `put` waits for its gates with a staged object. -/
  | staged (digest : Sha256Digest) (object : ObjectDirectory)
  | inside (footprint : Footprint) (body : Body)
  | returned (result : Except EvidenceError Reply)

structure Task where
  request : Request
  phase : Phase

def Phase.footprint? : Phase → Option Footprint
  | .inside footprint _ => some footprint
  | _ => none

/-! ## The system -/

inductive Mode where
  | closed
  | opening (body : Prog filesystem (Except EvidenceError Unit))
  | serving

structure System where
  store : Store
  mode : Mode
  tasks : KeyedMap ℕ Task

def System.initial : System := ⟨⟨Disk.empty, [], none⟩, .closed, ∅⟩

def Mode.isServing : Mode → Bool
  | .serving => true
  | _ => false

inductive Label where
  | call (id : ℕ) (request : Request)
  /-- The first `ensure_session_open` of a `put`; its two reads may fail. -/
  | check (id : ℕ) (missed : Bool) (fault : Option IoFault)
  /-- The end of the input of a `put`, or a fault on the way there. -/
  | stage (id : ℕ) (now : ℕ) (fault : Option IoFault)
  | enter (id : ℕ) (now : ℕ)
  | turn (id : ℕ) (turn : Turn filesystem)
  | leave (id : ℕ)
  | crash (fallback : ℕ)
  | reopen (now : ℕ)
  | recover (turn : Turn filesystem)
  | opened

namespace System

variable (digestOf : Content → Sha256Digest) (config : FileEvidenceStoreConfig)

/-- The footprints of the calls that are inside. -/
def footprints (system : System) : List Footprint :=
  system.tasks.values.filterMap (·.phase.footprint?)

/-- A call with this footprint may enter. -/
def admits (system : System) (footprint : Footprint) : Bool :=
  system.footprints.all footprint.compatible

def setPhase (system : System) (id : ℕ) (request : Request) (phase : Phase) :
    System :=
  { system with tasks := system.tasks.insert id ⟨request, phase⟩ }

/-- How a call starts.  A `PutEvidence` was checked when it was built, and
`attach` checks its asset before it takes a gate. -/
def start (request : Request) : Option Phase :=
  match request with
  | .put call =>
    match PutEvidence.new call.request.sessionId call.request.mediaType with
    | .ok _ => some .called
    | .error _ => none
  | .attach _ asset =>
    match Sha256Digest.fromAssetRef asset with
    | .ok _ => some .called
    | .error e => some (.returned (.error e))
  | .releaseSession _ _ => some .called
  | .gc _ => some .called

/-- The outcome of the first `ensure_session_open` of a `put`. -/
def firstCheck (disk : Disk) (sessionId : SessionId) (missed : Bool)
    (fault : Option IoFault) : Except EvidenceError Unit :=
  match disk.releasedSessions.lookup sessionId with
  | none => .ok ()
  | some marker =>
    if missed then .ok ()
    else
      match fault with
      | some fault => .error (.io fault.operation fault.message)
      | none =>
        match validateReleasedSessionMarker marker sessionId with
        | .error e => .error e
        | .ok () => .error (.sessionClosed sessionId)

/-- What a call runs once it is inside, and what it holds meanwhile. -/
def body? (request : Request) (phase : Phase) (now : ℕ) :
    Option (Footprint × Fs Reply) :=
  match request, phase with
  | .put call, .staged digest object =>
    some (.shared call.request.sessionId digest, do
      let evidence ← putLocked digestOf config call digest object
      return .stored evidence)
  | .attach sessionId asset, .called =>
    match Sha256Digest.fromAssetRef asset with
    | .error _ => none
    | .ok digest =>
      some (.shared sessionId digest, do
        let evidence ←
          attachLocked digestOf config sessionId asset digest now
        return .stored evidence)
  | .releaseSession sessionId releasedAtMs, .called =>
    some (.exclusive, do
      let report ← releaseSession sessionId releasedAtMs now
      return .released report)
  | .gc policy, .called =>
    some (.exclusive, do
      let report ← gc digestOf policy now
      return .collected report)
  | _, _ => none

def step (system : System) : Label → Option System
  | .call id request =>
    if system.mode.isServing ∧ (system.tasks.lookup id).isNone then
      (start request).map (system.setPhase id request)
    else none
  | .check id missed fault =>
    match system.tasks.lookup id with
    | some ⟨.put call, .called⟩ =>
      if Footprint.exclusive ∈ system.footprints then none
      else
        match firstCheck system.store.disk call.request.sessionId missed
            fault with
        | .ok () => some (system.setPhase id (.put call) .streaming)
        | .error e =>
          some (system.setPhase id (.put call) (.returned (.error e)))
    | _ => none
  | .stage id now fault =>
    match system.tasks.lookup id with
    | some ⟨.put call, .streaming⟩ =>
      match fault with
      | some fault =>
        some (system.setPhase id (.put call)
          (.returned (.error (.io fault.operation fault.message))))
      | none =>
        match stage digestOf config call now with
        | .ok (digest, object) =>
          some (system.setPhase id (.put call) (.staged digest object))
        | .error e =>
          some (system.setPhase id (.put call) (.returned (.error e)))
    | _ => none
  | .enter id now =>
    match system.tasks.lookup id with
    | none => none
    | some task =>
      match body? digestOf config task.request task.phase now with
      | none => none
      | some (footprint, body) =>
        if system.admits footprint then
          some (system.setPhase id task.request (.inside footprint body))
        else none
  | .turn id turn =>
    match system.tasks.lookup id with
    | some ⟨request, .inside footprint body⟩ =>
      match body.step system.store turn with
      | none => none
      | some (rest, store) =>
        some ({ system with store := store }.setPhase id request
          (.inside footprint rest))
    | _ => none
  | .leave id =>
    match system.tasks.lookup id with
    | some ⟨request, .inside _ (.done result)⟩ =>
      some (system.setPhase id request (.returned result))
    | _ => none
  | .crash fallback =>
    match system.store.disks[fallback]? with
    | none => none
    | some disk => some ⟨⟨disk, [], none⟩, .closed, ∅⟩
  | .reopen now =>
    match system.mode with
    | .closed => some { system with mode := .opening (new digestOf config now) }
    | _ => none
  | .recover turn =>
    match system.mode with
    | .opening body =>
      match body.step system.store turn with
      | none => none
      | some (rest, store) =>
        some { system with store := store, mode := .opening rest }
    | _ => none
  | .opened =>
    match system.mode with
    | .opening (.done (.ok ())) => some { system with mode := .serving }
    | .opening (.done (.error _)) =>
      some { system with
        store := { system.store with index := none }
        mode := .closed }
    | _ => none

/-- The faults of a step are among `F`. -/
def Faulty (F : Faults filesystem) (system : System) : Label → Prop
  | .check id missed fault =>
    ∀ call phase, system.tasks.lookup id = some ⟨.put call, phase⟩ →
      (missed = true →
        F.look (.present (.file (.released call.request.sessionId)))
          system.store) ∧
      (fault.isSome = true → F.look .read system.store)
  | .stage _ _ fault => fault.isSome = true → F.look .read system.store
  | .turn id turn =>
    ∀ request footprint body,
      system.tasks.lookup id = some ⟨request, .inside footprint body⟩ →
        body.Admits F system.store turn
  | .recover turn =>
    ∀ body, system.mode = .opening body → body.Admits F system.store turn
  | _ => True

/-- One step whose faults are among `F`. -/
def Step (F : Faults filesystem) (system : System) (label : Label)
    (after : System) : Prop :=
  Faulty F system label ∧ system.step digestOf config label = some after

end System

end DeviceRail.EvidenceFs
