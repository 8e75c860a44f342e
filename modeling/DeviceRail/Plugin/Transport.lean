import DeviceRail.Support.Framing
import DeviceRail.Support.Transition

/-!
# The plugin transport

`PluginTransport::request`: requests take turns at one plugin process, write a
line and read a line.  A request that ends in doubt poisons the process, which
is never started again.  A request whose future is dropped just releases the
process.  One that waits for its turn touches nothing, so that only the
exchanges appear here.
-/

namespace DeviceRail.PluginTransport

open Transition
open Framing (Read pieces readUntil)

abbrev newline : UInt8 := 10

abbrev carriageReturn : UInt8 := 13

def pluginAbiVersion : ℕ := 1

def maxRequestBytes : ℕ := 1024 * 1024

def maxStdoutBytes : ℕ := 24 * 1024 * 1024

inductive PluginOperation where
  | hello
  | health
  | connect
  | disconnect
  | observe
  | execute

inductive ExpectedResult where
  | hello
  | ack
  | frame
  | action
deriving DecidableEq

def ExpectedResult.forOperation : PluginOperation → ExpectedResult
  | .hello => .hello
  | .health | .connect | .disconnect => .ack
  | .observe => .frame
  | .execute => .action

/-- A request with its encoding. -/
structure PluginRequest where
  requestId : ℕ
  operation : PluginOperation
  bytes : List UInt8

def PluginRequest.line (request : PluginRequest) : List UInt8 :=
  request.bytes ++ [newline]

/-- A response over any type of results, each with its kind. -/
structure PluginResponse (ρ : Type) where
  abiVersion : ℕ
  requestId : ℕ
  ok : Bool
  result : Option (ExpectedResult × ρ)
  error : Option (String × Bool)

def validRemoteCode (code : String) : Bool :=
  !code.isEmpty && code.utf8ByteSize ≤ 57 &&
    code.toList.zipIdx.all fun (char, index) =>
      char.isLower || (0 < index && (char.isDigit || char == '_'))

/-- How an exchange ends. -/
inductive Outcome (ρ : Type) where
  | result (result : ExpectedResult × ρ)
  | remote (code : String) (retryable : Bool)
  | fatal

/-- What a request makes of the line it read. -/
def judge {ρ : Type} (decode : List UInt8 → Option (PluginResponse ρ))
    (request : PluginRequest) (frame : List UInt8) : Outcome ρ :=
  if frame = [] ∨ frame.getLast? = some carriageReturn then .fatal
  else
    match decode frame with
    | none => .fatal
    | some response =>
      if response.abiVersion ≠ pluginAbiVersion ∨
          response.requestId ≠ request.requestId then .fatal
      else
        match response.ok, response.result, response.error with
        | true, some result, none =>
          if result.1 = .forOperation request.operation then .result result
          else .fatal
        | false, none, some (code, retryable) =>
          if validRemoteCode code then .remote code retryable else .fatal
        | _, _, _ => .fatal

inductive SupervisorState where
  | notStarted
  | running
  | broken
deriving DecidableEq

/-- A request that has had the process, and how far it came. -/
structure Exchange where
  request : PluginRequest
  written : ℕ
  reading : Bool

/-- What the process was sent of a request. -/
def Exchange.sent (exchange : Exchange) : List UInt8 :=
  exchange.request.line.take exchange.written

inductive Ending (ρ : Type) where
  | finished (outcome : Outcome ρ)
  | dropped

/-- The exchange was interrupted once its first byte had been written. -/
def Interrupted {ρ : Type} (exchange : Exchange) : Ending ρ → Prop
  | .finished .fatal | .dropped => 0 < exchange.written
  | _ => False

/-- The exchange that has the process and those that are over, what the process
has printed and not been read, what the pending read has consumed, and as a
record all that the process was sent and has printed and the lines read. -/
structure Transport (ρ : Type) where
  supervisor : SupervisorState
  current : Option Exchange
  ended : List (Exchange × Ending ρ)
  unread : List UInt8
  reading : List UInt8
  stdin : List UInt8
  stdout : List UInt8
  frames : List (List UInt8 × Bool)

variable {ρ : Type}

namespace Transport

def new : Transport ρ := ⟨.notStarted, none, [], [], [], [], [], []⟩

variable (s : Transport ρ)

def exchanges : List Exchange := s.ended.map Prod.fst ++ s.current.toList

def read : Read UInt8 :=
  readUntil newline (maxStdoutBytes + 1) s.reading s.unread

/-- The exchange is over; in doubt, the process is poisoned. -/
def close (exchange : Exchange) (ending : Ending ρ) : Transport ρ :=
  { s with
    supervisor :=
      match ending with
      | .finished .fatal => .broken
      | _ => s.supervisor
    current := none
    ended := s.ended ++ [(exchange, ending)] }

end Transport

inductive Label where
  | plugin
  | request
  | drop

/-- The steps of the requests and of the process.  An exchange may fail, be
cancelled or time out at any point. -/
inductive Step {ρ : Type} (decode : List UInt8 → Option (PluginResponse ρ))
    (s : Transport ρ) : Label → Transport ρ → Prop
  | print (bytes : List UInt8) :
      Step decode s .plugin
        { s with unread := s.unread ++ bytes, stdout := s.stdout ++ bytes }
  | spawn (hfree : s.current = none) (hstart : s.supervisor = .notStarted) :
      Step decode s .request { s with supervisor := .running }
  | begin (request : PluginRequest) (hfree : s.current = none)
      (hrunning : s.supervisor = .running)
      (hsize : request.bytes ≠ [] ∧ request.bytes.length < maxRequestBytes) :
      Step decode s .request { s with current := some ⟨request, 0, false⟩ }
  | write {request written} (count : ℕ)
      (hcurrent : s.current = some ⟨request, written, false⟩)
      (hle : written + count ≤ request.line.length) :
      Step decode s .request
        { s with
          current := some ⟨request, written + count, false⟩
          stdin := s.stdin ++ (request.line.drop written).take count }
  | flush {request}
      (hcurrent : s.current = some ⟨request, request.line.length, false⟩) :
      Step decode s .request
        { s with
          current := some ⟨request, request.line.length, true⟩
          reading := [] }
  | poll {request written piece}
      (hcurrent : s.current = some ⟨request, written, true⟩)
      (hread : s.read = .pending piece) :
      Step decode s .request { s with reading := piece, unread := [] }
  | reply {request written frame rest}
      (hcurrent : s.current = some ⟨request, written, true⟩)
      (hread : s.read = .finished frame true rest) :
      Step decode s .request
        ({ s with
            reading := []
            unread := rest
            frames := s.frames ++ [(frame, true)] }.close
          ⟨request, written, true⟩ (.finished (judge decode request frame)))
  | fail {exchange} (hcurrent : s.current = some exchange) :
      Step decode s .request (s.close exchange (.finished .fatal))
  | drop {exchange} (hcurrent : s.current = some exchange) :
      Step decode s .drop (s.close exchange .dropped)

/-- No future is dropped once the first byte of its request is written. -/
def Unabandoned {ρ : Type} (s : Transport ρ) (label : Label) : Prop :=
  label = .drop → ∀ exchange, s.current = some exchange → exchange.written = 0

namespace Transport

variable (decode : List UInt8 → Option (PluginResponse ρ))

structure Sound (s : Transport ρ) : Prop where
  running : s.current ≠ none → s.supervisor = .running
  flushed : ∀ exchange, s.current = some exchange → exchange.reading = true →
    0 < exchange.written
  fresh : s.supervisor ≠ .broken →
    (∀ exchange, s.current = some exchange → exchange.reading = false) →
    s.reading = []
  sent : s.stdin = (s.exchanges.map Exchange.sent).flatten
  intact : s.supervisor ≠ .broken → ∀ pair ∈ s.ended, ¬Interrupted pair.1 pair.2
  earlier : ∀ pair ∈ s.ended.dropLast, ¬Interrupted pair.1 pair.2
  matched : ∀ exchange result,
    (exchange, .finished (.result result)) ∈ s.ended →
    ∃ frame, (frame, true) ∈ s.frames ∧
      judge decode exchange.request frame = .result result
  framed : ∀ more, pieces newline [] (s.stdout ++ more) =
    s.frames ++ pieces newline s.reading (s.unread ++ more)

variable {decode} {s s' : Transport ρ} {exchange : Exchange}

theorem Sound.close (h : s.Sound decode) {ending : Ending ρ}
    (hcurrent : s.current = some exchange)
    (hlive : (s.close exchange ending).supervisor ≠ .broken →
      s.reading = [] ∧ ¬Interrupted exchange ending)
    (hmatched : ∀ result, ending = .finished (.result result) →
      ∃ frame, (frame, true) ∈ s.frames ∧
        judge decode exchange.request frame = .result result) :
    (s.close exchange ending).Sound decode := by
  have hrunning := h.running (by simp [hcurrent])
  have hintact := h.intact (by simp [hrunning])
  refine ⟨nofun, nofun, fun hopen _ => (hlive hopen).1, ?_, ?_, ?_, ?_,
    h.framed⟩
  · simpa [Transport.close, exchanges, hcurrent] using h.sent
  · intro hopen pair hmem
    rcases List.mem_append.mp hmem with hmem | hmem
    · exact hintact pair hmem
    · cases List.mem_singleton.mp hmem
      exact (hlive hopen).2
  · simpa [Transport.close] using hintact
  · intro exchange' result hmem
    rcases List.mem_append.mp hmem with hmem | hmem
    · exact h.matched exchange' result hmem
    · cases List.mem_singleton.mp hmem
      exact hmatched result rfl

theorem Sound.step {label : Label} (h : s.Sound decode)
    (hstep : Step decode s label s') (hkept : Unabandoned s label) :
    s'.Sound decode := by
  cases hstep with
  | print bytes =>
    refine ⟨h.running, h.flushed, h.fresh, h.sent, h.intact, h.earlier,
      h.matched, fun more => ?_⟩
    simpa using h.framed (bytes ++ more)
  | spawn hfree hstart =>
    have hlive : s.supervisor ≠ .broken := by simp [hstart]
    exact ⟨fun _ => rfl, h.flushed, fun _ => h.fresh hlive, h.sent,
      fun _ => h.intact hlive, h.earlier, h.matched, h.framed⟩
  | begin request hfree hrunning _ =>
    refine ⟨fun _ => hrunning, ?_, ?_, ?_, h.intact, h.earlier, h.matched,
      h.framed⟩
    · rintro _ ⟨⟩ ⟨⟩
    · exact fun hlive _ => h.fresh hlive (by simp [hfree])
    · simpa [exchanges, hfree, Exchange.sent] using h.sent
  | @write request written count hcurrent hle =>
    refine ⟨fun _ => h.running (by simp [hcurrent]), ?_, ?_, ?_, h.intact,
      h.earlier, h.matched, h.framed⟩
    · rintro _ ⟨⟩ ⟨⟩
    · exact fun hlive _ => h.fresh hlive (by simp [hcurrent])
    · simp [h.sent, exchanges, hcurrent, Exchange.sent, List.take_add]
  | flush hcurrent =>
    have hframed := h.framed
    rw [h.fresh (by simp [h.running, hcurrent]) (by simp [hcurrent])] at hframed
    refine ⟨fun _ => h.running (by simp [hcurrent]), ?_, fun _ _ => rfl, ?_,
      h.intact, h.earlier, h.matched, hframed⟩
    · rintro _ ⟨⟩ -
      simp [PluginRequest.line]
    · simpa [exchanges, hcurrent, Exchange.sent] using h.sent
  | poll hcurrent hread =>
    refine ⟨h.running, h.flushed, fun _ hnot => ?_, h.sent, h.intact, h.earlier,
      h.matched, fun more => ?_⟩
    · cases hnot _ hcurrent
    · rw [List.nil_append, ← Framing.pieces_of_pending hread]
      exact h.framed more
  | @reply request written frame rest hcurrent hread =>
    have htaken : Sound decode { s with
        reading := []
        unread := rest
        frames := s.frames ++ [(frame, true)] } := by
      refine ⟨h.running, h.flushed, fun _ _ => rfl, h.sent, h.intact, h.earlier,
        fun exchange result hmem => ?_, fun more => ?_⟩
      · obtain ⟨frame, hframe, hjudge⟩ := h.matched exchange result hmem
        exact ⟨frame, List.mem_append_left _ hframe, hjudge⟩
      · rw [h.framed more, List.append_assoc]
        exact congrArg _ (Framing.pieces_of_separated hread more)
    refine htaken.close hcurrent (fun hlive => ⟨rfl, ?_⟩)
      (fun result heq => ⟨frame, by simp, Ending.finished.inj heq⟩)
    cases hjudge : judge decode request frame with
    | fatal => simp [Transport.close, hjudge] at hlive
    | _ => exact id
  | fail hcurrent => exact h.close hcurrent (absurd rfl) nofun
  | @drop exchange hcurrent =>
    have hunsent := hkept rfl exchange hcurrent
    refine h.close hcurrent (fun hlive => ⟨h.fresh hlive ?_, ?_⟩) nofun
    · rintro other hother
      cases hcurrent.symm.trans hother
      by_contra hreading
      have hpos := h.flushed exchange hcurrent (by simpa using hreading)
      omega
    · exact fun hcut => Nat.ne_of_gt hcut hunsent

end Transport

variable {decode : List UInt8 → Option (PluginResponse ρ)} {s : Transport ρ}

theorem judge_eq_result {request : PluginRequest} {frame : List UInt8}
    {result : ExpectedResult × ρ}
    (h : judge decode request frame = .result result) :
    ∃ response, decode frame = some response ∧
      response.requestId = request.requestId ∧
      response.result = some result ∧
      result.1 = .forOperation request.operation := by
  unfold judge at h
  split_ifs at h with hframe
  split at h
  next => cases h
  next response hresponse =>
    split_ifs at h with hid
    simp only [ne_eq, not_or, not_not] at hid
    split at h
    next result' _ hresult _ =>
      split_ifs at h with hkind
      cases h
      exact ⟨response, hresponse, hid.2, hresult, hkind⟩
    next => split_ifs at h
    next => cases h

/-- In every run in which no request is dropped once its first byte is written:
a result is a line of the plugin that answers its request with its kind, the
process is sent each request once, and none after one that was interrupted. -/
theorem exchanges_kept_apart {labels : List Label}
    (hrun : Run (Guarded Unabandoned (Step decode)) .new labels s) :
    (∀ exchange result, (exchange, .finished (.result result)) ∈ s.ended →
      ∃ frame response, (frame, true) ∈ pieces newline [] s.stdout ∧
        decode frame = some response ∧
        response.requestId = exchange.request.requestId ∧
        response.result = some result ∧
        result.1 = .forOperation exchange.request.operation) ∧
    s.stdin = (s.exchanges.map Exchange.sent).flatten ∧
    (∀ pair ∈ s.ended, Interrupted pair.1 pair.2 → s.current = none) ∧
    (∀ pair ∈ s.ended.dropLast, ¬Interrupted pair.1 pair.2) := by
  have hsound : s.Sound decode := by
    refine hrun.invariant (I := Transport.Sound decode) ?_ ?_
    · rintro s label s' hsound ⟨hkept, hstep⟩
      exact hsound.step hstep hkept
    · exact ⟨absurd rfl, nofun, fun _ _ => rfl, rfl, nofun, nofun, nofun,
        fun _ => rfl⟩
  refine ⟨fun exchange result hmem => ?_, hsound.sent,
    fun pair hmem hcut => ?_, hsound.earlier⟩
  · obtain ⟨frame, hframe, hjudge⟩ := hsound.matched exchange result hmem
    obtain ⟨response, hanswer⟩ := judge_eq_result hjudge
    refine ⟨frame, response, ?_, hanswer⟩
    have hframed := hsound.framed []
    rw [List.append_nil] at hframed
    rw [hframed]
    exact List.mem_append_left _ hframe
  · by_contra hsome
    have hrunning := hsound.running hsome
    exact hsound.intact (by simp [hrunning]) pair hmem hcut

/-- A plugin that acknowledges one request. -/
def acknowledge (_ : List UInt8) : Option (PluginResponse Unit) :=
  some ⟨1, 7, true, some (.ack, ()), none⟩

theorem exchanges_kept_apart_answered : ∃ s labels,
    Run (Guarded Unabandoned (Step acknowledge)) .new labels s ∧
    s.ended = [(⟨⟨7, .health, [1]⟩, 2, true⟩, .finished (.result (.ack, ())))] ∧
    s.stdin = (s.exchanges.map Exchange.sent).flatten := by
  have hspawned : Run
      (Guarded Unabandoned (Step acknowledge)) .new [.request] _ :=
    .single ⟨by nofun, .spawn rfl rfl⟩
  have hbegun := hspawned.snoc
    ⟨by nofun, .begin ⟨7, .health, [1]⟩ rfl rfl (by decide)⟩
  have hwritten := hbegun.snoc ⟨by nofun, .write 2 rfl (by decide)⟩
  have hflushed := hwritten.snoc ⟨by nofun, .flush rfl⟩
  have hprinted := hflushed.snoc ⟨by nofun, .print [2, 10]⟩
  have hanswered := hprinted.snoc ⟨by nofun, .reply rfl rfl⟩
  exact ⟨_, _, hanswered, rfl, (exchanges_kept_apart hanswered).2.1⟩

/-- The deadline of an operation drops its request, and the next one goes to
the same process. -/
theorem delivered_after_dropped : ∃ s labels,
    Run (Step acknowledge) .new labels s ∧
      s.ended = [(⟨⟨7, .execute, [1]⟩, 2, false⟩, .dropped)] ∧
      s.current = some ⟨⟨8, .execute, [3]⟩, 2, false⟩ ∧
      s.stdin = [1, 10, 3, 10] := by
  have hspawned : Run (Step acknowledge) .new [.request] _ :=
    .single (.spawn rfl rfl)
  have hbegun := hspawned.snoc (.begin ⟨7, .execute, [1]⟩ rfl rfl (by decide))
  have hwritten := hbegun.snoc (.write 2 rfl (by decide))
  have hdropped := hwritten.snoc (.drop rfl)
  have hnext := hdropped.snoc (.begin ⟨8, .execute, [3]⟩ rfl rfl (by decide))
  exact ⟨_, _, hnext.snoc (.write 2 rfl (by decide)), rfl, rfl, rfl⟩

end DeviceRail.PluginTransport
