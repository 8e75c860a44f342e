import DeviceRail.Router.Exchange

/-!
# What a failed mutation tells its caller

A caller may repeat a mutation only when it is told so, and it must be told so
only when the peer cannot have seen the request.  The transport reuses two of
its error kinds on both sides of the write, so the driver gets this right
exactly when the reply is readable or the stream stays silent.
-/

namespace DeviceRail.Router

open List

variable {wire : Wire} {expectedNodeId : NodeId} {message : PeerRequest}
  {circumstances : Circumstances} {incoming line : List UInt8}
  {ending : Ending} {error : TransportError} {response : PeerResponse}

/-! ## Lines -/

/-- The bytes start with a line of acceptable shape and length. -/
def Delivers (incoming line : List UInt8) : Prop :=
  newline ∉ line ∧ line.length < maxPeerFrameBytes ∧ line ≠ [] ∧
    line.getLast? ≠ some carriageReturn ∧
    ∃ rest, incoming = line ++ newline :: rest

/-- The stream ends before a byte of the reply, or fails inside it. -/
def Silent (incoming : List UInt8) (ending : Ending) : Prop :=
  newline ∉ incoming ∧ incoming.length ≤ maxPeerFrameBytes ∧
    (incoming = [] ∨ ending = .failed)

variable {rest frame : List UInt8}

theorem readUntil_line (hline : newline ∉ line)
    (hlength : line.length ≤ maxPeerFrameBytes) :
    readUntil (line ++ newline :: rest) ending = .ok (line ++ [newline]) := by
  have hnot : ∀ byte ∈ line, (byte != newline) = true := by
    intro byte hbyte
    simpa using fun h : byte = newline => hline (h ▸ hbyte)
  obtain ⟨count, hcount⟩ : ∃ count,
      maxPeerFrameBytes + 1 - line.length = count + 1 :=
    ⟨maxPeerFrameBytes - line.length, by omega⟩
  have htake : (line ++ newline :: rest).take (maxPeerFrameBytes + 1) =
      line ++ newline :: rest.take count := by
    rw [take_append, take_of_length_le (by omega), hcount, take_succ_cons]
  simp only [readUntil, htake, mem_append, mem_cons, true_or, or_true, if_true]
  rw [takeWhile_append_of_pos hnot]
  simp

theorem line_unique {other tail : List UInt8}
    (hline : newline ∉ line) (hlength : line.length ≤ maxPeerFrameBytes)
    (hother : newline ∉ other) (hbound : other.length ≤ maxPeerFrameBytes)
    (h : line ++ newline :: rest = other ++ newline :: tail) :
    line = other := by
  have hread : readUntil (line ++ newline :: rest) .endOfFile =
      .ok (line ++ [newline]) := readUntil_line hline hlength
  rw [h, readUntil_line hother hbound] at hread
  exact (append_cancel_right (Except.ok.inj hread)).symm

theorem exists_line (h : newline ∈ incoming.take (maxPeerFrameBytes + 1)) :
    ∃ line rest, newline ∉ line ∧ line.length ≤ maxPeerFrameBytes ∧
      incoming = line ++ newline :: rest := by
  obtain ⟨line, rest, heq, hline⟩ := eq_append_cons_of_mem h
  refine ⟨line, rest ++ incoming.drop (maxPeerFrameBytes + 1), hline, ?_, ?_⟩
  · have hlength := congrArg List.length heq
    simp only [length_take, length_append, length_cons] at hlength
    omega
  · calc
      incoming = incoming.take (maxPeerFrameBytes + 1) ++
          incoming.drop (maxPeerFrameBytes + 1) :=
        (take_append_drop _ _).symm
      _ = _ := by simp [heq]

theorem readFrame_line (hline : newline ∉ line)
    (hlength : line.length ≤ maxPeerFrameBytes) :
    readFrame (line ++ newline :: rest) ending =
      if line.length = maxPeerFrameBytes then .error .frameTooLarge
      else if line = [] ∨ line.getLast? = some carriageReturn then
        .error .protocol
      else .ok line := by
  rw [readFrame, readUntil_line hline hlength]
  by_cases hbound : line.length = maxPeerFrameBytes
  · have hover : ¬ maxPeerFrameBytes + 1 ≤ maxPeerFrameBytes := by omega
    simp [Bind.bind, Except.bind, require, hbound, hover]
  · have hle : line.length + 1 ≤ maxPeerFrameBytes := by omega
    by_cases hempty : line = [] ∨ line.getLast? = some carriageReturn
    · rcases hempty with rfl | hlast
      · have hpositive : 1 ≤ maxPeerFrameBytes := by decide
        have hne : ¬ 0 = maxPeerFrameBytes := by omega
        simp [Bind.bind, Except.bind, require, hpositive, hne]
      · simp [Bind.bind, Except.bind, require, hbound, hle, hlast]
    · obtain ⟨hne, hlast⟩ := not_or.mp hempty
      simp [Bind.bind, Except.bind, require, hbound, hle, hne, hlast,
        Pure.pure, Except.pure]

theorem readFrame_cut (h : newline ∉ incoming.take (maxPeerFrameBytes + 1)) :
    (Silent incoming ending ∧
      readFrame incoming ending = .error .failedAfterSend) ∨
    (¬ Silent incoming ending ∧
      readFrame incoming ending = .error .frameTooLarge) := by
  have hlast : ((incoming.take (maxPeerFrameBytes + 1)).getLast? ==
      some newline) = false := by
    simpa using fun hlast => h (mem_of_getLast? hlast)
  by_cases hlong : maxPeerFrameBytes < incoming.length
  · have hne : incoming ≠ [] := by
      rintro rfl
      simp at hlong
    refine .inr ⟨fun hsilent => absurd hsilent.2.1 (by omega), ?_⟩
    simp [readFrame, readUntil, h, hlong, hlast, Bind.bind, Except.bind,
      require, hne]
  · rw [take_of_length_le (by omega)] at h hlast
    have htake : incoming.take (maxPeerFrameBytes + 1) = incoming :=
      take_of_length_le (by omega)
    cases ending with
    | failed =>
      refine .inl ⟨⟨h, by omega, .inr rfl⟩, ?_⟩
      simp [readFrame, readUntil, htake, h, hlong, Bind.bind, Except.bind]
    | endOfFile =>
      by_cases hempty : incoming = []
      · subst hempty
        exact .inl ⟨⟨h, by omega, .inl rfl⟩, by
          simp [readFrame, readUntil, Bind.bind, Except.bind, require]⟩
      · refine .inr ⟨fun hsilent => ?_, ?_⟩
        · rcases hsilent.2.2 with hnil | hfailed
          · exact hempty hnil
          · cases hfailed
        · simp [readFrame, readUntil, htake, h, hlong, hlast, hempty,
            Bind.bind, Except.bind, require]

/-! ## Replies -/

/-- The peer's bytes start with a valid reply to the request. -/
def Wire.Reads (wire : Wire) (message : PeerRequest)
    (incoming : List UInt8) (response : PeerResponse) : Prop :=
  ∃ line, Delivers incoming line ∧ wire.schemaAccepts line = true ∧
    wire.decode line = some response ∧ response.validateFor message = .ok ()

theorem Wire.Reads.unique {other : PeerResponse}
    (h : wire.Reads message incoming response)
    (hother : wire.Reads message incoming other) : response = other := by
  obtain ⟨line, ⟨hline, hshort, -, -, rest, hrest⟩, -, hdecode, -⟩ := h
  obtain ⟨line', ⟨hline', hshort', -, -, tail, htail⟩, -, hdecode', -⟩ := hother
  cases line_unique hline hshort.le hline' hshort'.le (hrest.symm.trans htail)
  exact Option.some.inj (hdecode.symm.trans hdecode')

theorem interpret_eq_ok :
    wire.interpret message line = .ok response ↔
      wire.schemaAccepts line = true ∧ wire.decode line = some response ∧
        response.validateFor message = .ok () := by
  unfold Wire.interpret
  cases hschema : wire.schemaAccepts line with
  | false =>
    simp only [Bool.not_false, if_true]
    split <;> simp
  | true =>
    cases hdecode : wire.decode line with
    | none => simp
    | some decoded =>
      cases hvalid : decoded.validateFor message with
      | error reason =>
        simp only [Bool.not_true, Bool.false_eq_true, if_false, hvalid,
          reduceCtorEq, Option.some.injEq, true_and, false_iff]
        rintro ⟨rfl, hok⟩
        cases hvalid.symm.trans hok
      | ok _ =>
        simp only [Bool.not_true, Bool.false_eq_true, if_false, hvalid,
          Except.ok.injEq, Option.some.injEq, true_and]
        exact ⟨fun h => ⟨h, h ▸ hvalid⟩, And.left⟩

theorem interpret_error (h : wire.interpret message line = .error error) :
    error = .unsupportedVersion ∨ error = .protocol := by
  unfold Wire.interpret at h
  split at h
  · split at h
    · cases h
      exact .inl rfl
    · cases h
      exact .inr rfl
  · split at h
    · cases h
      exact .inr rfl
    · split at h
      · cases h
        exact .inr rfl
      · cases h

/-- How the wait for a reply ends when nothing interrupts it. -/
theorem reply_cases (wire : Wire) (message : PeerRequest)
    (incoming : List UInt8) (ending : Ending) :
    (∃ response, wire.Reads message incoming response ∧
      (readFrame incoming ending >>= wire.interpret message) = .ok response) ∨
    (¬ ∃ response, wire.Reads message incoming response) ∧
      ((Silent incoming ending ∧
        (readFrame incoming ending >>= wire.interpret message) =
          .error .failedAfterSend) ∨
      (¬ Silent incoming ending ∧ ∃ error,
        (error = .frameTooLarge ∨ error = .protocol ∨
          error = .unsupportedVersion) ∧
        (readFrame incoming ending >>= wire.interpret message) =
          .error error)) := by
  by_cases hmem : newline ∈ incoming.take (maxPeerFrameBytes + 1)
  · obtain ⟨line, rest, hline, hlength, rfl⟩ := exists_line hmem
    have hloud : ¬ Silent (line ++ newline :: rest) ending := by
      intro hsilent
      exact hsilent.1 (by simp)
    have hunique : ∀ {other : List UInt8},
        Delivers (line ++ newline :: rest) other → other = line := by
      rintro other ⟨hother, hshort, -, -, tail, htail⟩
      exact (line_unique hline hlength hother hshort.le htail).symm
    rw [readFrame_line hline hlength]
    split
    next hfull =>
      refine .inr ⟨?_, .inr ⟨hloud, .frameTooLarge, .inl rfl, rfl⟩⟩
      rintro ⟨response, other, hdelivers, -⟩
      have hshort := hdelivers.2.1
      rw [hunique hdelivers] at hshort
      omega
    next hfull =>
      split
      next hshape =>
        refine .inr ⟨?_, .inr ⟨hloud, .protocol, .inr (.inl rfl), rfl⟩⟩
        rintro ⟨response, other, hdelivers, -⟩
        obtain ⟨-, -, hne, hlast, -⟩ := hunique hdelivers ▸ hdelivers
        exact hshape.elim hne hlast
      next hshape =>
        obtain ⟨hne, hlast⟩ := not_or.mp hshape
        have hdelivers : Delivers (line ++ newline :: rest) line :=
          ⟨hline, by omega, hne, hlast, rest, rfl⟩
        change (∃ response, _ ∧ wire.interpret message line = _) ∨
          _ ∧ (_ ∨ _ ∧ ∃ error, _ ∧ wire.interpret message line = _)
        cases hreply : wire.interpret message line with
        | ok response =>
          exact .inl ⟨response,
            ⟨line, hdelivers, interpret_eq_ok.mp hreply⟩, rfl⟩
        | error error =>
          refine .inr ⟨?_, .inr ⟨hloud, error,
            .inr (interpret_error hreply).symm, rfl⟩⟩
          rintro ⟨response, other, hother, hvalid⟩
          rw [hunique hother, ← interpret_eq_ok, hreply] at hvalid
          cases hvalid
  · refine .inr ⟨?_, ?_⟩
    · rintro ⟨response, line, ⟨-, hshort, -, -, rest, rfl⟩, -⟩
      refine hmem ?_
      rw [take_append, mem_append]
      obtain ⟨count, hcount⟩ : ∃ count,
          maxPeerFrameBytes + 1 - line.length = count + 1 :=
        ⟨maxPeerFrameBytes - line.length, by omega⟩
      simp [hcount]
    · have hcut : Silent incoming ending ∧ _ ∨ _ := readFrame_cut hmem
      rcases hcut with ⟨hsilent, hread⟩ | ⟨hloud, hread⟩
      · exact .inl ⟨hsilent, by rw [hread]; rfl⟩
      · exact .inr ⟨hloud, .frameTooLarge, .inl rfl, by rw [hread]; rfl⟩

/-! ## Sending -/

/-- Nothing stops the request before its first byte is written. -/
structure Wire.Sends (wire : Wire) (expectedNodeId : NodeId)
    (message : PeerRequest) (circumstances : Circumstances) : Prop where
  node : message.nodeId = expectedNodeId
  start : circumstances.atStart = none
  valid : (circumstances.stamp message).validate = .ok ()
  frame : ∃ bytes, wire.encode (circumstances.stamp message) = some bytes ∧
    bytes ≠ [] ∧ bytes.length < maxPeerFrameBytes
  stream : circumstances.atStream = none
  isOpen : circumstances.isOpen = true

theorem encodeFrame_eq_ok :
    wire.encodeFrame message = .ok frame ↔
      ∃ bytes, wire.encode message = some bytes ∧ bytes ≠ [] ∧
        bytes.length < maxPeerFrameBytes ∧ frame = bytes ++ [newline] := by
  unfold Wire.encodeFrame
  cases hencode : wire.encode message with
  | none => simp
  | some bytes =>
    by_cases hbad : bytes.isEmpty || maxPeerFrameBytes ≤ bytes.length
    · simp only [hbad, if_true, reduceCtorEq, false_iff]
      rintro ⟨bytes, ⟨⟩, hne, hlt, rfl⟩
      simp [hne] at hbad
      omega
    · simp only [hbad]
      simp only [Bool.or_eq_true, decide_eq_true_eq, not_or,
        List.isEmpty_iff] at hbad
      simp only [Bool.false_eq_true, if_false, Except.ok.injEq,
        Option.some.injEq]
      constructor
      · rintro rfl
        exact ⟨bytes, rfl, hbad.1, by omega, rfl⟩
      · rintro ⟨bytes, rfl, -, -, rfl⟩
        rfl

theorem mapError_eq_ok {ε δ α : Type} {f : ε → δ} {result : Except ε α}
    {value : α} : result.mapError f = .ok value ↔ result = .ok value := by
  cases result <;> simp [Except.mapError]

theorem interrupt_eq_ok {interruption : Option Interruption} :
    Wire.interrupt interruption = .ok () ↔ interruption = none := by
  cases interruption <;> simp [Wire.interrupt]

theorem prepare_eq_ok :
    wire.prepare expectedNodeId message circumstances = .ok frame ↔
      message.nodeId = expectedNodeId ∧ circumstances.atStart = none ∧
      (circumstances.stamp message).validate = .ok () ∧
      wire.encodeFrame (circumstances.stamp message) = .ok frame ∧
      circumstances.atStream = none ∧ circumstances.isOpen = true := by
  simp only [Wire.prepare, Fallible.bind_eq_ok, Unique.exists_iff,
    PUnit.default_eq_unit, require_eq_ok, interrupt_eq_ok, mapError_eq_ok,
    beq_iff_eq, Pure.pure, Except.pure, Except.ok.injEq]
  constructor
  · rintro ⟨hnode, hstart, hvalid, _, hframe, hstream, hopen, rfl⟩
    exact ⟨hnode, hstart, hvalid, hframe, hstream, hopen⟩
  · rintro ⟨hnode, hstart, hvalid, hframe, hstream, hopen⟩
    exact ⟨hnode, hstart, hvalid, frame, hframe, hstream, hopen, rfl⟩

theorem exists_prepare_iff :
    (∃ frame, wire.prepare expectedNodeId message circumstances =
      .ok frame) ↔ wire.Sends expectedNodeId message circumstances := by
  simp only [prepare_eq_ok, encodeFrame_eq_ok]
  constructor
  · rintro ⟨_, hnode, hstart, hvalid, ⟨bytes, hbytes, hne, hlt, -⟩, hstream,
      hopen⟩
    exact ⟨hnode, hstart, hvalid, ⟨bytes, hbytes, hne, hlt⟩, hstream, hopen⟩
  · rintro ⟨hnode, hstart, hvalid, ⟨bytes, hbytes, hne, hlt⟩, hstream, hopen⟩
    exact ⟨_, hnode, hstart, hvalid, ⟨bytes, hbytes, hne, hlt, rfl⟩, hstream,
      hopen⟩

theorem prepare_length_pos
    (h : wire.prepare expectedNodeId message circumstances = .ok frame) :
    0 < frame.length := by
  obtain ⟨bytes, -, -, -, rfl⟩ :=
    encodeFrame_eq_ok.mp (prepare_eq_ok.mp h).2.2.2.1
  simp

theorem reads_stamp :
    wire.Reads (circumstances.stamp message) incoming response ↔
      wire.Reads message incoming response := by
  have hvalid : response.validateFor (circumstances.stamp message) =
      response.validateFor message := by
    unfold Circumstances.stamp
    split <;> rfl
  simp only [Wire.Reads, hvalid]

/-- Where a request can end: before it is sent, on the way, or with what the
peer sent back. -/
theorem request_cases (wire : Wire) (expectedNodeId : NodeId)
    (message : PeerRequest) (circumstances : Circumstances) :
    (¬ wire.Sends expectedNodeId message circumstances ∧ ∃ error,
      wire.request expectedNodeId message circumstances = (.error error, 0)) ∨
    (¬ (circumstances.writing = .finished ∧
        circumstances.whileWaiting = none) ∧ ∃ error count,
      error.mayHaveReachedPeer = true ∧
      wire.request expectedNodeId message circumstances =
        (.error error, count)) ∨
    (wire.Sends expectedNodeId message circumstances ∧
      circumstances.writing = .finished ∧
      circumstances.whileWaiting = none ∧ ∃ count, 0 < count ∧
      wire.request expectedNodeId message circumstances =
        (readFrame circumstances.incoming circumstances.ending >>=
          wire.interpret (circumstances.stamp message), count)) := by
  have hreached : ∀ reason : Interruption,
      reason.afterSend.mayHaveReachedPeer = true := by
    intro reason
    cases reason <;> rfl
  unfold Wire.request
  cases hprepare : wire.prepare expectedNodeId message circumstances with
  | error error =>
    refine .inl ⟨fun hsends => ?_, error, rfl⟩
    obtain ⟨frame, hframe⟩ := exists_prepare_iff.mpr hsends
    cases hprepare.symm.trans hframe
  | ok frame =>
    have hsends := exists_prepare_iff.mp ⟨frame, hprepare⟩
    cases hwriting : circumstances.writing with
    | failed count => exact .inr (.inl ⟨by simp, _, _, rfl, rfl⟩)
    | interrupted count reason =>
      exact .inr (.inl ⟨by simp, _, _, hreached reason, rfl⟩)
    | finished =>
      cases hwaiting : circumstances.whileWaiting with
      | some reason => exact .inr (.inl ⟨by simp, _, _, hreached reason, rfl⟩)
      | none =>
        exact .inr (.inr ⟨hsends, rfl, rfl, _,
          prepare_length_pos hprepare, rfl⟩)

/-! ## Verdicts -/

/-- The peer's error asks for a retry. -/
def PeerError.AsksRetry (error : PeerError) (operation : PeerOperation) :
    Prop :=
  error.outcomeUnknown = false ∧
    match semanticDriverError error.code with
    | some semantic => semantic.toErrorInfo.retryable = true
    | none => error.retryable = true ∧
        ¬ (error.code = "invalid_arguments" ∧ operation.callName?.isSome)

theorem toDriverError_retryable (error : PeerError)
    (operation : PeerOperation) :
    (error.toDriverError operation).toErrorInfo.retryable = true ↔
      error.AsksRetry operation := by
  unfold PeerError.toDriverError PeerError.AsksRetry
  cases error.outcomeUnknown with
  | true => simp [DriverError.toErrorInfo]
  | false =>
    by_cases hcode : error.code = "invalid_arguments"
    · have hsemantic : semanticDriverError error.code = none := by
        rw [hcode]
        rfl
      simp only [hsemantic]
      cases operation.callName? <;>
        simp [hcode, invalidArguments, DriverError.toErrorInfo]
    · cases hsemantic : semanticDriverError error.code <;>
        simp [hcode, DriverError.toErrorInfo]

theorem unknownOutcome_retryable (operation : PeerOperation) :
    operation.unknownOutcome.toErrorInfo.retryable = false := by
  cases operation <;> rfl

/-- A valid response is a success with a fitting result or an error. -/
theorem validateFor_cases (h : response.validateFor message = .ok ()) :
    (response.ok = true ∧ response.error = none ∧
      ∃ result, response.result = some result ∧
        result.matchesRequest message response.nodeEpoch = true) ∨
    (response.ok = false ∧ ∃ error, response.error = some error) := by
  simp only [PeerResponse.validateFor, Fallible.bind_eq_ok, Unique.exists_iff,
    PUnit.default_eq_unit, require_eq_ok, Bool.and_eq_true, beq_iff_eq] at h
  obtain ⟨-, ⟨⟨-, hsum⟩, hfailure⟩, -, hresult⟩ := h
  cases hok : response.ok with
  | true =>
    rw [hok, eq_comm, Bool.and_eq_true, Option.isSome_iff_exists,
      Option.isNone_iff_eq_none] at hsum
    obtain ⟨⟨result, heq⟩, hnone⟩ := hsum
    simp only [heq, Option.elim_some, require_eq_ok] at hresult
    exact .inl ⟨rfl, hnone, result, heq, hresult⟩
  | false =>
    simp only [hok, Bool.false_or, Bool.and_eq_true] at hfailure
    exact .inr ⟨rfl, Option.isSome_iff_exists.mp hfailure.2⟩

/-- A valid response is reported as retryable when the peer says so. -/
theorem responseToResult_retryable (h : response.validateFor message = .ok ()) :
    (∃ error, responseToResult response message = .error error ∧
      error.toErrorInfo.retryable = true) ↔
    ∃ error, response.error = some error ∧
      error.AsksRetry message.operation := by
  rcases validateFor_cases h with
    ⟨hok, hnone, result, hresult, -⟩ | ⟨hok, error, herror⟩
  · simp [responseToResult, h, hok, hresult, hnone]
  · simp [responseToResult, h, hok, herror, toDriverError_retryable]

theorem exchangeRaw_reached (h : error.mayHaveReachedPeer = true) :
    exchangeRaw (.error error) message true =
      .error message.operation.unknownOutcome := by
  cases error <;> first | rfl | cases h

theorem exchangeRaw_misread (h : error = .frameTooLarge ∨
    error = .protocol ∨ error = .unsupportedVersion) :
    ∃ reported, exchangeRaw (.error error) message true = .error reported ∧
      reported ≠ message.operation.unknownOutcome := by
  rcases h with rfl | rfl | rfl
  all_goals
    refine ⟨_, rfl, ?_⟩
    cases message.operation <;> simp [PeerOperation.unknownOutcome,
      TransportError.mayHaveReachedPeer]

/-! ## Mutations -/

/-- A valid reply arrives in time. -/
def Wire.Answered (wire : Wire) (expectedNodeId : NodeId)
    (message : PeerRequest) (circumstances : Circumstances) : Prop :=
  wire.Sends expectedNodeId message circumstances ∧
    circumstances.writing = .finished ∧ circumstances.whileWaiting = none ∧
    ∃ response, wire.Reads message circumstances.incoming response

/-- A request that was sent in full and waited for gets a valid reply that
asks for no retry, or nothing at all. -/
def Wire.Legible (wire : Wire) (expectedNodeId : NodeId)
    (message : PeerRequest) (circumstances : Circumstances) : Prop :=
  wire.Sends expectedNodeId message circumstances →
  circumstances.writing = .finished → circumstances.whileWaiting = none →
    Silent circumstances.incoming circumstances.ending ∨
    ∃ response, wire.Reads message circumstances.incoming response ∧
      ∀ error, response.error = some error → ¬ error.AsksRetry message.operation

/-- After a byte of a mutation is written, a failure without a valid reply is
reported as an unknown outcome that must not be retried, and a retry is only
offered when nothing was written: this holds exactly when the reply is
legible. -/
theorem mutation_failure_reported_iff (wire : Wire) (expectedNodeId : NodeId)
    (message : PeerRequest) (circumstances : Circumstances) :
    (∀ error,
      exchangeRaw (wire.request expectedNodeId message circumstances).1
        message true = .error error →
      (¬ wire.Answered expectedNodeId message circumstances →
        0 < (wire.request expectedNodeId message circumstances).2 →
        error = message.operation.unknownOutcome ∧
          error.toErrorInfo.retryable = false) ∧
      (error.toErrorInfo.retryable = true →
        (wire.request expectedNodeId message circumstances).2 = 0)) ↔
    wire.Legible expectedNodeId message circumstances := by
  rcases request_cases wire expectedNodeId message circumstances with
    ⟨hstopped, error, heq⟩ | ⟨hcut, error, count, hreached, heq⟩ |
      ⟨hsends, hwriting, hwaiting, count, hcount, heq⟩
  · simp only [heq]
    refine ⟨fun _ hsends => absurd hsends hstopped, fun _ reported _ => ?_⟩
    exact ⟨fun _ h => absurd h (lt_irrefl 0), fun _ => trivial⟩
  · simp only [heq, exchangeRaw_reached hreached]
    refine ⟨fun _ _ hwriting hwaiting => absurd ⟨hwriting, hwaiting⟩ hcut, ?_⟩
    rintro - reported ⟨⟩
    refine ⟨fun _ _ => ⟨rfl, unknownOutcome_retryable _⟩, fun h => ?_⟩
    simp [unknownOutcome_retryable] at h
  · have hunwritten : count ≠ 0 := by omega
    rcases reply_cases wire (circumstances.stamp message)
        circumstances.incoming circumstances.ending with
      ⟨response, hreads, hreply⟩ | ⟨hnone, hrest⟩
    · rw [reads_stamp] at hreads
      have hvalid : response.validateFor message = .ok () :=
        let ⟨_, _, _, _, hvalid⟩ := hreads
        hvalid
      have hanswered : wire.Answered expectedNodeId message circumstances :=
        ⟨hsends, hwriting, hwaiting, response, hreads⟩
      have hretry := responseToResult_retryable hvalid
      simp only [heq, hreply, exchangeRaw]
      constructor
      · intro h _ _ _
        refine .inr ⟨response, hreads, fun error herror hasks => ?_⟩
        obtain ⟨reported, hreported, hyes⟩ := hretry.mpr ⟨error, herror, hasks⟩
        exact hunwritten ((h reported hreported).2 hyes)
      · intro h reported hreported
        refine ⟨fun hno => absurd hanswered hno, fun hyes => ?_⟩
        obtain ⟨error, herror, hasks⟩ := hretry.mp ⟨reported, hreported, hyes⟩
        rcases h hsends hwriting hwaiting with
          hsilent | ⟨other, hother, hquiet⟩
        · obtain ⟨line, ⟨-, -, -, -, rest, hrest⟩, -⟩ := hreads
          exact absurd (by simp [hrest]) hsilent.1
        · cases hreads.unique hother
          exact absurd hasks (hquiet error herror)
    · simp only [reads_stamp] at hnone
      have hunanswered : ¬ wire.Answered expectedNodeId message circumstances :=
        fun h => hnone h.2.2.2
      rcases hrest with ⟨hsilent, hreply⟩ | ⟨hloud, error, hkind, hreply⟩
      · have hreached : TransportError.failedAfterSend.mayHaveReachedPeer =
            true := rfl
        simp only [heq, hreply, exchangeRaw_reached hreached]
        refine ⟨fun _ _ _ _ => .inl hsilent, ?_⟩
        rintro - reported ⟨⟩
        refine ⟨fun _ _ => ⟨rfl, unknownOutcome_retryable _⟩, fun h => ?_⟩
        simp [unknownOutcome_retryable] at h
      · obtain ⟨reported, hreported, hne⟩ := exchangeRaw_misread hkind
        simp only [heq, hreply]
        constructor
        · intro h
          exact absurd ((h reported hreported).1 hunanswered hcount).1 hne
        · intro h
          rcases h hsends hwriting hwaiting with
            hsilent | ⟨response, hreads, -⟩
          · exact absurd hsilent hloud
          · exact absurd ⟨response, hreads⟩ hnone

/-! A tap whose reply is cut off after its first byte. -/

def sampleTap : PeerRequest where
  protocolVersion := distributedProtocolVersion
  requestId := ⟨1⟩
  traceId := ⟨2⟩
  nodeId := ⟨"lab", by decide +kernel⟩
  nodeEpoch := some 1
  timeoutMs := none
  callId := some ⟨3⟩
  lease := some ⟨⟨4⟩, "phone", "owner", 1, 60000⟩
  operation := .execute "phone" ⟨⟨3⟩, "tap", .object []⟩

def sampleWire : Wire := ⟨fun _ => some [1, 2, 3], fun _ => true,
  fun _ => none, fun _ => none⟩

def cutShort : Circumstances :=
  ⟨none, none, none, true, .finished, [1], .endOfFile, none⟩

/-- The whole request was written and no valid reply came back, but the
caller is told that it may try again. -/
theorem tap_cut_short_retryable :
    ¬ sampleWire.Answered sampleTap.nodeId sampleTap cutShort ∧
    (sampleWire.request sampleTap.nodeId sampleTap cutShort).2 = 4 ∧
    exchangeRaw (sampleWire.request sampleTap.nodeId sampleTap cutShort).1
      sampleTap true = .error (.platform "peer_frame_too_large" true) := by
  refine ⟨?_, by decide +kernel, by decide +kernel⟩
  rintro ⟨-, -, -, response, line, hdelivers, -, hdecode, -⟩
  cases hdecode

end DeviceRail.Router
