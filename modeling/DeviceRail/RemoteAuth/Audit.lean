import DeviceRail.Evidence.Reference
import DeviceRail.Router.Model
import Mathlib.Data.List.Induction

/-!
# The audit log

The hash-chained admission log: the writer with its cached tail, and the
verifier that reads the whole file again.  The JSON encoder, the parser and the
hash are parameters.
-/

namespace DeviceRail.RemoteAuth

open List
open DeviceRail.Router (validIdentifier)

def maxAuditBytes : ℕ := 64 * 1024 * 1024

def maxRecordBytes : ℕ := 16 * 1024

def zeroHash : String := String.ofList (List.replicate 64 '0')

def newline : UInt8 := 10

inductive Permission
  | read
  | control
  | admin
  deriving DecidableEq

inductive AuditDecision
  | allowed
  | denied
  deriving DecidableEq

inductive AuditOutcome
  | succeeded
  | failed
  deriving DecidableEq

structure AuditEvent where
  atMs : ℕ
  connectionId : String
  principalId : Option String
  method : String
  requiredPermission : Option Permission
  decision : AuditDecision
  outcome : AuditOutcome
  errorCode : Option String
  deriving DecidableEq

/-- The stage of every record is the security admission. -/
structure UnsignedRecord where
  schemaVersion : ℕ
  sequence : ℕ
  event : AuditEvent
  previousHash : String
  deriving DecidableEq

structure AuditRecord extends UnsignedRecord where
  entryHash : String
  deriving DecidableEq

inductive AuditError
  | tooLarge
  | corrupt
  | invalidEvent
  | io
  deriving DecidableEq

/-! ## Events -/

/-- A text of bounded length whose characters pass a test, where characters
after the first may also pass a second one. -/
def validText (maxBytes : ℕ) (first later : Char → Bool)
    (value : String) : Bool :=
  !value.isEmpty && value.utf8ByteSize ≤ maxBytes &&
    value.toList.zipIdx.all fun entry =>
      first entry.1 || (0 < entry.2 && later entry.1)

def validConnectionId : String → Bool :=
  validText 64 (fun c => c.isAlphanum || c == '-' || c == '_') fun _ => false

def validMethod : String → Bool :=
  validText 96 Char.isLower fun c => c.isDigit || c == '.' || c == '_'

def validErrorCode : String → Bool :=
  validText 64 Char.isLower fun c => c.isDigit || c == '_'

def validateEvent (event : AuditEvent) : Except AuditError Unit :=
  if maxSafeInteger < event.atMs || !validConnectionId event.connectionId ||
      event.principalId.any (fun value => !validIdentifier value 64) ||
      !validMethod event.method ||
      event.errorCode.any (fun value => !validErrorCode value) ||
      (event.decision == .denied && event.outcome != .failed) then
    .error .invalidEvent
  else .ok ()

/-! ## The verifier -/

/-- The serializers, the parser and the hash function. -/
structure AuditCodec where
  hash : List UInt8 → String
  unsignedJson : UnsignedRecord → List UInt8
  recordJson : AuditRecord → List UInt8
  fromSlice : List UInt8 → Option AuditRecord

namespace AuditCodec

def hashUnsigned (codec : AuditCodec) (sequence : ℕ) (event : AuditEvent)
    (previousHash : String) : String :=
  codec.hash ("devicerail.audit.v1\x00".toUTF8.toList ++
    codec.unsignedJson ⟨1, sequence, event, previousHash⟩)

end AuditCodec

/-- Where a chain of records goes on. -/
structure AuditTail where
  nextSequence : ℕ
  previousHash : String

def AuditTail.start : AuditTail := ⟨1, zeroHash⟩

/-- The tail after some more records. -/
def AuditTail.after (tail : AuditTail) (records : List AuditRecord) :
    AuditTail where
  nextSequence := tail.nextSequence + records.length
  previousHash := (records.getLast?.map (·.entryHash)).getD tail.previousHash

namespace AuditCodec

variable (codec : AuditCodec)

/-- The checks on a record of the file. -/
def Accepts (tail : AuditTail) (record : AuditRecord) : Prop :=
  record.schemaVersion = 1 ∧ record.sequence = tail.nextSequence ∧
    record.previousHash = tail.previousHash ∧
    isCanonicalDigest record.entryHash = true ∧
    validateEvent record.event = .ok () ∧
    codec.hashUnsigned record.sequence record.event record.previousHash =
      record.entryHash

instance (tail : AuditTail) (record : AuditRecord) :
    Decidable (codec.Accepts tail record) :=
  inferInstanceAs (Decidable (_ ∧ _))

def verifyLine (tail : AuditTail) (line : List UInt8) :
    Except AuditError AuditRecord :=
  match codec.fromSlice line with
  | none => .error .corrupt
  | some record =>
    if codec.Accepts tail record then .ok record else .error .corrupt

/-- Read on after the first bytes of a line.  A line, with its newline, has at
most `maxRecordBytes` bytes. -/
def verifyLines :
    AuditTail → List UInt8 → List UInt8 →
      Except AuditError (AuditTail × List AuditRecord)
  | tail, line, [] => if line.isEmpty then .ok (tail, []) else .error .corrupt
  | tail, line, byte :: bytes =>
    if maxRecordBytes ≤ line.length then .error .corrupt
    else if byte = newline then do
      let record ← codec.verifyLine tail line
      let (last, records) ← verifyLines (tail.after [record]) [] bytes
      return (last, record :: records)
    else verifyLines tail (line ++ [byte]) bytes

def verifyReaderCollect (file : List UInt8) :
    Except AuditError (AuditTail × List AuditRecord) :=
  codec.verifyLines .start [] file

def verify (file : List UInt8) : Except AuditError (List AuditRecord) :=
  if maxAuditBytes < file.length then .error .tooLarge
  else (codec.verifyReaderCollect file).map Prod.snd

end AuditCodec

/-! ## The writer -/

/-- The open log, with the content of its file. -/
structure AuditState where
  file : List UInt8
  nextSequence : ℕ
  previousHash : String
  bytes : ℕ
  poisoned : Bool

def AuditState.tail (log : AuditState) : AuditTail :=
  ⟨log.nextSequence, log.previousHash⟩

namespace AuditCodec

variable (codec : AuditCodec)

/-- `AuditLog::open`. -/
def openLog (file : List UInt8) : Except AuditError AuditState :=
  if maxAuditBytes < file.length then .error .tooLarge
  else (codec.verifyReaderCollect file).map fun (tail, _) =>
    ⟨file, tail.nextSequence, tail.previousHash, file.length, false⟩

def sign (log : AuditState) (event : AuditEvent) : AuditRecord where
  schemaVersion := 1
  sequence := log.nextSequence
  event := event
  previousHash := log.previousHash
  entryHash := codec.hashUnsigned log.nextSequence event log.previousHash

/-- The line of the next record. -/
def lineOf (log : AuditState) (event : AuditEvent) : List UInt8 :=
  codec.recordJson (codec.sign log event) ++ [newline]

/-- The log after the next record was written. -/
def written (log : AuditState) (event : AuditEvent) : AuditState where
  file := log.file ++ codec.lineOf log event
  nextSequence := log.nextSequence + 1
  previousHash := (codec.sign log event).entryHash
  bytes := log.bytes + (codec.lineOf log event).length
  poisoned := false

/-- `AuditLog::append`.  A failed write or sync is given by the number of bytes
that reached the file. -/
def append (log : AuditState) (event : AuditEvent) (failed : Option ℕ) :
    AuditState × Except AuditError AuditRecord :=
  match validateEvent event with
  | .error error => (log, .error error)
  | .ok () =>
    if log.poisoned then (log, .error .io)
    else if maxSafeInteger < log.nextSequence then (log, .error .tooLarge)
    else if maxRecordBytes < (codec.lineOf log event).length ∨
        maxAuditBytes < log.bytes + (codec.lineOf log event).length then
      (log, .error .tooLarge)
    else
      match failed with
      | some count =>
        ({ log with
            file := log.file ++ (codec.lineOf log event).take count
            poisoned := true }, .error .io)
      | none => (codec.written log event, .ok (codec.sign log event))

end AuditCodec

/-! ## Chains -/

variable {tail : AuditTail} {records : List AuditRecord}

namespace AuditTail

theorem after_append (more : List AuditRecord) :
    tail.after (records ++ more) = (tail.after records).after more := by
  simp only [after, length_append, Nat.add_assoc, mk.injEq, true_and,
    getLast?_append]
  cases more.getLast? <;> simp

end AuditTail

section

variable {codec : AuditCodec} {last : AuditTail} {record : AuditRecord}
  {more : List AuditRecord} {line bytes rest : List UInt8}

/-- Every record is accepted after the records before it. -/
def AuditCodec.Chained (codec : AuditCodec) (tail : AuditTail)
    (records : List AuditRecord) : Prop :=
  ∀ before record rest, records = before ++ record :: rest →
    codec.Accepts (tail.after before) record

theorem AuditCodec.Accepts.cons (h : codec.Accepts tail record)
    (hrecords : codec.Chained (tail.after [record]) records) :
    codec.Chained tail (record :: records) := by
  intro before next rest heq
  cases before with
  | nil =>
    cases heq
    exact h
  | cons first before =>
    cases heq
    rw [← singleton_append, AuditTail.after_append]
    exact hrecords before next rest rfl

theorem AuditCodec.Chained.append_left
    (h : codec.Chained tail (records ++ more)) :
    codec.Chained tail records := by
  intro before record rest heq
  exact h before record (rest ++ more) (by simp [heq])

theorem AuditCodec.Chained.append_right
    (h : codec.Chained tail (records ++ more)) :
    codec.Chained (tail.after records) more := by
  intro before record rest heq
  rw [← AuditTail.after_append]
  exact h (records ++ before) record rest (by simp [heq])

theorem verifyLine_eq_ok : codec.verifyLine tail line = .ok record ↔
    codec.fromSlice line = some record ∧ codec.Accepts tail record := by
  unfold AuditCodec.verifyLine
  cases codec.fromSlice line with
  | none => simp
  | some parsed => split <;> grind

/-- What the verifier returns is a chain, with its tail. -/
theorem verifyLines_chained
    (h : codec.verifyLines tail line bytes = .ok (last, records)) :
    codec.Chained tail records ∧ last = tail.after records := by
  induction bytes generalizing tail line records with
  | nil =>
    obtain ⟨-, heq⟩ := (ite_eq_iff.mp h).resolve_right (by simp)
    cases heq
    exact ⟨by simp [AuditCodec.Chained], rfl⟩
  | cons byte bytes ih =>
    rw [AuditCodec.verifyLines] at h
    split at h
    next => cases h
    next =>
      split at h
      next =>
        obtain ⟨record, hline, h⟩ := Fallible.bind_eq_ok.mp h
        obtain ⟨⟨final, rest⟩, hrest, heq⟩ := Fallible.bind_eq_ok.mp h
        cases heq
        obtain ⟨hchain, hlast⟩ := ih hrest
        rw [← singleton_append, AuditTail.after_append]
        exact ⟨(verifyLine_eq_ok.mp hline).2.cons hchain, hlast⟩
      next => exact ih h

/-- The verifier reads a file that was extended up to the old end, and on from
there. -/
theorem verifyLines_append {final : AuditTail}
    (h : codec.verifyLines tail line bytes = .ok (last, records))
    (hrest : codec.verifyLines last [] rest = .ok (final, more)) :
    codec.verifyLines tail line (bytes ++ rest) =
      .ok (final, records ++ more) := by
  induction bytes generalizing tail line records with
  | nil =>
    obtain ⟨hline, heq⟩ := (ite_eq_iff.mp h).resolve_right (by simp)
    cases heq
    cases isEmpty_iff.mp hline
    exact hrest
  | cons byte bytes ih =>
    rw [cons_append, AuditCodec.verifyLines]
    obtain ⟨hlength, h⟩ := guard_eq_ok.mp h
    rw [if_neg hlength]
    split at h
    next hbyte =>
      obtain ⟨record, hline, h⟩ := Fallible.bind_eq_ok.mp h
      obtain ⟨⟨final', rest'⟩, htail, heq⟩ := Fallible.bind_eq_ok.mp h
      cases heq
      rw [if_pos hbyte, hline]
      simp only [Bind.bind, Except.bind, ih htail]
      rfl
    next hbyte =>
      rw [if_neg hbyte]
      exact ih h

theorem verifyLines_line (start line : List UInt8) (hline : newline ∉ line)
    (hlength : start.length + line.length < maxRecordBytes)
    (hrecord : codec.verifyLine tail (start ++ line) = .ok record) :
    codec.verifyLines tail start (line ++ [newline]) =
      .ok (tail.after [record], [record]) := by
  induction line generalizing start with
  | nil =>
    rw [append_nil] at hrecord
    have hshort : ¬ maxRecordBytes ≤ start.length := by simpa using hlength
    rw [nil_append, AuditCodec.verifyLines, if_neg hshort, if_pos rfl, hrecord]
    rfl
  | cons byte line ih =>
    obtain ⟨hbyte, hline⟩ := not_or.mp (mem_cons.not.mp hline)
    rw [length_cons] at hlength
    rw [cons_append, AuditCodec.verifyLines, if_neg (by omega),
      if_neg (Ne.symm hbyte)]
    refine ih _ hline ?_ (by simpa using hrecord)
    rw [length_append, length_singleton]
    omega

end

/-! ## Histories of a log -/

/-- What the log relies on for a record: the parser inverts the serializer,
compact JSON has no line break, and the hash is written in lowercase
hexadecimal digits. -/
structure AuditCodec.Reads (codec : AuditCodec) (record : AuditRecord) :
    Prop where
  fromSlice_json : codec.fromSlice (codec.recordJson record) = some record
  json_line : newline ∉ codec.recordJson record
  hash_hex : isCanonicalDigest record.entryHash = true

/-- The file verifies, and the writer's state is the one its file gives. -/
structure AuditState.Consistent (codec : AuditCodec) (log : AuditState)
    (records : List AuditRecord) : Prop where
  verified : codec.verifyReaderCollect log.file = .ok (log.tail, records)
  bytes : log.bytes = log.file.length
  bounded : log.file.length ≤ maxAuditBytes
  usable : log.poisoned = false

inductive AuditCall
  | append (event : AuditEvent)
  | reopen

/-- A call without I/O faults, on the log and the records it accepted. -/
def AuditCodec.perform (codec : AuditCodec)
    (run : AuditState × List AuditRecord) :
    AuditCall → AuditState × List AuditRecord
  | .append event =>
    match codec.append run.1 event none with
    | (log, .ok record) => (log, run.2 ++ [record])
    | (log, .error _) => (log, run.2)
  | .reopen =>
    match codec.openLog run.1.file with
    | .ok log => (log, run.2)
    | .error _ => run

/-- Appends on one handle, each with its fault. -/
def AuditCodec.appends (codec : AuditCodec) (log : AuditState)
    (calls : List (AuditEvent × Option ℕ)) : AuditState :=
  calls.foldl (fun log call => (codec.append log call.1 call.2).1) log

section

variable {codec : AuditCodec} {log : AuditState} {event : AuditEvent}
  {file : List UInt8}

theorem AuditState.Consistent.openLog (h : log.Consistent codec records) :
    codec.openLog log.file = .ok log := by
  obtain ⟨hverified, hbytes, hbounded, husable⟩ := h
  rw [AuditCodec.openLog, if_neg hbounded.not_gt, hverified]
  simp [Except.map, AuditState.tail, ← hbytes, ← husable]

theorem AuditState.Consistent.verify (h : log.Consistent codec records) :
    codec.verify log.file = .ok records := by
  rw [AuditCodec.verify, if_neg h.bounded.not_gt, h.verified]
  rfl

theorem consistent_of_openLog (hopen : codec.openLog file = .ok log)
    (hverify : codec.verify file = .ok records) :
    log.Consistent codec records := by
  unfold AuditCodec.verify at hverify
  obtain ⟨hlength, hopen⟩ := guard_eq_ok.mp hopen
  rw [if_neg hlength] at hverify
  cases hread : codec.verifyReaderCollect file with
  | error error =>
    rw [hread] at hopen
    cases hopen
  | ok result =>
    rw [hread] at hopen hverify
    cases hopen
    cases hverify
    exact ⟨hread, rfl, Nat.le_of_not_lt hlength, rfl⟩

/-- An append is rejected and changes nothing, or it writes a line within the
limits unless the write fails, which poisons the handle. -/
theorem append_cases (codec : AuditCodec) (log : AuditState)
    (event : AuditEvent) :
    (∃ error, ∀ failed, codec.append log event failed = (log, .error error)) ∨
    validateEvent event = .ok () ∧ log.poisoned = false ∧
      (codec.lineOf log event).length ≤ maxRecordBytes ∧
      log.bytes + (codec.lineOf log event).length ≤ maxAuditBytes ∧
      codec.append log event none =
        (codec.written log event, .ok (codec.sign log event)) ∧
      ∀ count, (codec.append log event (some count)).1.poisoned = true ∧
        (codec.append log event (some count)).2 = .error .io := by
  unfold AuditCodec.append
  cases validateEvent event with
  | error error => exact .inl ⟨error, fun _ => rfl⟩
  | ok _ =>
    split_ifs with hpoisoned hsequence hsize
    iterate 3 · exact .inl ⟨_, fun _ => rfl⟩
    · simp only [not_or, Nat.not_lt] at hsize
      exact .inr ⟨rfl, by simpa using hpoisoned, hsize.1, hsize.2, rfl,
        fun _ => ⟨rfl, rfl⟩⟩

theorem append_poisoned (codec : AuditCodec) (event : AuditEvent)
    (failed : Option ℕ) (h : log.poisoned = true) :
    ∃ error, codec.append log event failed = (log, .error error) := by
  rcases append_cases codec log event with ⟨error, herror⟩ | ⟨-, husable, -⟩
  · exact ⟨error, herror failed⟩
  · cases h.symm.trans husable

theorem appends_poisoned (h : log.poisoned = true)
    (calls : List (AuditEvent × Option ℕ)) : codec.appends log calls = log := by
  induction calls with
  | nil => rfl
  | cons call calls ih =>
    obtain ⟨error, herror⟩ := append_poisoned codec call.1 call.2 h
    rwa [AuditCodec.appends, foldl_cons, herror]

theorem AuditState.Consistent.reopen {run : AuditState × List AuditRecord}
    (h : run.1.Consistent codec run.2) : codec.perform run .reopen = run := by
  simp only [AuditCodec.perform, h.openLog]

theorem AuditState.Consistent.perform (h : log.Consistent codec records)
    (call : AuditCall)
    (hreads : ∀ record ∈ (codec.perform (log, records) call).2,
      codec.Reads record) :
    (codec.perform (log, records) call).1.Consistent codec
      (codec.perform (log, records) call).2 := by
  cases call with
  | reopen => rwa [AuditState.Consistent.reopen h]
  | append event =>
    rcases append_cases codec log event with
      ⟨error, herror⟩ | ⟨hevent, -, hrecord, htotal, happend, -⟩
    · simp only [AuditCodec.perform, herror]
      exact h
    · simp only [AuditCodec.perform, happend] at hreads ⊢
      obtain ⟨hparse, hnewline, hhex⟩ := hreads (codec.sign log event) (by simp)
      have hline : codec.verifyLines log.tail [] (codec.lineOf log event) =
          .ok ((codec.written log event).tail, [codec.sign log event]) := by
        refine verifyLines_line [] _ hnewline ?_
          (verifyLine_eq_ok.mpr ⟨hparse, rfl, rfl, rfl, hhex, hevent, rfl⟩)
        simpa [AuditCodec.lineOf, Nat.succ_le_iff] using hrecord
      refine ⟨verifyLines_append h.verified hline, ?_, ?_, rfl⟩
      · simp [AuditCodec.written, h.bytes]
      · simpa [AuditCodec.written, h.bytes] using htotal

theorem subset_perform (run : AuditState × List AuditRecord)
    (call : AuditCall) : run.2 ⊆ (codec.perform run call).2 := by
  fun_cases AuditCodec.perform codec run call with
  | case1 => exact subset_append_left _ _
  | _ => exact List.Subset.refl _

/-- A history of calls keeps the log consistent. -/
theorem AuditState.Consistent.run (h : log.Consistent codec records)
    (calls : List AuditCall)
    (hreads : ∀ record ∈ (calls.foldl codec.perform (log, records)).2,
      codec.Reads record) :
    (calls.foldl codec.perform (log, records)).1.Consistent codec
      (calls.foldl codec.perform (log, records)).2 := by
  induction calls using List.reverseRecOn with
  | nil => exact h
  | append_singleton calls call ih =>
    rw [foldl_append] at hreads ⊢
    exact (ih fun record hrecord => hreads record
      (subset_perform _ call hrecord)).perform call hreads

/-- Over any history of appends and reopenings, the file verifies as the list
of accepted records, chained from the first, and gives the writer's state; a
rejected append changes nothing, and a failed write ends the handle. -/
theorem audit_log_verifies (hopen : codec.openLog file = .ok log)
    (hverify : codec.verify file = .ok records) (calls : List AuditCall)
    (hreads : ∀ record ∈ (calls.foldl codec.perform (log, records)).2,
      codec.Reads record) :
    let run := calls.foldl codec.perform (log, records)
    codec.verify run.1.file = .ok run.2 ∧
    (∀ before record rest, run.2 = before ++ record :: rest →
      record.sequence = before.length + 1 ∧
      record.previousHash = (before.getLast?.map (·.entryHash)).getD zeroHash) ∧
    codec.openLog run.1.file = .ok run.1 ∧
    (∀ event log' error, codec.append run.1 event none =
      (log', .error error) → log' = run.1) ∧
    ∀ event log' record written,
      codec.append run.1 event none = (log', .ok record) →
      (codec.append run.1 event (some written)).2 = .error .io ∧
      ∀ later event' failed, ∃ error, (codec.append (codec.appends
        (codec.append run.1 event (some written)).1 later) event'
          failed).2 = .error error := by
  intro run
  have hrun : run.1.Consistent codec run.2 :=
    (consistent_of_openLog hopen hverify).run calls hreads
  refine ⟨hrun.verify, ?_, hrun.openLog, ?_, ?_⟩
  · intro before record rest heq
    obtain ⟨-, hsequence, hprevious, -⟩ :=
      (verifyLines_chained hrun.verified).1 before record rest heq
    exact ⟨hsequence.trans (Nat.add_comm 1 _), hprevious⟩
  · intro event log' error happend
    rcases append_cases codec run.1 event with
      ⟨error', herror⟩ | ⟨-, -, -, -, hok, -⟩
    · rw [herror] at happend
      cases happend
      rfl
    · cases hok.symm.trans happend
  · intro event log' record written happend
    rcases append_cases codec run.1 event with
      ⟨error', herror⟩ | ⟨-, -, -, -, -, hfails⟩
    · rw [herror] at happend
      cases happend
    · refine ⟨(hfails written).2, fun later event' failed => ?_⟩
      rw [appends_poisoned (hfails written).1]
      obtain ⟨error, herror⟩ := append_poisoned codec event' failed
        (hfails written).1
      exact ⟨error, by rw [herror]⟩

end

/-! ## Tampering -/

section

variable {codec : AuditCodec} {x y : AuditRecord}

/-- The hash does not collide on the texts of the records, and their texts
determine them. -/
def AuditCodec.CollisionFree (codec : AuditCodec)
    (records : List AuditRecord) : Prop :=
  ∀ x ∈ records, ∀ y ∈ records,
    codec.hashUnsigned x.sequence x.event x.previousHash =
      codec.hashUnsigned y.sequence y.event y.previousHash →
    x.sequence = y.sequence ∧ x.event = y.event ∧
      x.previousHash = y.previousHash

/-- The hash of an accepted record determines the record and where it
stands. -/
theorem AuditCodec.Accepts.eq {tail tail' : AuditTail}
    (hx : codec.Accepts tail x) (hy : codec.Accepts tail' y)
    (hfree : codec.CollisionFree [x, y]) (h : x.entryHash = y.entryHash) :
    x = y ∧ tail = tail' := by
  obtain ⟨hversion, hsequence, hprevious, -, -, hhash⟩ := hx
  obtain ⟨hversion', hsequence', hprevious', -, -, hhash'⟩ := hy
  have hunsigned := hfree x (by simp) y (by simp)
    (hhash.trans (h.trans hhash'.symm))
  obtain ⟨⟨version, sequence, event, previous⟩, hash⟩ := x
  obtain ⟨⟨version', sequence', event', previous'⟩, hash'⟩ := y
  obtain ⟨_, _⟩ := tail
  obtain ⟨_, _⟩ := tail'
  simp_all

theorem AuditCodec.CollisionFree.mono {records more : List AuditRecord}
    (h : codec.CollisionFree more) (hsub : records ⊆ more) :
    codec.CollisionFree records :=
  fun x hx y hy => h x (hsub hx) y (hsub hy)

/-- Two chains that end in one hash are equal: going back from the end, the
sequence number and the previous hash of each record are the same. -/
theorem AuditCodec.Chained.eq_of_last_hash {xs ys : List AuditRecord}
    (hx : codec.Chained .start (xs ++ [x]))
    (hy : codec.Chained .start (ys ++ [y]))
    (hfree : codec.CollisionFree (xs ++ [x] ++ (ys ++ [y])))
    (h : x.entryHash = y.entryHash) : xs ++ [x] = ys ++ [y] := by
  induction xs using List.reverseRecOn generalizing x y ys with
  | nil =>
    obtain ⟨rfl, htail⟩ := (hx _ x [] rfl).eq (hy _ y [] rfl)
      (hfree.mono (by simp)) h
    have hlength := congrArg AuditTail.nextSequence htail
    have hys : ys = [] := by simpa [AuditTail.after] using hlength
    rw [hys]
  | append_singleton xs x' ih =>
    obtain ⟨rfl, htail⟩ := (hx _ x [] rfl).eq (hy _ y [] rfl)
      (hfree.mono (by simp)) h
    rcases ys.eq_nil_or_concat' with rfl | ⟨ys, y', rfl⟩
    · simp [AuditTail.after] at htail
    · have hhash : x'.entryHash = y'.entryHash := by
        simpa [AuditTail.after] using congrArg AuditTail.previousHash htail
      rw [ih hx.append_left hy.append_left (hfree.mono (by grind)) hhash]

/-- The records two chains share from the start, and what follows them. -/
theorem exists_common_start {α : Type*} (xs ys : List α) :
    ∃ kept dropped added, xs = kept ++ dropped ∧ ys = kept ++ added ∧
      ∀ x ∈ dropped.head?, ∀ y ∈ added.head?, x ≠ y := by
  induction xs generalizing ys with
  | nil => exact ⟨[], [], ys, rfl, rfl, by simp⟩
  | cons x xs ih =>
    cases ys with
    | nil => exact ⟨[], x :: xs, [], rfl, rfl, by simp⟩
    | cons y ys =>
      by_cases hxy : x = y
      · obtain ⟨kept, dropped, added, rfl, rfl, hne⟩ := ih ys
        exact ⟨x :: kept, dropped, added, rfl, by rw [hxy]; rfl, hne⟩
      · exact ⟨[], x :: xs, y :: ys, rfl, rfl, by simpa using hxy⟩

/-- Accepted files with one final hash hold the same records.  Of two accepted
files, the second is the first with a suffix dropped and a chain of other
records added. -/
theorem audit_chain_binds {file file' : List UInt8} {tail tail' : AuditTail}
    {records records' : List AuditRecord}
    (h : codec.verifyReaderCollect file = .ok (tail, records))
    (h' : codec.verifyReaderCollect file' = .ok (tail', records'))
    (hfree : codec.CollisionFree (records ++ records')) :
    (records.getLast?.map (·.entryHash) =
      records'.getLast?.map (·.entryHash) → records = records') ∧
    ∃ kept dropped added, records = kept ++ dropped ∧
      records' = kept ++ added ∧
      codec.Chained (AuditTail.start.after kept) added ∧
      ∀ x ∈ dropped, ∀ y ∈ added, x.entryHash ≠ y.entryHash := by
  have hchain := (verifyLines_chained h).1
  have hchain' := (verifyLines_chained h').1
  constructor
  · intro hlast
    rcases records.eq_nil_or_concat' with rfl | ⟨xs, x, rfl⟩
    · exact (by simpa using hlast.symm : records' = []).symm
    · rcases records'.eq_nil_or_concat' with rfl | ⟨ys, y, rfl⟩
      · simp at hlast
      · exact hchain.eq_of_last_hash hchain' hfree (by simpa using hlast)
  · obtain ⟨kept, dropped, added, rfl, rfl, hne⟩ :=
      exists_common_start records records'
    refine ⟨kept, dropped, added, rfl, rfl, hchain'.append_right, ?_⟩
    intro x hx y hy hhash
    obtain ⟨xs, more, rfl⟩ := append_of_mem hx
    obtain ⟨ys, more', rfl⟩ := append_of_mem hy
    rw [append_cons, ← append_assoc, ← append_assoc] at hchain
    rw [append_cons, ← append_assoc, ← append_assoc] at hchain'
    have heq := hchain.append_left.eq_of_last_hash hchain'.append_left
      (hfree.mono (by grind)) hhash
    cases xs <;> cases ys <;> simp_all

end

/-! ## A sample chain -/

/-- A JSON text without characters to escape, as in every valid event. -/
def jsonText (text : String) : List UInt8 :=
  34 :: (text.toUTF8.data.toList ++ [34])

def jsonOption : Option String → List UInt8
  | none => "null".toUTF8.data.toList
  | some text => jsonText text

def Permission.name : Permission → String
  | .read => "read"
  | .control => "control"
  | .admin => "admin"

def AuditDecision.name : AuditDecision → String
  | .allowed => "allowed"
  | .denied => "denied"

def AuditOutcome.name : AuditOutcome → String
  | .succeeded => "succeeded"
  | .failed => "failed"

/-- The fields of a record in the order of the structure. -/
def UnsignedRecord.fields (record : UnsignedRecord) :
    List (String × List UInt8) :=
  [("schemaVersion", (toString record.schemaVersion).toUTF8.data.toList),
    ("sequence", (toString record.sequence).toUTF8.data.toList),
    ("atMs", (toString record.event.atMs).toUTF8.data.toList),
    ("connectionId", jsonText record.event.connectionId),
    ("principalId", jsonOption record.event.principalId),
    ("stage", jsonText "securityAdmission"),
    ("method", jsonText record.event.method),
    ("requiredPermission",
      jsonOption (record.event.requiredPermission.map (·.name))),
    ("decision", jsonText record.event.decision.name),
    ("outcome", jsonText record.event.outcome.name),
    ("errorCode", jsonOption record.event.errorCode),
    ("previousHash", jsonText record.previousHash)]

/-- A compact JSON object. -/
def compactJson (fields : List (String × List UInt8)) : List UInt8 :=
  [123] ++ [44].intercalate (fields.map fun field =>
    jsonText field.1 ++ 58 :: field.2) ++ [125]

def AuditRecord.compactJson (record : AuditRecord) : List UInt8 :=
  RemoteAuth.compactJson
    (record.fields ++ [("entryHash", jsonText record.entryHash)])

/-- The serializer, and what the parser and the hash give for some records and
their texts, which have no blanks inside. -/
def auditCodec (records : List AuditRecord) : AuditCodec where
  hash bytes := ((records.find? fun record => bytes ==
    "devicerail.audit.v1\x00".toUTF8.toList ++
      compactJson record.fields).map (·.entryHash)).getD zeroHash
  unsignedJson record := compactJson record.fields
  recordJson := AuditRecord.compactJson
  fromSlice line := records.find? fun record =>
    line.filter (· != 32) == record.compactJson

def helloRecord : AuditRecord :=
  ⟨⟨1, 1, ⟨1, "connection-1", some "test-principal", "system.hello",
    some .read, .allowed, .succeeded, none⟩, zeroHash⟩,
    "249a0dad64d5f7882d3bc7f4a2560ae5d983099177bbcf88f236174ade40a26b"⟩

def deniedRecord : AuditRecord :=
  ⟨⟨1, 2, ⟨2, "connection-1", some "test-principal", "device.execute",
    some .control, .denied, .failed, some "permission_denied"⟩,
    helloRecord.entryHash⟩,
    "aee194bd2a4fb4257502fc07caeea9fe7d28427f774f30563bb614077f22f6ad"⟩

/-- Another second record. -/
def forgedRecord : AuditRecord :=
  ⟨⟨1, 2, ⟨3, "connection-2", none, "auth.respond", none, .denied, .failed,
    some "authentication_failed"⟩, helloRecord.entryHash⟩,
    "dc6f0ab7f41511845912f00785457226051722e4a2c1517c9278c82f073405da"⟩

def chainCodec : AuditCodec :=
  auditCodec [helloRecord, deniedRecord, forgedRecord]

theorem chainCodec_reads :
    ∀ record ∈ [helloRecord, deniedRecord], chainCodec.Reads record := by
  have hparse : ∀ record ∈ [helloRecord, deniedRecord],
      chainCodec.fromSlice (chainCodec.recordJson record) = some record ∧
        newline ∉ chainCodec.recordJson record ∧
        isCanonicalDigest record.entryHash = true := by
    decide +kernel
  intro record hrecord
  obtain ⟨hslice, hline, hhex⟩ := hparse record hrecord
  exact ⟨hslice, hline, hhex⟩

theorem chainCodec_collisionFree :
    chainCodec.CollisionFree [helloRecord, deniedRecord, forgedRecord] := by
  unfold AuditCodec.CollisionFree
  decide +kernel

/-- A file of two lines, the first that of `helloRecord`. -/
def sampleFile (line : List UInt8) : List UInt8 :=
  helloRecord.compactJson ++ [newline] ++ (line ++ [newline])

theorem sampleFile_verifies (line : List UInt8) (record : AuditRecord)
    (h : newline ∉ line ∧ line.length < maxRecordBytes ∧
      chainCodec.verifyLine ⟨2, helloRecord.entryHash⟩ line = .ok record) :
    chainCodec.verifyReaderCollect (sampleFile line) =
      .ok (⟨3, record.entryHash⟩, [helloRecord, record]) := by
  have hfirst : newline ∉ helloRecord.compactJson ∧
      helloRecord.compactJson.length < maxRecordBytes ∧
      chainCodec.verifyLine .start helloRecord.compactJson =
        .ok helloRecord := by
    decide +kernel
  exact verifyLines_append
    (verifyLines_line [] _ hfirst.1 (by simpa using hfirst.2.1) hfirst.2.2)
    (verifyLines_line [] line h.1 (by simpa using h.2.1) h.2.2)

theorem deniedFile_verifies :
    chainCodec.verifyReaderCollect (sampleFile deniedRecord.compactJson) =
      .ok (⟨3, deniedRecord.entryHash⟩, [helloRecord, deniedRecord]) :=
  sampleFile_verifies _ _ (by decide +kernel)

theorem forgedFile_verifies :
    chainCodec.verifyReaderCollect (sampleFile forgedRecord.compactJson) =
      .ok (⟨3, forgedRecord.entryHash⟩, [helloRecord, forgedRecord]) :=
  sampleFile_verifies _ _ (by decide +kernel)

def emptyLog : AuditState := ⟨[], 1, zeroHash, 0, false⟩

/-- An event, and one that is refused. -/
def firstCalls : List AuditCall :=
  [.append helloRecord.event, .append { deniedRecord.event with method := "" }]

def auditCalls : List AuditCall :=
  firstCalls ++ [.reopen, .append deniedRecord.event]

theorem auditCalls_records :
    (auditCalls.foldl chainCodec.perform (emptyLog, [])).2 =
      [helloRecord, deniedRecord] := by
  have hfirst : (firstCalls.foldl chainCodec.perform (emptyLog, [])).2 =
      [helloRecord] := by
    decide +kernel
  have hstart : emptyLog.Consistent chainCodec [] :=
    ⟨rfl, rfl, Nat.zero_le _, rfl⟩
  have hbefore := hstart.run firstCalls fun record hrecord =>
    chainCodec_reads record (mem_append_left [_] (hfirst ▸ hrecord))
  rw [auditCalls, foldl_append, foldl_cons, hbefore.reopen]
  decide +kernel

theorem audit_log_verifies_sample :
    let run := auditCalls.foldl chainCodec.perform (emptyLog, [])
    run.2 = [helloRecord, deniedRecord] ∧
      chainCodec.verify run.1.file = .ok [helloRecord, deniedRecord] ∧
      chainCodec.openLog run.1.file = .ok run.1 := by
  have hrecords := auditCalls_records
  have hrun := audit_log_verifies (by rfl : chainCodec.openLog [] = .ok emptyLog)
    (by rfl) auditCalls fun record hrecord =>
      chainCodec_reads record (hrecords ▸ hrecord)
  exact ⟨hrecords, hrun.1.trans (congrArg _ hrecords), hrun.2.2.1⟩

/-- Files that differ in a blank have one final hash. -/
theorem audit_chain_binds_pair :
    (∃ records records',
      chainCodec.verifyReaderCollect (sampleFile deniedRecord.compactJson) =
        .ok (⟨3, deniedRecord.entryHash⟩, records) ∧
      chainCodec.verifyReaderCollect
          (sampleFile (32 :: deniedRecord.compactJson)) =
        .ok (⟨3, deniedRecord.entryHash⟩, records') ∧
      records.length = 2 ∧ records = records') ∧
    ∃ kept dropped added, [helloRecord, deniedRecord] = kept ++ dropped ∧
      [helloRecord, forgedRecord] = kept ++ added ∧
      chainCodec.Chained (AuditTail.start.after kept) added ∧
      ∀ x ∈ dropped, ∀ y ∈ added, x.entryHash ≠ y.entryHash := by
  have hspaced := sampleFile_verifies (32 :: deniedRecord.compactJson)
    deniedRecord (by decide +kernel)
  refine ⟨⟨_, _, deniedFile_verifies, hspaced, rfl, ?_⟩, ?_⟩
  · exact (audit_chain_binds deniedFile_verifies hspaced
      (chainCodec_collisionFree.mono (by simp))).1 rfl
  · exact (audit_chain_binds deniedFile_verifies forgedFile_verifies
      (chainCodec_collisionFree.mono (by simp))).2

theorem rewritten_file_accepted :
    (∃ tail, chainCodec.verifyReaderCollect
        (sampleFile deniedRecord.compactJson) =
      .ok (tail, [helloRecord, deniedRecord])) ∧
    (∃ tail, chainCodec.verifyReaderCollect
        (sampleFile forgedRecord.compactJson) =
      .ok (tail, [helloRecord, forgedRecord])) ∧
    chainCodec.CollisionFree [helloRecord, deniedRecord, forgedRecord] ∧
    ¬ [helloRecord, deniedRecord] <+: [helloRecord, forgedRecord] ∧
    ¬ [helloRecord, forgedRecord] <+: [helloRecord, deniedRecord] :=
  ⟨⟨_, deniedFile_verifies⟩, ⟨_, forgedFile_verifies⟩,
    chainCodec_collisionFree, by decide, by decide⟩

end DeviceRail.RemoteAuth
