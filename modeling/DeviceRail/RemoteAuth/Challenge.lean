import DeviceRail.RemoteAuth.Audit
import DeviceRail.Support.Base64Url
import DeviceRail.Support.KeyedMap
import Mathlib.Data.Finset.Insert
import Mathlib.Data.Vector.Basic

/-!
# Challenge and response

A connection is authenticated by a keyed hash over a fresh challenge.  The keyed
hash and the text encoding of bytes are parameters; what the random source
yields is an argument of the call that reads it.
-/

namespace DeviceRail.RemoteAuth

open List
open DeviceRail.Router (validIdentifier)

def authProtocolVersion : String := "1"

abbrev Bytes (n : ℕ) := List.Vector UInt8 n

def zeros (n : ℕ) : Bytes n := List.Vector.replicate n 0

/-- Times are in nanoseconds. -/
structure ChallengeConfig where
  ttl : ℕ
  maxAttempts : ℕ
  ttl_bounds : 100 * 10 ^ 6 ≤ ttl ∧ ttl ≤ 30 * 10 ^ 9
  attempts_bounds : 1 ≤ maxAttempts ∧ maxAttempts ≤ 5

structure AuthChallengeRequest where
  authProtocolVersion : String
  principalId : String
  keyId : String
  clientNonce : String

structure AuthChallenge where
  authProtocolVersion : String
  algorithm : String
  challengeId : String
  serverNonce : String
  expiresInMs : ℕ

structure AuthProofRequest where
  authProtocolVersion : String
  challengeId : String
  proof : String

inductive AuthError
  | randomUnavailable
  | invalidRequest
  | challengePending
  | attemptsExceeded
  | authenticationFailed

structure AuthenticatedPrincipal where
  id : String
  permissions : Finset Permission

structure Credential where
  principalId : String
  secret : List UInt8
  permissions : Finset Permission

/-- The credentials under their principal and key. -/
structure CredentialStore where
  credentials : KeyedMap (String × String) Credential
  keyed : ∀ principalId keyId credential,
    credentials.lookup (principalId, keyId) = some credential →
      credential.principalId = principalId

structure Authenticator where
  credentials : CredentialStore
  dummySecret : List UInt8
  config : ChallengeConfig

/-- The keyed hash and the text encoding of bytes. -/
structure AuthCodec where
  mac : List UInt8 → List UInt8 → Bytes 32
  encode : List UInt8 → String
  decode : String → Option (List UInt8)
  decode_encode : ∀ bytes, decode (encode bytes) = some bytes

/-! ## Proofs -/

/-- A field with its length in two bytes before it. -/
def framed (field : List UInt8) : List UInt8 :=
  .ofNat (field.length / 256) :: .ofNat field.length :: field

def proofInput (principalId keyId : String) (clientNonce serverNonce : Bytes 32)
    (challengeId : Bytes 16) : List UInt8 :=
  "devicerail.remote-auth.hmac-sha256.v1\x00".toUTF8.data.toList ++
    [authProtocolVersion.toUTF8.data.toList, principalId.toUTF8.data.toList,
      keyId.toUTF8.data.toList, clientNonce.toList, serverNonce.toList,
      challengeId.toList].flatMap framed

def constantTimeEq (left right : List UInt8) : Bool :=
  if left.length ≠ right.length then false
  else
    (left.zip right).foldl
      (fun difference pair => difference ||| (pair.1 ^^^ pair.2)) 0 == 0

namespace AuthCodec

variable (codec : AuthCodec)

def decodeCanonical (n : ℕ) (value : String) : Option (Bytes n) :=
  (codec.decode value).bind fun bytes =>
    if h : bytes.length = n ∧ codec.encode bytes = value then some ⟨bytes, h.1⟩
    else none

/-- The client's side. -/
def computeProof (secret : List UInt8) (principalId keyId clientNonce : String)
    (challenge : AuthChallenge) : Except AuthError String :=
  if secret.length < 32 ∨ 64 < secret.length ∨
      validIdentifier principalId 64 = false ∨
      validIdentifier keyId 64 = false ∨
      challenge.authProtocolVersion ≠ authProtocolVersion ∨
      challenge.algorithm ≠ "HMAC-SHA256" then
    .error .invalidRequest
  else
    match codec.decodeCanonical 32 clientNonce,
        codec.decodeCanonical 32 challenge.serverNonce,
        codec.decodeCanonical 16 challenge.challengeId with
    | some clientNonce, some serverNonce, some challengeId =>
      .ok (codec.encode (codec.mac secret (proofInput principalId keyId
        clientNonce serverNonce challengeId)).toList)
    | _, _, _ => .error .invalidRequest

end AuthCodec

/-! ## The session -/

/-- What a proof is about. -/
structure Subject where
  principalId : String
  keyId : String
  clientNonce : Bytes 32
  serverNonce : Bytes 32
  challengeId : Bytes 16
  principal_valid : validIdentifier principalId 64 = true
  key_valid : validIdentifier keyId 64 = true

def Subject.proofInput (subject : Subject) : List UInt8 :=
  RemoteAuth.proofInput subject.principalId subject.keyId subject.clientNonce
    subject.serverNonce subject.challengeId

structure PendingChallenge extends Subject where
  createdAt : ℕ

structure AuthSession where
  attempts : ℕ
  pending : Option PendingChallenge

namespace AuthSession

variable (codec : AuthCodec) (authenticator : Authenticator)
  (session : AuthSession)

/-- `random` is what the two fills yield, if both succeed. -/
def begin (request : AuthChallengeRequest) (now : ℕ)
    (random : Option (Bytes 32 × Bytes 16)) :
    Except AuthError AuthChallenge × AuthSession :=
  if session.pending.isSome then (.error .challengePending, session)
  else if authenticator.config.maxAttempts ≤ session.attempts then
    (.error .attemptsExceeded, session)
  else if h : request.authProtocolVersion = authProtocolVersion ∧
      validIdentifier request.principalId 64 = true ∧
      validIdentifier request.keyId 64 = true then
    match codec.decodeCanonical 32 request.clientNonce with
    | none => (.error .invalidRequest, session)
    | some clientNonce =>
      match random with
      | none =>
        (.error .randomUnavailable, ⟨session.attempts + 1, session.pending⟩)
      | some (serverNonce, challengeId) =>
        (.ok ⟨authProtocolVersion, "HMAC-SHA256",
            codec.encode challengeId.toList, codec.encode serverNonce.toList,
            authenticator.config.ttl / 10 ^ 6⟩,
          ⟨session.attempts + 1, some ⟨⟨request.principalId, request.keyId,
            clientNonce, serverNonce, challengeId, h.2.1, h.2.2⟩, now⟩⟩)
  else (.error .invalidRequest, session)

def finish (request : AuthProofRequest) (now : ℕ) :
    Except AuthError AuthenticatedPrincipal × AuthSession :=
  match session.pending with
  | none => (.error .authenticationFailed, session)
  | some pending =>
    let suppliedChallenge :=
      (codec.decodeCanonical 16 request.challengeId).getD (zeros 16)
    let suppliedProof :=
      (codec.decodeCanonical 32 request.proof).getD (zeros 32)
    let credential := authenticator.credentials.credentials.lookup
      (pending.principalId, pending.keyId)
    let secret :=
      (credential.map Credential.secret).getD authenticator.dummySecret
    let valid := request.authProtocolVersion = authProtocolVersion ∧
      now - pending.createdAt ≤ authenticator.config.ttl ∧
      codec.mac secret pending.proofInput = suppliedProof ∧
      constantTimeEq suppliedChallenge.toList pending.challengeId.toList = true
    (match decide valid, credential with
      | true, some credential =>
        .ok ⟨credential.principalId, credential.permissions⟩
      | _, _ => .error .authenticationFailed,
      ⟨session.attempts, none⟩)

end AuthSession

/-! ## Connections -/

inductive Call
  | begin (request : AuthChallengeRequest) (now : ℕ)
      (random : Option (Bytes 32 × Bytes 16))
  | finish (request : AuthProofRequest) (now : ℕ)

/-- A session with the challenges it has issued and those that a `finish` has
taken. -/
structure Connection where
  session : AuthSession
  issued : List PendingChallenge
  consumed : List PendingChallenge

namespace Connection

variable (codec : AuthCodec) (authenticator : Authenticator)

def step (connection : Connection) : Call → Connection
  | .begin request now random =>
    match connection.session.begin codec authenticator request now random with
    | (.ok _, session) =>
      { connection with
        session := session
        issued := connection.issued ++ session.pending.toList }
    | (.error _, session) => { connection with session := session }
  | .finish request now =>
    { connection with
      session := (connection.session.finish codec authenticator request now).2
      consumed := connection.consumed ++ connection.session.pending.toList }

def run (calls : List Call) : Connection :=
  calls.foldl (step codec authenticator) ⟨⟨0, none⟩, [], []⟩

end Connection

/-! ## The encoding of proofs -/

theorem framed_append_inj {field other rest rest' : List UInt8}
    (hfield : field.length < 2 ^ 16) (hother : other.length < 2 ^ 16)
    (h : framed field ++ rest = framed other ++ rest') :
    field = other ∧ rest = rest' := by
  simp only [framed, cons_append, List.cons.injEq] at h
  obtain ⟨hhigh, hlow, htail⟩ := h
  have hhigh := congrArg UInt8.toNat hhigh
  have hlow := congrArg UInt8.toNat hlow
  simp only [UInt8.toNat_ofNat'] at hhigh hlow
  exact append_inj htail (by omega)

theorem flatMap_framed_inj {fields others : List (List UInt8)}
    (hlength : fields.length = others.length)
    (hfields : ∀ field ∈ fields, field.length < 2 ^ 16)
    (hothers : ∀ other ∈ others, other.length < 2 ^ 16)
    (h : fields.flatMap framed = others.flatMap framed) : fields = others := by
  induction fields generalizing others with
  | nil => exact (length_eq_zero_iff.mp hlength.symm).symm
  | cons field fields ih =>
    cases others with
    | nil => cases hlength
    | cons other others =>
      obtain ⟨rfl, hrest⟩ := framed_append_inj
        (hfields field mem_cons_self) (hothers other mem_cons_self) h
      rw [ih (Nat.succ.inj hlength)
        (fun field hmem => hfields field (mem_cons_of_mem _ hmem))
        (fun other hmem => hothers other (mem_cons_of_mem _ hmem)) hrest]

theorem utf8_inj {a b : String}
    (h : a.toUTF8.data.toList = b.toUTF8.data.toList) : a = b :=
  String.toByteArray_inj.mp (ByteArray.ext (Array.toList_inj.mp h))

variable {value : String}

theorem utf8_length_of_valid (h : validIdentifier value 64 = true) :
    value.toUTF8.data.toList.length < 2 ^ 16 := by
  simp only [validIdentifier, Bool.and_eq_true, decide_eq_true_eq] at h
  exact lt_of_le_of_lt h.1.2 (by decide)

theorem Subject.proofInput_injective : Function.Injective Subject.proofInput := by
  intro a b h
  have hlengths : ∀ subject : Subject, ∀ field ∈
      [authProtocolVersion.toUTF8.data.toList,
        subject.principalId.toUTF8.data.toList,
        subject.keyId.toUTF8.data.toList, subject.clientNonce.toList,
        subject.serverNonce.toList, subject.challengeId.toList],
      field.length < 2 ^ 16 := by
    intro subject field hmem
    simp only [mem_cons, not_mem_nil, or_false] at hmem
    rcases hmem with rfl | rfl | rfl | rfl | rfl | rfl
    · decide +kernel
    · exact utf8_length_of_valid subject.principal_valid
    · exact utf8_length_of_valid subject.key_valid
    all_goals
      rw [List.Vector.toList_length]
      decide
  have hfields := flatMap_framed_inj (by rfl) (hlengths a) (hlengths b)
    (append_cancel_left h)
  simp only [List.cons.injEq] at hfields
  obtain ⟨-, hprincipal, hkey, hclient, hserver, hchallenge, -⟩ := hfields
  cases a
  cases b
  simp only [Subject.mk.injEq]
  exact ⟨utf8_inj hprincipal, utf8_inj hkey, List.Vector.eq _ _ hclient,
    List.Vector.eq _ _ hserver, List.Vector.eq _ _ hchallenge⟩

theorem foldl_or_eq_zero (pairs : List (UInt8 × UInt8)) (difference : UInt8) :
    pairs.foldl (fun difference pair => difference ||| (pair.1 ^^^ pair.2))
        difference = 0 ↔ difference = 0 ∧ ∀ pair ∈ pairs, pair.1 = pair.2 := by
  induction pairs generalizing difference with
  | nil => simp
  | cons pair pairs ih =>
    rw [foldl_cons, ih, UInt8.or_eq_zero_iff, UInt8.xor_eq_zero_iff,
      forall_mem_cons, and_assoc]

theorem constantTimeEq_iff {left right : List UInt8} :
    constantTimeEq left right = true ↔ left = right := by
  unfold constantTimeEq
  split
  next hlength =>
    refine ⟨nofun, fun heq => absurd (congrArg List.length heq) hlength⟩
  next hlength =>
    rw [beq_iff_eq, foldl_or_eq_zero]
    refine ⟨fun h => ?_, ?_⟩
    · refine ext_getElem (not_not.mp hlength) fun i hi hj => ?_
      refine h.2 (left[i], right[i]) (mem_iff_getElem.mpr ⟨i, ?_, ?_⟩)
      · rw [length_zip]
        exact lt_min hi hj
      · exact getElem_zip
    · rintro rfl
      refine ⟨rfl, fun pair hpair => ?_⟩
      obtain ⟨i, hi, rfl⟩ := mem_iff_getElem.mp hpair
      rw [getElem_zip]

section

variable {codec : AuthCodec} {authenticator : Authenticator} {n : ℕ}

theorem AuthCodec.decodeCanonical_encode (bytes : Bytes n) :
    codec.decodeCanonical n (codec.encode bytes.toList) = some bytes := by
  unfold decodeCanonical
  rw [codec.decode_encode, Option.bind_some, dif_pos ⟨bytes.toList_length, rfl⟩]
  rfl

theorem AuthCodec.encode_of_decodeCanonical {bytes : Bytes n}
    (h : codec.decodeCanonical n value = some bytes) :
    codec.encode bytes.toList = value := by
  obtain ⟨decoded, -, hdecoded⟩ := Option.bind_eq_some_iff.mp h
  split at hdecoded
  next hcanonical =>
    cases hdecoded
    exact hcanonical.2
  next => cases hdecoded

/-- The subject that a client names in its proof. -/
structure Subject.Named (codec : AuthCodec) (principalId keyId
    clientNonce : String) (challenge : AuthChallenge) (subject : Subject) :
    Prop where
  principalId : subject.principalId = principalId
  keyId : subject.keyId = keyId
  clientNonce : codec.encode subject.clientNonce.toList = clientNonce
  serverNonce : codec.encode subject.serverNonce.toList = challenge.serverNonce
  challengeId : codec.encode subject.challengeId.toList = challenge.challengeId

theorem AuthCodec.computeProof_eq_ok {secret : List UInt8}
    {principalId keyId clientNonce proof : String} {challenge : AuthChallenge}
    (h : codec.computeProof secret principalId keyId clientNonce challenge =
      .ok proof) :
    ∃ subject : Subject,
      subject.Named codec principalId keyId clientNonce challenge ∧
      proof = codec.encode (codec.mac secret subject.proofInput).toList := by
  obtain ⟨hvalid, h⟩ := guard_eq_ok.mp h
  simp only [not_or, Bool.not_eq_false] at hvalid
  split at h
  next client server challengeId hclient hserver hchallenge =>
    cases h
    exact ⟨⟨principalId, keyId, client, server, challengeId,
      hvalid.2.2.1, hvalid.2.2.2.1⟩, ⟨rfl, rfl,
      encode_of_decodeCanonical hclient, encode_of_decodeCanonical hserver,
      encode_of_decodeCanonical hchallenge⟩, rfl⟩
  next => cases h

namespace AuthSession

variable (session : AuthSession)

/-- `begin` fails and keeps the challenge, or issues one. -/
theorem begin_cases (codec : AuthCodec) (authenticator : Authenticator)
    (request : AuthChallengeRequest) (now : ℕ)
    (random : Option (Bytes 32 × Bytes 16)) :
    (∃ error attempts, session.begin codec authenticator request now random =
        (.error error, ⟨attempts, session.pending⟩) ∧
      session.attempts ≤ attempts ∧
      attempts ≤ max session.attempts authenticator.config.maxAttempts) ∨
    ∃ answer challenge, session.begin codec authenticator request now random =
        (.ok answer, ⟨session.attempts + 1, some challenge⟩) ∧
      session.pending = none ∧
      session.attempts < authenticator.config.maxAttempts ∧
      challenge.createdAt = now ∧
      challenge.principalId = request.principalId ∧
      challenge.keyId = request.keyId := by
  have hkept : ∀ error, ∃ error' attempts,
      ((.error error, session) : Except AuthError AuthChallenge × AuthSession) =
        (.error error', ⟨attempts, session.pending⟩) ∧
      session.attempts ≤ attempts ∧
      attempts ≤ max session.attempts authenticator.config.maxAttempts :=
    fun error => ⟨error, session.attempts, rfl, le_rfl, le_max_left _ _⟩
  unfold begin
  split
  · exact .inl (hkept _)
  split
  · exact .inl (hkept _)
  next hnone hroom =>
    have hroom := not_le.mp hroom
    split
    next =>
      split
      · exact .inl (hkept _)
      split
      · exact .inl ⟨_, _, rfl, Nat.le_succ _, le_max_of_le_right hroom⟩
      exact .inr ⟨_, _, rfl, by simpa using hnone, hroom, rfl, rfl, rfl⟩
    next => exact .inl (hkept _)

/-- A challenge is answered: in time, by its own id and the keyed hash of its
input under the secret of its principal and key.  Bytes that are not in
canonical form count as zeros. -/
structure Accepts (codec : AuthCodec) (authenticator : Authenticator)
    (challenge : PendingChallenge) (request : AuthProofRequest) (now : ℕ)
    (credential : Credential) : Prop where
  version : request.authProtocolVersion = authProtocolVersion
  fresh : now - challenge.createdAt ≤ authenticator.config.ttl
  challengeId : (codec.decodeCanonical 16 request.challengeId).getD (zeros 16) =
    challenge.challengeId
  lookup : authenticator.credentials.credentials.lookup
    (challenge.principalId, challenge.keyId) = some credential
  proof : (codec.decodeCanonical 32 request.proof).getD (zeros 32) =
    codec.mac credential.secret challenge.proofInput

variable {session} {request : AuthProofRequest} {now : ℕ}
  {principal : AuthenticatedPrincipal}

theorem finish_eq_ok :
    (session.finish codec authenticator request now).1 = .ok principal ↔
      ∃ challenge credential, session.pending = some challenge ∧
        Accepts codec authenticator challenge request now credential ∧
        principal = ⟨credential.principalId, credential.permissions⟩ := by
  unfold finish
  cases hpending : session.pending with
  | none => simp
  | some challenge =>
    constructor
    · intro h
      simp only at h
      split at h
      next credential hvalid hlookup =>
        cases h
        obtain ⟨hversion, hfresh, hproof, hid⟩ := of_decide_eq_true hvalid
        rw [hlookup] at hproof
        exact ⟨challenge, credential, rfl, ⟨hversion, hfresh,
          List.Vector.eq _ _ (constantTimeEq_iff.mp hid), hlookup,
          hproof.symm⟩, rfl⟩
      next => cases h
    · rintro ⟨_, credential, hsome, haccepts, rfl⟩
      cases hsome
      have hid := constantTimeEq_iff.mpr
        (congrArg List.Vector.toList haccepts.challengeId)
      have hproof := haccepts.proof.symm
      simp only [haccepts.lookup, Option.map_some, Option.getD_some]
      rw [decide_eq_true ⟨haccepts.version, haccepts.fresh, hproof, hid⟩]

end AuthSession

end

namespace Connection

variable {codec : AuthCodec} {authenticator : Authenticator}
  {calls : List Call} {connection : Connection}

/-- The challenges are those that were asked for, and all but the pending one
have been taken. -/
structure Accounted (authenticator : Authenticator) (calls : List Call)
    (connection : Connection) : Prop where
  attempts_le : connection.session.attempts ≤ authenticator.config.maxAttempts
  issued_le : connection.issued.length ≤ connection.session.attempts
  taken : connection.issued =
    connection.consumed ++ connection.session.pending.toList
  named : ∀ challenge ∈ connection.issued, ∃ request random,
    Call.begin request challenge.createdAt random ∈ calls ∧
      request.principalId = challenge.principalId ∧
      request.keyId = challenge.keyId

theorem Accounted.step (h : Accounted authenticator calls connection)
    (call : Call) : Accounted authenticator (calls ++ [call])
      (connection.step codec authenticator call) := by
  have hnamed : ∀ challenge ∈ connection.issued, ∃ request random,
      Call.begin request challenge.createdAt random ∈ calls ++ [call] ∧
        request.principalId = challenge.principalId ∧
        request.keyId = challenge.keyId := by
    intro challenge hmem
    obtain ⟨request, random, hcall, hnames⟩ := h.named challenge hmem
    exact ⟨request, random, mem_append_left _ hcall, hnames⟩
  cases call with
  | begin request now random =>
    rcases connection.session.begin_cases codec authenticator request now
      random with ⟨error, attempts, heq, hle, hmax⟩ |
      ⟨answer, challenge, heq, hnone, hroom, hat, hprincipal, hkey⟩
    · simp only [Connection.step, heq]
      exact ⟨hmax.trans (max_le h.attempts_le le_rfl), h.issued_le.trans hle,
        h.taken, hnamed⟩
    · have htaken := h.taken
      rw [hnone, Option.toList_none, append_nil] at htaken
      simp only [Connection.step, heq]
      refine ⟨hroom, ?_, ?_, ?_⟩
      · rw [length_append]
        exact Nat.succ_le_succ h.issued_le
      · rw [htaken]
      · intro found hmem
        rcases mem_append.mp hmem with hold | hnew
        · exact hnamed found hold
        · obtain rfl := Option.some.inj (Option.mem_toList.mp hnew)
          exact ⟨request, random, by rw [hat]; simp, hprincipal.symm, hkey.symm⟩
  | finish request now =>
    have hsession : (connection.session.finish codec authenticator request
        now).2 = ⟨connection.session.attempts, none⟩ := by
      unfold AuthSession.finish
      cases hpending : connection.session.pending with
      | none => exact congrArg (AuthSession.mk _) hpending
      | some challenge => rfl
    simp only [Connection.step, hsession]
    refine ⟨h.attempts_le, h.issued_le, ?_, hnamed⟩
    rw [Option.toList_none, append_nil]
    exact h.taken

theorem accounted_run (codec : AuthCodec) (calls : List Call) :
    Accounted authenticator calls (run codec authenticator calls) := by
  induction calls using List.reverseRecOn with
  | nil => exact ⟨Nat.zero_le _, le_rfl, rfl, nofun⟩
  | append_singleton calls call ih =>
    unfold run at ih ⊢
    rw [foldl_append]
    exact ih.step call

end Connection

/-- The keyed hash takes the same value on the input of the challenge and on
another input that the client named. -/
def Collides (codec : AuthCodec) (secret : List UInt8)
    (principalId keyId clientNonce : String) (answer : AuthChallenge)
    (credential : Credential) (challenge : Subject) : Prop :=
  ∃ subject : Subject,
    subject.Named codec principalId keyId clientNonce answer ∧
    subject.proofInput ≠ challenge.proofInput ∧
    codec.mac secret subject.proofInput =
      codec.mac credential.secret challenge.proofInput

/-- Challenges are limited and each is taken once; one is answered exactly by
its id and its keyed hash under the secret of the principal and key it was asked
for; and no proof is for two subjects. -/
theorem challenges_answered_once (codec : AuthCodec)
    (authenticator : Authenticator) (calls : List Call) :
    (Connection.run codec authenticator calls).issued.length ≤
        authenticator.config.maxAttempts ∧
      Connection.Accounted authenticator calls
        (Connection.run codec authenticator calls) ∧
      (∀ request now principal,
        ((Connection.run codec authenticator calls).session.finish codec
          authenticator request now).1 = .ok principal ↔
        ∃ challenge credential,
          (Connection.run codec authenticator calls).session.pending =
            some challenge ∧
          AuthSession.Accepts codec authenticator challenge request now
            credential ∧
          principal = ⟨challenge.principalId, credential.permissions⟩) ∧
      Function.Injective Subject.proofInput ∧
      ∀ challenge request now credential, AuthSession.Accepts codec
          authenticator challenge request now credential →
        ∀ secret principalId keyId clientNonce answer,
          codec.computeProof secret principalId keyId clientNonce answer =
            .ok request.proof →
          challenge.Named codec principalId keyId clientNonce answer ∨
            Collides codec secret principalId keyId clientNonce answer
              credential challenge.toSubject := by
  have haccounted : Connection.Accounted authenticator calls _ :=
    Connection.accounted_run codec calls
  refine ⟨haccounted.issued_le.trans haccounted.attempts_le, haccounted, ?_,
    Subject.proofInput_injective, ?_⟩
  · intro request now principal
    rw [AuthSession.finish_eq_ok]
    refine exists_congr fun challenge => exists_congr fun credential =>
      and_congr_right fun _ => and_congr_right fun haccepts => ?_
    rw [authenticator.credentials.keyed _ _ _ haccepts.lookup]
  · intro challenge request now credential haccepts secret principalId keyId
      clientNonce answer hproof
    obtain ⟨subject, hnamed, hencoded⟩ := AuthCodec.computeProof_eq_ok hproof
    by_cases hinput : subject.proofInput = challenge.proofInput
    · left
      rwa [← Subject.proofInput_injective hinput]
    · refine .inr ⟨subject, hnamed, hinput, ?_⟩
      rw [← haccepts.proof, hencoded, AuthCodec.decodeCanonical_encode,
        Option.getD_some]

/-! ## Runs -/

/-- A proof, with the MAC of its challenge. -/
def sampleText : String := "ZCwv7rVU_EFu8oLxdsegu3fjZkdbds7VtOCwaPyojtg"

def sampleMac : Bytes 32 :=
  ⟨(Base64Url.decode sampleText.toList).getD [], by decide +kernel⟩

/-- Base64url, and what HMAC-SHA256 gives for the sample. -/
def sampleCodec : AuthCodec where
  mac secret input :=
    if secret = List.replicate 32 1 ∧ input = proofInput "ci" "k1" (zeros 32)
        (List.Vector.replicate 32 9) (zeros 16) then sampleMac
    else zeros 32
  encode bytes := String.ofList (Base64Url.encode bytes)
  decode value := Base64Url.decode value.toList
  decode_encode bytes := by rw [String.toList_ofList, Base64Url.decode_encode]

def sampleAuthenticator : Authenticator where
  credentials :=
    ⟨(∅ : KeyedMap (String × String) Credential).insert ("ci", "k1")
      ⟨"ci", List.replicate 32 1, {.read}⟩, by
        intro principalId keyId credential hlookup
        rw [KeyedMap.lookup_insert_ite] at hlookup
        split at hlookup
        next heq =>
          cases heq
          cases hlookup
          rfl
        next => cases hlookup⟩
  dummySecret := List.replicate 32 0
  config := ⟨10 * 10 ^ 9, 3, by decide, by decide⟩

/-- A challenge for one principal whose random id is all zeros. -/
def sampleCalls : List Call :=
  [.begin ⟨"1", "ci", "k1", String.ofList (List.replicate 43 'A')⟩ 0
    (some (List.Vector.replicate 32 9, zeros 16))]

def sampleProof (challengeId : String) : AuthProofRequest :=
  ⟨"1", challengeId, sampleText⟩

def sampleChallenge : PendingChallenge where
  principalId := "ci"
  keyId := "k1"
  clientNonce := zeros 32
  serverNonce := List.Vector.replicate 32 9
  challengeId := zeros 16
  principal_valid := by decide +kernel
  key_valid := by decide +kernel
  createdAt := 0

theorem sampleCalls_pending :
    (Connection.run sampleCodec sampleAuthenticator
      sampleCalls).session.pending = some sampleChallenge := by
  have hnonce : sampleCodec.decodeCanonical 32
      (String.ofList (List.replicate 43 'A')) = some (zeros 32) := by
    decide +kernel
  simp only [Connection.run, sampleCalls, foldl_cons, foldl_nil,
    Connection.step, AuthSession.begin, hnonce]
  rfl

theorem sample_accepts (challengeId : String)
    (h : (sampleCodec.decodeCanonical 16 challengeId).getD (zeros 16) =
      zeros 16) :
    ∃ credential, AuthSession.Accepts sampleCodec sampleAuthenticator
      sampleChallenge (sampleProof challengeId) 5 credential := by
  refine ⟨_, rfl, by decide, h, rfl, ?_⟩
  have hproof : (sampleCodec.decodeCanonical 32 sampleText).getD (zeros 32) =
      sampleMac := by
    decide +kernel
  have hmac : sampleCodec.mac (List.replicate 32 1) sampleChallenge.proofInput =
      sampleMac := by
    decide +kernel
  exact hproof.trans hmac.symm

/-- The id of the challenge in its encoding is answered. -/
theorem challenges_answered_once_sample :
    ∃ principal, ((Connection.run sampleCodec sampleAuthenticator
      sampleCalls).session.finish sampleCodec sampleAuthenticator (sampleProof
        (sampleCodec.encode (zeros 16).toList)) 5).1 = .ok principal := by
  obtain ⟨credential, haccepts⟩ := sample_accepts
    (sampleCodec.encode (zeros 16).toList) (by
      rw [AuthCodec.decodeCanonical_encode, Option.getD_some])
  exact ⟨_, ((challenges_answered_once sampleCodec sampleAuthenticator
    sampleCalls).2.2.1 _ _ _).mpr ⟨_, _, sampleCalls_pending, haccepts, rfl⟩⟩

/-- No id at all is answered as well, when the id of the challenge is zeros. -/
theorem missing_id_answered :
    ∃ challenge principal,
      (Connection.run sampleCodec sampleAuthenticator
        sampleCalls).session.pending = some challenge ∧
      (sampleProof "").challengeId ≠
        sampleCodec.encode challenge.challengeId.toList ∧
      ((Connection.run sampleCodec sampleAuthenticator
        sampleCalls).session.finish sampleCodec sampleAuthenticator
          (sampleProof "") 5).1 = .ok principal := by
  obtain ⟨credential, haccepts⟩ := sample_accepts "" (by decide +kernel)
  refine ⟨sampleChallenge, _, sampleCalls_pending, by decide +kernel,
    AuthSession.finish_eq_ok.mpr ⟨_, _, sampleCalls_pending, haccepts, rfl⟩⟩

end DeviceRail.RemoteAuth
