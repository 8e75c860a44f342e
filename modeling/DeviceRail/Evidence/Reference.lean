import DeviceRail.Protocol.Wire

/-!
# Canonical evidence references

Content digests, media types, and the check that an asset reference is the
canonical reference of its digest.  Byte-wise tests of the source are written
on characters: a byte outside the ASCII range fails each of them, and so does
the character it belongs to.
-/

namespace DeviceRail

/-! ## Digests -/

def sha256HexLength : ℕ := 64

def isLowerHexDigit (c : Char) : Bool :=
  ('0' ≤ c && c ≤ '9') || ('a' ≤ c && c ≤ 'f')

/-- The normalized form: exactly 64 lowercase hexadecimal characters. -/
def isCanonicalDigest (value : String) : Bool :=
  value.utf8ByteSize == sha256HexLength && value.toList.all isLowerHexDigit

/-- A normalized SHA-256 digest. -/
structure Sha256Digest where
  text : String
  canonical : isCanonicalDigest text = true
deriving DecidableEq, Repr

/-- Failures of evidence validation and of evidence stores. -/
inductive EvidenceError where
  | unavailable
  | invalidConfiguration (message : String)
  | corruptStore (message : String)
  | invalidReference (reason : String)
  | invalidDigest (value : String)
  | invalidMediaType (mediaType : String)
  | emptyContent
  | declaredSizeMismatch (declared actual : ℕ)
  | digestMismatch (expected actual : Sha256Digest)
  | notFound (digest : Sha256Digest)
  | notAttached (sessionId : SessionId) (digest : Sha256Digest)
  | corrupt (expected actual : Sha256Digest)
  | corruptMetadata (digest : Sha256Digest) (reason : String)
  | mediaTypeConflict (digest : Sha256Digest) (existing requested : String)
  | unsafePath (path : String)
  | tooLarge (actual maximum : ℕ)
  | referenceLimit (maximum : ℕ)
  | sessionClosed (sessionId : SessionId)
  | storeBusy
  | unsupportedStoreVersion (version : ℕ)
  | io (operation message : String)
  | internal (message : String)
deriving DecidableEq, Repr

/-! ## Media types -/

def maxMediaTypeLength : ℕ := 255

/-- `u8::is_ascii_graphic` without the slash; no graphic character is
whitespace. -/
def isMediaTypeChar (c : Char) : Bool := '!' ≤ c && c ≤ '~' && c != '/'

def validMediaTypePart (part : List Char) : Bool :=
  !part.isEmpty && part.all isMediaTypeChar

def splitOnce (separator : Char) (text : List Char) :
    Option (List Char × List Char) :=
  match text.span (· != separator) with
  | (_, []) => none
  | (before, _ :: after) => some (before, after)

def validateMediaType (mediaType : String) : Except EvidenceError Unit :=
  if maxMediaTypeLength < mediaType.utf8ByteSize then
    .error (.invalidMediaType mediaType)
  else
    match splitOnce '/' mediaType.toList with
    | none => .error (.invalidMediaType mediaType)
    | some (kind, subtype) =>
      if validMediaTypePart kind && validMediaTypePart subtype then .ok ()
      else .error (.invalidMediaType mediaType)

namespace Sha256Digest

def parse (value : String) : Except EvidenceError Sha256Digest :=
  if h : isCanonicalDigest value = true then .ok ⟨value, h⟩
  else .error (.invalidDigest value)

def assetId (digest : Sha256Digest) : String := "sha256:" ++ digest.text

def assetUri (digest : Sha256Digest) : String :=
  "devicerail://assets/sha256/" ++ digest.text

/-- The digest of a canonical reference. -/
def fromAssetRef (asset : AssetRef) : Except EvidenceError Sha256Digest :=
  match asset.sha256 with
  | none => .error (.invalidReference "sha256 is required")
  | some rawDigest =>
    match parse rawDigest with
    | .error _ =>
      .error (.invalidReference "sha256 is not canonical lowercase hex")
    | .ok digest =>
      if asset.id ≠ digest.assetId then
        .error (.invalidReference "id does not match sha256")
      else if asset.uri ≠ digest.assetUri then
        .error (.invalidReference
          "uri is not the canonical DeviceRail asset URI")
      else
        match validateMediaType asset.mediaType with
        | .error e => .error e
        | .ok () => .ok digest

variable {digest : Sha256Digest}

theorem parse_text {value : String} (h : parse value = .ok digest) :
    digest.text = value := by
  unfold parse at h
  split at h <;> cases h
  rfl

/-- A reference is accepted exactly when it is the canonical reference of its
digest and its media type is well formed. -/
theorem fromAssetRef_eq_ok {asset : AssetRef} :
    fromAssetRef asset = .ok digest ↔
      asset.sha256 = some digest.text ∧ asset.id = digest.assetId ∧
        asset.uri = digest.assetUri ∧
        validateMediaType asset.mediaType = .ok () := by
  constructor
  · intro h
    unfold fromAssetRef at h
    split at h
    · cases h
    split at h
    · cases h
    next hraw _ _ hparse =>
      split_ifs at h with hid huri
      split at h
      next => cases h
      next hmedia =>
        cases h
        exact ⟨by rw [hraw, parse_text hparse], not_not.mp hid,
          not_not.mp huri, hmedia⟩
  · rintro ⟨hsha, hid, huri, hmedia⟩
    have hparse : parse digest.text = .ok digest := by
      simp [parse, digest.canonical]
    simp [fromAssetRef, hsha, hparse, hid, huri, hmedia]

end Sha256Digest

/-! ## Stored evidence -/

/-- Metadata of one content-addressed object.  The media type was checked when
the metadata was built. -/
structure EvidenceMetadata where
  digest : Sha256Digest
  mediaType : String
  byteLength : ℕ
  createdAtMs : ℕ
  referenceCount : ℕ
  mediaTypeValid : validateMediaType mediaType = .ok ()

def EvidenceMetadata.new (digest : Sha256Digest) (mediaType : String)
    (byteLength createdAtMs referenceCount : ℕ) :
    Except EvidenceError EvidenceMetadata :=
  match h : validateMediaType mediaType with
  | .error e => .error e
  | .ok () =>
    .ok ⟨digest, mediaType, byteLength, createdAtMs, referenceCount, h⟩

/-- Parameters of one evidence write, without the digest and size
expectations, which only a store reads. -/
structure PutEvidence where
  sessionId : SessionId
  mediaType : String
deriving DecidableEq, Repr

def PutEvidence.new (sessionId : SessionId) (mediaType : String) :
    Except EvidenceError PutEvidence :=
  match validateMediaType mediaType with
  | .error e => .error e
  | .ok () => .ok ⟨sessionId, mediaType⟩

/-- Result of a successful write. -/
structure StoredEvidence where
  metadata : EvidenceMetadata
  deduplicated : Bool

/-- The canonical reference of a stored object. -/
def StoredEvidence.assetRef (stored : StoredEvidence) : AssetRef :=
  { id := stored.metadata.digest.assetId
    mediaType := stored.metadata.mediaType
    uri := stored.metadata.digest.assetUri
    sha256 := some stored.metadata.digest.text }

/-- Every reference a store issues is canonical. -/
theorem StoredEvidence.fromAssetRef_assetRef (stored : StoredEvidence) :
    Sha256Digest.fromAssetRef stored.assetRef = .ok stored.metadata.digest :=
  Sha256Digest.fromAssetRef_eq_ok.mpr
    ⟨rfl, rfl, rfl, stored.metadata.mediaTypeValid⟩

theorem validateMediaType_png : validateMediaType "image/png" = .ok () := by
  decide

end DeviceRail
