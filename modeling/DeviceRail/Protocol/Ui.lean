import DeviceRail.Protocol.Wire

/-!
# UI references and semantic execution

The checks of the protocol crate on UI contexts, UI snapshot references and the
execution metadata of semantic actions.
-/

namespace DeviceRail

def uiSnapshotFormatVersion : ℕ := 1

def uiSnapshotMediaType : String :=
  "application/vnd.devicerail.ui-tree+json;version=1"

def maxUiSnapshotNodes : ℕ := 10000

def maxUiSnapshotBytes : ℕ := 768 * 1024

def maxUiIdentifierLength : ℕ := 4096

/-- The names of `SEMANTIC_ACTION_NAMES`. -/
def semanticActionNames : List String :=
  ["findElement", "tapElement", "clearElement", "setElementValue",
    "waitForElement"]

def isSemanticActionName (name : String) : Bool :=
  semanticActionNames.contains name

/-- The contract errors that these checks return. -/
inductive UiContractError where
  | emptyField (field : String)
  | fieldTooLong (field : String)
  | invalidBounds (node : String)
  | invalidSemanticExecutionContext
  | unsupportedSnapshotFormat (version : ℕ)
  | emptySnapshot
  | tooManyNodes (count : ℕ)
  | duplicateStableNodeId (id : String)
  | invalidRootOrder
  | missingOrLateParent (id : String)
  | invalidPreorder (id : String)
  | invalidNodeCount (count : ℕ)
  | invalidByteLength (bytes : ℕ)
  | invalidSnapshotMediaType (mediaType : String)
deriving DecidableEq, Repr

/-- `char::is_whitespace`: the Unicode `White_Space` property. -/
def isWhitespace (c : Char) : Bool :=
  let code := c.toNat
  (0x09 ≤ code && code ≤ 0x0D) || code == 0x20 || code == 0x85 ||
    code == 0xA0 || code == 0x1680 || (0x2000 ≤ code && code ≤ 0x200A) ||
    code == 0x2028 || code == 0x2029 || code == 0x202F || code == 0x205F ||
    code == 0x3000

def validateRequired (value field : String) (max : ℕ) :
    Except UiContractError Unit :=
  if value.toList.all isWhitespace then .error (.emptyField field)
  else if max < value.length then .error (.fieldTooLong field)
  else .ok ()

def UiContextRef.validate (context : UiContextRef) :
    Except UiContractError Unit := do
  validateRequired context.contextId "contextId" maxUiIdentifierLength
  validateRequired context.documentEpoch "documentEpoch" maxUiIdentifierLength

def UiSnapshotRef.validate (snapshot : UiSnapshotRef) :
    Except UiContractError Unit := do
  if snapshot.formatVersion ≠ uiSnapshotFormatVersion then
    throw (.unsupportedSnapshotFormat snapshot.formatVersion)
  snapshot.context.validate
  if snapshot.nodeCount = 0 ∨ maxUiSnapshotNodes < snapshot.nodeCount then
    throw (.invalidNodeCount snapshot.nodeCount)
  if snapshot.byteLength = 0 ∨ maxUiSnapshotBytes < snapshot.byteLength then
    throw (.invalidByteLength snapshot.byteLength)
  if snapshot.evidence.mediaType ≠ uiSnapshotMediaType then
    throw (.invalidSnapshotMediaType snapshot.evidence.mediaType)

def ActionExecution.validate : ActionExecution → Except UiContractError Unit
  | .nativeSemantic context =>
    if context.contextKind = .native then context.validate
    else .error .invalidSemanticExecutionContext
  | .webSemantic context =>
    if context.contextKind = .web then context.validate
    else .error .invalidSemanticExecutionContext
  | .coordinateFallback context _ => context.validate

end DeviceRail
