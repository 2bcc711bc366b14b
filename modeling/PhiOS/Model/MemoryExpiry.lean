import PhiOS.Model.Calendar
import PhiOS.Model.SemanticSearch
import PhiOS.Model.TransformationLineage

/-!
# When a memory expires

The times that `MemoryRecord.build` accepts, and the calls of `memory/store.py` that compare them.
`get` reads a time and compares instants; the queries compare the text in the column with the text
of the present instant.
-/

set_option autoImplicit false

namespace PhiOS

/-- `require_utc_timestamp`; leaving the years 1 to 9999 on the way to UTC raises. -/
def MemoryValidation.requireUtcTimestamp (rt : MemoryRuntime) (value field : String) :
    Except PyError String := do
  let raw ← requireNonempty value field
  match rt.iso.fromisoformat (replaceZulu raw) with
  | none => .error ⟨.valueError, "Invalid isoformat string: '" ++ replaceZulu raw ++ "'", []⟩
  | some .naive => .error ⟨.valueError, field ++ " must include a timezone", []⟩
  | some (.aware parsed) => return rt.iso.isoformat (← Calendar.datetime parsed)

/-- The values of `OriginKind`. -/
def originKinds : List String :=
  ["human", "subsystem", "tool", "model", "file", "device", "service"]

/-- The values of `ExactnessClass`. -/
def exactnessClasses : List String :=
  [ExactnessClass.byteExact, .reversible, .normalized, .lossyDerived, .interpretive,
    .unknown].map (·.value)

/-- The arguments of `MemoryRecord.build`. -/
structure MemoryRecordBuild where
  recordId : String
  revision : ℤ
  sourceId : String
  sourceKind : String
  provenanceRefs : List String
  createdAt : String
  scopeId : String
  classification : String
  retentionPolicyId : String
  expiresAt : Option String
  epistemicKind : String
  text : String
  derivedFrom : List String := []
  exactnessClass : Option String := none
  transformationLineageSha256s : List String := []
  taintLabels : List String := []
  contradicts : List String := []

namespace MemoryRecord

/-- `ValueError(message)`. -/
def buildErr (message : String) : PyError := ⟨.valueError, message, []⟩

/-- A digest of the lineage; `isHex` says whether `int(digest, 16)` succeeds. -/
def checkLineageDigest (isHex : String → Bool) (digest : String) : Except PyError Unit := do
  let wrong := buildErr "transformation_lineage_sha256 must be a SHA-256 hex digest"
  raiseIf (digest.length ≠ 64) wrong
  raiseIf (isHex digest = false) wrong

/-- What a derived record, and what a source record, declares of its derivation. -/
def checkDerivation (epistemicKind : String) (derivedFrom : List String)
    (exactnessClass : Option String) (lineageHashes taintLabels : List String) :
    Except PyError Unit := do
  if epistemicKind = "derived" then
    raiseIf (derivedFrom = []) (buildErr "derived records require derived_from references")
    match exactnessClass with
    | none => .error (buildErr "derived records require exactness_class")
    | some exactness => do
        raiseIf (exactness ∉ exactnessClasses) (buildErr "invalid exactness_class")
        raiseIf (lineageHashes = [])
          (buildErr "derived records require transformation lineage hashes")
  else
    raiseIf (exactnessClass.isSome = true)
      (buildErr "source records cannot declare derived exactness")
    raiseIf (lineageHashes ≠ [])
      (buildErr "source records cannot declare transformation lineage hashes")
    raiseIf (taintLabels ≠ []) (buildErr "source records cannot declare transformation taints")

/-- The two digests of a record. -/
def digested (rt : MemoryRuntime) (record : MemoryRecord) : MemoryRecord :=
  let record := { record with contentSha256 := rt.textSha256 record.text }
  { record with recordSha256 := rt.sha256 (.obj record.body) }

/-- The text of a time, if one is given. -/
def buildExpiry (rt : MemoryRuntime) (expiresAt : Option String) :
    Except PyError (Option String) :=
  match expiresAt with
  | none | some "" => .ok none
  | some expiresAt => some <$> MemoryValidation.requireUtcTimestamp rt expiresAt "expires_at"

def build (rt : MemoryRuntime) (isHex : String → Bool) (request : MemoryRecordBuild) :
    Except PyError MemoryRecord := do
  let recordId ← MemoryValidation.requireNonempty request.recordId "record_id"
  raiseIf (request.revision < 1) (buildErr "revision must be an integer >= 1")
  let sourceId ← MemoryValidation.requireNonempty request.sourceId "source_id"
  raiseIf (request.sourceKind ∉ originKinds)
    (buildErr "source_kind must be a canonical OriginKind")
  let createdAt ← MemoryValidation.requireUtcTimestamp rt request.createdAt "created_at"
  let scopeId ← MemoryValidation.requireNonempty request.scopeId "scope_id"
  let classification ← MemoryValidation.requireNonempty request.classification "classification"
  let retentionPolicyId ← MemoryValidation.requireNonempty request.retentionPolicyId
    "retention_policy_id"
  let expiresAt ← buildExpiry rt request.expiresAt
  raiseIf (request.epistemicKind ∉ ["source", "derived"])
    (buildErr "epistemic_kind must be 'source' or 'derived'")
  let text ← MemoryValidation.validateText request.text
  let provenanceRefs ← request.provenanceRefs.mapM
    (MemoryValidation.requireNonempty · "provenance_ref")
  let derivedFrom ← request.derivedFrom.mapM (MemoryValidation.requireNonempty · "derived_from")
  let lineageHashes ← request.transformationLineageSha256s.mapM
    (MemoryValidation.requireNonempty · "transformation_lineage_sha256")
  lineageHashes.forM (checkLineageDigest isHex)
  raiseIf (¬lineageHashes.Nodup) (buildErr "transformation lineage hashes must be unique")
  let taintLabels := sortedSet (← request.taintLabels.mapM
    (MemoryValidation.requireNonempty · "taint_label"))
  let contradicts ← request.contradicts.mapM (MemoryValidation.requireNonempty · "contradicts")
  checkDerivation request.epistemicKind derivedFrom request.exactnessClass lineageHashes
    taintLabels
  return digested rt {
    recordId, revision := request.revision.toNat, sourceId, sourceKind := request.sourceKind
    provenanceRefs, createdAt, scopeId, classification, retentionPolicyId, expiresAt
    epistemicKind := request.epistemicKind, derivedFrom
    exactnessClass := request.exactnessClass, transformationLineageSha256s := lineageHashes
    taintLabels, contradicts, text, contentSha256 := "", recordSha256 := "" }

end MemoryRecord

namespace MemoryState

/-- `list_current_record_ids`: the latest rows first; the expiry is compared as the text it is. -/
def listCurrentRecordIds (rt : MemoryRuntime) (state : MemoryState)
    (sourceIds allowedScopes allowedClassifications : List String) (limit now : ℤ) :
    Except PyError (List String) := do
  if sourceIds = [] ∨ allowedScopes = [] ∨ allowedClassifications = [] then return []
  raiseIf (limit < 1 ∨ 50 < limit) ⟨.valueError, "limit must be an integer between 1 and 50", []⟩
  let current := state.records.reverse.filter fun record =>
    state.readableHead record.recordId = some record ∧ sourceIds.contains record.sourceId ∧
      allowedScopes.contains record.scopeId ∧
      allowedClassifications.contains record.classification ∧
      (∀ expiresAt ∈ record.expiresAt, rt.iso.isoformat now < expiresAt)
  return (current.take limit.toNat).map (·.recordId)

/-- The record of a head without a tombstone, published or not. -/
def unburiedHead (state : MemoryState) (recordId : String) : Option MemoryRecord :=
  match state.heads.get? recordId, state.tombstones.get? recordId with
  | some head, none => state.row recordId head.revision
  | _, _ => none

/-- `expire_due`, in some order; the expiry is compared as the text it is. -/
def expireDue (rt : MemoryRuntime) (state : MemoryState) (now : ℤ) : List String :=
  (state.heads.entries.filterMap fun head => state.unburiedHead head.1).filterMap fun record =>
    match record.expiresAt with
    | none => none
    | some expiresAt =>
        if expiresAt ≤ rt.iso.isoformat now then some record.recordId else none

end MemoryState

end PhiOS
