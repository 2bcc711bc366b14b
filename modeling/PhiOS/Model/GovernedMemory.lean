import PhiOS.Model.EvidenceHorizon
import PhiOS.Model.MemoryReceipts

/-!
# The governed memory service

`put`, `get` and `delete` of `memory/service.py`, as functions of the store they find. A call reads
the store and changes it in one transaction at its end, if it changes it at all; a call that raises
leaves the store as it was.
-/

set_option autoImplicit false

namespace PhiOS

structure ReadAdmissibilityReceipt where
  receiptId : String
  packetId : String
  taskId : String
  status : MandalaStatus
  producedBy : String
  timestampUtc : String
  contractVersion : String := mandalaContractVersion
  parentReceiptId : Option String := none
  operationId : String
  principalId : String
  recordId : String
  revision : ℕ
  recordSha256 : String
  readableAsContext : Bool
  currentness : String
  scopeId : String
  classification : String
  authorizationPolicySha256 : String
  authorityContextSha256 : String
  epistemicKind : String
  exactnessClass : Option String
  transformationLineageSha256s : List String
  taintLabels : List String
  operationalAuthority : Bool := false
  actionAuthority : Bool := false
  executionAuthority : Bool := false
  receiptSha256 : String := ""

def ReadAdmissibilityReceipt.toDict (receipt : ReadAdmissibilityReceipt) : Json :=
  .obj [("receipt_id", .str receipt.receiptId), ("packet_id", .str receipt.packetId),
    ("task_id", .str receipt.taskId), ("status", .str receipt.status.value),
    ("produced_by", .str receipt.producedBy), ("timestamp_utc", .str receipt.timestampUtc),
    ("contract_version", .str receipt.contractVersion),
    ("parent_receipt_id", .optStr receipt.parentReceiptId),
    ("receipt_type", .str "ReadAdmissibilityReceipt"), ("operation_id", .str receipt.operationId),
    ("principal_id", .str receipt.principalId), ("record_id", .str receipt.recordId),
    ("revision", .int receipt.revision), ("record_sha256", .str receipt.recordSha256),
    ("readable_as_context", .bool receipt.readableAsContext),
    ("currentness", .str receipt.currentness), ("scope_id", .str receipt.scopeId),
    ("classification", .str receipt.classification),
    ("authorization_policy_sha256", .str receipt.authorizationPolicySha256),
    ("authority_context_sha256", .str receipt.authorityContextSha256),
    ("epistemic_kind", .str receipt.epistemicKind),
    ("exactness_class", .optStr receipt.exactnessClass),
    ("transformation_lineage_sha256s", .strs receipt.transformationLineageSha256s),
    ("taint_labels", .strs receipt.taintLabels),
    ("operational_authority", .bool receipt.operationalAuthority),
    ("action_authority", .bool receipt.actionAuthority),
    ("execution_authority", .bool receipt.executionAuthority),
    ("receipt_sha256", .str receipt.receiptSha256)]

/-- The statuses of a `MemoryResult`. -/
inductive MemoryStatus
  | ok
  | blocked
  | unavailable
  | invalid
  | degraded
  deriving DecidableEq

/-- `MemoryResult`, without the hits that only a search returns. -/
structure MemoryResult where
  status : MemoryStatus
  record : Option MemoryRecord := none
  readAdmissibilityReceipts : List ReadAdmissibilityReceipt := []
  evidenceHorizonReceipts : List EvidenceHorizonReceipt := []
  reactivationWindowReceipts : List ReactivationWindowReceipt := []
  receiptId : Option String := none
  errorCode : Option String := none

/-- What a `GovernedMemoryService` is made with, the index and the embeddings apart. -/
structure GovernedMemoryService where
  policy : MemoryAccessPolicy
  /-- The policy of the `EvidenceHorizonController`. -/
  evidenceHorizon : Option EvidenceHorizonPolicy := none
  /-- `retrieval_index.available()`. -/
  indexAvailable : Bool := false

namespace GovernedMemoryService

/-! ## put -/

/-- The arguments of `put`. -/
structure PutRequest where
  record : MemoryRecord
  principalId : String
  taskId : String
  authority : AuthorityContext
  operationId : String
  packetId : String := ""
  transformationLineage : List TransformationLineageReceipt := []
  reconsolidationEvidenceRefs : List String := []

variable (rt : MemoryRuntime) (service : GovernedMemoryService) (state : MemoryState)

/-- The policy's decision on a `put`. -/
def writeDecision (request : PutRequest) : Except PyError (Option MemoryAccessDecision) :=
  service.policy.resolve rt request.principalId request.taskId "memory.write" request.authority

/-- The head that `put` finds, at the time that the new record gives as its own. -/
def previousOf (record : MemoryRecord) : Except PyError (Option MemoryRecord) := do
  state.get rt record.recordId (← rt.astimezone record.createdAt)

/-- What `put` asks of the horizon and the gate about the head it finds: the decision of the gate
where the gate is asked, or the error code. -/
def reconsolidate (record : MemoryRecord) (evidenceRefs : List String) :
    Option MemoryRecord → Except PyError (Except String (Option ReconsolidationGateDecision))
  | none => return .ok none
  | some previous =>
      match service.evidenceHorizon with
      | none => return .ok none
      | some horizon => do
          let prior ← horizon.evaluate rt previous record.createdAt
          match prior.horizon.readableAsContext, prior.reactivation with
          | true, _ => return .ok none
          | false, none => return .error "MEMORY_REACTIVATION_WINDOW_CLOSED"
          | false, some reactivation =>
              match reactivation.withinWindow with
              | false => return .error "MEMORY_REACTIVATION_WINDOW_CLOSED"
              | true => do
                  let decision ← ReconsolidationGate.evaluate rt previous record evidenceRefs
                  return if decision.accepted then .ok (some decision)
                    else .error ("MEMORY_RECONSOLIDATION_BLOCKED:" ++ decision.reason)

/-- The checks before `put` turns to the outbox: a result at once, or the decisions of the policy
and of the gate. -/
def admitPut (request : PutRequest) :
    Except PyError (MemoryResult ⊕ MemoryAccessDecision × Option ReconsolidationGateDecision) := do
  match ← service.writeDecision rt request with
  | none => return .inl { status := .blocked, errorCode := some "MEMORY_WRITE_DENIED" }
  | some decision =>
      match decision.permits request.record,
          validateTransformationLineage rt request.record request.transformationLineage with
      | false, _ => return .inl { status := .blocked, errorCode := some "MEMORY_WRITE_DENIED" }
      | true, some code => return .inl { status := .invalid, errorCode := some code }
      | true, none => do
          let previous ← previousOf rt state request.record
          match ← service.reconsolidate rt request.record request.reconsolidationEvidenceRefs
              previous with
          | .error code => return .inl { status := .invalid, errorCode := some code }
          | .ok gate => return .inr (decision, gate)

/-- The digest of a `put`. -/
def putSha256 (request : PutRequest) : String :=
  rt.sha256 (.obj [("operation", .str "put"), ("record", request.record.toDict),
    ("principal_id", .str request.principalId),
    ("transformation_lineage", .arr (request.transformationLineage.map (·.toDict))),
    ("reconsolidation_evidence_refs",
      .strs (request.reconsolidationEvidenceRefs.insertionSort (· ≤ ·))),
    ("evidence_horizon_policy_sha256",
      .optStr (service.evidenceHorizon.map (·.policySha256 rt)))])

/-- The receipt of a `put`. -/
def putReceipt (request : PutRequest) (operationId : String) (decision : MemoryAccessDecision) :
    MemoryOperationReceipt :=
  .build rt operationId request.packetId request.taskId .accepted "put" request.record.createdAt
    [request.record] decision.policySha256 (service.putSha256 rt request) "pending_publication"
    (if service.indexAvailable then "pending" else "unavailable") none none none
    request.transformationLineage

/-- What `put` does once nothing speaks against it: whether it stored a revision, its result and
the store. -/
def commitPut (request : PutRequest) (decision : MemoryAccessDecision) :
    Except PyError (Bool × MemoryResult × MemoryState) := do
  let operationId ← MemoryValidation.requireNonempty request.operationId "operation_id"
  let receipt := service.putReceipt rt request operationId decision
  let (stored, state) ← state.putPending request.record operationId
    (service.putSha256 rt request) receipt.text
  return (stored,
    { status := .ok, record := some request.record, receiptId := some receipt.receiptId }, state)

/-- `put`. The gate's decision and whether a revision was stored are kept beside the result. -/
def putWith (request : PutRequest) :
    Except PyError (Option ReconsolidationGateDecision × Bool × MemoryResult × MemoryState) := do
  match ← service.admitPut rt state request with
  | .inl result => return (none, false, result, state)
  | .inr (decision, gate) => return (gate, ← service.commitPut rt state request decision)

def put (request : PutRequest) : Except PyError (MemoryResult × MemoryState) := do
  return (← service.putWith rt state request).2.2

/-- The store after a `put`, whether it raised or not. -/
def afterPut (request : PutRequest) : MemoryState :=
  match service.put rt state request with
  | .ok (_, state) => state
  | .error _ => state

/-! ## get -/

/-- The arguments of `get`, and what the clock says at its two readings. -/
structure GetRequest where
  recordId : String
  principalId : String
  taskId : String
  authority : AuthorityContext
  readAt : ℤ
  evaluatedAt : ℤ

/-- `_read_admissibility_receipt`, for a `get`. -/
def readAdmissibilityReceipt (request : GetRequest) (record : MemoryRecord)
    (policySha256 evaluatedAt : String) : ReadAdmissibilityReceipt :=
  let operationId := "get:" ++ request.taskId ++ ":" ++ request.principalId ++ ":" ++
    record.recordId ++ ":" ++ toString record.revision ++ ":" ++ evaluatedAt
  let body : ReadAdmissibilityReceipt := {
    receiptId := rt.uuid5 ("phios.memory.read-admissibility:" ++ operationId)
    packetId := "memory:" ++ operationId
    taskId := request.taskId
    status := .accepted
    producedBy := "phios.memory"
    timestampUtc := evaluatedAt
    operationId
    principalId := request.principalId
    recordId := record.recordId
    revision := record.revision
    recordSha256 := record.recordSha256
    readableAsContext := true
    currentness := "current"
    scopeId := record.scopeId
    classification := record.classification
    authorizationPolicySha256 := policySha256
    authorityContextSha256 := rt.sha256 request.authority.toDict
    epistemicKind := record.epistemicKind
    exactnessClass := record.exactnessClass
    transformationLineageSha256s := record.transformationLineageSha256s
    taintLabels := record.taintLabels }
  { body with receiptSha256 := rt.sha256 body.toDict }

/-- What `get` returns of a record that the policy permits. -/
def serve (request : GetRequest) (decision : MemoryAccessDecision) (record : MemoryRecord) :
    Except PyError MemoryResult := do
  let evaluatedAt := rt.iso.isoformat request.evaluatedAt
  let served := readAdmissibilityReceipt rt request record decision.policySha256 evaluatedAt
  match service.evidenceHorizon with
  | none => return { status := .ok, record := some record, readAdmissibilityReceipts := [served] }
  | some horizon => do
      let evaluation ← horizon.evaluate rt record evaluatedAt
      return if evaluation.horizon.readableAsContext then
        { status := .ok, record := some record, readAdmissibilityReceipts := [served]
          evidenceHorizonReceipts := [evaluation.horizon]
          reactivationWindowReceipts := evaluation.reactivation.toList }
      else
        { status := .degraded, evidenceHorizonReceipts := [evaluation.horizon]
          reactivationWindowReceipts := evaluation.reactivation.toList
          errorCode := some (if evaluation.horizon.status = .reactivationRequired then
            "MEMORY_REACTIVATION_REQUIRED" else "MEMORY_OUTSIDE_EVIDENCE_HORIZON") }

def get (request : GetRequest) : Except PyError MemoryResult := do
  match ← service.policy.resolve rt request.principalId request.taskId "memory.read"
      request.authority with
  | none => return { status := .blocked, errorCode := some "MEMORY_READ_DENIED" }
  | some decision =>
      match ← state.get rt request.recordId request.readAt with
      | none => return { status := .unavailable, errorCode := some "MEMORY_NOT_AVAILABLE" }
      | some record =>
          match decision.permits record with
          | false => return { status := .blocked, errorCode := some "MEMORY_READ_DENIED" }
          | true => service.serve rt request decision record

/-! ## delete -/

/-- The arguments of `delete`, and what the clock says at its three readings. -/
structure DeleteRequest where
  recordId : String
  principalId : String
  taskId : String
  authority : AuthorityContext
  operationId : String
  packetId : String := ""
  readAt : ℤ
  deletedAt : ℤ
  stampedAt : ℤ

/-- The digest of a `delete`. -/
def deleteSha256 (request : DeleteRequest) : String :=
  rt.sha256 (.obj [("operation", .str "delete"), ("record_id", .str request.recordId),
    ("principal_id", .str request.principalId)])

/-- The receipt of a `delete`. -/
def deleteReceipt (request : DeleteRequest) (decision : MemoryAccessDecision)
    (current : MemoryRecord) : MemoryOperationReceipt :=
  .build rt request.operationId request.packetId request.taskId .accepted "delete"
    (rt.iso.isoformat request.stampedAt) [current] decision.policySha256
    (deleteSha256 rt request) "deleted" "remove_pending"

def delete (request : DeleteRequest) : Except PyError (MemoryResult × MemoryState) := do
  match ← service.policy.resolve rt request.principalId request.taskId "memory.delete"
      request.authority with
  | none => return ({ status := .blocked, errorCode := some "MEMORY_DELETE_DENIED" }, state)
  | some decision =>
      match ← state.get rt request.recordId request.readAt with
      | none =>
          return ({ status := .unavailable, errorCode := some "MEMORY_NOT_AVAILABLE" }, state)
      | some current =>
          match decision.permits current with
          | false => return ({ status := .blocked, errorCode := some "MEMORY_DELETE_DENIED" }, state)
          | true => do
              let receipt := deleteReceipt rt request decision current
              let (_, state) ← state.delete request.recordId request.operationId
                (rt.iso.isoformat request.deletedAt) (deleteSha256 rt request) receipt.text
              return ({ status := .ok, receiptId := some receipt.receiptId }, state)

/-- The store after a `delete`, whether it raised or not. -/
def afterDelete (request : DeleteRequest) : MemoryState :=
  match service.delete rt state request with
  | .ok (_, state) => state
  | .error _ => state

end GovernedMemoryService

end PhiOS
