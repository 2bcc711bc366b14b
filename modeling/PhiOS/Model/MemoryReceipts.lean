import PhiOS.Model.CanonicalJson
import PhiOS.Model.MemoryStore
import PhiOS.Model.TransformationLineage

/-!
# Receipts of memory operations

`MemoryOperationReceipt` (mandala/receipts.py), the receipt that `memory/service.py` makes of an
operation, and `_receipt_from_payload` of `memory/publisher.py`, which reads one back.
-/

set_option autoImplicit false

namespace PhiOS

structure EmbeddingIdentity where
  provider : String
  providerVersion : String
  model : String
  modelDigest : String
  dimensions : ℤ
  preprocessingVersion : String := "text-v1"
  metric : String := "l2"
  deriving DecidableEq

def EmbeddingIdentity.toDict (identity : EmbeddingIdentity) : Row :=
  [("provider", .str identity.provider), ("provider_version", .str identity.providerVersion),
    ("model", .str identity.model), ("model_digest", .str identity.modelDigest),
    ("dimensions", .int identity.dimensions),
    ("preprocessing_version", .str identity.preprocessingVersion), ("metric", .str identity.metric)]

structure MemoryOperationReceipt where
  receiptId : String
  packetId : String
  taskId : String
  status : MandalaStatus
  producedBy : String
  timestampUtc : String
  contractVersion : String := mandalaContractVersion
  parentReceiptId : Option String := none
  operationId : String
  operation : String
  sourceIds : List String := []
  recordVersions : List Row := []
  authorizationPolicySha256 : String := ""
  inputSha256 : String := ""
  canonicalStatus : String := "unchanged"
  indexStatus : String := "unavailable"
  embeddingIdentity : Option Row := none
  indexGeneration : Option String := none
  errorCode : Option String := none
  transformationLineage : List Row := []
  transformationLineageSha256s : List String := []
  exactnessClasses : List String := []
  taintLabels : List String := []
  promotionStatus : String := "not_promoted"
  actionAuthority : Bool := false
  executionAuthority : Bool := false
  receiptSha256 : String := ""

namespace MemoryOperationReceipt

def toDict (receipt : MemoryOperationReceipt) : Row :=
  [("receipt_id", .str receipt.receiptId), ("packet_id", .str receipt.packetId),
    ("task_id", .str receipt.taskId), ("status", .str receipt.status.value),
    ("produced_by", .str receipt.producedBy), ("timestamp_utc", .str receipt.timestampUtc),
    ("contract_version", .str receipt.contractVersion),
    ("parent_receipt_id", .optStr receipt.parentReceiptId),
    ("receipt_type", .str "MemoryOperationReceipt"), ("operation_id", .str receipt.operationId),
    ("operation", .str receipt.operation), ("source_ids", .strs receipt.sourceIds),
    ("record_versions", .arr (receipt.recordVersions.map .obj)),
    ("authorization_policy_sha256", .str receipt.authorizationPolicySha256),
    ("input_sha256", .str receipt.inputSha256), ("canonical_status", .str receipt.canonicalStatus),
    ("index_status", .str receipt.indexStatus),
    ("embedding_identity", (receipt.embeddingIdentity.map Json.obj).getD .null),
    ("index_generation", .optStr receipt.indexGeneration),
    ("error_code", .optStr receipt.errorCode),
    ("transformation_lineage", .arr (receipt.transformationLineage.map .obj)),
    ("transformation_lineage_sha256s", .strs receipt.transformationLineageSha256s),
    ("exactness_classes", .strs receipt.exactnessClasses),
    ("taint_labels", .strs receipt.taintLabels),
    ("promotion_status", .str receipt.promotionStatus),
    ("action_authority", .bool receipt.actionAuthority),
    ("execution_authority", .bool receipt.executionAuthority),
    ("receipt_sha256", .str receipt.receiptSha256)]

/-- The text `json.dumps(receipt.to_dict(), sort_keys=True)`, as it is read again. -/
def text (receipt : MemoryOperationReceipt) : ReceiptText :=
  .ok (Json.canonical (.obj receipt.toDict))

/-- An entry of `record_versions`. -/
def versionOf (record : MemoryRecord) : Row :=
  [("record_id", .str record.recordId), ("revision", .int record.revision),
    ("record_sha256", .str record.recordSha256)]

/-- `_operation_receipt`; `timestamp` is `created_at` of the record that is put, else the clock. -/
def build (rt : MemoryRuntime) (operationId packetId taskId : String) (status : MandalaStatus)
    (operation timestamp : String) (records : List MemoryRecord)
    (policySha256 inputSha256 canonicalStatus indexStatus : String)
    (embeddingIdentity : Option EmbeddingIdentity := none)
    (indexGeneration errorCode : Option String := none)
    (transformationLineage : List TransformationLineageReceipt := []) : MemoryOperationReceipt :=
  let body : MemoryOperationReceipt := {
    receiptId := rt.uuid5 ("phios.memory:" ++ operationId)
    packetId := if packetId = "" then "memory:" ++ operationId else packetId
    taskId
    status
    producedBy := "phios.memory"
    timestampUtc := timestamp
    operationId
    operation
    sourceIds := records.map (·.sourceId)
    recordVersions := records.map versionOf
    authorizationPolicySha256 := policySha256
    inputSha256
    canonicalStatus
    indexStatus
    embeddingIdentity := embeddingIdentity.map (·.toDict)
    indexGeneration
    errorCode
    transformationLineage := transformationLineage.map fun item =>
      item.body ++ [("receipt_sha256", .str item.receiptSha256)]
    transformationLineageSha256s := transformationLineage.map (·.receiptSha256)
    exactnessClasses := records.filterMap (·.exactnessClass)
    taintLabels := sortedSet (records.flatMap (·.taintLabels)) }
  { body with receiptSha256 := rt.sha256 (.obj body.toDict) }

/-! ## Reading a receipt back -/

/-- `MandalaStatus(text)`. -/
def statusOf (text : String) : Except PyError MandalaStatus :=
  match [MandalaStatus.accepted, .rejected, .quarantined, .degraded, .blocked, .aborted, .disputed,
      .unknown].find? (·.value = text) with
  | some status => .ok status
  | none => .error ⟨.valueError, "'" ++ text ++ "' is not a valid MandalaStatus", []⟩

/-- `str(payload[name])`. -/
def textAt (rt : MemoryRuntime) (payload : Row) (name : String) : Except PyError String :=
  rt.pyStr <$> Row.index payload name

/-- `str(payload.get(name, default))`. -/
def textOr (rt : MemoryRuntime) (payload : Row) (name default : String) : String :=
  ((payload.lookup name).map rt.pyStr).getD default

/-- `str(payload[name])`, and none where there is none or null. -/
def optionalTextAt (rt : MemoryRuntime) (payload : Row) (name : String) : Option String :=
  match payload.lookup name with
  | none | some .null => none
  | some value => some (rt.pyStr value)

/-- The items of `payload.get(name, [])`. A text has its characters and a dictionary its keys. -/
def itemsAt (payload : Row) (name : String) : Except PyError (List Json) :=
  match payload.lookup name with
  | none => .ok []
  | some (.arr items) => .ok items
  | some (.str s) => .ok (s.toList.map fun c => .str (String.singleton c))
  | some (.obj fields) => .ok (fields.map fun field => .str field.1)
  | some _ => .error ⟨.typeError, "object is not iterable", []⟩

/-- `dict(value)`, where the value is a dictionary. -/
def dictOf : Json → Option Row
  | .obj fields => some fields
  | _ => none

/-- `_receipt_from_payload`. -/
def fromPayload (rt : MemoryRuntime) (payload : Json) : Except PyError MemoryOperationReceipt := do
  let fields ← MemoryState.asDict payload
  raiseIf (((fields.lookup "receipt_type").any fun
      | .str text => text = "MemoryOperationReceipt"
      | _ => false) = false)
    ⟨.valueError, "memory outbox contains a non-memory receipt", []⟩
  let receiptId ← textAt rt fields "receipt_id"
  let packetId ← textAt rt fields "packet_id"
  let taskId ← textAt rt fields "task_id"
  let status ← statusOf (← textAt rt fields "status")
  let producedBy ← textAt rt fields "produced_by"
  let timestampUtc ← textAt rt fields "timestamp_utc"
  let contractVersion ← textAt rt fields "contract_version"
  let operationId ← textAt rt fields "operation_id"
  let operation ← textAt rt fields "operation"
  let sourceIds ← itemsAt fields "source_ids"
  let recordVersions ← itemsAt fields "record_versions"
  let transformationLineage ← itemsAt fields "transformation_lineage"
  let lineageSha256s ← itemsAt fields "transformation_lineage_sha256s"
  let exactnessClasses ← itemsAt fields "exactness_classes"
  let taintLabels ← itemsAt fields "taint_labels"
  return {
    receiptId, packetId, taskId, status, producedBy, timestampUtc, contractVersion
    parentReceiptId := optionalTextAt rt fields "parent_receipt_id"
    operationId, operation
    sourceIds := sourceIds.map rt.pyStr
    recordVersions := recordVersions.filterMap dictOf
    authorizationPolicySha256 := textOr rt fields "authorization_policy_sha256" ""
    inputSha256 := textOr rt fields "input_sha256" ""
    canonicalStatus := textOr rt fields "canonical_status" "unchanged"
    indexStatus := textOr rt fields "index_status" "unavailable"
    embeddingIdentity := (fields.lookup "embedding_identity").bind dictOf
    indexGeneration := optionalTextAt rt fields "index_generation"
    errorCode := optionalTextAt rt fields "error_code"
    transformationLineage := transformationLineage.filterMap dictOf
    transformationLineageSha256s := lineageSha256s.map rt.pyStr
    exactnessClasses := exactnessClasses.map rt.pyStr
    taintLabels := taintLabels.map rt.pyStr
    promotionStatus := textOr rt fields "promotion_status" "not_promoted"
    actionAuthority := ((fields.lookup "action_authority").map Json.truthy).getD false
    executionAuthority := ((fields.lookup "execution_authority").map Json.truthy).getD false
    receiptSha256 := textOr rt fields "receipt_sha256" "" }

end MemoryOperationReceipt

end PhiOS
