import PhiOS.Model.TransformationLineage

/-!
# Building transformation lineage

`TransformationLineageBuilder.build` of `mandala/transformation.py`. The receipts that come out of
it are the ones that the validator and the lineage of a record are about.
-/

set_option autoImplicit false

namespace PhiOS

/-- The arguments of `build`. -/
structure LineageBuild where
  transformId : String
  transformVersion : String
  sourceRefs : List String
  sourceSha256s : List String
  outputRef : String
  outputSha256 : String
  /-- `dict(parameters or {})`. -/
  parameters : Row := []
  requestedExactness : ExactnessClass
  sourceTaints : List String := []
  addedTaints : List String := []
  parentReceipts : List TransformationLineageReceipt := []
  informationLossPossible : Bool := false
  semanticInference : Bool := false
  limitations : List String := []

namespace TransformationLineageReceipt

/-- What `_require_sha256` returns. -/
def normalizedSha256 (value label : String) : Except PyError String := do
  requireSha256 value label
  return String.ofList ((stripChars value.toList).map Char.toLower)

def normalizeLabels (values : List String) (label : String) : Except PyError (List String) := do
  return sortedSet (← values.mapM fun value => requireNonempty value label)

/-- The payload that the name of a receipt is made from. -/
def seed (receipt : TransformationLineageReceipt) : Row :=
  [("schema_version", .str receipt.schemaVersion), ("transform_id", .str receipt.transformId),
    ("transform_version", .str receipt.transformVersion),
    ("source_refs", .strs receipt.sourceRefs), ("source_sha256s", .strs receipt.sourceSha256s),
    ("output_ref", .str receipt.outputRef), ("output_sha256", .str receipt.outputSha256),
    ("parameters_sha256", .str receipt.parametersSha256),
    ("parent_receipt_sha256s", .strs receipt.parentReceiptSha256s),
    ("requested_exactness", .str receipt.requestedExactness.value),
    ("exactness_class", .str receipt.exactnessClass.value),
    ("effective_taints", .strs receipt.effectiveTaints),
    ("information_loss_possible", .bool receipt.informationLossPossible),
    ("semantic_inference", .bool receipt.semanticInference)]

/-- The payload that `build` digests. -/
def buildBody (receipt : TransformationLineageReceipt) : Row :=
  receipt.seed ++
    [("receipt_id", .str receipt.receiptId), ("source_taints", .strs receipt.sourceTaints),
      ("added_taints", .strs receipt.addedTaints), ("limitations", .strs receipt.limitations),
      ("operational_authority", .bool false), ("action_authority", .bool false),
      ("execution_authority", .bool false)]

/-- The name and the digest of a receipt. -/
def named (rt : MemoryRuntime) (receipt : TransformationLineageReceipt) :
    TransformationLineageReceipt :=
  let receipt := { receipt with
    receiptId := rt.uuid5 ("phios.transformation-lineage:" ++ rt.sha256 (.obj receipt.seed)) }
  { receipt with receiptSha256 := rt.sha256 (.obj receipt.buildBody) }

def build (rt : MemoryRuntime) (request : LineageBuild) :
    Except PyError TransformationLineageReceipt := do
  let transformId ← requireNonempty request.transformId "transform_id"
  let transformVersion ← requireNonempty request.transformVersion "transform_version"
  raiseIf (request.sourceRefs = []) (err "source_refs must not be empty")
  raiseIf (request.sourceRefs.length ≠ request.sourceSha256s.length)
    (err "source_refs and source_sha256s must have equal length")
  let sourceRefs ← request.sourceRefs.mapM fun value => requireNonempty value "source_ref"
  let sourceSha256s ← request.sourceSha256s.mapM fun value =>
    normalizedSha256 value "source_sha256"
  let outputRef ← requireNonempty request.outputRef "output_ref"
  let outputSha256 ← normalizedSha256 request.outputSha256 "output_sha256"
  let parentHashes ← request.parentReceipts.mapM fun receipt =>
    normalizedSha256 receipt.receiptSha256 "parent_receipt_sha256"
  let sourceTaints ← normalizeLabels request.sourceTaints "source_taint"
  let addedTaints ← normalizeLabels request.addedTaints "added_taint"
  let limitations ← normalizeLabels request.limitations "limitation"
  let draft : TransformationLineageReceipt := {
    receiptId := "", transformId, transformVersion, sourceRefs, sourceSha256s, outputRef
    outputSha256, parametersSha256 := "", parentReceiptSha256s := sortedSet parentHashes
    requestedExactness := request.requestedExactness, exactnessClass := request.requestedExactness
    sourceTaints, addedTaints, effectiveTaints := []
    informationLossPossible := request.informationLossPossible
    semanticInference := request.semanticInference, limitations, receiptSha256 := "" }
  draft.checkExactness
  let effectiveExactness :=
    ExactnessClass.weakest request.requestedExactness
      (request.parentReceipts.map (·.exactnessClass))
  let effectiveTaints ← normalizeLabels
    (sourceTaints ++ request.parentReceipts.flatMap (·.effectiveTaints) ++ addedTaints)
    "effective_taint"
  return named rt { draft with
    exactnessClass := effectiveExactness, effectiveTaints
    parametersSha256 := rt.sha256 (.obj request.parameters) }

end TransformationLineageReceipt

end PhiOS
