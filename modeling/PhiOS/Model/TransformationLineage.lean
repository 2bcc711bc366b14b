import PhiOS.Model.Ledger
import PhiOS.Model.MemoryRecord

/-!
# Transformation lineage

The receipts of `mandala/transformation.py`, which say what a derived memory was made of and how
exact it still is, and the check of `memory/service.py` that a chain of them ends in a record.
-/

set_option autoImplicit false

namespace PhiOS

def transformationLineageReceiptSchemaVersion : String := "phios.transformation_lineage_receipt.v0.1"

inductive ExactnessClass
  | byteExact
  | reversible
  | normalized
  | lossyDerived
  | interpretive
  | unknown
  deriving DecidableEq

namespace ExactnessClass

def value : ExactnessClass → String
  | .byteExact => "BYTE_EXACT"
  | .reversible => "REVERSIBLE"
  | .normalized => "NORMALIZED"
  | .lossyDerived => "LOSSY_DERIVED"
  | .interpretive => "INTERPRETIVE"
  | .unknown => "UNKNOWN"

/-- `_EXACTNESS_STRENGTH`. -/
def strength : ExactnessClass → ℕ
  | .byteExact => 5
  | .reversible => 4
  | .normalized => 3
  | .lossyDerived => 2
  | .interpretive => 1
  | .unknown => 0

/-- `weakest_exactness` of one class and the others: the first of the weakest. -/
def weakest (first : ExactnessClass) (others : List ExactnessClass) : ExactnessClass :=
  others.foldl (fun least c => if c.strength < least.strength then c else least) first

end ExactnessClass

structure TransformationLineageReceipt where
  schemaVersion : String := transformationLineageReceiptSchemaVersion
  receiptId : String
  transformId : String
  transformVersion : String
  sourceRefs : List String
  sourceSha256s : List String
  outputRef : String
  outputSha256 : String
  parametersSha256 : String
  parentReceiptSha256s : List String
  requestedExactness : ExactnessClass
  exactnessClass : ExactnessClass
  sourceTaints : List String
  addedTaints : List String
  effectiveTaints : List String
  informationLossPossible : Bool
  semanticInference : Bool
  limitations : List String
  operationalAuthority : Bool := false
  actionAuthority : Bool := false
  executionAuthority : Bool := false
  receiptSha256 : String
  deriving DecidableEq

namespace TransformationLineageReceipt

/-- `body_dict`. -/
def body (receipt : TransformationLineageReceipt) : Row :=
  [("schema_version", .str receipt.schemaVersion), ("receipt_id", .str receipt.receiptId),
    ("transform_id", .str receipt.transformId),
    ("transform_version", .str receipt.transformVersion),
    ("source_refs", .strs receipt.sourceRefs), ("source_sha256s", .strs receipt.sourceSha256s),
    ("output_ref", .str receipt.outputRef), ("output_sha256", .str receipt.outputSha256),
    ("parameters_sha256", .str receipt.parametersSha256),
    ("parent_receipt_sha256s", .strs receipt.parentReceiptSha256s),
    ("requested_exactness", .str receipt.requestedExactness.value),
    ("exactness_class", .str receipt.exactnessClass.value),
    ("source_taints", .strs receipt.sourceTaints), ("added_taints", .strs receipt.addedTaints),
    ("effective_taints", .strs receipt.effectiveTaints),
    ("information_loss_possible", .bool receipt.informationLossPossible),
    ("semantic_inference", .bool receipt.semanticInference),
    ("limitations", .strs receipt.limitations),
    ("operational_authority", .bool receipt.operationalAuthority),
    ("action_authority", .bool receipt.actionAuthority),
    ("execution_authority", .bool receipt.executionAuthority)]

def toDict (receipt : TransformationLineageReceipt) : Json :=
  .obj (receipt.body ++ [("receipt_sha256", .str receipt.receiptSha256)])

/-- `TransformationLineageError(message)`. -/
def err (message : String) : PyError := ⟨.transformationLineageError, message, []⟩

def requireNonempty (value label : String) : Except PyError String :=
  requireStripped .transformationLineageError " must be non-empty" value label

def requireSha256 (value label : String) : Except PyError Unit := do
  let _ ← requireNonempty value label
  validateSha256 .transformationLineageError value label

/-- What the requested exactness demands of the transformation. -/
def checkExactness (receipt : TransformationLineageReceipt) : Except PyError Unit :=
  match receipt.requestedExactness with
  | .byteExact => do
      raiseIf (receipt.sourceSha256s.length ≠ 1) (err "BYTE_EXACT requires exactly one source")
      raiseIf (receipt.sourceSha256s.head? ≠ some receipt.outputSha256)
        (err "BYTE_EXACT requires identical source/output SHA-256")
      raiseIf (receipt.informationLossPossible ∨ receipt.semanticInference)
        (err "BYTE_EXACT cannot claim loss or semantic inference")
  | .reversible =>
      raiseIf (receipt.informationLossPossible ∨ receipt.semanticInference)
        (err "REVERSIBLE cannot claim loss or semantic inference")
  | .normalized =>
      raiseIf (receipt.semanticInference = true) (err "NORMALIZED cannot include semantic inference")
  | .lossyDerived =>
      raiseIf (receipt.informationLossPossible = false ∨ receipt.semanticInference)
        (err "LOSSY_DERIVED requires possible information loss and no semantic inference")
  | .interpretive =>
      raiseIf (receipt.semanticInference = false) (err "INTERPRETIVE requires semantic inference")
  | .unknown => .ok ()

def validate (rt : MemoryRuntime) (receipt : TransformationLineageReceipt) :
    Except PyError Unit := do
  raiseIf (receipt.schemaVersion ≠ transformationLineageReceiptSchemaVersion)
    (err "unsupported transformation lineage schema")
  let _ ← requireNonempty receipt.receiptId "receipt_id"
  let _ ← requireNonempty receipt.transformId "transform_id"
  let _ ← requireNonempty receipt.transformVersion "transform_version"
  raiseIf (receipt.sourceRefs = []) (err "source_refs must not be empty")
  raiseIf (receipt.sourceRefs.length ≠ receipt.sourceSha256s.length)
    (err "source_refs and source_sha256s must have equal length")
  receipt.sourceRefs.forM fun value => do
    let _ ← requireNonempty value "source_ref"
  receipt.sourceSha256s.forM fun value => requireSha256 value "source_sha256"
  let _ ← requireNonempty receipt.outputRef "output_ref"
  requireSha256 receipt.outputSha256 "output_sha256"
  requireSha256 receipt.parametersSha256 "parameters_sha256"
  receipt.parentReceiptSha256s.forM fun value => requireSha256 value "parent_receipt_sha256"
  raiseIf (sortedSet receipt.parentReceiptSha256s ≠ receipt.parentReceiptSha256s)
    (err "parent receipt hashes must be unique and sorted")
  raiseIf (sortedSet receipt.sourceTaints ≠ receipt.sourceTaints)
    (err "source taints must be unique and sorted")
  raiseIf (sortedSet receipt.addedTaints ≠ receipt.addedTaints)
    (err "added taints must be unique and sorted")
  raiseIf (sortedSet receipt.effectiveTaints ≠ receipt.effectiveTaints)
    (err "effective taints must be unique and sorted")
  receipt.checkExactness
  raiseIf (receipt.requestedExactness.strength < receipt.exactnessClass.strength)
    (err "effective exactness cannot exceed requested exactness")
  raiseIf (¬ receipt.sourceTaints ⊆ receipt.effectiveTaints)
    (err "effective taints cannot drop source taints")
  raiseIf (¬ receipt.addedTaints ⊆ receipt.effectiveTaints)
    (err "effective taints cannot drop added taints")
  raiseIf (receipt.operationalAuthority = true)
    (err "transformation lineage cannot carry operational authority")
  raiseIf (receipt.actionAuthority = true)
    (err "transformation lineage cannot carry action authority")
  raiseIf (receipt.executionAuthority = true)
    (err "transformation lineage cannot carry execution authority")
  raiseIf (rt.sha256 (.obj receipt.body) ≠ receipt.receiptSha256)
    (err "transformation lineage hash does not match receipt contents")

end TransformationLineageReceipt

/-! ## The lineage of a record -/

/-- The receipts that a receipt names as its parents. -/
def lineageParents (current : TransformationLineageReceipt)
    (before : List TransformationLineageReceipt) : List TransformationLineageReceipt :=
  before.filter fun item => current.parentReceiptSha256s.contains item.receiptSha256

/-- The loop over the receipts after the first; `before` are those that came, `previous` is the
last of them. -/
def checkLineageChain (before : List TransformationLineageReceipt)
    (previous : TransformationLineageReceipt) : List TransformationLineageReceipt → Option String
  | [] => none
  | current :: rest =>
      let parents := lineageParents current before
      if previous.receiptSha256 ∉ current.parentReceiptSha256s ∨
          ¬ current.parentReceiptSha256s ⊆ before.map (·.receiptSha256) then
        some "DERIVED_MEMORY_LINEAGE_CHAIN_BROKEN"
      else if current.exactnessClass ≠
          ExactnessClass.weakest current.requestedExactness (parents.map (·.exactnessClass)) then
        some "DERIVED_MEMORY_EXACTNESS_ESCALATION"
      else if ¬ parents.flatMap (·.effectiveTaints) ⊆ current.effectiveTaints then
        some "DERIVED_MEMORY_TAINT_DROPPED"
      else checkLineageChain (before ++ [current]) current rest

/-- What the last receipt and the sources of all have to say about the record. -/
def checkLineageEnd (record : MemoryRecord) (receipts : List TransformationLineageReceipt)
    (final : TransformationLineageReceipt) : Option String :=
  if final.outputSha256 ≠ record.contentSha256 then some "DERIVED_MEMORY_OUTPUT_HASH_MISMATCH"
  else if some final.exactnessClass.value ≠ record.exactnessClass then
    some "DERIVED_MEMORY_EXACTNESS_MISMATCH"
  else if final.effectiveTaints ≠ record.taintLabels then some "DERIVED_MEMORY_TAINT_MISMATCH"
  else if ¬ record.derivedFrom ⊆ receipts.flatMap (·.sourceRefs) then
    some "DERIVED_MEMORY_SOURCE_LINEAGE_MISMATCH"
  else none

/-- `_validate_transformation_lineage`: the error code, if there is one. -/
def validateTransformationLineage (rt : MemoryRuntime) (record : MemoryRecord)
    (receipts : List TransformationLineageReceipt) : Option String :=
  if record.epistemicKind = "source" then
    if receipts = [] then none else some "SOURCE_MEMORY_CANNOT_HAVE_TRANSFORMATION_LINEAGE"
  else match receipts with
    | [] => some "DERIVED_MEMORY_TRANSFORMATION_LINEAGE_REQUIRED"
    | first :: rest =>
        if (receipts.forM (·.validate rt)).toBool = false then
          some "DERIVED_MEMORY_TRANSFORMATION_LINEAGE_INVALID"
        else if receipts.map (·.receiptSha256) ≠ record.transformationLineageSha256s then
          some "DERIVED_MEMORY_LINEAGE_HASH_MISMATCH"
        else if first.parentReceiptSha256s ≠ [] then some "DERIVED_MEMORY_LINEAGE_CHAIN_BROKEN"
        else match checkLineageChain [first] first rest with
          | some code => some code
          | none => checkLineageEnd record receipts (rest.getLastD first)

end PhiOS
