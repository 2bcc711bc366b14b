import Mathlib.Algebra.BigOperators.Group.List.Basic
import Mathlib.Algebra.Order.Floor.Ring
import Mathlib.Data.Rat.Floor
import Mathlib.Tactic.NormNum
import PhiOS.Library.UnionFind
import PhiOS.Model.CanonicalJson
import PhiOS.Model.Ledger

/-!
# Aggregation of calibration receipts

`aggregate_calibration_receipts` of `reflex/calibration_aggregation.py`. Scores, rates and means are
the exact numbers that they stand for, and what is rounded is rounded to nine digits, halves to the
even one.
-/

set_option autoImplicit false

namespace PhiOS

open KeyOrder

namespace Aggregation

/-- `ReflexAggregationContractError(message)`. -/
def err (message : String) : PyError := ⟨.exception "ReflexAggregationContractError", message, []⟩

/-- What the aggregation takes from the standard library. -/
structure AggregationRuntime where
  /-- `_digest`. -/
  sha256 : Json → String
  /-- `str(value)` of a value that is no text. -/
  str : Json → String
  /-- `float(value)` of a number, where it does not raise: a finite number, or none. -/
  number : Json → Except PyError (Option ℚ)
  /-- The text of a float in JSON. -/
  print : ℚ → String

/-! ## Values -/

/-- `row.get(key)`. -/
def get (row : Row) (key : String) : Json := (row.lookup key).getD .null

/-- The entries of a dictionary under texts; it is `none` of another value. -/
def asDict : Json → Option Row
  | .obj fields => some fields
  | .keyed _ => some []
  | _ => none

/-- `value is flag`. -/
def isBool (flag : Bool) : Json → Bool
  | .bool b => b == flag
  | _ => false

/-- `value is None`. -/
def isNone : Json → Bool
  | .null => true
  | _ => false

/-- `value == text`. -/
def isText (text : String) : Json → Bool
  | .str s => s == text
  | _ => false

/-- `value in options`, a set of texts: what has no hash is refused. -/
def isOneOf (options : List String) : Json → Except PyError Bool
  | .str s => .ok (options.contains s)
  | .arr _ => .error ⟨.typeError, "unhashable type: 'list'", []⟩
  | .obj _ | .keyed _ => .error ⟨.typeError, "unhashable type: 'dict'", []⟩
  | _ => .ok false

/-- `round(value, 9)`. -/
def round9 (q : ℚ) : ℚ :=
  let scaled : ℚ := q * 10 ^ 9
  let low : ℤ := scaled.floor
  let rest : ℚ := scaled - low
  let rounded : ℤ := if rest < 1 / 2 then low else if 1 / 2 < rest then low + 1
    else if low % 2 = 0 then low else low + 1
  (rounded : ℚ) / 10 ^ 9

/-- `sum(values) / len(values)`, rounded; there is none of no values. -/
def mean (values : List ℚ) : Option ℚ :=
  if values = [] then none else some (round9 (values.sum / values.length))

section

variable (rt : AggregationRuntime)

/-- `str(value)`. -/
def pyStr : Json → String
  | .str s => s
  | value => rt.str value

/-- `str(row.get(key, ""))`. -/
def textOf (row : Row) (key : String) : String := pyStr rt ((row.lookup key).getD (.str ""))

def requireBrier (value : Json) (label : String) : Except PyError ℚ :=
  match value with
  | .int _ | .float _ => do
      match (← rt.number value) with
      | none => .error (err (label ++ " must be finite and non-negative"))
      | some number => do
          raiseIf (number < 0) (err (label ++ " must be finite and non-negative"))
          return number
  | _ => .error (err (label ++ " must be numeric"))

end

/-! ## Policies -/

/-- `PromotionReadinessPolicy`, as `__post_init__` lets it be built. -/
structure PromotionReadinessPolicy where
  policyId : String
  candidateProvider : String
  minUniqueRuns : ℤ := 20
  minCandidateScoredRuns : ℤ := 12
  minDimensionCoverage : ℚ := 1 / 2
  minShadowAvailabilityRate : ℚ := 4 / 5
  maxCandidateMeanBrier : ℚ := 1 / 5
  maxRegressionVsPairedBaseline : ℚ := 1 / 50
  policyId_text : strip policyId ≠ ""
  candidateProvider_text : strip candidateProvider ≠ ""
  minUniqueRuns_pos : 1 ≤ minUniqueRuns
  minCandidateScoredRuns_pos : 1 ≤ minCandidateScoredRuns
  minDimensionCoverage_rate : 0 ≤ minDimensionCoverage ∧ minDimensionCoverage ≤ 1
  minShadowAvailabilityRate_rate :
    0 ≤ minShadowAvailabilityRate ∧ minShadowAvailabilityRate ≤ 1
  maxCandidateMeanBrier_nonneg : 0 ≤ maxCandidateMeanBrier

/-- `to_dict` of a policy. -/
def PromotionReadinessPolicy.toDict (rt : AggregationRuntime) (policy : PromotionReadinessPolicy) :
    Json :=
  .obj [("policy_id", .str policy.policyId), ("candidate_provider", .str policy.candidateProvider),
    ("min_unique_runs", .int policy.minUniqueRuns),
    ("min_candidate_scored_runs", .int policy.minCandidateScoredRuns),
    ("min_dimension_coverage", .float (rt.print policy.minDimensionCoverage)),
    ("min_shadow_availability_rate", .float (rt.print policy.minShadowAvailabilityRate)),
    ("max_candidate_mean_brier", .float (rt.print policy.maxCandidateMeanBrier)),
    ("max_regression_vs_paired_baseline", .float (rt.print policy.maxRegressionVsPairedBaseline))]

def PromotionReadinessPolicy.policySha256 (rt : AggregationRuntime)
    (policy : PromotionReadinessPolicy) : String := rt.sha256 (policy.toDict rt)

def defaultJevReadinessPolicy : PromotionReadinessPolicy where
  policyId := "phios.reflex.jev.shadow-readiness.v0.4"
  candidateProvider := "jev"
  policyId_text := by decide +kernel
  candidateProvider_text := by decide +kernel
  minUniqueRuns_pos := by decide
  minCandidateScoredRuns_pos := by decide
  minDimensionCoverage_rate := by norm_num
  minShadowAvailabilityRate_rate := by norm_num
  maxCandidateMeanBrier_nonneg := by norm_num

/-! ## Providers -/

/-- One of `DIMENSIONS`. -/
inductive Dimension
  | role
  | risk
  | system2
  | verification
  deriving DecidableEq

/-- The name of a dimension. -/
def Dimension.name : Dimension → String
  | .role => "role"
  | .risk => "risk"
  | .system2 => "system2"
  | .verification => "verification"

def dimensions : List Dimension := [.role, .risk, .system2, .verification]

structure ProviderAggregate where
  provider : String
  models : List String
  availableRuns : ℕ
  scoredRuns : ℕ
  scoredDimensionObservations : ℕ
  dimensionCounts : List (String × ℕ)
  dimensionMeanBrier : List (String × Option ℚ)
  dimensionCoverage : ℚ
  meanBrier : Option ℚ

section

variable (rt : AggregationRuntime)

/-- A mean as JSON, or null. -/
def optNumber : Option ℚ → Json
  | none => .null
  | some q => .float (rt.print q)

/-- `to_dict` of an aggregate. -/
def ProviderAggregate.toDict (aggregate : ProviderAggregate) : Json :=
  .obj [("provider", .str aggregate.provider), ("models", .strs aggregate.models),
    ("available_runs", .int aggregate.availableRuns), ("scored_runs", .int aggregate.scoredRuns),
    ("scored_dimension_observations", .int aggregate.scoredDimensionObservations),
    ("dimension_counts", .obj (aggregate.dimensionCounts.map fun e => (e.1, .int e.2))),
    ("dimension_mean_brier", .obj (aggregate.dimensionMeanBrier.map fun e => (e.1, optNumber rt e.2))),
    ("dimension_coverage", .float (rt.print aggregate.dimensionCoverage)),
    ("mean_brier", optNumber rt aggregate.meanBrier)]

/-- The score of one dimension of a row. -/
def scoredDimension (row : Row) (dimension : Dimension) : Except PyError (Option ℚ) :=
  let scored := get row (dimension.name ++ "_scored")
  let brier := get row (dimension.name ++ "_brier")
  if isBool true scored then some <$> requireBrier rt brier (dimension.name ++ "_brier")
  else do
    raiseIf (isBool false scored = false) (err (dimension.name ++ "_scored must be boolean"))
    raiseIf (isNone brier = false) (err (dimension.name ++ "_brier must be null when unscored"))
    return none

/-- Whether a declared number of scored dimensions is the number that there are. -/
def declares (count : ℕ) : Json → Bool
  | .int n => n == count
  | _ => false

/-- The scores of a row, in the order of the dimensions. -/
def scoredRow (row : Row) : Except PyError (List (Dimension × ℚ)) := do
  let scores ← dimensions.mapM fun dimension => do
    let score ← scoredDimension rt row dimension
    return score.map fun value => (dimension, value)
  raiseIf (declares scores.reduceOption.length (get row "scored_dimensions") = false)
    (err "provider scored_dimensions does not match dimension flags")
  return scores.reduceOption

/-- The provider of a row. -/
def providerOf (row : Row) : String := strip (textOf rt row "provider")

/-- The model of a row. -/
def modelOf (row : Row) : String := strip (textOf rt row "model")

/-- The aggregate of rows that share a provider, from their scores. -/
def summary (provider : String) (models : List String) (scores : List (List (Dimension × ℚ))) :
    ProviderAggregate :=
  let values := fun dimension => (scores.flatten.filter (·.1 = dimension)).map (·.2)
  let total := scores.flatten.map (·.2)
  { provider, models, availableRuns := scores.length
    scoredRuns := scores.countP (· ≠ [])
    scoredDimensionObservations := total.length
    dimensionCounts := dimensions.map fun dimension => (dimension.name, (values dimension).length)
    dimensionMeanBrier := dimensions.map fun dimension => (dimension.name, mean (values dimension))
    dimensionCoverage := round9 (total.length / (scores.length * dimensions.length : ℕ))
    meanBrier := mean total }

/-- The aggregate of no rows. -/
def noRows : ProviderAggregate where
  provider := "none"
  models := []
  availableRuns := 0
  scoredRuns := 0
  scoredDimensionObservations := 0
  dimensionCounts := dimensions.map fun dimension => (dimension.name, 0)
  dimensionMeanBrier := dimensions.map fun dimension => (dimension.name, none)
  dimensionCoverage := 0
  meanBrier := none

def aggregateProviderRows (rows : List Row) : Except PyError ProviderAggregate :=
  match rows.map (providerOf rt) with
  | [] => .ok noRows
  | provider :: rest => do
      raiseIf ("" ∈ provider :: rest ∨ ∃ other ∈ rest, other ≠ provider)
        (err "provider aggregate rows must share one provider identity")
      let models := sortedSet (rows.map (modelOf rt))
      raiseIf ("" ∈ models) (err "provider model must be non-empty")
      let scores ← rows.mapM (scoredRow rt)
      return summary provider models scores

/-! ## Calibration receipts -/

def requireSha256 (value label : String) : Except PyError Unit :=
  validateSha256 (.exception "ReflexAggregationContractError") value label

/-- `run_id` of a receipt, as a text. -/
def runIdOf (payload : Row) : String := textOf rt payload "run_id"

/-- `receipt_sha256` of a receipt, as a text. -/
def receiptShaOf (payload : Row) : String := textOf rt payload "receipt_sha256"

/-- Whether the shadow of a run has a status. -/
def shadowIs (status : String) (payload : Row) : Bool := isText status (get payload "shadow_status")

/-- `expected`: the payload without its hash. -/
def unsigned (payload : Row) : Row := payload.filter (·.1 ≠ "receipt_sha256")

/-- The checks of `_validate_receipt` on the shadow of a run. -/
def validateShadow (payload : Row) : Except PyError Unit := do
  let known ← isOneOf ["ok", "unavailable", "error"] (get payload "shadow_status")
  raiseIf (known = false) (err "invalid shadow_status")
  raiseIf (shadowIs "ok" payload = true ∧ asDict (get payload "shadow") = none)
    (err "ok shadow status requires shadow calibration")
  raiseIf (shadowIs "ok" payload = false ∧ isNone (get payload "shadow") = false)
    (err "non-ok shadow status cannot carry shadow calibration")

/-- The checks of `_validate_receipt` on the rows of a run. -/
def validateRows (payload : Row) : Except PyError Unit := do
  let _ ← aggregateProviderRows rt [(asDict (get payload "baseline")).getD []]
  match asDict (get payload "shadow") with
  | none => return ()
  | some shadow => do
      let _ ← aggregateProviderRows rt [shadow]

def validateReceipt (payload : Row) : Except PyError Unit := do
  raiseIf (isText "phios.reflex_calibration_receipt.v0.3" (get payload "schema") = false)
    (err "unsupported calibration receipt schema")
  let known ← isOneOf ["scored", "unscored_no_observed_labels"] (get payload "status")
  raiseIf (known = false) (err "unsupported calibration receipt status")
  raiseIf (isBool false (get payload "action_authority") = false)
    (err "calibration receipt cannot carry action authority")
  raiseIf (isBool false (get payload "execution_authority") = false)
    (err "calibration receipt cannot carry execution authority")
  raiseIf (strip (runIdOf rt payload) = "") (err "run_id must be non-empty")
  ["dispatch_shadow_receipt_sha256", "operational_context_sha256", "operational_plan_sha256",
    "receipt_sha256"].forM fun label => requireSha256 (textOf rt payload label) label
  validateShadow payload
  raiseIf (asDict (get payload "baseline") = none) (err "baseline must be an object")
  raiseIf (asDict (get payload "observation") = none) (err "observation must be an object")
  raiseIf (isBool (shadowIs "ok" payload) (get payload "compared_providers") = false)
    (err "compared_providers does not match shadow status")
  raiseIf (rt.sha256 (.obj (unsigned payload)) ≠ receiptShaOf rt payload)
    (err "calibration receipt hash does not match contents")
  validateRows rt payload

/-! ## Runs -/

/-- What the loop over the receipts keeps: the receipts of each run under their hashes, and how many
copies were ignored. -/
structure Seen where
  byRun : List (String × List (String × Row)) := []
  exactDuplicates : ℕ := 0

/-- The receipts of a run. -/
def Seen.receiptsOf (seen : Seen) (runId : String) : List (String × Row) :=
  (seen.byRun.lookup runId).getD []

/-- One receipt of the loop. -/
def addReceipt (seen : Seen) (payload : Row) : Seen :=
  if receiptShaOf rt payload ∈ (seen.receiptsOf (runIdOf rt payload)).map (·.1) then
    { seen with exactDuplicates := seen.exactDuplicates + 1 }
  else
    { seen with byRun := UnionFind.gather (runIdOf rt payload) (receiptShaOf rt payload, payload)
                  seen.byRun }

/-- The receipts by run. -/
def seenOf (payloads : List Row) : Seen := payloads.foldl (addReceipt rt) {}

def ambiguousRuns (seen : Seen) : List String :=
  ((seen.byRun.filter fun run => 1 < run.2.length).map (·.1)).insertionSort (· ≤ ·)

/-- `included`. -/
def includedRuns (seen : Seen) : List Row :=
  ((seen.byRun.insertionSort (·.1 ≤ ·.1)).filter fun run => run.1 ∉ ambiguousRuns seen).filterMap
    fun run => run.2.head?.map (·.2)

/-! ## Readiness -/

/-- The thresholds of a policy, and whether each is passed. -/
structure Thresholds where
  minimumUniqueRuns : Bool
  noAmbiguousRunLoss : Bool
  minimumCandidateScoredRuns : Bool
  minimumDimensionCoverage : Bool
  minimumShadowAvailabilityRate : Bool
  maximumCandidateMeanBrier : Bool
  maximumRegressionVsPairedBaseline : Bool

/-- The thresholds under their names, in order. -/
def Thresholds.items (passed : Thresholds) : List (String × Bool) :=
  [("maximum_candidate_mean_brier", passed.maximumCandidateMeanBrier),
    ("maximum_regression_vs_paired_baseline", passed.maximumRegressionVsPairedBaseline),
    ("minimum_candidate_scored_runs", passed.minimumCandidateScoredRuns),
    ("minimum_dimension_coverage", passed.minimumDimensionCoverage),
    ("minimum_shadow_availability_rate", passed.minimumShadowAvailabilityRate),
    ("minimum_unique_runs", passed.minimumUniqueRuns),
    ("no_ambiguous_run_loss", passed.noAmbiguousRunLoss)]

def thresholds (policy : PromotionReadinessPolicy) (uniqueRunsSeen includedRuns : ℕ)
    (shadowAvailabilityRate : ℚ) (candidate : Option ProviderAggregate) (delta : Option ℚ) :
    Thresholds :=
  let candidateScoredRuns : ℕ := (candidate.map (·.scoredRuns)).getD 0
  let coverage := (candidate.map (·.dimensionCoverage)).getD 0
  let meanBrier := candidate.bind (·.meanBrier)
  { minimumUniqueRuns := policy.minUniqueRuns ≤ uniqueRunsSeen
    noAmbiguousRunLoss := includedRuns = uniqueRunsSeen
    minimumCandidateScoredRuns := policy.minCandidateScoredRuns ≤ candidateScoredRuns
    minimumDimensionCoverage := policy.minDimensionCoverage ≤ coverage
    minimumShadowAvailabilityRate := policy.minShadowAvailabilityRate ≤ shadowAvailabilityRate
    maximumCandidateMeanBrier := ∃ value ∈ meanBrier, value ≤ policy.maxCandidateMeanBrier
    maximumRegressionVsPairedBaseline :=
      ∃ value ∈ delta, value ≤ policy.maxRegressionVsPairedBaseline }

def readinessStatus (passed : Thresholds) (candidate : Option ProviderAggregate) : String × String :=
  if candidate.isNone ∨ ¬ (passed.minimumUniqueRuns ∧ passed.noAmbiguousRunLoss ∧
      passed.minimumCandidateScoredRuns ∧ passed.minimumDimensionCoverage ∧
      passed.minimumShadowAvailabilityRate) then
    ("INSUFFICIENT_EVIDENCE", "evidence_thresholds_not_met")
  else if ¬ (passed.maximumCandidateMeanBrier ∧ passed.maximumRegressionVsPairedBaseline) then
    ("NOT_REVIEW_ELIGIBLE", "quality_thresholds_not_met")
  else ("REVIEW_ELIGIBLE", "all_advisory_review_thresholds_met")

/-- `PromotionReadinessReceipt`, without the schema and the four authority flags, which have one value
each. -/
structure PromotionReadinessReceipt where
  status : String
  reason : String
  policyId : String
  policySha256 : String
  candidateProvider : String
  uniqueRunsSeen : ℕ
  includedRuns : ℕ
  ambiguousRuns : List String
  exactDuplicatesIgnored : ℕ
  shadowOkRuns : ℕ
  shadowUnavailableRuns : ℕ
  shadowErrorRuns : ℕ
  shadowAvailabilityRate : ℚ
  baseline : ProviderAggregate
  candidate : Option ProviderAggregate
  pairedBaseline : Option ProviderAggregate
  candidateVsPairedBaselineDelta : Option ℚ
  sourceReceiptSha256s : List String
  thresholdsPassed : List (String × Bool)
  receiptSha256 : String

/-- An aggregate as JSON, or null. -/
def optAggregate : Option ProviderAggregate → Json
  | none => .null
  | some aggregate => aggregate.toDict rt

/-- `payload`: the receipt without its own hash. -/
def PromotionReadinessReceipt.payload (receipt : PromotionReadinessReceipt) : Json :=
  .obj [("schema", .str "phios.reflex_promotion_readiness_receipt.v0.4"),
    ("status", .str receipt.status), ("reason", .str receipt.reason),
    ("policy_id", .str receipt.policyId), ("policy_sha256", .str receipt.policySha256),
    ("candidate_provider", .str receipt.candidateProvider),
    ("unique_runs_seen", .int receipt.uniqueRunsSeen), ("included_runs", .int receipt.includedRuns),
    ("ambiguous_runs", .strs receipt.ambiguousRuns),
    ("exact_duplicates_ignored", .int receipt.exactDuplicatesIgnored),
    ("shadow_ok_runs", .int receipt.shadowOkRuns),
    ("shadow_unavailable_runs", .int receipt.shadowUnavailableRuns),
    ("shadow_error_runs", .int receipt.shadowErrorRuns),
    ("shadow_availability_rate", .float (rt.print receipt.shadowAvailabilityRate)),
    ("baseline", receipt.baseline.toDict rt), ("candidate", optAggregate rt receipt.candidate),
    ("paired_baseline", optAggregate rt receipt.pairedBaseline),
    ("candidate_vs_paired_baseline_delta", optNumber rt receipt.candidateVsPairedBaselineDelta),
    ("source_receipt_sha256s", .strs receipt.sourceReceiptSha256s),
    ("thresholds_passed", .obj (receipt.thresholdsPassed.map fun e => (e.1, .bool e.2))),
    ("routing_influence_authority", .bool false), ("promotion_authority", .bool false),
    ("action_authority", .bool false), ("execution_authority", .bool false)]

/-- The receipt with the hash of its payload. -/
def PromotionReadinessReceipt.sealed (receipt : PromotionReadinessReceipt) :
    PromotionReadinessReceipt :=
  { receipt with receiptSha256 := rt.sha256 (receipt.payload rt) }

/-- `dict(item["baseline"])`. -/
def baselineOf (payload : Row) : Row := (asDict (get payload "baseline")).getD []

/-- The shadow of a run, if there is one of the candidate. -/
def candidateRow (policy : PromotionReadinessPolicy) (payload : Row) : Option Row :=
  match asDict (get payload "shadow") with
  | none => none
  | some shadow =>
      if textOf rt shadow "provider" ≠ policy.candidateProvider then none else some shadow

/-- The aggregate of some rows, if there are any. -/
def aggregateIfAny (rows : List Row) : Except PyError (Option ProviderAggregate) :=
  if rows = [] then .ok none else some <$> aggregateProviderRows rt rows

/-- `delta`. -/
def deltaOf (candidate pairedBaseline : Option ProviderAggregate) : Option ℚ := do
  let mean ← candidate.bind (·.meanBrier)
  let baselineMean ← pairedBaseline.bind (·.meanBrier)
  return round9 (mean - baselineMean)

/-- The part of `aggregate_calibration_receipts` after the runs have been told apart. -/
def readiness (policy : PromotionReadinessPolicy) (uniqueRunsSeen : ℕ) (ambiguous : List String)
    (exactDuplicates : ℕ) (included : List Row) : Except PyError PromotionReadinessReceipt := do
  let baseline ← aggregateProviderRows rt (included.map baselineOf)
  let shadowOk := included.countP (shadowIs "ok")
  let availabilityRate := if included = [] then 0 else round9 (shadowOk / included.length)
  let paired := included.filter fun payload => (candidateRow rt policy payload).isSome
  let candidate ← aggregateIfAny rt (paired.filterMap (candidateRow rt policy))
  let pairedBaseline ← aggregateIfAny rt (paired.map baselineOf)
  let delta := deltaOf candidate pairedBaseline
  let passed := thresholds policy uniqueRunsSeen included.length availabilityRate candidate delta
  let status := readinessStatus passed candidate
  return PromotionReadinessReceipt.sealed rt {
    status := status.1, reason := status.2, policyId := policy.policyId
    policySha256 := policy.policySha256 rt, candidateProvider := policy.candidateProvider
    uniqueRunsSeen, includedRuns := included.length, ambiguousRuns := ambiguous
    exactDuplicatesIgnored := exactDuplicates, shadowOkRuns := shadowOk
    shadowUnavailableRuns := included.countP (shadowIs "unavailable")
    shadowErrorRuns := included.countP (shadowIs "error"), shadowAvailabilityRate := availabilityRate
    baseline, candidate, pairedBaseline, candidateVsPairedBaselineDelta := delta
    sourceReceiptSha256s := (included.map (receiptShaOf rt)).insertionSort (· ≤ ·)
    thresholdsPassed := passed.items, receiptSha256 := "" }

def aggregateCalibrationReceipts (policy : PromotionReadinessPolicy) (receipts : List Row) :
    Except PyError PromotionReadinessReceipt := do
  receipts.forM (validateReceipt rt)
  let seen := seenOf rt receipts
  readiness rt policy seen.byRun.length (ambiguousRuns seen) seen.exactDuplicates (includedRuns seen)

end

end Aggregation

end PhiOS
