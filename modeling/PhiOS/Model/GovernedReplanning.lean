import PhiOS.Model.FieldAwareRouting

/-!
# Governed replanning

`core/governed_replanning.py`: an incumbent path and the route that is found now are compared at one
field state, and the incumbent is kept unless the route is cheaper by more than a threshold.
-/

set_option autoImplicit false

namespace PhiOS

/-- `GovernedReplanningContractError(message)`. -/
def replanningErr (message : String) : PyError := ⟨.governedReplanningContractError, message, []⟩

structure ReplanPolicy where
  policyId : String
  minimumCostImprovement : PyReal
  deriving DecidableEq

/-- `policy_sha256`: the threshold is checked before it is digested. -/
def ReplanPolicy.policySha256 (rt : FieldRuntime) (policy : ReplanPolicy) : String :=
  rt.sha256 (.obj [("schema", .str "phios.replan_policy.v0.5"), ("policy_id", .str policy.policyId),
    ("minimum_cost_improvement", rt.float policy.minimumCostImprovement.value)])

/-- `_validate_policy`. -/
def validateReplanPolicy (policy : ReplanPolicy) : Except PyError ReplanPolicy := do
  let policyId := strip policy.policyId
  raiseIf (policyId = "") (replanningErr "replan policy_id must be non-empty")
  let threshold ← requireNonnegativeFinite .governedReplanningContractError
    policy.minimumCostImprovement "minimum_cost_improvement"
  return ⟨policyId, .number threshold⟩

structure GovernedReplanReceipt where
  schema : String := "phios.governed_replan_receipt.v0.5"
  decision : String
  reason : String
  policyId : String
  policySha256 : String
  minimumCostImprovement : ℚ
  previousRouteReceiptSha256 : String
  previousFieldStateSha256 : String
  currentFieldStateSha256 : String
  currentFieldRevision : ℤ
  incumbentAssessmentSha256 : String
  incumbentPathIds : List String
  incumbentStatus : String
  incumbentCurrentCost : Option ℚ
  candidateRouteReceiptSha256 : String
  candidatePathIds : List String
  candidateStatus : String
  candidateCurrentCost : Option ℚ
  routeChanged : Bool
  costImprovement : Option ℚ
  comparisonScope : String := "incumbent_and_candidate_evaluated_at_exact_current_field_snapshot"
  actionAuthority : Bool := false
  receiptSha256 : String := ""
  deriving DecidableEq

/-- The payload that is digested. -/
def GovernedReplanReceipt.payload (rt : FieldRuntime) (receipt : GovernedReplanReceipt) : Row :=
  [("schema", .str receipt.schema), ("decision", .str receipt.decision),
    ("reason", .str receipt.reason), ("policy_id", .str receipt.policyId),
    ("policy_sha256", .str receipt.policySha256),
    ("minimum_cost_improvement", rt.float receipt.minimumCostImprovement),
    ("previous_route_receipt_sha256", .str receipt.previousRouteReceiptSha256),
    ("previous_field_state_sha256", .str receipt.previousFieldStateSha256),
    ("current_field_state_sha256", .str receipt.currentFieldStateSha256),
    ("current_field_revision", .int receipt.currentFieldRevision),
    ("incumbent_assessment_sha256", .str receipt.incumbentAssessmentSha256),
    ("incumbent_path_ids", .strs receipt.incumbentPathIds),
    ("incumbent_status", .str receipt.incumbentStatus),
    ("incumbent_current_cost", rt.optFloat receipt.incumbentCurrentCost),
    ("candidate_route_receipt_sha256", .str receipt.candidateRouteReceiptSha256),
    ("candidate_path_ids", .strs receipt.candidatePathIds),
    ("candidate_status", .str receipt.candidateStatus),
    ("candidate_current_cost", rt.optFloat receipt.candidateCurrentCost),
    ("route_changed", .bool receipt.routeChanged),
    ("cost_improvement", rt.optFloat receipt.costImprovement),
    ("comparison_scope", .str receipt.comparisonScope),
    ("action_authority", .bool receipt.actionAuthority)]

/-- `_route_receipt_digest`: the receipt's own payload, as it is now. -/
def routeReceiptDigest (rt : FieldRuntime) (receipt : FieldAwareRouteReceipt) : String :=
  rt.sha256 (.obj (receipt.payload rt))

def validatePreviousRoute (rt : FieldRuntime) (receipt : FieldAwareRouteReceipt) :
    Except PyError Unit := do
  raiseIf (receipt.schema ≠ "phios.field_aware_route_receipt.v0.4")
    (replanningErr "unsupported previous route receipt schema")
  raiseIf (receipt.actionAuthority = true)
    (replanningErr "previous route receipt cannot carry action authority")
  raiseIf (receipt.status ≠ "found")
    (replanningErr "previous route receipt must contain a found incumbent route")
  raiseIf (receipt.pathIds = []) (replanningErr "previous route receipt must contain path IDs")
  raiseIf (routeReceiptDigest rt receipt ≠ receipt.receiptSha256)
    (replanningErr "previous route receipt hash does not match receipt contents")

/-- `GovernedReplanner`: its router and its policy, which has been checked. -/
structure GovernedReplanner (rt : DynamicRuntime) (σ : Type) where
  router : FieldAwareRouter rt σ
  policy : ReplanPolicy
  valid : ∃ raw, validateReplanPolicy raw = .ok policy

namespace GovernedReplanner

variable {rt : DynamicRuntime} {σ : Type} (replanner : GovernedReplanner rt σ)

/-- The state that a receipt speaks of. -/
def currentState (rt : FieldRuntime) : FieldInput → Except PyError DynamicFieldState
  | .evaluation evaluation => evaluation.requireConsumableState rt
  | .state state => .ok state

/-- `_decide`: the decision, the reason and the improvement. -/
def decide (incumbent : FieldAwarePathAssessmentReceipt) (candidate : FieldAwareRouteReceipt) :
    String × String × Option ℚ :=
  if candidate.status ≠ "found" then ("UNRESOLVED", "candidate_route_unresolved", none)
  else
    match candidate.totalCost with
    | none => ("UNRESOLVED", "candidate_route_unresolved", none)
    | some candidateCost =>
        if incumbent.status = "blocked" then ("REPLAN", "incumbent_path_blocked", none)
        else
          match incumbent.totalCost with
          | none => ("REPLAN", "incumbent_path_blocked", none)
          | some incumbentCost =>
              let improvement := incumbentCost - candidateCost
              if candidate.pathIds = incumbent.pathIds then
                ("KEEP", "same_route_remains_preferred", some improvement)
              else if replanner.policy.minimumCostImprovement.value < improvement then
                ("REPLAN", "cost_improvement_exceeds_hysteresis", some improvement)
              else ("KEEP", "hysteresis_threshold_not_exceeded", some improvement)

def buildReceipt (decision : String × String × Option ℚ) (previousRoute : FieldAwareRouteReceipt)
    (currentFieldState : DynamicFieldState) (incumbent : FieldAwarePathAssessmentReceipt)
    (candidate : FieldAwareRouteReceipt) : GovernedReplanReceipt :=
  let receipt : GovernedReplanReceipt := {
    decision := decision.1, reason := decision.2.1, policyId := replanner.policy.policyId
    policySha256 := replanner.policy.policySha256 rt.toFieldRuntime
    minimumCostImprovement := replanner.policy.minimumCostImprovement.value
    previousRouteReceiptSha256 := previousRoute.receiptSha256
    previousFieldStateSha256 := previousRoute.fieldStateSha256
    currentFieldStateSha256 := currentFieldState.stateSha256
    currentFieldRevision := currentFieldState.revision
    incumbentAssessmentSha256 := incumbent.receiptSha256, incumbentPathIds := incumbent.pathIds
    incumbentStatus := incumbent.status, incumbentCurrentCost := incumbent.totalCost
    candidateRouteReceiptSha256 := candidate.receiptSha256, candidatePathIds := candidate.pathIds
    candidateStatus := candidate.status, candidateCurrentCost := candidate.totalCost
    routeChanged := candidate.pathIds ≠ incumbent.pathIds, costImprovement := decision.2.2 }
  { receipt with receiptSha256 := rt.sha256 (.obj (receipt.payload rt.toFieldRuntime)) }

def assess [DecidableEq σ] (previousRoute : FieldAwareRouteReceipt) (currentFieldState : FieldInput)
    (incumbentPath starts : List σ) (expand : σ → Except PyError (List σ))
    (goal : σ → Except PyError Bool) (baseCost : PyReal) (maxStates : ℤ) :
    Except PyError GovernedReplanReceipt := do
  validatePreviousRoute rt.toFieldRuntime previousRoute
  let resolvedState ← currentState rt.toFieldRuntime currentFieldState
  let incumbent ← replanner.router.assessPath currentFieldState incumbentPath baseCost
  raiseIf (incumbent.pathIds ≠ previousRoute.pathIds)
    (replanningErr "incumbent path does not match previous route receipt")
  raiseIf (resolvedState.lawSha256 ≠ previousRoute.fieldLawSha256)
    (replanningErr "current field law differs from previous route law")
  raiseIf (resolvedState.revision < previousRoute.fieldRevision)
    (replanningErr "current field revision cannot precede previous route revision")
  let candidate ← replanner.router.route currentFieldState starts expand goal baseCost maxStates
  return replanner.buildReceipt (replanner.decide incumbent candidate) previousRoute resolvedState
    incumbent candidate

end GovernedReplanner

end PhiOS
