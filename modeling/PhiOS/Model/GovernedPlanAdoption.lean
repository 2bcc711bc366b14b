import PhiOS.Model.ExecutionHandoff
import PhiOS.Model.GovernedReplanning

/-!
# Governed plan adoption

`core/governed_plan_adoption.py`: a replan receipt becomes the next plan state where an external
grant names exactly the plan state, the receipt and the disposition. The checks of a plan state are
those of `ExecutionHandoff`.
-/

set_option autoImplicit false

namespace PhiOS

/-- `PlanAdoptionContractError(message)`. -/
def adoptionErr (message : String) : PyError := ⟨.planAdoptionContractError, message, []⟩

structure PlanAdoptionGrant where
  grantId : String
  authoritySource : String
  planId : String
  currentPlanSha256 : String
  replanReceiptSha256 : String
  disposition : String
  deriving DecidableEq

def PlanAdoptionGrant.grantSha256 (rt : FieldRuntime) (grant : PlanAdoptionGrant) : String :=
  rt.sha256 (.obj [("schema", .str "phios.plan_adoption_grant.v0.6"),
    ("grant_id", .str grant.grantId), ("authority_source", .str grant.authoritySource),
    ("plan_id", .str grant.planId), ("current_plan_sha256", .str grant.currentPlanSha256),
    ("replan_receipt_sha256", .str grant.replanReceiptSha256),
    ("disposition", .str grant.disposition)])

/-- A disposition that `_normalize_disposition` accepts. -/
inductive Disposition
  | adopt
  | reject
  | hold
  deriving DecidableEq

/-- The disposition as a text. -/
def Disposition.text : Disposition → String
  | .adopt => "ADOPT"
  | .reject => "REJECT"
  | .hold => "HOLD"

/-- `_normalize_disposition`: no other character than a letter of ASCII has one of these letters in
upper case. -/
def GovernedPlanAdoptionGate.normalizeDisposition (value : String) : Except PyError Disposition :=
  let normalized := String.ofList ((stripChars value.toList).map Char.toUpper)
  if normalized = "ADOPT" then .ok .adopt
  else if normalized = "REJECT" then .ok .reject
  else if normalized = "HOLD" then .ok .hold
  else .error (adoptionErr "disposition must be ADOPT, REJECT, or HOLD")

structure PlanAdoptionReceipt where
  schema : String := "phios.plan_adoption_receipt.v0.6"
  status : String
  reason : String
  requestedDisposition : String
  planId : String
  priorPlanSha256 : String
  nextPlanSha256 : String
  priorRevision : ℤ
  nextRevision : ℤ
  replanReceiptSha256 : String
  replanDecision : String
  candidateRouteReceiptSha256 : String
  candidatePathIds : List String
  grantId : Option String
  grantSha256 : Option String
  authoritySource : Option String
  grantScopeValid : Bool
  planChanged : Bool
  actionAuthority : Bool := false
  executionAuthority : Bool := false
  receiptSha256 : String := ""
  deriving DecidableEq

/-- The payload that is digested. -/
def PlanAdoptionReceipt.payload (receipt : PlanAdoptionReceipt) : Row :=
  [("schema", .str receipt.schema), ("status", .str receipt.status), ("reason", .str receipt.reason),
    ("requested_disposition", .str receipt.requestedDisposition), ("plan_id", .str receipt.planId),
    ("prior_plan_sha256", .str receipt.priorPlanSha256),
    ("next_plan_sha256", .str receipt.nextPlanSha256),
    ("prior_revision", .int receipt.priorRevision), ("next_revision", .int receipt.nextRevision),
    ("replan_receipt_sha256", .str receipt.replanReceiptSha256),
    ("replan_decision", .str receipt.replanDecision),
    ("candidate_route_receipt_sha256", .str receipt.candidateRouteReceiptSha256),
    ("candidate_path_ids", .strs receipt.candidatePathIds), ("grant_id", .optStr receipt.grantId),
    ("grant_sha256", .optStr receipt.grantSha256),
    ("authority_source", .optStr receipt.authoritySource),
    ("grant_scope_valid", .bool receipt.grantScopeValid),
    ("plan_changed", .bool receipt.planChanged), ("action_authority", .bool false),
    ("execution_authority", .bool false)]

namespace GovernedPlanAdoptionGate

variable (rt : FieldRuntime)

/-- The digest, which does not fail on these payloads. -/
def digest (payload : Json) : Except PyError String := .ok (rt.sha256 payload)

/-- `_validate_plan_state`. -/
def validatePlan (plan : PlanState) : Except PyError Unit := validatePlanState (digest rt) plan

/-- The payload of `_plan_state_digest`. -/
def planPayload (planId : String) (revision : ℤ) (pathIds : List String)
    (sourceRouteReceiptSha256 : String) (sourceReplanReceiptSha256 parentPlanSha256 : Option String) :
    Row :=
  [("schema", .str "phios.plan_state.v0.6"), ("plan_id", .str planId), ("revision", .int revision),
    ("path_ids", .strs pathIds), ("source_route_receipt_sha256", .str sourceRouteReceiptSha256),
    ("source_replan_receipt_sha256", .optStr sourceReplanReceiptSha256),
    ("parent_plan_sha256", .optStr parentPlanSha256), ("action_authority", .bool false),
    ("execution_authority", .bool false)]

def buildPlanState (planId : String) (revision : ℤ) (pathIds : List String)
    (sourceRouteReceiptSha256 : String) (sourceReplanReceiptSha256 parentPlanSha256 : Option String) :
    PlanState where
  schema := "phios.plan_state.v0.6"
  planId := planId
  revision := revision
  pathIds := pathIds
  sourceRouteReceiptSha256 := sourceRouteReceiptSha256
  sourceReplanReceiptSha256 := sourceReplanReceiptSha256
  parentPlanSha256 := parentPlanSha256
  actionAuthority := false
  executionAuthority := false
  stateSha256 := rt.sha256 (.obj (planPayload planId revision pathIds sourceRouteReceiptSha256
    sourceReplanReceiptSha256 parentPlanSha256))

def validateRouteReceipt (receipt : FieldAwareRouteReceipt) : Except PyError Unit := do
  raiseIf (receipt.schema ≠ "phios.field_aware_route_receipt.v0.4")
    (adoptionErr "unsupported route receipt schema")
  raiseIf (receipt.actionAuthority = true) (adoptionErr "route receipt cannot carry action authority")
  raiseIf (routeReceiptDigest rt receipt ≠ receipt.receiptSha256)
    (adoptionErr "route receipt hash does not match receipt contents")

def validateReplanReceipt (receipt : GovernedReplanReceipt) : Except PyError Unit := do
  raiseIf (receipt.schema ≠ "phios.governed_replan_receipt.v0.5")
    (adoptionErr "unsupported replan receipt schema")
  raiseIf (receipt.actionAuthority = true) (adoptionErr "replan receipt cannot carry action authority")
  raiseIf (rt.sha256 (.obj (receipt.payload rt)) ≠ receipt.receiptSha256)
    (adoptionErr "replan receipt hash does not match receipt contents")

def initializePlan (planId : String) (routeReceipt : FieldAwareRouteReceipt) :
    Except PyError PlanState := do
  raiseIf (strip planId = "") (adoptionErr "plan_id must be non-empty")
  validateRouteReceipt rt routeReceipt
  raiseIf (routeReceipt.status ≠ "found" ∨ routeReceipt.pathIds = [])
    (adoptionErr "initial plan requires a found route with path IDs")
  return buildPlanState rt (strip planId) 0 routeReceipt.pathIds routeReceipt.receiptSha256 none none

/-- `_grant_scope`: nothing where the grant fits, else the reason why it does not. -/
def grantScope (currentPlan : PlanState) (replanReceipt : GovernedReplanReceipt)
    (disposition : Disposition) (grant : Option PlanAdoptionGrant) :
    Except PyError (Option String) := do
  match grant with
  | none => return some "adoption_authority_missing"
  | some grant => do
      let grantDisposition ← normalizeDisposition grant.disposition
      raiseIf (strip grant.grantId = "") (adoptionErr "grant_id must be non-empty")
      raiseIf (strip grant.authoritySource = "")
        (adoptionErr "grant authority_source must be non-empty")
      raiseIf (strip grant.planId = "") (adoptionErr "grant plan_id must be non-empty")
      if strip grant.planId ≠ currentPlan.planId then return some "grant_plan_scope_mismatch"
      else if grant.currentPlanSha256 ≠ currentPlan.stateSha256 then
        return some "grant_plan_state_scope_mismatch"
      else if grant.replanReceiptSha256 ≠ replanReceipt.receiptSha256 then
        return some "grant_replan_scope_mismatch"
      else if grantDisposition ≠ disposition then return some "grant_disposition_scope_mismatch"
      else return none

def buildReceipt (status reason : String) (disposition : Disposition)
    (currentPlan nextPlan : PlanState) (replanReceipt : GovernedReplanReceipt)
    (grant : Option PlanAdoptionGrant) (grantScopeValid : Bool) : PlanAdoptionReceipt :=
  let receipt : PlanAdoptionReceipt := {
    status, reason, requestedDisposition := disposition.text, planId := currentPlan.planId
    priorPlanSha256 := currentPlan.stateSha256, nextPlanSha256 := nextPlan.stateSha256
    priorRevision := currentPlan.revision, nextRevision := nextPlan.revision
    replanReceiptSha256 := replanReceipt.receiptSha256, replanDecision := replanReceipt.decision
    candidateRouteReceiptSha256 := replanReceipt.candidateRouteReceiptSha256
    candidatePathIds := replanReceipt.candidatePathIds
    grantId := grant.map fun grant => strip grant.grantId
    grantSha256 := grant.map (·.grantSha256 rt)
    authoritySource := grant.map fun grant => strip grant.authoritySource
    grantScopeValid, planChanged := nextPlan.stateSha256 ≠ currentPlan.stateSha256 }
  { receipt with receiptSha256 := rt.sha256 (.obj receipt.payload) }

def unchangedReceipt (currentPlan : PlanState) (replanReceipt : GovernedReplanReceipt)
    (disposition : Disposition) (grant : Option PlanAdoptionGrant) (status reason : String)
    (grantScopeValid : Bool) : PlanState × PlanAdoptionReceipt :=
  (currentPlan, buildReceipt rt status reason disposition currentPlan currentPlan replanReceipt grant
    grantScopeValid)

def apply (currentPlan : PlanState) (replanReceipt : GovernedReplanReceipt)
    (requestedDisposition : String) (grant : Option PlanAdoptionGrant) :
    Except PyError (PlanState × PlanAdoptionReceipt) := do
  validatePlan rt currentPlan
  validateReplanReceipt rt replanReceipt
  let disposition ← normalizeDisposition requestedDisposition
  let unchanged := unchangedReceipt rt currentPlan replanReceipt disposition grant
  if replanReceipt.previousRouteReceiptSha256 ≠ currentPlan.sourceRouteReceiptSha256 then
    return unchanged "HELD" "stale_replan_receipt" false
  else if replanReceipt.decision ≠ "REPLAN" then
    return unchanged "HELD" "replan_decision_not_adoptable" false
  else
    raiseIf (replanReceipt.candidateStatus ≠ "found" ∨ replanReceipt.candidatePathIds = [])
      (adoptionErr "REPLAN receipt must contain a found candidate route")
    match ← grantScope currentPlan replanReceipt disposition grant with
    | some reason => return unchanged "HELD" reason false
    | none =>
        match disposition with
        | .hold => return unchanged "HELD" "authorized_hold" true
        | .reject => return unchanged "REJECTED" "authorized_rejection" true
        | .adopt =>
            let nextPlan := buildPlanState rt currentPlan.planId (currentPlan.revision + 1)
              replanReceipt.candidatePathIds replanReceipt.candidateRouteReceiptSha256
              (some replanReceipt.receiptSha256) (some currentPlan.stateSha256)
            return (nextPlan, buildReceipt rt "ADOPTED" "authorized_replan_adopted" disposition
              currentPlan nextPlan replanReceipt grant true)

end GovernedPlanAdoptionGate

end PhiOS
