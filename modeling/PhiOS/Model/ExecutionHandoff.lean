import PhiOS.Model.Ledger

/-!
# The governed execution handoff

`core/governed_execution_handoff.py`, with the checks of `core/governed_plan_adoption.py` and
`core/governed_action_binding.py` that it makes first. A handoff revalidates one action binding of
an adopted plan, claims it, and runs the spine with the binding's provenance. What a binding names
is compared with the plan, the payload, the registry and the effect boundary as they are now; what
does not fit is held.
-/

set_option autoImplicit false

namespace PhiOS

open Interaction RealityLedger

/-! ## Plans and bindings -/

structure PlanState where
  schema : String
  planId : String
  revision : ℤ
  pathIds : List String
  sourceRouteReceiptSha256 : String
  sourceReplanReceiptSha256 : Option String
  parentPlanSha256 : Option String
  actionAuthority : Bool
  executionAuthority : Bool
  stateSha256 : String
  deriving DecidableEq

structure PlanActionBinding where
  schema : String
  planId : String
  planStateSha256 : String
  planRevision : ℤ
  transitionIndex : ℤ
  sourceStateId : String
  targetStateId : String
  capabilityId : String
  capabilityVersion : String
  capabilityRisk : String
  permissionsRequested : List String
  effectsDeclared : List String
  payloadSha256 : String
  grantId : String
  grantSha256 : String
  authoritySource : String
  actionAuthority : Bool
  executionAuthority : Bool
  bindingSha256 : String
  deriving DecidableEq

section Digests

variable (sha256 : Json → Except PyError String)

/-- `_payload_digest`, which the modules share but for the error of `_canonical_json`: what
`json.dumps` refuses is a contract error, what `encode` refuses is not. -/
def payloadDigest (cls : ErrorClass) (subject : String) (payload : Json) :
    Except PyError String :=
  (sha256 payload).mapError fun e =>
    if e.cls = .typeError ∨ e.cls = .valueError then
      ⟨cls, subject ++ " payload must be canonical JSON", []⟩
    else e

/-- `_plan_state_digest` of a plan. -/
def planStateDigest (state : PlanState) : Except PyError String :=
  payloadDigest sha256 .planAdoptionContractError "plan adoption" <|
    .obj [("schema", .str "phios.plan_state.v0.6"), ("plan_id", .str state.planId),
      ("revision", .int state.revision), ("path_ids", .strs state.pathIds),
      ("source_route_receipt_sha256", .str state.sourceRouteReceiptSha256),
      ("source_replan_receipt_sha256", .optStr state.sourceReplanReceiptSha256),
      ("parent_plan_sha256", .optStr state.parentPlanSha256),
      ("action_authority", .bool false), ("execution_authority", .bool false)]

def validatePlanState (state : PlanState) : Except PyError Unit := do
  let err := fun message => (⟨.planAdoptionContractError, message, []⟩ : PyError)
  raiseIf (state.schema ≠ "phios.plan_state.v0.6") (err "unsupported plan state schema")
  raiseIf (strip state.planId = "") (err "plan state plan_id must be non-empty")
  raiseIf (state.revision < 0) (err "plan state revision must be non-negative")
  raiseIf (state.pathIds = [] ∨ ∃ item ∈ state.pathIds, strip item = "")
    (err "plan state must contain non-empty path IDs")
  raiseIf (state.actionAuthority = true) (err "plan state cannot carry action authority")
  raiseIf (state.executionAuthority = true) (err "plan state cannot carry execution authority")
  let expected ← planStateDigest sha256 state
  raiseIf (expected ≠ state.stateSha256) (err "plan state hash does not match state contents")

/-- The digest that `validate_binding` recomputes. -/
def bindingDigest (binding : PlanActionBinding) : Except PyError String :=
  payloadDigest sha256 .actionBindingContractError "action binding" <|
    .obj [("schema", .str binding.schema), ("plan_id", .str binding.planId),
      ("plan_state_sha256", .str binding.planStateSha256),
      ("plan_revision", .int binding.planRevision),
      ("transition_index", .int binding.transitionIndex),
      ("source_state_id", .str binding.sourceStateId),
      ("target_state_id", .str binding.targetStateId),
      ("capability_id", .str binding.capabilityId),
      ("capability_version", .str binding.capabilityVersion),
      ("capability_risk", .str binding.capabilityRisk),
      ("permissions_requested", .strs binding.permissionsRequested),
      ("effects_declared", .strs binding.effectsDeclared),
      ("payload_sha256", .str binding.payloadSha256), ("grant_id", .str binding.grantId),
      ("grant_sha256", .str binding.grantSha256),
      ("authority_source", .str binding.authoritySource),
      ("action_authority", .bool false), ("execution_authority", .bool false)]

def validateBinding (binding : PlanActionBinding) : Except PyError Unit := do
  let cls := ErrorClass.actionBindingContractError
  let err := fun message => (⟨cls, message, []⟩ : PyError)
  raiseIf (binding.schema ≠ "phios.plan_action_binding.v0.7.1")
    (err "unsupported action binding schema")
  raiseIf (binding.actionAuthority = true) (err "action binding cannot carry action authority")
  raiseIf (binding.executionAuthority = true)
    (err "action binding cannot carry execution authority")
  raiseIf (strip binding.planId = "") (err "binding plan_id must be non-empty")
  raiseIf (binding.planRevision < 0) (err "binding plan_revision must be non-negative")
  raiseIf (binding.transitionIndex < 0) (err "binding transition_index must be non-negative")
  raiseIf (strip binding.sourceStateId = "" ∨ strip binding.targetStateId = "")
    (err "binding source and target state IDs must be non-empty")
  raiseIf (strip binding.capabilityId = "") (err "binding capability_id must be non-empty")
  raiseIf (strip binding.capabilityVersion = "")
    (err "binding capability_version must be non-empty")
  raiseIf (binding.capabilityRisk ∉ ["read", "low", "medium", "high"])
    (err "binding capability_risk is invalid")
  raiseIf (∃ item ∈ binding.permissionsRequested, strip item = "")
    (err "binding permissions must be non-empty strings")
  raiseIf (¬ binding.permissionsRequested.Nodup) (err "binding permissions must be unique")
  let effects ← (normalizeEffects binding.effectsDeclared "binding effects" false).mapError
    fun e => err e.message
  raiseIf (effects ≠ binding.effectsDeclared)
    (err "binding effects must be canonical, unique, and sorted")
  raiseIf ("unknown" ∈ effects) (err "binding effects cannot contain unknown")
  validateSha256 cls binding.planStateSha256 "plan_state_sha256"
  validateSha256 cls binding.payloadSha256 "payload_sha256"
  validateSha256 cls binding.grantSha256 "grant_sha256"
  validateSha256 cls binding.bindingSha256 "binding_sha256"
  raiseIf (strip binding.grantId = "") (err "binding grant_id must be non-empty")
  raiseIf (strip binding.authoritySource = "") (err "binding authority_source must be non-empty")
  let digest ← bindingDigest sha256 binding
  raiseIf (digest ≠ binding.bindingSha256)
    (err "action binding hash does not match binding contents")

end Digests

/-! ## The handoff -/

/-- The outcome texts of a handoff. -/
inductive HandoffStatus
  | held
  | denied
  | succeeded
  | failed
  | outcomeUnknown
  deriving DecidableEq

/-- The text of the status. -/
def HandoffStatus.value : HandoffStatus → String
  | .held => "HELD"
  | .denied => "DENIED"
  | .succeeded => "SUCCEEDED"
  | .failed => "FAILED"
  | .outcomeUnknown => "OUTCOME_UNKNOWN"

structure ExecutionHandoffReceipt where
  schema : String := "phios.execution_handoff_receipt.v0.8"
  status : HandoffStatus
  reason : String
  planId : String
  planStateSha256 : String
  planRevision : ℤ
  transitionIndex : ℤ
  sourceStateId : String
  targetStateId : String
  capabilityId : String
  payloadSha256 : String
  actionBindingSha256 : String
  bindingConsumed : Bool
  replayBlocked : Bool
  spineReceiptId : Option String
  spinePermissionStatus : Option PermissionStatus
  spineExecutionStatus : Option ExecutionStatus
  gateReceiptId : Option String
  actionReceiptId : Option String
  mandalaStatus : Option MandalaStatus
  artifactPath : Option String
  artifactSha256 : Option String
  actionAuthority : Bool := false
  executionAuthority : Bool := false
  receiptSha256 : String := ""
  deriving DecidableEq

/-- The fields a receipt's digest is taken of. -/
def ExecutionHandoffReceipt.payload (receipt : ExecutionHandoffReceipt) : List (String × Json) :=
  [("schema", .str receipt.schema), ("status", .str receipt.status.value),
    ("reason", .str receipt.reason), ("plan_id", .str receipt.planId),
    ("plan_state_sha256", .str receipt.planStateSha256),
    ("plan_revision", .int receipt.planRevision),
    ("transition_index", .int receipt.transitionIndex),
    ("source_state_id", .str receipt.sourceStateId),
    ("target_state_id", .str receipt.targetStateId),
    ("capability_id", .str receipt.capabilityId), ("payload_sha256", .str receipt.payloadSha256),
    ("action_binding_sha256", .str receipt.actionBindingSha256),
    ("binding_consumed", .bool receipt.bindingConsumed),
    ("replay_blocked", .bool receipt.replayBlocked),
    ("spine_receipt_id", .optStr receipt.spineReceiptId),
    ("spine_permission_status", .optStr (receipt.spinePermissionStatus.map (·.value))),
    ("spine_execution_status", .optStr (receipt.spineExecutionStatus.map (·.value))),
    ("gate_receipt_id", .optStr receipt.gateReceiptId),
    ("action_receipt_id", .optStr receipt.actionReceiptId),
    ("mandala_status", .optStr (receipt.mandalaStatus.map (·.value))),
    ("artifact_path", .optStr receipt.artifactPath),
    ("artifact_sha256", .optStr receipt.artifactSha256),
    ("action_authority", .bool receipt.actionAuthority),
    ("execution_authority", .bool receipt.executionAuthority)]

def ExecutionHandoffReceipt.toDict (receipt : ExecutionHandoffReceipt) : Json :=
  .obj (receipt.payload ++ [("receipt_sha256", .str receipt.receiptSha256)])

/-- The arguments of `GovernedExecutionHandoff.execute`. -/
structure ExecutionRequest where
  plan : PlanState
  binding : PlanActionBinding
  payload : Json
  spine : PhiOSSpine
  actionLeaseSha256 : Option String := none
  authorityEpochSha256 : Option String := none
  authorizationReceiptSha256 : Option String := none
  leaseVerificationSha256 : Option String := none

namespace GovernedExecutionHandoff

variable (sha256 : Json → Except PyError String)

/-- `ExecutionHandoffContractError(message)`. -/
def err (message : String) : PyError := ⟨.executionHandoffContractError, message, []⟩

def validateInputs (plan : PlanState) (binding : PlanActionBinding) : Except PyError Unit :=
  (do
    validatePlanState sha256 plan
    validateBinding sha256 binding : Except PyError Unit).mapError fun e =>
      if e.cls = .planAdoptionContractError ∨ e.cls = .actionBindingContractError then
        err e.message
      else e

def validateLeaseProvenance (request : ExecutionRequest) : Except PyError Unit := do
  let fields := [("action_lease_sha256", request.actionLeaseSha256),
    ("authority_epoch_sha256", request.authorityEpochSha256),
    ("authorization_receipt_sha256", request.authorizationReceiptSha256),
    ("lease_verification_sha256", request.leaseVerificationSha256)]
  let supplied := fields.filterMap (·.2)
  raiseIf (supplied ≠ [] ∧ supplied.length ≠ fields.length)
    (err "lease provenance must provide all four SHA-256 digests")
  for (label, value) in fields do
    match value with
    | none => pure ()
    | some digest =>
        raiseIf (¬ isSha256Text digest) (err (label ++ " must be a lowercase SHA-256 digest"))

def currentPlanScope (plan : PlanState) (binding : PlanActionBinding) : Option String :=
  if binding.planId ≠ plan.planId then some "binding_plan_scope_mismatch"
  else if binding.planStateSha256 ≠ plan.stateSha256 then some "binding_plan_state_scope_mismatch"
  else if binding.planRevision ≠ plan.revision then some "binding_plan_revision_scope_mismatch"
  else if binding.transitionIndex < 0 ∨ plan.pathIds.length - 1 ≤ binding.transitionIndex then
    some "binding_transition_not_in_current_plan"
  else if plan.pathIds[binding.transitionIndex.toNat]? ≠ some binding.sourceStateId then
    some "binding_source_not_in_current_plan"
  else if plan.pathIds[binding.transitionIndex.toNat + 1]? ≠ some binding.targetStateId then
    some "binding_target_not_in_current_plan"
  else none

def receipt (plan : PlanState) (binding : PlanActionBinding) (status : HandoffStatus)
    (reason : String) (bindingConsumed replayBlocked : Bool)
    (execution : Option ExecutionReceipt) : Except PyError ExecutionHandoffReceipt := do
  let body : ExecutionHandoffReceipt := {
    status, reason
    planId := plan.planId
    planStateSha256 := plan.stateSha256
    planRevision := plan.revision
    transitionIndex := binding.transitionIndex
    sourceStateId := binding.sourceStateId
    targetStateId := binding.targetStateId
    capabilityId := binding.capabilityId
    payloadSha256 := binding.payloadSha256
    actionBindingSha256 := binding.bindingSha256
    bindingConsumed, replayBlocked
    spineReceiptId := execution.map (·.receiptId)
    spinePermissionStatus := execution.map (·.permissionStatus)
    spineExecutionStatus := execution.map (·.executionStatus)
    gateReceiptId := execution.bind (·.gateReceiptId)
    actionReceiptId := execution.bind (·.actionReceiptId)
    mandalaStatus := execution.bind (·.mandalaStatus)
    artifactPath := execution.bind (·.artifactPath)
    artifactSha256 := execution.bind (·.artifactSha256) }
  let receiptSha256 ← payloadDigest sha256 .executionHandoffContractError "execution handoff"
    (.obj body.payload)
  return { body with receiptSha256 }

def held (plan : PlanState) (binding : PlanActionBinding) (reason : String)
    (replayBlocked : Bool) : LedgerProg ExecutionHandoffReceipt :=
  .ofExcept (receipt sha256 plan binding .held reason false replayBlocked none)

/-- The runtime checks between the payload and the ledger: the reason to hold the request, if
there is one. -/
def runtimeScope (spine : PhiOSSpine) (binding : PlanActionBinding) :
    Except PyError (Option String) := do
  match spine.registry.get binding.capabilityId with
  | .error _ => return some "capability_not_registered"
  | .ok capability =>
      match normalizeEffects capability.effects "runtime capability effects" false with
      | .error _ => return some "capability_effect_contract_invalid"
      | .ok currentEffects =>
          if capability.version ≠ binding.capabilityVersion ∨
              capability.risk ≠ binding.capabilityRisk ∨
              capability.permissions ≠ binding.permissionsRequested ∨
              currentEffects ≠ binding.effectsDeclared then
            return some "capability_contract_drift"
          match spine.executors.effects capability.id with
          | .error _ => return some "executor_effect_contract_missing"
          | .ok executorEffects =>
              let decision ← spine.effectPolicy.evaluate capability executorEffects
              if decision.allowed then return none
              return some ("effect_boundary_" ++ decision.reason)

/-- The provenance of a spine run. -/
def provenance (request : ExecutionRequest) : ExecutionProvenance where
  schemaVersion :=
    if request.actionLeaseSha256.isSome then "phios.execution_provenance.v0.9"
    else "phios.execution_provenance.v0.8"
  planId := request.plan.planId
  planStateSha256 := request.plan.stateSha256
  planRevision := request.plan.revision
  transitionIndex := request.binding.transitionIndex
  sourceStateId := request.binding.sourceStateId
  targetStateId := request.binding.targetStateId
  actionBindingSha256 := request.binding.bindingSha256
  actionLeaseSha256 := request.actionLeaseSha256
  authorityEpochSha256 := request.authorityEpochSha256
  authorizationReceiptSha256 := request.authorizationReceiptSha256
  leaseVerificationSha256 := request.leaseVerificationSha256

/-- `_outcome`: the status, the reason, and whether the binding is consumed. -/
def outcome (execution : ExecutionReceipt) : Except PyError (HandoffStatus × String × Bool) :=
  match execution.permissionStatus, execution.executionStatus with
  | .denied, _ => .ok (.denied, "spine_permission_denied", false)
  | .allowed, .succeeded => .ok (.succeeded, "spine_execution_succeeded", true)
  | .allowed, .failed => .ok (.failed, "spine_execution_failed", true)
  | .allowed, .outcomeUnknown => .ok (.outcomeUnknown, "spine_execution_outcome_unknown", true)
  | .allowed, .notExecuted => .error (err "spine returned an unsupported execution outcome")

/-- The checks on the execution receipt the spine returned. -/
def checkExecution (request : ExecutionRequest) (execution : ExecutionReceipt) :
    Except PyError Unit := do
  raiseIf (execution.inputSha256 ≠ request.binding.payloadSha256)
    (err "spine execution payload digest diverged from action binding")
  raiseIf (execution.permissionsRequested ≠ request.binding.permissionsRequested)
    (err "spine permission request diverged from action binding")
  raiseIf (execution.governedProvenance ≠ some (.plan (provenance request)))
    (err "spine execution provenance diverged from action binding")

/-- The part of `execute` after the claim. -/
def executeClaimed (request : ExecutionRequest) : LedgerProg ExecutionHandoffReceipt := do
  let { plan, binding, payload, spine, .. } := request
  match ← (spine.runOn binding.capabilityId payload (some (.plan (provenance request)))).attempt with
  | .error e =>
      if e.cls.isKeyTypeOrValueError then
        releaseBindingClaim binding.bindingSha256
        .raise (err ("spine execution handoff failed before receipting: " ++ e.message))
      else .raise e
  | .ok execution =>
      .ofExcept (checkExecution request execution)
      let (status, reason, bindingConsumed) ← .ofExcept (outcome execution)
      if !bindingConsumed then releaseBindingClaim binding.bindingSha256
      .ofExcept (receipt sha256 plan binding status reason bindingConsumed false (some execution))

/-- `isinstance(exc, (OSError, ValueError))`. -/
def isOSOrValueError (e : PyError) : Bool := e.cls = .osError || e.cls.isValueError

def execute (request : ExecutionRequest) : LedgerProg ExecutionHandoffReceipt := do
  let { plan, binding, payload, spine, .. } := request
  .ofExcept (validateInputs sha256 plan binding)
  .ofExcept (validateLeaseProvenance request)
  if let some reason := currentPlanScope plan binding then
    return ← held sha256 plan binding reason false
  let payloadSha256 ← .ofExcept <|
    (payloadDigest sha256 .actionBindingContractError "action binding" payload).mapError fun e =>
      if e.cls = .actionBindingContractError then err e.message else e
  if payloadSha256 ≠ binding.payloadSha256 then
    return ← held sha256 plan binding "payload_digest_mismatch" false
  if let some reason ← .ofExcept (runtimeScope spine binding) then
    return ← held sha256 plan binding reason false
  match ← tryHasConsumedBinding binding.bindingSha256 with
  | .error e =>
      .raise (if isOSOrValueError e then err "execution ledger could not be verified safely" else e)
  | .ok true => held sha256 plan binding "binding_already_consumed" true
  | .ok false =>
      match ← claimBinding binding.bindingSha256 with
      | .error e =>
          .raise (if isOSOrValueError e then
            err "execution binding could not be claimed safely" else e)
      | .ok false => held sha256 plan binding "binding_execution_claim_unavailable" true
      | .ok true => executeClaimed sha256 request

end GovernedExecutionHandoff

end PhiOS
