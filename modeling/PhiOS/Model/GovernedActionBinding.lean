import PhiOS.Model.ExecutionHandoff

/-!
# Governed action binding

`GovernedActionBinder.bind` of `core/governed_action_binding.py`. A binder ties one edge of an
adopted plan to one capability and one payload, on a grant that names all of them. What it writes
down of the capability is stripped; the effects are normalized as well.
-/

set_option autoImplicit false

namespace PhiOS

structure ActionBindingGrant where
  grantId : String
  authoritySource : String
  planId : String
  planStateSha256 : String
  transitionIndex : ℤ
  sourceStateId : String
  targetStateId : String
  capabilityId : String
  payloadSha256 : String
  deriving DecidableEq

def ActionBindingGrant.toPayload (grant : ActionBindingGrant) : Json :=
  .obj [("schema", .str "phios.action_binding_grant.v0.7"), ("grant_id", .str grant.grantId),
    ("authority_source", .str grant.authoritySource), ("plan_id", .str grant.planId),
    ("plan_state_sha256", .str grant.planStateSha256),
    ("transition_index", .int grant.transitionIndex),
    ("source_state_id", .str grant.sourceStateId), ("target_state_id", .str grant.targetStateId),
    ("capability_id", .str grant.capabilityId), ("payload_sha256", .str grant.payloadSha256)]

/-- The two values of a receipt's `status`. -/
inductive BindingStatus
  | bound
  | held
  deriving DecidableEq

/-- The text of the status. -/
def BindingStatus.value : BindingStatus → String
  | .bound => "BOUND"
  | .held => "HELD"

structure ActionBindingReceipt where
  schema : String := "phios.action_binding_receipt.v0.7.1"
  status : BindingStatus
  reason : String
  planId : String
  planStateSha256 : String
  transitionIndex : ℤ
  sourceStateId : String
  targetStateId : String
  capabilityId : String
  payloadSha256 : String
  permissionsRequested : List String
  effectsDeclared : List String
  grantId : Option String
  grantSha256 : Option String
  authoritySource : Option String
  grantScopeValid : Bool
  bindingSha256 : Option String
  actionAuthority : Bool := false
  executionAuthority : Bool := false
  receiptSha256 : String := ""
  deriving DecidableEq

/-- The fields a receipt's digest is taken of. -/
def ActionBindingReceipt.payload (receipt : ActionBindingReceipt) : List (String × Json) :=
  [("schema", .str receipt.schema), ("status", .str receipt.status.value),
    ("reason", .str receipt.reason), ("plan_id", .str receipt.planId),
    ("plan_state_sha256", .str receipt.planStateSha256),
    ("transition_index", .int receipt.transitionIndex),
    ("source_state_id", .str receipt.sourceStateId),
    ("target_state_id", .str receipt.targetStateId),
    ("capability_id", .str receipt.capabilityId), ("payload_sha256", .str receipt.payloadSha256),
    ("permissions_requested", .strs receipt.permissionsRequested),
    ("effects_declared", .strs receipt.effectsDeclared), ("grant_id", .optStr receipt.grantId),
    ("grant_sha256", .optStr receipt.grantSha256),
    ("authority_source", .optStr receipt.authoritySource),
    ("grant_scope_valid", .bool receipt.grantScopeValid),
    ("binding_sha256", .optStr receipt.bindingSha256),
    ("action_authority", .bool receipt.actionAuthority),
    ("execution_authority", .bool receipt.executionAuthority)]

/-- What `bind` has found out before it looks at the grant. -/
structure BindingScope where
  plan : PlanState
  transitionIndex : ℤ
  sourceStateId : String
  targetStateId : String
  capabilityId : String
  version : String
  risk : String
  permissions : List String
  effects : List String
  payloadSha256 : String

namespace GovernedActionBinder

variable (sha256 : Json → Except PyError String)

/-- `ActionBindingContractError(message)`. -/
def err (message : String) : PyError := ⟨.actionBindingContractError, message, []⟩

/-- `_payload_digest`. -/
def digest (payload : Json) : Except PyError String :=
  payloadDigest sha256 .actionBindingContractError "action binding" payload

def transition (plan : PlanState) (transitionIndex : ℤ) : Except PyError (String × String) := do
  raiseIf (transitionIndex < 0 ∨ plan.pathIds.length - 1 ≤ transitionIndex)
    (err "transition_index must identify an existing plan edge")
  return (plan.pathIds.getD transitionIndex.toNat "",
    plan.pathIds.getD (transitionIndex.toNat + 1) "")

/-- `_validate_capability`: the id, version, risk, permissions and effects a binding is made of. -/
def validateCapability (capability : Capability) :
    Except PyError (String × String × String × List String × List String) := do
  let capabilityId := strip capability.id
  let version := strip capability.version
  let risk := strip capability.risk
  raiseIf (capabilityId = "") (err "capability id must be non-empty")
  raiseIf (version = "") (err "capability version must be non-empty")
  raiseIf (risk ∉ ["read", "low", "medium", "high"])
    (err "capability risk must be read, low, medium, or high")
  let permissions := capability.permissions.map strip
  raiseIf ("" ∈ permissions) (err "capability permissions must be non-empty")
  raiseIf (¬ permissions.Nodup) (err "capability permissions must be unique")
  let effects ← (normalizeEffects capability.effects "capability effects" false).mapError
    fun e => err e.message
  raiseIf ("unknown" ∈ effects) (err "capability effects cannot contain unknown")
  return (capabilityId, version, risk, permissions, effects)

/-- The first lines of `bind`. -/
def bindingScope (plan : PlanState) (transitionIndex : ℤ) (capability : Capability)
    (payload : Json) : Except PyError BindingScope := do
  validatePlanState sha256 plan
  let (sourceStateId, targetStateId) ← transition plan transitionIndex
  let (capabilityId, version, risk, permissions, effects) ← validateCapability capability
  let payloadSha256 ← digest sha256 payload
  return { plan, transitionIndex, sourceStateId, targetStateId, capabilityId, version, risk,
           permissions, effects, payloadSha256 }

def grantScope (scope : BindingScope) : Option ActionBindingGrant → Except PyError (Bool × String)
  | none => return (false, "action_binding_authority_missing")
  | some grant => do
      raiseIf (strip grant.grantId = "") (err "grant_id must be non-empty")
      raiseIf (strip grant.authoritySource = "") (err "grant authority_source must be non-empty")
      return if strip grant.planId ≠ scope.plan.planId then (false, "grant_plan_scope_mismatch")
        else if grant.planStateSha256 ≠ scope.plan.stateSha256 then
          (false, "grant_plan_state_scope_mismatch")
        else if grant.transitionIndex ≠ scope.transitionIndex then
          (false, "grant_transition_scope_mismatch")
        else if grant.sourceStateId ≠ scope.sourceStateId then
          (false, "grant_source_scope_mismatch")
        else if grant.targetStateId ≠ scope.targetStateId then
          (false, "grant_target_scope_mismatch")
        else if grant.capabilityId ≠ scope.capabilityId then
          (false, "grant_capability_scope_mismatch")
        else if grant.payloadSha256 ≠ scope.payloadSha256 then
          (false, "grant_payload_scope_mismatch")
        else (true, "grant_scope_valid")

def receipt (status : BindingStatus) (reason : String) (scope : BindingScope)
    (grant : Option ActionBindingGrant) (grantScopeValid : Bool) (bindingSha256 : Option String) :
    Except PyError ActionBindingReceipt := do
  let grantSha256 ← grant.mapM fun grant => digest sha256 grant.toPayload
  let body : ActionBindingReceipt := {
    status, reason
    planId := scope.plan.planId
    planStateSha256 := scope.plan.stateSha256
    transitionIndex := scope.transitionIndex
    sourceStateId := scope.sourceStateId
    targetStateId := scope.targetStateId
    capabilityId := scope.capabilityId
    payloadSha256 := scope.payloadSha256
    permissionsRequested := scope.permissions
    effectsDeclared := scope.effects
    grantId := grant.map fun grant => strip grant.grantId
    grantSha256
    authoritySource := grant.map fun grant => strip grant.authoritySource
    grantScopeValid, bindingSha256 }
  let receiptSha256 ← digest sha256 (.obj body.payload)
  return { body with receiptSha256 }

/-- The binding of a scope on a grant with the digest `grantSha256`, without its own digest. -/
def unsealed (scope : BindingScope) (grant : ActionBindingGrant) (grantSha256 : String) :
    PlanActionBinding where
  schema := "phios.plan_action_binding.v0.7.1"
  planId := scope.plan.planId
  planStateSha256 := scope.plan.stateSha256
  planRevision := scope.plan.revision
  transitionIndex := scope.transitionIndex
  sourceStateId := scope.sourceStateId
  targetStateId := scope.targetStateId
  capabilityId := scope.capabilityId
  capabilityVersion := scope.version
  capabilityRisk := scope.risk
  permissionsRequested := scope.permissions
  effectsDeclared := scope.effects
  payloadSha256 := scope.payloadSha256
  grantId := strip grant.grantId
  grantSha256 := grantSha256
  authoritySource := strip grant.authoritySource
  actionAuthority := false
  executionAuthority := false
  bindingSha256 := ""

/-- The `PlanActionBinding` of a valid grant. -/
def granted (scope : BindingScope) (grant : ActionBindingGrant) :
    Except PyError PlanActionBinding := do
  let body := unsealed scope grant (← digest sha256 grant.toPayload)
  let bindingSha256 ← bindingDigest sha256 body
  return { body with bindingSha256 }

def bind (plan : PlanState) (transitionIndex : ℤ) (capability : Capability) (payload : Json)
    (grant : Option ActionBindingGrant) :
    Except PyError (Option PlanActionBinding × ActionBindingReceipt) := do
  let scope ← bindingScope sha256 plan transitionIndex capability payload
  match ← grantScope scope grant, grant with
  | (true, _), some valid =>
      let binding ← granted sha256 scope valid
      let receipt ← receipt sha256 .bound "authorized_action_binding" scope grant true
        (some binding.bindingSha256)
      return (some binding, receipt)
  | (true, _), none => .error ⟨.exception "AssertionError", "", []⟩
  | (false, reason), _ =>
      let receipt ← receipt sha256 .held reason scope grant false none
      return (none, receipt)

end GovernedActionBinder

end PhiOS
