import PhiOS.Model.Ledger

/-!
# The records of the reflex planes

The policies, activations, leases and grants of `reflex/influence_adoption.py`,
`reflex/runtime_influence.py` and `reflex/control_plane.py`, and the signed records of
`reflex/authority.py` and `reflex/lifecycle.py`: their dictionaries, the payloads that are signed
and the checks of their shape. Every record is read from a payload of its own schema, so that the
schema is no field here.
-/

set_option autoImplicit false

namespace PhiOS

/-- A finite float: its text in JSON, and its value. -/
structure PyFloat where
  text : String
  value : ℚ
  deriving DecidableEq

/-- What the reflex planes take from the standard library and from the Ed25519 package: `_digest`,
`str` of a value read from JSON, `str.upper`, the value of a float, `base64.b64decode` of an ASCII
text and the verification of a signature on the canonical bytes of a payload. The last three are
the arithmetic of `_blend_distribution` and `_blend_scalar`: a rounded blend of two probabilities,
whether blended probabilities sum to one, and a blend that must be a probability. -/
structure ReflexRuntime where
  sha256 : Json → String
  pyStr : Json → String
  pyStr_str : ∀ s, pyStr (.str s) = s
  upper : String → String
  floatValue : String → ℚ
  b64decode : String → Option (List UInt8)
  verify : List UInt8 → Json → List UInt8 → Bool
  blendRounded : PyFloat → PyFloat → PyFloat → PyFloat
  sumsToOne : List PyFloat → Bool
  blendScalar : PyFloat → PyFloat → PyFloat → Option PyFloat

/-- A float as JSON. -/
def PyFloat.json (x : PyFloat) : Json := .float x.text

/-- An optional integer as JSON. -/
def Json.optInt : Option ℕ → Json
  | none => .null
  | some n => .int n

namespace Reflex

/-- `[A-Za-z0-9._-]`. -/
def isIdChar (c : Char) : Bool :=
  (48 ≤ c.toNat && c.toNat ≤ 57) || (65 ≤ c.toNat && c.toNat ≤ 90) ||
    (97 ≤ c.toNat && c.toNat ≤ 122) || c = '.' || c = '_' || c = '-'

/-- `[A-Za-z0-9._-]{1,128}`. -/
def isSafeId (text : List Char) : Bool :=
  1 ≤ text.length && text.length ≤ 128 && text.all isIdChar

/-- `_safe_id` of the three planes, which differ in the class and the text of the error. -/
def safeId (e : PyError) (value : String) : Except PyError String := do
  let normalized := strip value
  raiseIf (¬ isSafeId normalized.toList) e
  return normalized

/-- `str(payload.get(name, ""))`. -/
def textField (rt : ReflexRuntime) (payload : Row) (name : String) : String :=
  match payload.lookup name with
  | some value => rt.pyStr value
  | none => ""

/-- `_epoch_value(payload.get(name), name)`. -/
def epochField (cls : ErrorClass) (payload : Row) (name : String) : Except PyError ℕ :=
  match payload.lookup name with
  | some (.int n) =>
      if n < 0 then .error ⟨cls, name ++ " must be a non-negative integer", []⟩ else .ok n.toNat
  | _ => .error ⟨cls, name ++ " must be a non-negative integer", []⟩

/-- `_optional_epoch(payload.get(name), name)`. -/
def optionalEpochField (cls : ErrorClass) (payload : Row) (name : String) :
    Except PyError (Option ℕ) :=
  match payload.lookup name with
  | none | some .null => .ok none
  | _ => some <$> epochField cls payload name

/-- `if payload.get("schema") != schema: raise e`. -/
def requireSchema (payload : Row) (schema : String) (e : PyError) : Except PyError Unit :=
  match payload.lookup "schema" with
  | some (.str text) => raiseIf (text ≠ schema) e
  | _ => .error e

end Reflex

open Reflex

/-! ## Policies, activations and leases -/

/-- `ReflexRuntimeInfluenceContractError(message)`. -/
def reflexInfluenceErr (message : String) : PyError :=
  ⟨.reflexRuntimeInfluenceContractError, message, []⟩

/-- `ReflexInfluenceAdoptionContractError(message)`. -/
def reflexAdoptionErr (message : String) : PyError :=
  ⟨.reflexInfluenceAdoptionContractError, message, []⟩

/-- `ReflexControlPlaneContractError(message)`. -/
def reflexControlErr (message : String) : PyError := ⟨.reflexControlPlaneContractError, message, []⟩

def routingSurface : String := "agentception.planner_context.v0.6"

/-- `SUPPORTED_DIMENSIONS`, which are also the `INFLUENCE_DIMENSIONS`. -/
def supportedDimensions : List String := ["role", "risk", "system2", "verification"]

/-- `_normalize_dimensions` of the two modules, which differ in the class and in one text. -/
def normalizeDimensions (cls : ErrorClass) (unsupported : String) (dimensions : List String) :
    Except PyError (List String) := do
  raiseIf (dimensions = []) ⟨cls, "allowed_dimensions must be non-empty", []⟩
  let normalized := sortedSet dimensions
  raiseIf (normalized.length ≠ dimensions.length) ⟨cls, "allowed_dimensions must be unique", []⟩
  raiseIf (normalized.any fun item => item ∉ supportedDimensions) ⟨cls, unsupported, []⟩
  return normalized

/-- `_validate_weight` of the two modules. -/
def validateWeight (cls : ErrorClass) (label : String) (weight : PyFloat) : Except PyError Unit :=
  raiseIf (weight.value ≤ 0 ∨ 1 < weight.value) ⟨cls, label ++ " must be in (0, 1]", []⟩

structure ReflexInfluencePolicyState where
  policyId : String
  revision : ℤ
  readinessReceiptSha256 : String
  candidateProvider : String
  candidateModels : List String
  allowedDimensions : List String
  maxInfluenceWeight : PyFloat
  rollbackOnProviderUnavailable : Bool
  maxConsecutiveProviderErrors : ℤ
  parentPolicySha256 : Option String
  routingInfluenceActive : Bool
  runtimeActivationAuthority : Bool
  promotionAuthority : Bool
  actionAuthority : Bool
  executionAuthority : Bool
  stateSha256 : String

/-- `to_dict` without the hash. -/
def ReflexInfluencePolicyState.body (state : ReflexInfluencePolicyState) : Row :=
  [("schema", .str "phios.reflex_influence_policy_state.v0.5"), ("policy_id", .str state.policyId),
    ("revision", .int state.revision),
    ("readiness_receipt_sha256", .str state.readinessReceiptSha256),
    ("candidate_provider", .str state.candidateProvider),
    ("candidate_models", Json.strs state.candidateModels),
    ("allowed_dimensions", Json.strs state.allowedDimensions),
    ("max_influence_weight", state.maxInfluenceWeight.json),
    ("rollback_on_provider_unavailable", .bool state.rollbackOnProviderUnavailable),
    ("max_consecutive_provider_errors", .int state.maxConsecutiveProviderErrors),
    ("parent_policy_sha256", Json.optStr state.parentPolicySha256),
    ("routing_influence_active", .bool state.routingInfluenceActive),
    ("runtime_activation_authority", .bool state.runtimeActivationAuthority),
    ("promotion_authority", .bool state.promotionAuthority),
    ("action_authority", .bool state.actionAuthority),
    ("execution_authority", .bool state.executionAuthority)]

def validatePolicyState (rt : ReflexRuntime) (state : ReflexInfluencePolicyState) :
    Except PyError Unit := do
  let cls := ErrorClass.reflexInfluenceAdoptionContractError
  raiseIf (strip state.policyId = "") (reflexAdoptionErr "policy_id must be non-empty")
  raiseIf (state.revision < 0) (reflexAdoptionErr "policy revision must be non-negative")
  validateSha256 cls state.readinessReceiptSha256 "readiness_receipt_sha256"
  match state.parentPolicySha256 with
  | some parent => validateSha256 cls parent "parent_policy_sha256"
  | none => pure ()
  raiseIf (strip state.candidateProvider = "")
    (reflexAdoptionErr "candidate_provider must be non-empty")
  raiseIf (state.candidateModels = [] ∨ state.candidateModels.any (strip · = ""))
    (reflexAdoptionErr "candidate_models must be non-empty")
  let _ ← normalizeDimensions cls "unsupported influence dimension" state.allowedDimensions
  validateWeight cls "max_influence_weight" state.maxInfluenceWeight
  raiseIf (state.maxConsecutiveProviderErrors < 1)
    (reflexAdoptionErr "max_consecutive_provider_errors must be a positive integer")
  raiseIf state.routingInfluenceActive
    (reflexAdoptionErr "v0.5 policy cannot activate routing influence")
  raiseIf state.runtimeActivationAuthority
    (reflexAdoptionErr "v0.5 policy cannot carry runtime activation authority")
  raiseIf state.promotionAuthority
    (reflexAdoptionErr "v0.5 policy cannot carry promotion authority")
  raiseIf (state.actionAuthority ∨ state.executionAuthority)
    (reflexAdoptionErr "v0.5 policy cannot carry action/execution authority")
  raiseIf (rt.sha256 (.obj state.body) ≠ state.stateSha256)
    (reflexAdoptionErr "influence policy state hash does not match contents")

structure ReflexActivationRequest where
  provider : String
  models : List String
  routingSurface : String
  allowedDimensions : List String
  influenceWeight : PyFloat

/-- `_normalize_dimensions` of `runtime_influence.py`. -/
def normalizeRoutingDimensions (dimensions : List String) : Except PyError (List String) :=
  normalizeDimensions .reflexRuntimeInfluenceContractError
    "unsupported routing influence dimension" dimensions

def ReflexActivationRequest.postInit (request : ReflexActivationRequest) : Except PyError Unit := do
  raiseIf (strip request.provider = "") (reflexInfluenceErr "activation provider must be non-empty")
  raiseIf (request.models = [] ∨ request.models.any (strip · = ""))
    (reflexInfluenceErr "activation models must be non-empty")
  raiseIf (request.routingSurface ≠ PhiOS.routingSurface)
    (reflexInfluenceErr "unsupported routing surface")
  let _ ← normalizeRoutingDimensions request.allowedDimensions
  validateWeight .reflexRuntimeInfluenceContractError "influence_weight" request.influenceWeight

def ReflexActivationRequest.toPayload (request : ReflexActivationRequest) : Row :=
  [("schema", .str "phios.reflex_activation_request.v0.6"), ("provider", .str (strip request.provider)),
    ("models", Json.strs (sortedSet request.models)), ("routing_surface", .str request.routingSurface),
    ("allowed_dimensions", Json.strs (sortedSet request.allowedDimensions)),
    ("influence_weight", request.influenceWeight.json)]

def ReflexActivationRequest.requestSha256 (rt : ReflexRuntime) (request : ReflexActivationRequest) :
    String := rt.sha256 (.obj request.toPayload)

structure ReflexActivationGrant where
  grantId : String
  authoritySource : String
  policyStateSha256 : String
  currentActivationSha256 : Option String
  activationRequestSha256 : String
  disposition : String

def ReflexActivationGrant.toPayload (grant : ReflexActivationGrant) : Row :=
  [("schema", .str "phios.reflex_activation_grant.v0.6"), ("grant_id", .str grant.grantId),
    ("authority_source", .str grant.authoritySource),
    ("policy_state_sha256", .str grant.policyStateSha256),
    ("current_activation_sha256", Json.optStr grant.currentActivationSha256),
    ("activation_request_sha256", .str grant.activationRequestSha256),
    ("disposition", .str grant.disposition)]

def ReflexActivationGrant.grantSha256 (rt : ReflexRuntime) (grant : ReflexActivationGrant) : String :=
  rt.sha256 (.obj grant.toPayload)

/-- `_optional_string(payload.get(name))`. -/
def optionalStringField (payload : Row) (name : String) : Except PyError (Option String) :=
  match payload.lookup name with
  | none | some .null => .ok none
  | some (.str text) => .ok (some text)
  | _ => .error (reflexControlErr "optional digest must be string or null")

def activationGrantFromPayload (rt : ReflexRuntime) (payload : Row) :
    Except PyError ReflexActivationGrant := do
  requireSchema payload "phios.reflex_activation_grant.v0.6"
    (reflexControlErr "unsupported activation grant schema")
  let currentActivationSha256 ← optionalStringField payload "current_activation_sha256"
  return {
    grantId := textField rt payload "grant_id"
    authoritySource := textField rt payload "authority_source"
    policyStateSha256 := textField rt payload "policy_state_sha256"
    currentActivationSha256
    activationRequestSha256 := textField rt payload "activation_request_sha256"
    disposition := textField rt payload "disposition" }

def normalizeDisposition (rt : ReflexRuntime) (value : String) : Except PyError String := do
  let normalized := rt.upper (strip value)
  raiseIf (normalized ≠ "ACTIVATE" ∧ normalized ≠ "HOLD")
    (reflexInfluenceErr "activation disposition must be ACTIVATE or HOLD")
  return normalized

/-- `_validate_grant`. -/
def validateActivationGrant (rt : ReflexRuntime) (grant : ReflexActivationGrant) :
    Except PyError Unit := do
  let cls := ErrorClass.reflexRuntimeInfluenceContractError
  raiseIf (strip grant.grantId = "") (reflexInfluenceErr "activation grant_id must be non-empty")
  raiseIf (strip grant.authoritySource = "")
    (reflexInfluenceErr "activation authority_source must be non-empty")
  validateSha256 cls grant.policyStateSha256 "grant policy_state_sha256"
  match grant.currentActivationSha256 with
  | some current => validateSha256 cls current "grant current_activation_sha256"
  | none => pure ()
  validateSha256 cls grant.activationRequestSha256 "grant activation_request_sha256"
  let _ ← normalizeDisposition rt grant.disposition

structure ReflexActivationState where
  activationId : String
  revision : ℤ
  policyStateSha256 : String
  provider : String
  models : List String
  routingSurface : String
  allowedDimensions : List String
  influenceWeight : PyFloat
  consecutiveProviderErrors : ℤ
  parentActivationSha256 : Option String
  activatedByGrantSha256 : String
  routingInfluenceActive : Bool
  routingInfluenceAuthority : Bool
  promotionAuthority : Bool
  actionAuthority : Bool
  executionAuthority : Bool
  stateSha256 : String

/-- `to_dict` without the hash. -/
def ReflexActivationState.body (state : ReflexActivationState) : Row :=
  [("schema", .str "phios.reflex_activation_state.v0.6"), ("activation_id", .str state.activationId),
    ("revision", .int state.revision), ("policy_state_sha256", .str state.policyStateSha256),
    ("provider", .str state.provider), ("models", Json.strs state.models),
    ("routing_surface", .str state.routingSurface),
    ("allowed_dimensions", Json.strs state.allowedDimensions),
    ("influence_weight", state.influenceWeight.json),
    ("consecutive_provider_errors", .int state.consecutiveProviderErrors),
    ("parent_activation_sha256", Json.optStr state.parentActivationSha256),
    ("activated_by_grant_sha256", .str state.activatedByGrantSha256),
    ("routing_influence_active", .bool state.routingInfluenceActive),
    ("routing_influence_authority", .bool state.routingInfluenceAuthority),
    ("promotion_authority", .bool state.promotionAuthority),
    ("action_authority", .bool state.actionAuthority),
    ("execution_authority", .bool state.executionAuthority)]

/-- `replace(state, state_sha256=_activation_state_digest(state))`. -/
def ReflexActivationState.sealed (rt : ReflexRuntime) (state : ReflexActivationState) :
    ReflexActivationState := { state with stateSha256 := rt.sha256 (.obj state.body) }

def validateActivationState (rt : ReflexRuntime) (state : ReflexActivationState) :
    Except PyError Unit := do
  let cls := ErrorClass.reflexRuntimeInfluenceContractError
  raiseIf (strip state.activationId = "") (reflexInfluenceErr "activation_id must be non-empty")
  raiseIf (state.revision < 0) (reflexInfluenceErr "activation revision must be non-negative")
  validateSha256 cls state.policyStateSha256 "policy_state_sha256"
  match state.parentActivationSha256 with
  | some parent => validateSha256 cls parent "parent_activation_sha256"
  | none => pure ()
  validateSha256 cls state.activatedByGrantSha256 "activated_by_grant_sha256"
  raiseIf (state.routingSurface ≠ PhiOS.routingSurface)
    (reflexInfluenceErr "activation state uses unsupported routing surface")
  let _ ← normalizeRoutingDimensions state.allowedDimensions
  validateWeight cls "influence_weight" state.influenceWeight
  raiseIf (state.consecutiveProviderErrors < 0)
    (reflexInfluenceErr "consecutive_provider_errors must be non-negative")
  raiseIf (state.routingInfluenceActive ≠ state.routingInfluenceAuthority)
    (reflexInfluenceErr "active state and routing influence authority must match")
  raiseIf state.promotionAuthority
    (reflexInfluenceErr "runtime influence cannot carry promotion authority")
  raiseIf (state.actionAuthority ∨ state.executionAuthority)
    (reflexInfluenceErr "runtime influence cannot carry action/execution authority")
  raiseIf (rt.sha256 (.obj state.body) ≠ state.stateSha256)
    (reflexInfluenceErr "activation state hash does not match contents")

structure ReflexRuntimeLease where
  activationStateSha256 : String
  validThroughEpoch : ℤ
  setAtEvaluationEpoch : ℤ
  leaseSha256 : String

/-- `to_dict` without the hash. -/
def ReflexRuntimeLease.body (lease : ReflexRuntimeLease) : Row :=
  [("schema", .str "phios.reflex_runtime_lease.v0.7"),
    ("activation_state_sha256", .str lease.activationStateSha256),
    ("valid_through_epoch", .int lease.validThroughEpoch),
    ("set_at_evaluation_epoch", .int lease.setAtEvaluationEpoch)]

def buildLease (rt : ReflexRuntime) (activationStateSha256 : String)
    (validThroughEpoch setAtEvaluationEpoch : ℤ) : ReflexRuntimeLease :=
  let lease : ReflexRuntimeLease := ⟨activationStateSha256, validThroughEpoch, setAtEvaluationEpoch, ""⟩
  { lease with leaseSha256 := rt.sha256 (.obj lease.body) }

def validateLease (rt : ReflexRuntime) (lease : ReflexRuntimeLease) : Except PyError Unit := do
  let cls := ErrorClass.reflexControlPlaneContractError
  validateSha256 cls lease.activationStateSha256 "activation_state_sha256"
  raiseIf (lease.validThroughEpoch < 0)
    (reflexControlErr "evaluation epoch must be a non-negative integer")
  raiseIf (lease.setAtEvaluationEpoch < 0)
    (reflexControlErr "evaluation epoch must be a non-negative integer")
  validateSha256 cls lease.leaseSha256 "lease_sha256"
  raiseIf (rt.sha256 (.obj lease.body) ≠ lease.leaseSha256)
    (reflexControlErr "runtime lease hash does not match contents")

end PhiOS
