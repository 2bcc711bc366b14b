import PhiOS.Model.Value

/-!
# Effects, capabilities and the two boundaries of the spine

`spine/effects.py`, `spine/gate.py`, `spine/registry.py` and the declarations of
`spine/executor.py` and `spine/models.py` they read. An effect policy classifies a capability
by the effects it and its executor declare; the permission gate grants a capability the
permissions on its list. Neither looks at the payload.
-/

set_option autoImplicit false

namespace PhiOS

def effectBoundaryPolicySchemaVersion : String := "phios.effect_boundary_policy.v0.1"

def knownEffects : List String :=
  ["none", "local_state.read", "local_state.change", "filesystem.read", "filesystem.change",
    "process.spawn", "network.request", "external_state.read", "external_state.change",
    "ipc.request", "display.observe", "display.control", "credential.read",
    "control_plane.read", "control_plane.change", "unknown"]

def activeEffects : List String :=
  ["local_state.change", "filesystem.change", "process.spawn", "network.request",
    "external_state.change", "ipc.request", "display.control", "control_plane.change"]

/-- `normalize_effects`: stripped, known, sorted and without repetition. -/
def normalizeEffects (effects : List String) (label : String) (allowEmpty : Bool) :
    Except PyError (List String) := do
  let cls := ErrorClass.effectBoundaryContractError
  let normalized ← effects.mapM fun raw => do
    raiseIf (strip raw = "") ⟨cls, label ++ " entries must be non-empty strings", []⟩
    let value := strip raw
    raiseIf (value ∉ knownEffects) ⟨cls, s!"{label} contains unsupported effect: {value}", []⟩
    return value
  let result := sortedSet normalized
  raiseIf (result = [] ∧ ¬ allowEmpty) ⟨cls, label ++ " must not be empty", []⟩
  raiseIf ("none" ∈ result ∧ result.length ≠ 1)
    ⟨cls, label ++ " cannot combine none with another effect", []⟩
  return result

/-- `Capability`. The risk is one of `read`, `low`, `medium` and `high`, kept as its text. -/
structure Capability where
  id : String
  name : String
  description : String
  permissions : List String := []
  effects : List String := []
  risk : String := "low"
  version : String := "0.1.0"
  deriving DecidableEq

/-- The two values of a decision's `status`. -/
inductive BoundaryStatus
  | blocked
  | classified
  deriving DecidableEq

structure EffectBoundaryDecision where
  status : BoundaryStatus
  reason : String
  capabilityId : String
  capabilityVersion : String
  capabilityRisk : String
  capabilityEffects : List String
  executorEffects : List String
  activeEffects : List String
  effectContractMatch : Bool
  classificationComplete : Bool
  semanticReadLabelConflict : Bool
  policySha256 : String
  deriving DecidableEq

/-- The property `allowed`. -/
def EffectBoundaryDecision.allowed (d : EffectBoundaryDecision) : Bool := d.status = .classified

/-- `EffectBoundaryPolicy`, which carries nothing but the digest of its own rules. -/
structure EffectBoundaryPolicy where
  policySha256 : String

def EffectBoundaryPolicy.evaluate (policy : EffectBoundaryPolicy) (capability : Capability)
    (executorEffects : List String) : Except PyError EffectBoundaryDecision := do
  let capabilityEffects ← normalizeEffects capability.effects "capability effects" true
  let normalizedExecutorEffects ← normalizeEffects executorEffects "executor effects" true
  let contractMatch := !capabilityEffects.isEmpty && capabilityEffects = normalizedExecutorEffects
  let classificationComplete := !capabilityEffects.isEmpty && !normalizedExecutorEffects.isEmpty &&
    !capabilityEffects.contains "unknown" && !normalizedExecutorEffects.contains "unknown"
  let active := capabilityEffects.filter fun effect => PhiOS.activeEffects.contains effect
  let readConflict := capability.risk = "read" && !active.isEmpty
  let (status, reason) :=
    if capabilityEffects.isEmpty then
      (BoundaryStatus.blocked, "capability_effect_classification_missing")
    else if normalizedExecutorEffects.isEmpty then
      (.blocked, "executor_effect_classification_missing")
    else if !classificationComplete then (.blocked, "effect_classification_unknown")
    else if !contractMatch then (.blocked, "capability_executor_effect_contract_mismatch")
    else if readConflict then (.blocked, "read_risk_label_conflicts_with_active_effects")
    else (.classified, "effect_contract_classified")
  return {
    status, reason
    capabilityId := capability.id
    capabilityVersion := capability.version
    capabilityRisk := capability.risk
    capabilityEffects
    executorEffects := normalizedExecutorEffects
    activeEffects := active
    effectContractMatch := contractMatch
    classificationComplete
    semanticReadLabelConflict := readConflict
    policySha256 := policy.policySha256 }

structure PermissionDecision where
  allowed : Bool
  requested : List String
  granted : List String
  denied : List String
  reason : String
  deriving DecidableEq

structure PermissionGate where
  allowedPermissions : List String

def PermissionGate.evaluate (gate : PermissionGate) (capability : Capability) :
    PermissionDecision :=
  let requested := capability.permissions
  let granted := requested.filter fun p => gate.allowedPermissions.contains p
  let denied := requested.filter fun p => !gate.allowedPermissions.contains p
  let allowed := denied.isEmpty
  { allowed, requested, granted, denied
    reason := if allowed then "All requested permissions are explicitly granted."
      else "Denied by fail-closed policy: " ++ ", ".intercalate denied }

theorem PermissionGate.evaluate_allowed_iff (gate : PermissionGate) (capability : Capability) :
    (gate.evaluate capability).allowed ↔
      ∀ p ∈ capability.permissions, p ∈ gate.allowedPermissions := by
  simp [evaluate, List.isEmpty_iff, List.filter_eq_nil_iff]

/-- `CapabilityRegistry`, a dictionary from capability ids. -/
structure CapabilityRegistry where
  capabilities : String → Option Capability

def CapabilityRegistry.get (registry : CapabilityRegistry) (capabilityId : String) :
    Except PyError Capability :=
  match registry.capabilities capabilityId with
  | some capability => .ok capability
  | none => .error (.keyError ("Unknown capability: " ++ capabilityId))

/-- The effect declarations of `ExecutorRegistry`; its handlers are the environment's. -/
structure ExecutorRegistry where
  effectsOf : String → Option (List String)

def ExecutorRegistry.effects (executors : ExecutorRegistry) (capabilityId : String) :
    Except PyError (List String) :=
  match executors.effectsOf capabilityId with
  | some effects => .ok effects
  | none => .error (.keyError ("No executor for capability: " ++ capabilityId))

end PhiOS
