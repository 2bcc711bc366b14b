import PhiOS.Model.ReflexStore

/-!
# Runtime influence and its control plane

`GovernedReflexRuntimeInfluence` (runtime_influence.py:259) decides what becomes of an activation;
`ReflexRuntimeControlPlane` (control_plane.py:87) keeps the policy, the activation, its lease and
the ledger of receipts in files. `recover` comes first in every call: it quarantines what it cannot
read and collapses an activation whose lease is over.

`_epoch` refuses a negative epoch before anything is read, so that epochs are natural numbers here.
-/

set_option autoImplicit false

namespace PhiOS

open Interaction

/-! ## Runtime influence -/

/-- `ReflexActivationReceipt`: its status and its dictionary. -/
structure ReflexActivationReceipt where
  status : String
  toDict : Row

def activationReceipt (rt : ReflexRuntime) (status reason : String)
    (policy : ReflexInfluencePolicyState) (request : ReflexActivationRequest)
    (prior next : Option ReflexActivationState) (grant : Option ReflexActivationGrant)
    (grantScopeValid : Bool) : ReflexActivationReceipt :=
  let payload : Row :=
    [("schema", .str "phios.reflex_activation_receipt.v0.6"), ("status", .str status),
      ("reason", .str reason), ("policy_state_sha256", .str policy.stateSha256),
      ("activation_request_sha256", .str (request.requestSha256 rt)),
      ("prior_activation_sha256", Json.optStr (prior.map (·.stateSha256))),
      ("next_activation_sha256", Json.optStr (next.map (·.stateSha256))),
      ("grant_id", Json.optStr (grant.map (·.grantId))),
      ("grant_sha256", Json.optStr (grant.map (·.grantSha256 rt))),
      ("authority_source", Json.optStr (grant.map (·.authoritySource))),
      ("grant_scope_valid", .bool grantScopeValid),
      ("routing_influence_active", .bool (next.any (·.routingInfluenceActive))),
      ("routing_influence_authority", .bool (next.any (·.routingInfluenceAuthority))),
      ("promotion_authority", .bool false), ("action_authority", .bool false),
      ("execution_authority", .bool false)]
  ⟨status, payload ++ [("receipt_sha256", .str (rt.sha256 (.obj payload)))]⟩

def buildActivationState (rt : ReflexRuntime) (activationId : String) (revision : ℤ)
    (policy : ReflexInfluencePolicyState) (request : ReflexActivationRequest)
    (consecutiveProviderErrors : ℤ) (parentActivationSha256 : Option String)
    (activatedByGrantSha256 : String) (active : Bool) : Except PyError ReflexActivationState := do
  let allowedDimensions ← normalizeRoutingDimensions request.allowedDimensions
  validateWeight .reflexRuntimeInfluenceContractError "influence_weight" request.influenceWeight
  return ReflexActivationState.sealed rt {
    activationId
    revision
    policyStateSha256 := policy.stateSha256
    provider := strip request.provider
    models := sortedSet request.models
    routingSurface := request.routingSurface
    allowedDimensions
    influenceWeight := request.influenceWeight
    consecutiveProviderErrors
    parentActivationSha256
    activatedByGrantSha256
    routingInfluenceActive := active
    routingInfluenceAuthority := active
    promotionAuthority := false
    actionAuthority := false
    executionAuthority := false
    stateSha256 := "" }

namespace GovernedReflexRuntimeInfluence

def validateRequestAgainstPolicy (request : ReflexActivationRequest)
    (policy : ReflexInfluencePolicyState) : Except PyError Unit := do
  raiseIf (strip request.provider ≠ policy.candidateProvider)
    (reflexInfluenceErr "activation provider is outside adopted policy")
  raiseIf (sortedSet request.models ≠ policy.candidateModels)
    (reflexInfluenceErr "activation models do not match adopted policy")
  let dimensions ← normalizeRoutingDimensions request.allowedDimensions
  raiseIf (dimensions.any fun d => d ∉ policy.allowedDimensions)
    (reflexInfluenceErr "activation dimensions exceed adopted policy")
  raiseIf (policy.maxInfluenceWeight.value < request.influenceWeight.value)
    (reflexInfluenceErr "activation weight exceeds adopted policy")

/-- The scope checks of `activate`: why a grant does not cover the activation asked for. -/
def grantScopeReason (rt : ReflexRuntime) (policy : ReflexInfluencePolicyState)
    (request : ReflexActivationRequest) (grant : ReflexActivationGrant)
    (priorSha : Option String) : Option String :=
  if grant.policyStateSha256 ≠ policy.stateSha256 then some "grant_policy_scope_mismatch"
  else if grant.currentActivationSha256 ≠ priorSha then
    some "grant_current_activation_scope_mismatch"
  else if grant.activationRequestSha256 ≠ request.requestSha256 rt then
    some "grant_activation_request_scope_mismatch"
  else none

/-- `activate` with a grant: the control plane always has one. -/
def activate (rt : ReflexRuntime) (policy : ReflexInfluencePolicyState)
    (request : ReflexActivationRequest) (grant : ReflexActivationGrant)
    (current : Option ReflexActivationState) :
    Except PyError (Option ReflexActivationState × ReflexActivationReceipt) := do
  validatePolicyState rt policy
  match current with
  | some state => do
      validateActivationState rt state
      raiseIf (state.policyStateSha256 ≠ policy.stateSha256)
        (reflexInfluenceErr "current activation belongs to another influence policy")
  | none => pure ()
  validateRequestAgainstPolicy request policy
  let priorSha := current.map (·.stateSha256)
  validateActivationGrant rt grant
  match grantScopeReason rt policy request grant priorSha with
  | some reason =>
      return (current, activationReceipt rt "HELD" reason policy request current current grant false)
  | none =>
      if (← normalizeDisposition rt grant.disposition) = "HOLD" then
        return (current, activationReceipt rt "HELD" "authorized_hold" policy request current current
          grant true)
      else
        let next ← buildActivationState rt
          (match current with
            | some state => state.activationId
            | none => "phios.reflex.runtime." ++ policy.policyId)
          (match current with
            | some state => state.revision + 1
            | none => 0)
          policy request 0 priorSha (grant.grantSha256 rt) true
        return (some next, activationReceipt rt "ACTIVATED" "authorized_runtime_influence_activated"
          policy request current next grant true)

/-- The request that `deactivate` makes of an activation. -/
def requestOf (state : ReflexActivationState) : ReflexActivationRequest :=
  ⟨state.provider, state.models, state.routingSurface, state.allowedDimensions, state.influenceWeight⟩

def deactivate (rt : ReflexRuntime) (policy : ReflexInfluencePolicyState)
    (state : ReflexActivationState) (reason : String) :
    Except PyError (ReflexActivationState × ReflexActivationReceipt) := do
  validatePolicyState rt policy
  validateActivationState rt state
  raiseIf (state.policyStateSha256 ≠ policy.stateSha256)
    (reflexInfluenceErr "activation state belongs to another influence policy")
  let normalizedReason := strip reason
  raiseIf (normalizedReason = "") (reflexInfluenceErr "deactivation reason must be non-empty")
  let request := requestOf state
  request.postInit
  if state.routingInfluenceActive then
    let next ← buildActivationState rt state.activationId (state.revision + 1) policy request
      state.consecutiveProviderErrors state.stateSha256 state.activatedByGrantSha256 false
    return (next, activationReceipt rt "DEACTIVATED" ("privilege_collapsed:" ++ normalizedReason)
      policy request (some state) (some next) none false)
  else
    return (state, activationReceipt rt "INACTIVE" "already_inactive" policy request (some state)
      (some state) none false)

def blendDistribution (rt : ReflexRuntime) (baseline candidate : List (String × PyFloat))
    (labels : List String) (weight : PyFloat) : Except PyError (List (String × PyFloat)) := do
  raiseIf (sortedSet (baseline.map (·.1)) ≠ sortedSet labels ∨
    sortedSet (candidate.map (·.1)) ≠ sortedSet labels)
    (reflexInfluenceErr "provider probability labels do not match routing contract")
  let blended := labels.filterMap fun label => do
    return (label, rt.blendRounded (← baseline.reverse.lookup label)
      (← candidate.reverse.lookup label) weight)
  raiseIf (¬ rt.sumsToOne (blended.map (·.2)))
    (reflexInfluenceErr "blended categorical probabilities are invalid")
  return blended

def blendScalar (rt : ReflexRuntime) (baseline candidate weight : PyFloat) :
    Except PyError PyFloat :=
  match rt.blendScalar baseline candidate weight with
  | some value => .ok value
  | none => .error (reflexInfluenceErr "blended scalar probability is invalid")

/-- `x if name in dimensions else None`. -/
def within {α : Type} (dimensions : List String) (name : String) (x : Except PyError α) :
    Except PyError (Option α) :=
  if name ∈ dimensions then some <$> x else .ok none

end GovernedReflexRuntimeInfluence

def roleLabels : List String := ["utility", "builder", "synthesis", "translator", "ledger"]

def riskLabels : List String := ["low", "elevated", "high"]

structure ReflexRoutingInfluenceSignal where
  activationStateSha256 : String
  policyStateSha256 : String
  routingSurface : String
  provider : String
  model : String
  influenceWeight : PyFloat
  allowedDimensions : List String
  roleProbabilities : Option (List (String × PyFloat))
  riskProbabilities : Option (List (String × PyFloat))
  needsSystem2Probability : Option PyFloat
  needsVerificationProbability : Option PyFloat

/-- Probabilities as JSON. -/
def probabilitiesJson : Option (List (String × PyFloat)) → Json
  | none | some [] => .null
  | some probabilities => .obj (probabilities.map fun (label, x) => (label, x.json))

/-- `to_dict` without the hash. -/
def ReflexRoutingInfluenceSignal.body (signal : ReflexRoutingInfluenceSignal) : Row :=
  [("schema", .str "phios.reflex_routing_influence_signal.v0.6"),
    ("activation_state_sha256", .str signal.activationStateSha256),
    ("policy_state_sha256", .str signal.policyStateSha256),
    ("routing_surface", .str signal.routingSurface), ("provider", .str signal.provider),
    ("model", .str signal.model), ("influence_weight", signal.influenceWeight.json),
    ("allowed_dimensions", Json.strs signal.allowedDimensions),
    ("role_probabilities", probabilitiesJson signal.roleProbabilities),
    ("risk_probabilities", probabilitiesJson signal.riskProbabilities),
    ("needs_system2_probability", (signal.needsSystem2Probability.map PyFloat.json).getD .null),
    ("needs_verification_probability",
      (signal.needsVerificationProbability.map PyFloat.json).getD .null),
    ("routing_influence_authority", .bool true), ("action_authority", .bool false),
    ("execution_authority", .bool false)]

def runtimeReceipt (rt : ReflexRuntime) (status reason : String) (prior next : ReflexActivationState)
    (providerAttempted : Bool) (providerStatus : String) (providerModel : Option String)
    (fallbackUsed rollbackPerformed : Bool) (signal : Option ReflexRoutingInfluenceSignal) : Row :=
  let payload : Row :=
    [("schema", .str "phios.reflex_runtime_influence_receipt.v0.6"), ("status", .str status),
      ("reason", .str reason), ("prior_activation_sha256", .str prior.stateSha256),
      ("next_activation_sha256", .str next.stateSha256),
      ("provider_attempted", .bool providerAttempted), ("provider_status", .str providerStatus),
      ("provider_model", Json.optStr providerModel),
      ("consecutive_provider_errors", .int next.consecutiveProviderErrors),
      ("fallback_used", .bool fallbackUsed), ("rollback_performed", .bool rollbackPerformed),
      ("signal_sha256", Json.optStr (signal.map fun s => rt.sha256 (.obj s.body))),
      ("routing_influence_active", .bool next.routingInfluenceActive),
      ("routing_influence_authority", .bool next.routingInfluenceAuthority),
      ("action_authority", .bool false), ("execution_authority", .bool false)]
  payload ++ [("receipt_sha256", .str (rt.sha256 (.obj payload)))]

/-- What `evaluate` returns. -/
structure ReflexEvaluation where
  next : ReflexActivationState
  signal : Option ReflexRoutingInfluenceSignal
  status : String
  receipt : Row

namespace GovernedReflexRuntimeInfluence

def buildSignal (rt : ReflexRuntime) (policy : ReflexInfluencePolicyState)
    (state : ReflexActivationState) (baseline candidate : ReflexDecision) :
    Except PyError ReflexRoutingInfluenceSignal := do
  let weight := state.influenceWeight
  let dimensions := state.allowedDimensions
  let roleProbabilities ← within dimensions "role"
    (blendDistribution rt baseline.roleProbabilities candidate.roleProbabilities roleLabels weight)
  let riskProbabilities ← within dimensions "risk"
    (blendDistribution rt baseline.riskProbabilities candidate.riskProbabilities riskLabels weight)
  let needsSystem2Probability ← within dimensions "system2"
    (blendScalar rt baseline.needsSystem2Probability candidate.needsSystem2Probability weight)
  let needsVerificationProbability ← within dimensions "verification"
    (blendScalar rt baseline.needsVerificationProbability candidate.needsVerificationProbability
      weight)
  return {
    activationStateSha256 := state.stateSha256
    policyStateSha256 := policy.stateSha256
    routingSurface := state.routingSurface
    provider := candidate.provider
    model := candidate.model
    influenceWeight := weight
    allowedDimensions := dimensions
    roleProbabilities
    riskProbabilities
    needsSystem2Probability
    needsVerificationProbability }

def providerFailure (rt : ReflexRuntime) (policy : ReflexInfluencePolicyState)
    (state : ReflexActivationState) (reason : String) (immediateRollback : Bool) :
    ReflexEvaluation :=
  let errors := state.consecutiveProviderErrors + 1
  let rollback := immediateRollback || decide (policy.maxConsecutiveProviderErrors ≤ errors)
  let next := ReflexActivationState.sealed rt { state with
    revision := state.revision + 1
    consecutiveProviderErrors := errors
    parentActivationSha256 := some state.stateSha256
    routingInfluenceActive := !rollback
    routingInfluenceAuthority := !rollback
    stateSha256 := "" }
  let status := if rollback then "ROLLED_BACK" else "FALLBACK"
  ⟨next, none, status, runtimeReceipt rt status reason state next true reason none true rollback none⟩

def providerContractRollback (rt : ReflexRuntime) (state : ReflexActivationState)
    (reason : String) (providerModel : Option String) : ReflexEvaluation :=
  let next := ReflexActivationState.sealed rt { state with
    revision := state.revision + 1
    consecutiveProviderErrors := state.consecutiveProviderErrors + 1
    parentActivationSha256 := some state.stateSha256
    routingInfluenceActive := false
    routingInfluenceAuthority := false
    stateSha256 := "" }
  ⟨next, none, "ROLLED_BACK", runtimeReceipt rt "ROLLED_BACK" reason state next true "contract_drift"
    providerModel true true none⟩

/-- The state that `evaluate` goes on with after the provider has answered: the count of its errors
starts again. -/
def settled (rt : ReflexRuntime) (state : ReflexActivationState) : ReflexActivationState :=
  if state.consecutiveProviderErrors = 0 then state
  else ReflexActivationState.sealed rt { state with
    revision := state.revision + 1
    consecutiveProviderErrors := 0
    parentActivationSha256 := some state.stateSha256
    stateSha256 := "" }

/-- What `evaluate` makes of the two decisions. -/
def judge (rt : ReflexRuntime) (policy : ReflexInfluencePolicyState) (state : ReflexActivationState)
    (baseline candidate : ReflexDecision) : Except PyError ReflexEvaluation :=
  if candidate.provider ≠ state.provider then
    .ok (providerContractRollback rt state "provider_identity_drift" candidate.model)
  else if candidate.model ∉ state.models then
    .ok (providerContractRollback rt state "provider_model_drift" candidate.model)
  else do
    let signal ← buildSignal rt policy state baseline candidate
    let next := settled rt state
    return ⟨next, signal, "INFLUENCED", runtimeReceipt rt "INFLUENCED" "bounded_routing_signal_emitted"
      state next true "ok" candidate.model false false signal⟩

/-- `evaluate` of an active state; the control plane asks for nothing else. -/
def evaluate (rt : ReflexRuntime) (policy : ReflexInfluencePolicyState)
    (state : ReflexActivationState) (input : ReflexInput) : ReflexProg ReflexEvaluation := do
  .ofExcept do
    validatePolicyState rt policy
    validateActivationState rt state
    raiseIf (state.policyStateSha256 ≠ policy.stateSha256)
      (reflexInfluenceErr "activation state belongs to another influence policy")
  let baseline ← (Prog.call (.evaluate .baseline input)).bind .ofExcept
  let answer : Except PyError ReflexDecision ← Prog.call (ReflexOp.evaluate .influence input)
  match answer with
  | .ok candidate => .ofExcept (judge rt policy state baseline candidate)
  | .error e =>
      if e.cls = .exception "ReflexProviderUnavailable" then
        return providerFailure rt policy state "provider_unavailable"
          policy.rollbackOnProviderUnavailable
      else if e.cls.isException then
        return providerFailure rt policy state "provider_error" false
      else .raise e

end GovernedReflexRuntimeInfluence

/-! ## The control plane -/

/-- What `recover` returns. -/
structure ReflexRecovery where
  status : String
  reason : String
  ledgerReset : Bool

/-- What `status` returns. -/
structure ReflexControlStatus where
  recovery : ReflexRecovery
  policy : Option ReflexInfluencePolicyState
  activation : Option ReflexActivationState
  lease : Option ReflexRuntimeLease
  grantFiles : List String
  ledgerEntries : ℕ

/-- The field `routing_influence_active` of a status. -/
def ReflexControlStatus.routingInfluenceActive (status : ReflexControlStatus) : Bool :=
  status.activation.any (·.routingInfluenceActive)

/-- What `deactivate` returns. -/
structure ReflexDeactivation where
  activation : Option ReflexActivationState
  receipt : Row

/-- What `activate` returns. -/
structure ReflexActivationResult where
  ok : Bool
  activation : Option ReflexActivationState
  receipt : Row
  lease : Option ReflexRuntimeLease

/-- What `evaluate_active` returns next to the signal. -/
structure ReflexEvaluationReport where
  status : String
  routingInfluenceActive : Bool
  receipt : Row

namespace ReflexRuntimeControlPlane

def controlReceipt (rt : ReflexRuntime) (status reason : String) (epoch : ℕ)
    (policySha activationSha relatedSha : Option String) : Row :=
  let payload : Row :=
    [("schema", .str "phios.reflex_control_plane_receipt.v0.7"), ("status", .str status),
      ("reason", .str reason), ("evaluation_epoch", .int epoch),
      ("policy_state_sha256", Json.optStr policySha),
      ("activation_state_sha256", Json.optStr activationSha),
      ("related_sha256", Json.optStr relatedSha), ("privilege_expanded", .bool false),
      ("action_authority", .bool false), ("execution_authority", .bool false)]
  payload ++ [("receipt_sha256", .str (rt.sha256 (.obj payload)))]

/-- `value == n` for a value read from JSON. -/
def equalsInt (rt : ReflexRuntime) (value : Option Json) (n : ℕ) : Bool :=
  match value with
  | some (.int m) => m = n
  | some (.bool b) => b.toNat = n
  | some (.float text) => rt.floatValue text = n
  | _ => false

/-- `value == digest` for a value read from JSON, a missing one being `None`. -/
def equalsOptStr (value : Option Json) (digest : Option String) : Bool :=
  match value, digest with
  | none, none | some .null, none => true
  | some (.str text), some expected => text = expected
  | _, _ => false

/-- The loop of `_load_ledger`. -/
def loadLedgerLoop (rt : ReflexRuntime) (index : ℕ) (previous : Option String) :
    List Json → Except PyError (List Row)
  | [] => .ok []
  | .obj entry :: rest => do
      raiseIf (¬ equalsInt rt (entry.lookup "sequence") index)
        (reflexControlErr "runtime ledger sequence is invalid")
      raiseIf (¬ equalsOptStr (entry.lookup "previous_entry_sha256") previous)
        (reflexControlErr "runtime ledger hash chain is broken")
      let digest := Reflex.textField rt entry "entry_sha256"
      let payload := entry.filter (·.1 ≠ "entry_sha256")
      validateSha256 .reflexControlPlaneContractError digest "entry_sha256"
      raiseIf (rt.sha256 (.obj payload) ≠ digest)
        (reflexControlErr "runtime ledger entry hash does not match contents")
      let entries ← loadLedgerLoop rt (index + 1) (some digest) rest
      return (payload ++ [("entry_sha256", .str digest)]) :: entries
  | _ :: _ => .error (reflexControlErr "runtime ledger entry must be an object")

def loadLedger (rt : ReflexRuntime) : ReflexProg (List Row) := do
  match ← ReflexProg.read .ledger with
  | none => return []
  | some raw => .ofExcept (loadLedgerLoop rt 1 none raw)

/-- The hash of the last entry of a ledger. -/
def ledgerHead (rt : ReflexRuntime) (entries : List Row) : Option String :=
  entries.getLast?.map fun entry => Reflex.textField rt entry "entry_sha256"

def appendLedger (rt : ReflexRuntime) (kind : String) (epoch : ℕ) (receipt : Row) :
    ReflexProg Unit := do
  let entries ← loadLedger rt
  let payload : Row :=
    [("sequence", .int (entries.length + 1 : ℕ)), ("kind", .str kind),
      ("evaluation_epoch", .int epoch),
      ("previous_entry_sha256", Json.optStr (ledgerHead rt entries)), ("receipt", .obj receipt)]
  let entry := payload ++ [("entry_sha256", .str (rt.sha256 (.obj payload)))]
  ReflexProg.write .ledger ((entries ++ [entry]).map .obj)

/-- `append_audit_receipt`; the kinds that the planes pass are all admitted. -/
def appendAuditReceipt (rt : ReflexRuntime) (kind : String) (epoch : ℕ) (receipt : Row) :
    ReflexProg Unit := do
  .ofExcept (raiseIf (strip kind ∉ ["authority", "revocation", "coordination", "lifecycle",
    "attestation", "usage", "manifest", "lease", "replication"])
    (reflexControlErr "unsupported external audit receipt kind"))
  appendLedger rt (strip kind) epoch receipt

/-- `_load_policy_optional`. -/
def loadPolicy (rt : ReflexRuntime) : ReflexProg (Option ReflexInfluencePolicyState) := do
  match ← ReflexProg.read .policy with
  | none => return none
  | some policy => do
      .ofExcept (validatePolicyState rt policy)
      return some policy

/-- `_load_activation_optional`. -/
def loadActivation (rt : ReflexRuntime) : ReflexProg (Option ReflexActivationState) := do
  match ← ReflexProg.read .activation with
  | none => return none
  | some state => do
      .ofExcept (validateActivationState rt state)
      return some state

/-- `_load_lease_optional`. -/
def loadLease (rt : ReflexRuntime) : ReflexProg (Option ReflexRuntimeLease) := do
  match ← ReflexProg.read .lease with
  | none => return none
  | some lease => do
      .ofExcept (validateLease rt lease)
      return some lease

/-- `try: p except ReflexControlPlaneContractError: handler`. -/
def onContractError {α β : Type} (p : ReflexProg α) (handler : ReflexProg β)
    (go : α → ReflexProg β) : ReflexProg β :=
  p.attempt.bind fun
    | .ok a => go a
    | .error e => if e.cls = .reflexControlPlaneContractError then handler else .raise e

/-- The end of the branches of `recover` that roll back. -/
def rolledBack (rt : ReflexRuntime) (epoch : ℕ) (reason : String) (ledgerReset : Bool)
    (policySha activationSha related : Option String) : ReflexProg ReflexRecovery := do
  appendLedger rt "recovery" epoch
    (controlReceipt rt "RECOVERY_ROLLBACK" reason epoch policySha activationSha related)
  return ⟨"RECOVERY_ROLLBACK", reason, ledgerReset⟩

/-- Write the collapsed activation and its receipt. -/
def collapse (rt : ReflexRuntime) (epoch : ℕ) (policy : ReflexInfluencePolicyState)
    (activation : ReflexActivationState) (reason : String) (removeLease : Bool) :
    ReflexProg ReflexActivationState := do
  let (next, receipt) ← .ofExcept
    (GovernedReflexRuntimeInfluence.deactivate rt policy activation reason)
  ReflexProg.write .activation next
  if removeLease then ReflexProg.remove .lease
  appendLedger rt "activation" epoch receipt.toDict
  return next

/-- The branches of `recover` on a lease that is invalid or bound to another activation. -/
def dropLease (rt : ReflexRuntime) (epoch : ℕ) (ledgerReset : Bool)
    (policy : ReflexInfluencePolicyState) (activation : ReflexActivationState)
    (collapseReason reason : String) : ReflexProg ReflexRecovery := do
  let related ← ReflexProg.quarantine .lease
  if activation.routingInfluenceActive then
    let _ ← collapse rt epoch policy activation collapseReason false
  rolledBack rt epoch reason ledgerReset policy.stateSha256 activation.stateSha256 related

/-- `recover` from the lease on. -/
def recoverLease (rt : ReflexRuntime) (epoch : ℕ) (ledgerReset : Bool)
    (policy : ReflexInfluencePolicyState) (activation : ReflexActivationState)
    (lease : Option ReflexRuntimeLease) : ReflexProg ReflexRecovery :=
  if lease.any (·.activationStateSha256 ≠ activation.stateSha256) then
    dropLease rt epoch ledgerReset policy activation "lease_state_mismatch_fail_closed"
      "lease_activation_scope_mismatch"
  else if activation.routingInfluenceActive ∧ lease.any (·.validThroughEpoch ≤ (epoch : ℤ)) then do
    let next ← collapse rt epoch policy activation "runtime_lease_expired" true
    appendLedger rt "control" epoch
      (controlReceipt rt "LEASE_EXPIRED" "runtime_privilege_collapsed_at_lease_deadline" epoch
        policy.stateSha256 next.stateSha256 (lease.map (·.leaseSha256)))
    return ⟨"LEASE_EXPIRED", "runtime_privilege_collapsed_at_lease_deadline", ledgerReset⟩
  else if ledgerReset ∧ activation.routingInfluenceActive then do
    let next ← collapse rt epoch policy activation "runtime_ledger_integrity_lost" true
    rolledBack rt epoch "ledger_integrity_loss_collapsed_privilege" true policy.stateSha256
      next.stateSha256 none
  else
    return ⟨if activation.routingInfluenceActive then "ACTIVE" else "INACTIVE",
      "persisted_runtime_state_valid", ledgerReset⟩

/-- Move the activation and its lease away. -/
def quarantineActivation : ReflexProg (Option String) := do
  let related ← ReflexProg.quarantine .activation
  let _ ← ReflexProg.quarantine .lease
  return related

/-- `recover` from the activation on. -/
def recoverActivation (rt : ReflexRuntime) (epoch : ℕ) (ledgerReset : Bool)
    (policy : Option ReflexInfluencePolicyState) : ReflexProg ReflexRecovery :=
  let policySha := policy.map (·.stateSha256)
  onContractError (loadActivation rt)
    (do
      let related ← quarantineActivation
      rolledBack rt epoch "invalid_activation_state_quarantined" ledgerReset policySha none related)
    fun
      | none => do
          let _ ← ReflexProg.quarantine .lease
          return ⟨"INACTIVE", "no_activation_state", ledgerReset⟩
      | some activation =>
          match policy with
          | none => do
              let related ← quarantineActivation
              rolledBack rt epoch "activation_without_policy_quarantined" ledgerReset none
                activation.stateSha256 related
          | some policy =>
              if activation.policyStateSha256 ≠ policy.stateSha256 then do
                let related ← quarantineActivation
                rolledBack rt epoch "policy_activation_scope_mismatch" ledgerReset policySha
                  activation.stateSha256 related
              else
                onContractError (loadLease rt)
                  (dropLease rt epoch ledgerReset policy activation "invalid_lease_fail_closed"
                    "invalid_lease_quarantined")
                  (recoverLease rt epoch ledgerReset policy activation)

def recover (rt : ReflexRuntime) (epoch : ℕ) : ReflexProg ReflexRecovery := do
  let ledgerReset ← onContractError (loadLedger rt)
    (do
      let _ ← ReflexProg.quarantine .ledger
      return true)
    fun _ => return false
  onContractError (loadPolicy rt)
    (do
      let related ← ReflexProg.quarantine .policy
      let _ ← quarantineActivation
      rolledBack rt epoch "invalid_policy_state_quarantined" ledgerReset none none related)
    (recoverActivation rt epoch ledgerReset)

def status (rt : ReflexRuntime) (epoch : ℕ) : ReflexProg ReflexControlStatus := do
  let recovery ← recover rt epoch
  let policy ← loadPolicy rt
  let activation ← loadActivation rt
  let lease ← loadLease rt
  let grantFiles ← ReflexProg.names .grants
  let entries ← loadLedger rt
  return ⟨recovery, policy, activation, lease, grantFiles, entries.length⟩

def deactivate (rt : ReflexRuntime) (reason : String) (epoch : ℕ) :
    ReflexProg ReflexDeactivation := do
  let _ ← recover rt epoch
  let policy ← loadPolicy rt
  let state ← loadActivation rt
  match policy, state with
  | some policy, some state => do
      let (next, receipt) ← .ofExcept
        (GovernedReflexRuntimeInfluence.deactivate rt policy state reason)
      ReflexProg.write .activation next
      ReflexProg.remove .lease
      appendLedger rt "activation" epoch receipt.toDict
      return ⟨some next, receipt.toDict⟩
  | policy, state => do
      let receipt := controlReceipt rt "INACTIVE" "no_persisted_active_runtime" epoch
        (policy.map (·.stateSha256)) (state.map (·.stateSha256)) none
      appendLedger rt "control" epoch receipt
      return ⟨none, receipt⟩

def requirePolicy (rt : ReflexRuntime) : ReflexProg ReflexInfluencePolicyState := do
  match ← loadPolicy rt with
  | some policy => return policy
  | none => .raise (reflexControlErr "no persisted v0.5 influence policy")

def requireActivation (rt : ReflexRuntime) : ReflexProg ReflexActivationState := do
  match ← loadActivation rt with
  | some state => return state
  | none => .raise (reflexControlErr "no persisted v0.6 activation state")

/-- `_safe_id` of `control_plane.py`. -/
def controlId (value : String) : Except PyError String :=
  Reflex.safeId (reflexControlErr "grant_id contains unsupported characters") value

/-- `_require_grant`: the file is named after the text that was passed. -/
def requireGrant (rt : ReflexRuntime) (grantId : String) : ReflexProg ReflexActivationGrant := do
  let _ ← .ofExcept (controlId grantId)
  match ← ReflexProg.load .grants (grantId ++ ".json") with
  | none => .raise (reflexControlErr ("activation grant '" ++ grantId ++ "' is not ingested"))
  | some grant => do
      .ofExcept (validateActivationGrant rt grant)
      return grant

/-- `ingest_grant_payload` of the payload of a grant. -/
def ingestGrant (rt : ReflexRuntime) (grant : ReflexActivationGrant) (epoch : ℕ) :
    ReflexProg Unit := do
  .ofExcept (validateActivationGrant rt grant)
  let _ ← .ofExcept (controlId grant.grantId)
  let file := grant.grantId ++ ".json"
  let receipt := fun status reason => controlReceipt rt status reason epoch
    grant.policyStateSha256 grant.currentActivationSha256 (some (grant.grantSha256 rt))
  match ← ReflexProg.load .grants file with
  | some existing => do
      .ofExcept (raiseIf (existing.grantSha256 rt ≠ grant.grantSha256 rt)
        (reflexControlErr "grant_id already exists with different contents"))
      appendLedger rt "control" epoch
        (receipt "GRANT_ALREADY_PRESENT" "exact_activation_grant_already_ingested")
  | none => do
      ReflexProg.store .grants file grant
      appendLedger rt "control" epoch
        (receipt "GRANT_INGESTED" "external_activation_grant_validated_and_persisted")

/-- The write of `activate`. -/
def storeActivation (current next : Option ReflexActivationState) : ReflexProg Unit :=
  match next with
  | some state =>
      if some state.stateSha256 ≠ current.map (·.stateSha256) then
        ReflexProg.write .activation state
      else return ()
  | none => return ()

/-- The end of `activate`: the lease of a new activation. -/
def leaseActivation (rt : ReflexRuntime) (epoch : ℕ) (existing : Option ReflexRuntimeLease)
    (requestedDeadline : Option ℕ) (status : String) (next : Option ReflexActivationState) :
    ReflexProg (Option ReflexRuntimeLease) :=
  match next.filter fun _ => status = "ACTIVATED" with
  | none => return none
  | some state =>
      let inherited := existing.map (·.validThroughEpoch)
      match (requestedDeadline.map fun n => (n : ℤ)).or inherited with
      | some deadline => do
          let lease := buildLease rt state.stateSha256 deadline epoch
          ReflexProg.write .lease lease
          return some lease
      | none => do
          ReflexProg.remove .lease
          return none

def activate (rt : ReflexRuntime) (request : ReflexActivationRequest) (grantId : String)
    (epoch : ℕ) (leaseUntilEpoch : Option ℕ) : ReflexProg ReflexActivationResult := do
  let _ ← recover rt epoch
  let policy ← requirePolicy rt
  let current ← loadActivation rt
  let grant ← requireGrant rt grantId
  let existing ← loadLease rt
  .ofExcept do
    raiseIf (leaseUntilEpoch.any (· ≤ epoch))
      (reflexControlErr "lease_until_epoch must be greater than evaluation_epoch")
    raiseIf (existing.any fun lease => leaseUntilEpoch.any fun deadline => lease.validThroughEpoch < (deadline : ℤ))
      (reflexControlErr "v0.7 lease may be shortened but not extended")
  let (next, receipt) ← .ofExcept
    (GovernedReflexRuntimeInfluence.activate rt policy request grant current)
  storeActivation current next
  appendLedger rt "activation" epoch receipt.toDict
  let lease ← leaseActivation rt epoch existing leaseUntilEpoch receipt.status next
  return ⟨receipt.status = "ACTIVATED", next, receipt.toDict, lease⟩

def renewLeaseAuthorized (rt : ReflexRuntime) (validThroughEpoch epoch : ℕ)
    (authorizationSha256 : String) : ReflexProg ReflexRuntimeLease := do
  .ofExcept (validateSha256 .reflexControlPlaneContractError authorizationSha256
    "authorization_sha256")
  let _ ← recover rt epoch
  let policy ← requirePolicy rt
  let state ← requireActivation rt
  .ofExcept (raiseIf (¬ state.routingInfluenceActive)
    (reflexControlErr "cannot renew lease for inactive runtime influence"))
  match ← loadLease rt with
  | none => .raise (reflexControlErr "authorized renewal requires an existing lease")
  | some current => do
      .ofExcept do
        raiseIf ((validThroughEpoch : ℤ) ≤ current.validThroughEpoch)
          (reflexControlErr "authorized lease renewal must extend the current deadline")
        raiseIf (validThroughEpoch ≤ epoch)
          (reflexControlErr "authorized lease renewal must remain in the future")
      let lease := buildLease rt state.stateSha256 validThroughEpoch epoch
      ReflexProg.write .lease lease
      appendLedger rt "authority" epoch
        (controlReceipt rt "LEASE_RENEWED" "upstream_authenticated_authority_extended_runtime_lease"
          epoch policy.stateSha256 state.stateSha256 authorizationSha256)
      return lease

/-- What `evaluate_active` writes after an evaluation. -/
def keepEvaluation (rt : ReflexRuntime) (state next : ReflexActivationState)
    (lease : Option ReflexRuntimeLease) : ReflexProg Unit :=
  if next.stateSha256 ≠ state.stateSha256 then do
    ReflexProg.write .activation next
    if next.routingInfluenceActive then
      (match lease with
        | some lease => ReflexProg.write .lease
            (buildLease rt next.stateSha256 lease.validThroughEpoch lease.setAtEvaluationEpoch)
        | none => pure ())
    else ReflexProg.remove .lease
  else pure ()

def evaluateActive (rt : ReflexRuntime) (input : ReflexInput) (epoch : ℕ) :
    ReflexProg (Option ReflexRoutingInfluenceSignal × ReflexEvaluationReport) := do
  let _ ← recover rt epoch
  let policy ← loadPolicy rt
  let state ← loadActivation rt
  match policy, state with
  | some policy, some state =>
      if state.routingInfluenceActive then do
        let lease ← loadLease rt
        let evaluation ← GovernedReflexRuntimeInfluence.evaluate rt policy state input
        keepEvaluation rt state evaluation.next lease
        appendLedger rt "runtime" epoch evaluation.receipt
        return (evaluation.signal,
          ⟨evaluation.status, evaluation.next.routingInfluenceActive, evaluation.receipt⟩)
      else return (none, ⟨"INACTIVE", false, []⟩)
  | _, _ => return (none, ⟨"INACTIVE", false, []⟩)

end ReflexRuntimeControlPlane

end PhiOS
