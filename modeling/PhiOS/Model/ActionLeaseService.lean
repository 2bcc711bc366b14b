import PhiOS.Model.GhostWalkLease

/-!
# The Ghost-Walk lease service

`GhostWalkActionLeaseService` of `macro_action_lease_service.py`. Under the lock of its object,
`issue` recomputes the trusted state for a target, looks for a record of the target's binding, and
appends one if there is none. `readiness` computes the same state without the lock.
-/

set_option autoImplicit false

namespace PhiOS

open Interaction GhostWalk

/-- `GhostWalkLeaseReadinessReason`. -/
inductive LeaseReadinessReason
  | ready
  | executableBindingRequired
  | executableBindingStale
  | leasePolicyMissing
  | enforcementProfileIncomplete
  | unenforcedEffectAckRequired
  | authorityEpochUnavailable
  | authorityEpochStale
  | authorityPrincipalMismatch
  | authorityPermissionMissing
  | leaseAlreadyExists
  deriving DecidableEq

def LeaseReadinessReason.value : LeaseReadinessReason → String
  | .ready => "READY"
  | .executableBindingRequired => "EXECUTABLE_BINDING_REQUIRED"
  | .executableBindingStale => "EXECUTABLE_BINDING_STALE"
  | .leasePolicyMissing => "LEASE_POLICY_MISSING"
  | .enforcementProfileIncomplete => "ENFORCEMENT_PROFILE_INCOMPLETE"
  | .unenforcedEffectAckRequired => "UNENFORCED_EFFECT_ACK_REQUIRED"
  | .authorityEpochUnavailable => "AUTHORITY_EPOCH_UNAVAILABLE"
  | .authorityEpochStale => "AUTHORITY_EPOCH_STALE"
  | .authorityPrincipalMismatch => "AUTHORITY_PRINCIPAL_MISMATCH"
  | .authorityPermissionMissing => "AUTHORITY_PERMISSION_MISSING"
  | .leaseAlreadyExists => "LEASE_ALREADY_EXISTS"

structure GhostWalkLeaseReadiness where
  targetInferenceReceiptSha256 : String
  executableBindingSha256 : Option String
  policySha256 : Option String
  policySetSha256 : String
  enforcementProfileSha256 : Option String
  authorityEpochSha256 : Option String
  requiredPermissions : List String
  missingPermissions : List String
  unenforcedEffects : List String
  acceptedUnenforcedEffects : List String
  existingActionLeaseSha256 : Option String
  ready : Bool
  reason : LeaseReadinessReason
  effectPerformed : Bool := false
  operationalAuthority : Bool := false
  actionAuthority : Bool := false
  executionAuthority : Bool := false
  schemaVersion : String := "phios.ghostwalk_lease_readiness.v0.34"
  deriving DecidableEq

namespace GhostWalkLeaseReadiness

def optionalSha256 (value : Option String) (field : String) : Except PyError Unit :=
  match value with
  | none => .ok ()
  | some text => do
      let _ ← requireSha256 .ghostWalkActionLeaseError text field

def postInit (readiness : GhostWalkLeaseReadiness) : Except PyError Unit := do
  let cls := ErrorClass.ghostWalkActionLeaseError
  raiseIf (readiness.schemaVersion ≠ "phios.ghostwalk_lease_readiness.v0.34")
    (ghostWalkLeaseErr "unsupported Ghost-Walk lease readiness schema")
  let _ ← requireSha256 cls readiness.targetInferenceReceiptSha256
    "target_inference_receipt_sha256"
  optionalSha256 readiness.executableBindingSha256 "executable_binding_sha256"
  optionalSha256 readiness.policySha256 "policy_sha256"
  let _ ← requireSha256 cls readiness.policySetSha256 "policy_set_sha256"
  optionalSha256 readiness.enforcementProfileSha256 "enforcement_profile_sha256"
  optionalSha256 readiness.authorityEpochSha256 "authority_epoch_sha256"
  optionalSha256 readiness.existingActionLeaseSha256 "existing_action_lease_sha256"
  let _ ← canonicalTextTuple cls readiness.requiredPermissions "required_permissions"
  let _ ← canonicalTextTuple cls readiness.missingPermissions "missing_permissions"
  let _ ← canonicalTextTuple cls readiness.unenforcedEffects "unenforced_effects"
  let _ ← canonicalTextTuple cls readiness.acceptedUnenforcedEffects "accepted_unenforced_effects"
  raiseIf (readiness.ready ≠ decide (readiness.reason = .ready))
    (ghostWalkLeaseErr "lease readiness Boolean must match reason")
  raiseIf (readiness.effectPerformed ∨ readiness.operationalAuthority ∨
      readiness.actionAuthority ∨ readiness.executionAuthority)
    (ghostWalkLeaseErr "lease readiness cannot carry effects or authority")

end GhostWalkLeaseReadiness

/-- A service object: its lock and its policies. -/
structure GhostWalkActionLeaseService where
  service : ℕ
  policies : GhostWalkLeasePolicyRegistry

namespace GhostWalkActionLeaseService

variable (iso : Iso8601) (sha256 : Json → String)

/-- The dictionary that `_trusted_state` returns. -/
structure TrustedState where
  reason : LeaseReadinessReason
  binding : Option GhostWalkExecutableBinding := none
  policy : Option GhostWalkLeasePolicy := none
  profile : Option EnforcementProfile := none
  epoch : Option AuthorityEpoch := none
  existing : Option GhostWalkActionLeaseRecord := none
  requiredPermissions : List String := []
  missingPermissions : List String := []
  unenforcedEffects : List String := []
  acceptedUnenforcedEffects : List String := []

/-- `_parse_time`. -/
def parseLeaseTime (value field : String) : Except PyError ℤ :=
  parseTimeSaying " must include a timezone" iso .ghostWalkActionLeaseError value field

def parseRecord (row : LeaseRow) : Except PyError GhostWalkActionLeaseRecord :=
  row.parsed.mapError fun e =>
    if e.cls = .ghostWalkActionLeaseError then
      ghostWalkLeaseErr "persisted Ghost-Walk ActionLease record is invalid"
    else e

/-- The error of `_record_for_binding` on a second record. -/
def multipleLeasesErr : PyError :=
  ghostWalkLeaseErr "multiple ActionLeases exist for one executable binding"

def recordForBinding (bindingSha256 : String) :
    GhostWalkProg (Option GhostWalkActionLeaseRecord) := do
  let rows ← leaseRecords (.binding bindingSha256)
  let records ← .ofExcept (rows.mapM parseRecord)
  match records with
  | [] => return none
  | [record] => return some record
  | _ => .raise multipleLeasesErr

/-- The `except GhostWalkCapabilityBindingError` clauses of `_trusted_state`. -/
def bindingError (e : PyError) : PyError :=
  if e.cls = .ghostWalkCapabilityBindingError then ghostWalkLeaseErr e.message else e

/-- What `_trusted_state` finds out about the epoch at the instant `now`. -/
def epochReason (policy : GhostWalkLeasePolicy) (epoch : AuthorityEpoch) (now : ℤ) :
    Except PyError (Option LeaseReadinessReason) := do
  if epoch.principalId ≠ policy.principalId then return some .authorityPrincipalMismatch
  let observed ← parseLeaseTime iso epoch.observedAt "AuthorityEpoch observed_at"
  if now < observed then return some .authorityEpochStale
  match epoch.nextKnownTransitionAt with
  | none => return none
  | some text =>
      let transition ← parseLeaseTime iso text "AuthorityEpoch next_known_transition_at"
      return if transition ≤ now then some .authorityEpochStale else none

def trustedState (service : GhostWalkActionLeaseService) (target : String) (now : ℤ) :
    GhostWalkProg TrustedState := do
  let latest ← tryLatestBinding target
  match ← .ofExcept (latest.mapError bindingError) with
  | none => return { reason := .executableBindingRequired }
  | some binding =>
  let readiness ← tryBindingReadiness target
  let readiness ← .ofExcept (readiness.mapError bindingError)
  let found : TrustedState := {
    reason := .executableBindingStale, binding
    requiredPermissions := binding.permissionsRequired }
  if !readiness.confirms sha256 binding then return found
  match ← .ofExcept (service.policies.forBinding binding) with
  | none => return { found with reason := .leasePolicyMissing }
  | some policy =>
  let profile ← .ofExcept <|
    (EnforcementProfile.build sha256 binding.effectIntent policy.enforcementRules).mapError
      fun e => if e.cls = .enforcementProfileContractError then
        ghostWalkLeaseErr "lease policy cannot form EnforcementProfile" else e
  let unenforced := profile.effectsWithoutEnforcedRule
  let found := { found with
    policy, profile
    unenforcedEffects := unenforced
    acceptedUnenforcedEffects := policy.acceptedUnenforcedEffects }
  if !profile.mappingComplete then
    return { found with reason := .enforcementProfileIncomplete }
  if policy.acceptedUnenforcedEffects ≠ unenforced then
    return { found with reason := .unenforcedEffectAckRequired }
  let epoch ← tryCurrentEpoch
  match ← .ofExcept (epoch.mapError fun e => if e.cls = .authorityEpochContractError then
      ghostWalkLeaseErr "AuthorityEpoch provider failed" else e) with
  | none => return { found with reason := .authorityEpochUnavailable }
  | some epoch =>
  let found := { found with epoch }
  if let some reason ← .ofExcept (epochReason iso policy epoch now) then
    return { found with reason }
  let missing := binding.permissionsRequired.filter fun p => !epoch.grants.contains p
  if missing ≠ [] then
    return { found with reason := .authorityPermissionMissing, missingPermissions := missing }
  match ← recordForBinding (binding.executableBindingSha256 sha256) with
  | some existing => return { found with reason := .leaseAlreadyExists, existing }
  | none => return { found with reason := .ready }

def readiness (service : GhostWalkActionLeaseService) (targetInferenceReceiptSha256 : String) :
    GhostWalkProg GhostWalkLeaseReadiness := do
  let target ← .ofExcept (requireSha256 .ghostWalkActionLeaseError targetInferenceReceiptSha256
    "target_inference_receipt_sha256")
  let now ← now (ghostWalkLeaseErr "lease clock must return timezone-aware datetime")
  let state ← trustedState iso sha256 service target now
  let result : GhostWalkLeaseReadiness := {
    targetInferenceReceiptSha256 := target
    executableBindingSha256 := state.binding.map (·.executableBindingSha256 sha256)
    policySha256 := state.policy.map (·.policySha256 sha256)
    policySetSha256 := service.policies.policySetSha256
    enforcementProfileSha256 := state.profile.map (·.profileSha256 sha256)
    authorityEpochSha256 := state.epoch.map (·.authorityEpochSha256 sha256)
    requiredPermissions := state.requiredPermissions
    missingPermissions := state.missingPermissions
    unenforcedEffects := state.unenforcedEffects
    acceptedUnenforcedEffects := state.acceptedUnenforcedEffects
    existingActionLeaseSha256 := state.existing.map (·.actionLease.actionLeaseSha256 sha256)
    ready := state.reason = .ready
    reason := state.reason }
  .ofExcept result.postInit
  return result

def latest (targetInferenceReceiptSha256 : String) :
    GhostWalkProg (Option GhostWalkActionLeaseRecord) := do
  let target ← .ofExcept (requireSha256 .ghostWalkActionLeaseError targetInferenceReceiptSha256
    "target_inference_receipt_sha256")
  let rows ← leaseRecords (.target target)
  let records ← .ofExcept (rows.mapM parseRecord)
  return records.getLast?

/-- The keyword arguments of `issue`. -/
structure IssueRequest where
  targetInferenceReceiptSha256 : String
  expectedExecutableBindingSha256 : String
  expectedPolicySha256 : String
  expectedPolicySetSha256 : String
  expectedEnforcementProfileSha256 : String
  expectedAuthorityEpochSha256 : String

/-- The end of the lease that `issue` makes: the policy's bound or the epoch's next transition. -/
def leaseEnd (policy : GhostWalkLeasePolicy) (epoch : AuthorityEpoch) (now : ℤ) :
    Except PyError ℤ := do
  let validUntil := now + policy.maxLeaseSeconds * 1000000
  match epoch.nextKnownTransitionAt with
  | none => return validUntil
  | some text =>
      let transition ← parseLeaseTime iso text "next_known_transition_at"
      return if transition < validUntil then transition else validUntil

/-- The record that `issue` makes of a trusted state which is ready. -/
def issueRecord (service : GhostWalkActionLeaseService) (request : IssueRequest) (now : ℤ)
    (binding : GhostWalkExecutableBinding) (policy : GhostWalkLeasePolicy)
    (profile : EnforcementProfile) (epoch : AuthorityEpoch) :
    Except PyError GhostWalkActionLeaseRecord := do
  raiseIf (binding.executableBindingSha256 sha256 ≠ request.expectedExecutableBindingSha256)
    (ghostWalkLeaseErr "executable binding changed before lease issuance")
  raiseIf (policy.policySha256 sha256 ≠ request.expectedPolicySha256)
    (ghostWalkLeaseErr "lease policy changed before lease issuance")
  raiseIf (service.policies.policySetSha256 ≠ request.expectedPolicySetSha256)
    (ghostWalkLeaseErr "lease policy registry changed before lease issuance")
  raiseIf (profile.profileSha256 sha256 ≠ request.expectedEnforcementProfileSha256)
    (ghostWalkLeaseErr "enforcement profile changed before lease issuance")
  raiseIf (epoch.authorityEpochSha256 sha256 ≠ request.expectedAuthorityEpochSha256)
    (ghostWalkLeaseErr "AuthorityEpoch changed before lease issuance")
  let validUntil ← leaseEnd iso policy epoch now
  raiseIf (validUntil ≤ now)
    (ghostWalkLeaseErr "current AuthorityEpoch leaves no valid lease window")
  let issuedAt := iso.isoformat now
  let lease ← (ActionLease.issue iso sha256 policy.principalId policy.issuerId
    binding.authorizationDecisionSha256 binding.effectIntent profile epoch
    policy.permissionsAuthorized policy.acceptedUnenforcedEffects issuedAt issuedAt
    (iso.isoformat validUntil)).mapError fun e =>
      if e.cls = .actionLeaseContractError then
        ghostWalkLeaseErr "ActionLease construction failed"
      else e
  let record : GhostWalkActionLeaseRecord := {
    targetInferenceReceiptSha256 := request.targetInferenceReceiptSha256
    executableBindingSha256 := binding.executableBindingSha256 sha256
    policySha256 := policy.policySha256 sha256
    enforcementProfile := profile
    authorityEpoch := epoch
    actionLease := lease
    recordedAt := issuedAt }
  record.postInit iso sha256
  return record

/-- The body of `issue` under the lock. -/
def issueLocked (service : GhostWalkActionLeaseService) (request : IssueRequest) :
    GhostWalkProg GhostWalkActionLeaseRecord := do
  let now ← now (ghostWalkLeaseErr "lease clock must return timezone-aware datetime")
  let state ← trustedState iso sha256 service request.targetInferenceReceiptSha256 now
  if state.reason ≠ .ready then
    .raise (ghostWalkLeaseErr ("ActionLease not ready: " ++ state.reason.value))
  else
    match state.binding, state.policy, state.profile, state.epoch with
    | some binding, some policy, some profile, some epoch => do
        let record ← .ofExcept
          (issueRecord iso sha256 service request now binding policy profile epoch)
        appendLeaseRecord record
        return record
    | _, _, _, _ => .raise ⟨.exception "AssertionError", "", []⟩

def issue (service : GhostWalkActionLeaseService) (request : IssueRequest) :
    GhostWalkProg GhostWalkActionLeaseRecord := do
  let cls := ErrorClass.ghostWalkActionLeaseError
  let target ← .ofExcept (requireSha256 cls request.targetInferenceReceiptSha256
    "target_inference_receipt_sha256")
  let binding ← .ofExcept (requireSha256 cls request.expectedExecutableBindingSha256
    "expected_executable_binding_sha256")
  let policy ← .ofExcept (requireSha256 cls request.expectedPolicySha256 "expected_policy_sha256")
  let policySet ← .ofExcept (requireSha256 cls request.expectedPolicySetSha256
    "expected_policy_set_sha256")
  let profile ← .ofExcept (requireSha256 cls request.expectedEnforcementProfileSha256
    "expected_enforcement_profile_sha256")
  let epoch ← .ofExcept (requireSha256 cls request.expectedAuthorityEpochSha256
    "expected_authority_epoch_sha256")
  withLock service.service
    (issueLocked iso sha256 service ⟨target, binding, policy, policySet, profile, epoch⟩)

end GhostWalkActionLeaseService

end PhiOS
