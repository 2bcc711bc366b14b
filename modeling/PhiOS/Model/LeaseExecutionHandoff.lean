import PhiOS.Model.GhostWalkLease

/-!
# The lease-only execution handoff

`GhostWalkLeaseExecutionHandoff.execute` of `macro_lease_execution_handoff.py`. The caller names a
lease and nothing else; the binding, the policy, the enforcement profile and the authority epoch
are recovered from custody and compared with the lease record, the lease is claimed, and the
stored payload goes through the spine. Every return is put on record by a receipt.
-/

set_option autoImplicit false

namespace PhiOS

open Interaction RealityLedger GhostWalk

/-- A handoff object: its lock, its policies and its spine. -/
structure GhostWalkLeaseExecutionHandoff where
  service : ℕ
  policies : GhostWalkLeasePolicyRegistry
  spine : PhiOSSpine

namespace GhostWalkLeaseExecutionHandoff

/-- `GhostWalkLeaseExecutionError(message)`. -/
def err (message : String) : PyError := ⟨.ghostWalkLeaseExecutionError, message, []⟩

variable (iso : Iso8601) (sha256 : Json → String)

/-- `_optional_text` of a field that the code fills. -/
def optionalText (maximum : ℕ) (value : Option String) (field : String) : Except PyError Unit :=
  match value with
  | none => .ok ()
  | some text => do
      let _ ← requireText .ghostWalkLeaseExecutionError maximum text field

def optionalSha256 (value : Option String) (field : String) : Except PyError Unit :=
  match value with
  | none => .ok ()
  | some text => do
      let _ ← requireSha256 .ghostWalkLeaseExecutionError text field

/-- `GhostWalkLeaseExecutionReceipt.__post_init__`. -/
def checkReceipt (receipt : GhostWalkLeaseExecutionReceipt) : Except PyError Unit := do
  let cls := ErrorClass.ghostWalkLeaseExecutionError
  raiseIf (receipt.schemaVersion ≠ "phios.ghostwalk_lease_execution_receipt.v0.35")
    (err "unsupported Ghost-Walk lease execution receipt schema")
  let _ ← requireText cls 512 receipt.reason "reason"
  let _ ← requireSha256 cls receipt.actionLeaseSha256 "action_lease_sha256"
  let attempted ← parseTimeSaying " must include a timezone" iso cls receipt.attemptedAt
    "attempted_at"
  raiseIf (iso.isoformat attempted ≠ receipt.attemptedAt)
    (err "attempted_at must use canonical UTC ISO-8601 form")
  optionalSha256 receipt.leaseRecordSha256 "lease_record_sha256"
  optionalSha256 receipt.targetInferenceReceiptSha256 "target_inference_receipt_sha256"
  optionalSha256 receipt.executableBindingSha256 "executable_binding_sha256"
  optionalSha256 receipt.authorityEpochSha256 "authority_epoch_sha256"
  optionalSha256 receipt.policySha256 "policy_sha256"
  optionalSha256 receipt.enforcementProfileSha256 "enforcement_profile_sha256"
  optionalText 512 receipt.spineReceiptId "spine_receipt_id"
  optionalText 64 (receipt.spinePermissionStatus.map (·.value)) "spine_permission_status"
  optionalText 64 (receipt.spineExecutionStatus.map (·.value)) "spine_execution_status"
  raiseIf (receipt.actionAuthority = true ∨ receipt.executionAuthority = true)
    (err "execution receipt cannot grant authority")
  raiseIf (receipt.leaseConsumed = true ∧ receipt.leaseClaimed = false)
    (err "consumed lease must have been claimed")
  raiseIf (receipt.executorEntered = true ∧ receipt.leaseClaimed = false)
    (err "entered executor must have a claimed lease")
  if receipt.status = .held ∨ receipt.status = .denied then
    raiseIf (receipt.executorEntered = true ∨ receipt.leaseConsumed = true)
      (err "held or denied execution cannot consume the lease")
    raiseIf (receipt.effectPerformed ≠ some false)
      (err "held or denied execution cannot claim an effect")
  if receipt.status = .succeeded then
    raiseIf (receipt.executorEntered = false ∨ receipt.leaseConsumed = false ∨
        receipt.effectPerformed ≠ some true)
      (err "successful execution receipt is incomplete")
  if receipt.status = .failed ∨ receipt.status = .outcomeUnknown then
    raiseIf (receipt.executorEntered = false ∨ receipt.leaseConsumed = false)
      (err "entered failed/unknown execution must consume lease")
    raiseIf (receipt.effectPerformed ≠ none)
      (err "failed/unknown effect state must remain unknown")

/-- What a call has recovered from custody so far. -/
structure Recovered where
  record : Option GhostWalkActionLeaseRecord := none
  binding : Option GhostWalkExecutableBinding := none
  policy : Option GhostWalkLeasePolicy := none
  profile : Option EnforcementProfile := none
  authorityEpochSha256 : Option String := none

def recordReceipt (leaseSha attemptedAt : String) (found : Recovered) (status : HandoffStatus)
    (reason : String) (execution : Option ExecutionReceipt) (executorEntered leaseClaimed
    leaseConsumed replayBlocked : Bool) (effectPerformed : Option Bool) :
    GhostWalkProg GhostWalkLeaseExecutionReceipt := do
  let receipt : GhostWalkLeaseExecutionReceipt := {
    status, reason
    actionLeaseSha256 := leaseSha
    attemptedAt
    leaseRecordSha256 := found.record.map (·.leaseRecordSha256 sha256)
    targetInferenceReceiptSha256 := found.record.map (·.targetInferenceReceiptSha256)
    executableBindingSha256 := (found.binding.map (·.executableBindingSha256 sha256)).or
      (found.record.map (·.executableBindingSha256))
    authorityEpochSha256 := found.authorityEpochSha256
    policySha256 := (found.policy.map (·.policySha256 sha256)).or
      (found.record.map (·.policySha256))
    enforcementProfileSha256 := (found.profile.map (·.profileSha256 sha256)).or
      (found.record.map (·.enforcementProfile.profileSha256 sha256))
    spineReceiptId := execution.map (·.receiptId)
    spinePermissionStatus := execution.map (·.permissionStatus)
    spineExecutionStatus := execution.map (·.executionStatus)
    executorEntered, leaseClaimed, leaseConsumed, replayBlocked, effectPerformed }
  .ofExcept (checkReceipt iso receipt)
  appendExecutionReceipt receipt
  return receipt

def held (leaseSha attemptedAt reason : String) (found : Recovered) (replayBlocked : Bool) :
    GhostWalkProg GhostWalkLeaseExecutionReceipt :=
  recordReceipt iso sha256 leaseSha attemptedAt found .held reason none false false false
    replayBlocked (some false)

def leaseRecord (leaseSha : String) : GhostWalkProg (Option GhostWalkActionLeaseRecord) := do
  let rows ← leaseRecords (.lease leaseSha)
  let records ← .ofExcept <| rows.mapM fun row => row.parsed.mapError fun e =>
    if e.cls = .ghostWalkActionLeaseError then
      err "persisted Ghost-Walk ActionLease custody is invalid"
    else e
  match records with
  | [] => return none
  | [record] =>
      if record.actionLease.actionLeaseSha256 sha256 ≠ leaseSha then
        .raise (err "ActionLease lookup returned mismatched custody")
      else return some record
  | _ => .raise (err "ActionLease identity is not unique in Ghost-Walk custody")

/-- The `except GhostWalkCapabilityBindingError` clause of `_current_binding`. -/
def bindingError (e : PyError) : PyError :=
  if e.cls = .ghostWalkCapabilityBindingError then
    err "current executable binding could not be verified"
  else e

def currentBinding (record : GhostWalkActionLeaseRecord) :
    GhostWalkProg (Option GhostWalkExecutableBinding) := do
  let latest ← tryLatestBinding record.targetInferenceReceiptSha256
  let binding ← .ofExcept (latest.mapError bindingError)
  let readiness ← tryBindingReadiness record.targetInferenceReceiptSha256
  let readiness ← .ofExcept (readiness.mapError bindingError)
  match binding with
  | none => return none
  | some binding =>
      if binding.executableBindingSha256 sha256 ≠ record.executableBindingSha256 then return none
      if !readiness.confirms sha256 binding then return none
      return some binding

def currentPolicyAndProfile (policies : GhostWalkLeasePolicyRegistry)
    (record : GhostWalkActionLeaseRecord) (binding : GhostWalkExecutableBinding) :
    Except PyError (Option (GhostWalkLeasePolicy × EnforcementProfile)) := do
  match ← policies.forBinding binding with
  | none => return none
  | some policy =>
      if policy.policySha256 sha256 ≠ record.policySha256 then return none
      let profile ←
        (EnforcementProfile.build sha256 binding.effectIntent policy.enforcementRules).mapError
          fun e => if e.cls = .enforcementProfileContractError then
            err "current lease policy cannot reconstruct EnforcementProfile" else e
      if profile.profileSha256 sha256 ≠ record.enforcementProfile.profileSha256 sha256 then
        return none
      if policy.acceptedUnenforcedEffects ≠ profile.effectsWithoutEnforcedRule then return none
      return some (policy, profile)

def currentEpoch : GhostWalkProg (Option AuthorityEpoch) := do
  let epoch ← tryCurrentEpoch
  .ofExcept <| epoch.mapError fun e =>
    if e.cls = .authorityEpochContractError then
      err "current AuthorityEpoch could not be verified"
    else e

def validateExactScope (record : GhostWalkActionLeaseRecord) (binding : GhostWalkExecutableBinding)
    (policy : GhostWalkLeasePolicy) (profile : EnforcementProfile) : Except PyError Unit :=
  let lease := record.actionLease
  raiseIf (lease.authorizationReceiptSha256 ≠ binding.authorizationDecisionSha256 ∨
      lease.effectIntentSha256 ≠ binding.effectIntent.effectIntentSha256 sha256 ∨
      lease.enforcementProfileSha256 ≠ profile.profileSha256 sha256 ∨
      lease.capabilityId ≠ binding.capabilityId ∨
      lease.capabilityVersion ≠ binding.capabilityVersion ∨
      lease.payloadSha256 ≠ binding.payloadSha256 ∨
      lease.effectsDeclared ≠ binding.effectsDeclared ∨
      lease.permissionsAuthorized ≠ binding.permissionsRequired ∨
      lease.principalId ≠ policy.principalId ∨ lease.issuerId ≠ policy.issuerId ∨
      lease.acceptedUnenforcedEffects ≠ policy.acceptedUnenforcedEffects)
    (err "ActionLease scope diverges from current Ghost-Walk custody")

def runtimeScopeReason (spine : PhiOSSpine) (binding : GhostWalkExecutableBinding) :
    Except PyError (Option String) := do
  match spine.registry.get binding.capabilityId with
  | .error _ => return some "capability_not_registered"
  | .ok capability =>
      match normalizeEffects capability.effects "runtime capability effects" false with
      | .error _ => return some "capability_effect_contract_invalid"
      | .ok effects =>
          if capability.version ≠ binding.capabilityVersion ∨
              capability.permissions ≠ binding.permissionsRequired ∨
              effects ≠ binding.effectsDeclared then
            return some "capability_contract_drift"
          match spine.executors.effects capability.id with
          | .error _ => return some "executor_effect_contract_missing"
          | .ok executorEffects =>
              let decision ← spine.effectPolicy.evaluate capability executorEffects
              if decision.allowed then return none
              return some ("effect_boundary_" ++ decision.reason)

def validateSpineReceipt (execution : ExecutionReceipt) (binding : GhostWalkExecutableBinding)
    (provenance : GhostWalkExecutionProvenance) : Except PyError Unit := do
  raiseIf (execution.capabilityId ≠ binding.capabilityId)
    (err "Spine receipt capability diverged from binding")
  raiseIf (execution.inputSha256 ≠ binding.payloadSha256)
    (err "Spine receipt payload diverged from binding")
  raiseIf (execution.permissionsRequested ≠ binding.permissionsRequired)
    (err "Spine permission request diverged from binding")
  raiseIf (execution.governedProvenance ≠ some (.ghostWalk provenance))
    (err "Spine execution provenance diverged from Ghost-Walk custody")

/-- The outcome table of `_complete`: the status, the reason and the effect. -/
def outcomes : ExecutionStatus → Option (HandoffStatus × String × Option Bool)
  | .succeeded => some (.succeeded, "spine_execution_succeeded", some true)
  | .failed => some (.failed, "spine_execution_failed", none)
  | .outcomeUnknown => some (.outcomeUnknown, "spine_execution_outcome_unknown", none)
  | .notExecuted => none

/-- `self._ledger.release_action_lease_claim(lease_sha)` unless the executor was entered, and the
error after it. -/
def releaseUnlessEntered (leaseSha : String) (execution : ExecutionReceipt) (message : String) :
    GhostWalkProg GhostWalkLeaseExecutionReceipt := do
  if !execution.executorEntered then onLedger (releaseActionLeaseClaim leaseSha)
  .raise (err message)

/-- `_complete`. The permission state is one of the two that a spine writes. -/
def complete (leaseSha attemptedAt : String) (found : Recovered) (execution : ExecutionReceipt) :
    GhostWalkProg GhostWalkLeaseExecutionReceipt := do
  match execution.permissionStatus with
  | .denied => do
      onLedger (releaseActionLeaseClaim leaseSha)
      let reason := match execution.error with
        | some error => if error = "" then "spine_permission_denied" else error
        | none => "spine_permission_denied"
      recordReceipt iso sha256 leaseSha attemptedAt found .denied reason (some execution)
        false true false false (some false)
  | .allowed =>
      match outcomes execution.executionStatus with
      | none =>
          releaseUnlessEntered leaseSha execution "Spine returned unsupported execution state"
      | some (status, reason, effectPerformed) =>
          if !execution.executorEntered then
            releaseUnlessEntered leaseSha execution
              "effectful Spine outcome did not record executor entry"
          else
            recordReceipt iso sha256 leaseSha attemptedAt found status reason (some execution)
              true true true false effectPerformed

/-- The part of `execute` after the claim. -/
def executeClaimed (handoff : GhostWalkLeaseExecutionHandoff) (leaseSha attemptedAt : String)
    (record : GhostWalkActionLeaseRecord) (binding : GhostWalkExecutableBinding)
    (policy : GhostWalkLeasePolicy) (profile : EnforcementProfile) (epoch : AuthorityEpoch)
    (found : Recovered) : GhostWalkProg GhostWalkLeaseExecutionReceipt := do
  let provenance : GhostWalkExecutionProvenance := {
    schemaVersion := "phios.ghostwalk_execution_provenance.v0.35"
    targetInferenceReceiptSha256 := record.targetInferenceReceiptSha256
    authorizationDecisionSha256 := binding.authorizationDecisionSha256
    executableBindingSha256 := binding.executableBindingSha256 sha256
    leaseRecordSha256 := record.leaseRecordSha256 sha256
    actionLeaseSha256 := leaseSha
    authorityEpochSha256 := epoch.authorityEpochSha256 sha256
    policySha256 := policy.policySha256 sha256
    enforcementProfileSha256 := profile.profileSha256 sha256 }
  match ← (onLedger (handoff.spine.runOn binding.capabilityId binding.payload
      (some (.ghostWalk provenance)))).attempt with
  | .error e =>
      if e.cls.isKeyTypeOrValueError then
        onLedger (releaseActionLeaseClaim leaseSha)
        .raise (err "Spine rejected execution before a receipted executor attempt")
      else if e.cls.isException then
        .raise (err "unexpected Spine failure after lease claim; claim retained fail-closed")
      else .raise e
  | .ok execution =>
      .ofExcept (validateSpineReceipt execution binding provenance)
      complete iso sha256 leaseSha attemptedAt found execution

/-- The evaluation of the lease against the ledger, the clock and the epoch. -/
def evaluate (leaseSha attemptedAt : String) (record : GhostWalkActionLeaseRecord)
    (epoch : AuthorityEpoch) : GhostWalkProg ActionLeaseEvaluation := do
  let currency := fun e : PyError =>
    if e.cls = .osError ∨ e.cls.isValueError then
      err "ActionLease currency could not be verified safely"
    else e
  let consumed ← onLedger (tryHasConsumedActionLease leaseSha)
  let consumed ← .ofExcept (consumed.mapError currency)
  .ofExcept <| (evaluateActionLease iso sha256 record.actionLease attemptedAt
    (epoch.authorityEpochSha256 sha256) (if consumed then 1 else 0)).mapError currency

/-- The body of `execute` under the lock. -/
def executeLocked (handoff : GhostWalkLeaseExecutionHandoff) (leaseSha attemptedAt : String) :
    GhostWalkProg GhostWalkLeaseExecutionReceipt := do
  let hold := held iso sha256 leaseSha attemptedAt
  match ← leaseRecord sha256 leaseSha with
  | none => hold "lease_not_found" {} false
  | some record =>
  match ← currentBinding sha256 record with
  | none => hold "executable_binding_stale" { record } false
  | some binding =>
  match ← .ofExcept (currentPolicyAndProfile sha256 handoff.policies record binding) with
  | none => hold "lease_policy_or_enforcement_changed" { record, binding } false
  | some (policy, profile) =>
  let found : Recovered := { record, binding, policy, profile }
  match ← currentEpoch with
  | none => hold "authority_epoch_unavailable" found false
  | some epoch =>
  let epochSha := epoch.authorityEpochSha256 sha256
  let found := { found with authorityEpochSha256 := some epochSha }
  if epochSha ≠ record.actionLease.authorityEpochSha256 then
    return ← hold "authority_epoch_changed" found false
  .ofExcept (validateExactScope sha256 record binding policy profile)
  if let some reason ← .ofExcept (runtimeScopeReason handoff.spine binding) then
    return ← hold reason found false
  let evaluation ← evaluate iso sha256 leaseSha attemptedAt record epoch
  if !evaluation.usable then
    return ← hold evaluation.reason found (evaluation.reason = "lease_consumed")
  match ← onLedger (claimActionLease leaseSha) with
  | .error e =>
      .raise (if e.cls = .osError ∨ e.cls.isValueError then
        err "ActionLease could not be claimed safely" else e)
  | .ok false => hold "lease_execution_claim_unavailable" found true
  | .ok true =>
      executeClaimed iso sha256 handoff leaseSha attemptedAt record binding policy profile epoch
        found

def execute (handoff : GhostWalkLeaseExecutionHandoff) (actionLeaseSha256 : String) :
    GhostWalkProg GhostWalkLeaseExecutionReceipt := do
  let leaseSha ← .ofExcept
    (requireSha256 .ghostWalkLeaseExecutionError actionLeaseSha256 "action_lease_sha256")
  let attempted ← now (err "execution clock must return timezone-aware datetime")
  withLock handoff.service (executeLocked iso sha256 handoff leaseSha (iso.isoformat attempted))

end GhostWalkLeaseExecutionHandoff

end PhiOS
