import PhiOS.Model.ActionLease
import PhiOS.Model.ExecutionHandoff

/-!
# The leased execution handoff

`core/leased_execution_handoff.py`: a governed execution behind one verified action lease. The
lease is compared with the verification and the binding, evaluated at the given time, claimed, and
spent on one inner handoff; the claim goes away again when that handoff consumed nothing.
-/

set_option autoImplicit false

namespace PhiOS

open Interaction RealityLedger

def leaseVerificationEvidenceSchemaVersion : String := "phios.lease_verification_evidence.v0.1"
def leasedExecutionHandoffReceiptSchemaVersion : String :=
  "phios.leased_execution_handoff_receipt.v0.1"

structure LeaseVerificationEvidence where
  leaseSha256 : String
  issuerId : String
  authorizationReceiptSha256 : String
  verifierId : String
  verificationReceiptSha256 : String
  accepted : Bool
  actionAuthority : Bool := false
  executionAuthority : Bool := false
  effectPerformed : Bool := false
  schemaVersion : String := leaseVerificationEvidenceSchemaVersion
  deriving DecidableEq

def LeaseVerificationEvidence.verificationEvidenceSha256 (sha256 : Json → String)
    (evidence : LeaseVerificationEvidence) : String :=
  sha256 <| .obj [("schema_version", .str evidence.schemaVersion),
    ("lease_sha256", .str evidence.leaseSha256), ("issuer_id", .str evidence.issuerId),
    ("authorization_receipt_sha256", .str evidence.authorizationReceiptSha256),
    ("verifier_id", .str evidence.verifierId),
    ("verification_receipt_sha256", .str evidence.verificationReceiptSha256),
    ("accepted", .bool evidence.accepted), ("action_authority", .bool evidence.actionAuthority),
    ("execution_authority", .bool evidence.executionAuthority),
    ("effect_performed", .bool evidence.effectPerformed)]

structure LeasedExecutionHandoffReceipt where
  status : HandoffStatus
  reason : String
  actionLeaseSha256 : String
  authorityEpochSha256 : String
  verificationEvidenceSha256 : String
  leaseEvaluation : Option ActionLeaseEvaluation
  leaseClaimed : Bool
  leaseConsumed : Bool
  replayBlocked : Bool
  innerHandoff : Option ExecutionHandoffReceipt
  actionAuthority : Bool := false
  executionAuthority : Bool := false
  effectPerformed : Bool := false
  schemaVersion : String := leasedExecutionHandoffReceiptSchemaVersion
  deriving DecidableEq

/-- The arguments of `GovernedLeasedExecutionHandoff.execute`. -/
structure LeasedExecutionRequest where
  plan : PlanState
  binding : PlanActionBinding
  payload : Json
  spine : PhiOSSpine
  lease : ActionLease
  verification : LeaseVerificationEvidence
  currentAuthorityEpochSha256 : String
  checkedAt : String

namespace GovernedLeasedExecutionHandoff

/-- `LeasedExecutionHandoffError(message)`. -/
def err (message : String) : PyError := ⟨.leasedExecutionHandoffError, message, []⟩

def verificationReason (sha256 : Json → String) (lease : ActionLease)
    (verification : LeaseVerificationEvidence) : Option String :=
  if !verification.accepted then some "lease_authorization_not_verified"
  else if verification.leaseSha256 ≠ lease.actionLeaseSha256 sha256 then
    some "lease_verification_scope_mismatch"
  else if verification.issuerId ≠ lease.issuerId then some "lease_issuer_verification_mismatch"
  else if verification.authorizationReceiptSha256 ≠ lease.authorizationReceiptSha256 then
    some "lease_authorization_receipt_verification_mismatch"
  else none

def scopeReason (lease : ActionLease) (binding : PlanActionBinding) : Option String :=
  if lease.capabilityId ≠ binding.capabilityId then some "lease_capability_scope_mismatch"
  else if lease.capabilityVersion ≠ binding.capabilityVersion then
    some "lease_capability_version_scope_mismatch"
  else if lease.payloadSha256 ≠ binding.payloadSha256 then some "lease_payload_scope_mismatch"
  else if lease.effectsDeclared ≠ binding.effectsDeclared then some "lease_effect_scope_mismatch"
  else if lease.permissionsAuthorized ≠ binding.permissionsRequested.insertionSort (· ≤ ·) then
    some "lease_permission_scope_mismatch"
  else none

variable (iso : Iso8601) (sha256 : Json → String) (digest : Json → Except PyError String)

def held (request : LeasedExecutionRequest) (currentEpoch reason : String)
    (evaluation : Option ActionLeaseEvaluation) (replayBlocked : Bool) :
    LeasedExecutionHandoffReceipt where
  status := .held
  reason := reason
  actionLeaseSha256 := request.lease.actionLeaseSha256 sha256
  authorityEpochSha256 := currentEpoch
  verificationEvidenceSha256 := request.verification.verificationEvidenceSha256 sha256
  leaseEvaluation := evaluation
  leaseClaimed := false
  leaseConsumed := false
  replayBlocked := replayBlocked
  innerHandoff := none

/-- The request that goes to the inner handoff. -/
def innerRequest (request : LeasedExecutionRequest) : ExecutionRequest where
  plan := request.plan
  binding := request.binding
  payload := request.payload
  spine := request.spine
  actionLeaseSha256 := some (request.lease.actionLeaseSha256 sha256)
  authorityEpochSha256 := some request.lease.authorityEpochSha256
  authorizationReceiptSha256 := some request.lease.authorizationReceiptSha256
  leaseVerificationSha256 := some (request.verification.verificationEvidenceSha256 sha256)

/-- The part of `execute` after the claim. -/
def executeClaimed (request : LeasedExecutionRequest) (currentEpoch : String)
    (evaluation : ActionLeaseEvaluation) : LedgerProg LeasedExecutionHandoffReceipt := do
  let leaseSha := request.lease.actionLeaseSha256 sha256
  let inner ← GovernedExecutionHandoff.execute digest (innerRequest sha256 request)
  if !inner.bindingConsumed then releaseActionLeaseClaim leaseSha
  return {
    status := inner.status
    reason := inner.reason
    actionLeaseSha256 := leaseSha
    authorityEpochSha256 := currentEpoch
    verificationEvidenceSha256 := request.verification.verificationEvidenceSha256 sha256
    leaseEvaluation := some evaluation
    leaseClaimed := true
    leaseConsumed := inner.bindingConsumed
    replayBlocked := inner.replayBlocked
    innerHandoff := some inner }

def execute (request : LeasedExecutionRequest) : LedgerProg LeasedExecutionHandoffReceipt := do
  let leaseSha := request.lease.actionLeaseSha256 sha256
  let currentEpoch ← .ofExcept (requireSha256 .leasedExecutionHandoffError
    request.currentAuthorityEpochSha256 "current_authority_epoch_sha256")
  if let some reason := verificationReason sha256 request.lease request.verification then
    return held sha256 request currentEpoch reason none false
  if let some reason := scopeReason request.lease request.binding then
    return held sha256 request currentEpoch reason none false
  match ← tryHasConsumedActionLease leaseSha with
  | .error e =>
      .raise (if GovernedExecutionHandoff.isOSOrValueError e then
        err "ActionLease consumption state could not be verified safely" else e)
  | .ok consumed =>
      let evaluation ← .ofExcept <|
        (evaluateActionLease iso sha256 request.lease request.checkedAt currentEpoch
          (if consumed then 1 else 0)).mapError fun e =>
            if e.cls = .actionLeaseContractError then err e.message else e
      if !evaluation.usable then
        return held sha256 request currentEpoch evaluation.reason (some evaluation)
          (evaluation.reason = "lease_consumed")
      match ← claimActionLease leaseSha with
      | .error e =>
          .raise (if GovernedExecutionHandoff.isOSOrValueError e then
            err "ActionLease could not be claimed safely" else e)
      | .ok false =>
          return held sha256 request currentEpoch "lease_execution_claim_unavailable"
            (some evaluation) true
      | .ok true => executeClaimed sha256 digest request currentEpoch evaluation

end GovernedLeasedExecutionHandoff

end PhiOS
