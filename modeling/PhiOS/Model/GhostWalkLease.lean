import PhiOS.Model.ActionLease
import PhiOS.Model.ExecutionHandoff

/-!
# Ghost-Walk bindings, lease policies and lease records

What `macro_action_lease_service.py` and `macro_lease_execution_handoff.py` share: the executable
binding of `macro_capability_binding.py`, the server-owned lease policies, the custody record of
an issued lease, and the operations on the trusted state behind both services.
-/

set_option autoImplicit false

namespace PhiOS

open Interaction

def ghostWalkExecutableBindingSchemaVersion : String :=
  "phios.ghostwalk_executable_binding.v0.33"
def ghostWalkLeasePolicySchemaVersion : String := "phios.ghostwalk_lease_policy.v0.34"
def ghostWalkActionLeaseRecordSchemaVersion : String := "phios.ghostwalk_action_lease_record.v0.34"

structure GhostWalkExecutableBinding where
  authorizationDecisionSha256 : String
  authorityRequestSha256 : String
  targetInferenceReceiptSha256 : String
  actionObservationSha256 : String
  intentCode : String
  mappingId : String
  mappingSha256 : String
  mappingSetSha256 : String
  capabilityId : String
  capabilityVersion : String
  payload : Json
  payloadSha256 : String
  permissionsRequired : List String
  effectsDeclared : List String
  effectIntent : EffectIntent
  boundAt : String
  effectPerformed : Bool := false
  policyAuthority : Bool := false
  operationalAuthority : Bool := false
  actionAuthority : Bool := false
  executionAuthority : Bool := false
  schemaVersion : String := ghostWalkExecutableBindingSchemaVersion

def GhostWalkExecutableBinding.executableBindingSha256 (sha256 : Json → String)
    (binding : GhostWalkExecutableBinding) : String :=
  sha256 <| .obj [("schema_version", .str binding.schemaVersion),
    ("authorization_decision_sha256", .str binding.authorizationDecisionSha256),
    ("authority_request_sha256", .str binding.authorityRequestSha256),
    ("target_inference_receipt_sha256", .str binding.targetInferenceReceiptSha256),
    ("action_observation_sha256", .str binding.actionObservationSha256),
    ("intent_code", .str binding.intentCode), ("mapping_id", .str binding.mappingId),
    ("mapping_sha256", .str binding.mappingSha256),
    ("mapping_set_sha256", .str binding.mappingSetSha256),
    ("capability_id", .str binding.capabilityId),
    ("capability_version", .str binding.capabilityVersion), ("payload", binding.payload),
    ("payload_sha256", .str binding.payloadSha256),
    ("permissions_required", .strs binding.permissionsRequired),
    ("effects_declared", .strs binding.effectsDeclared),
    ("effect_intent", binding.effectIntent.bodyDict.withField "effect_intent_sha256"
      (.str (binding.effectIntent.effectIntentSha256 sha256))),
    ("bound_at", .str binding.boundAt), ("effect_performed", .bool binding.effectPerformed),
    ("policy_authority", .bool binding.policyAuthority),
    ("operational_authority", .bool binding.operationalAuthority),
    ("action_authority", .bool binding.actionAuthority),
    ("execution_authority", .bool binding.executionAuthority)]

/-- `GhostWalkBindingReadinessReason`. -/
inductive BindingReadinessReason
  | ready
  | authorizationDecisionRequired
  | authorizationNotApproved
  | authorizationStale
  | noMapping
  | ambiguousMapping
  | actionEvidenceMissing
  | mappingConstraintMismatch
  | bindingAlreadyExists
  deriving DecidableEq

/-- The attributes of a readiness object that the lease services read. -/
structure BindingReadiness where
  reason : Option BindingReadinessReason
  existingBindingSha256 : Option String
  deriving DecidableEq

/-- The readiness object says that `binding` is the one on file. -/
def BindingReadiness.confirms (sha256 : Json → String) (readiness : BindingReadiness)
    (binding : GhostWalkExecutableBinding) : Bool :=
  readiness.reason = some .bindingAlreadyExists &&
    readiness.existingBindingSha256 = some (binding.executableBindingSha256 sha256)

/-! ## Lease policies -/

structure GhostWalkLeasePolicy where
  policyId : String
  principalId : String
  issuerId : String
  capabilityId : String
  capabilityVersion : String
  permissionsAuthorized : List String
  effectsDeclared : List String
  enforcementRules : List EnforcementRule
  acceptedUnenforcedEffects : List String
  maxLeaseSeconds : ℤ := 30
  effectPerformed : Bool := false
  operationalAuthority : Bool := false
  actionAuthority : Bool := false
  executionAuthority : Bool := false
  schemaVersion : String := ghostWalkLeasePolicySchemaVersion
  deriving DecidableEq

def GhostWalkLeasePolicy.policySha256 (sha256 : Json → String) (policy : GhostWalkLeasePolicy) :
    String :=
  sha256 <| .obj [("schema_version", .str policy.schemaVersion),
    ("policy_id", .str policy.policyId), ("principal_id", .str policy.principalId),
    ("issuer_id", .str policy.issuerId), ("capability_id", .str policy.capabilityId),
    ("capability_version", .str policy.capabilityVersion),
    ("permissions_authorized", .strs policy.permissionsAuthorized),
    ("effects_declared", .strs policy.effectsDeclared),
    ("enforcement_rules", .arr (policy.enforcementRules.map (·.toDict sha256))),
    ("accepted_unenforced_effects", .strs policy.acceptedUnenforcedEffects),
    ("max_lease_seconds", .int policy.maxLeaseSeconds),
    ("effect_performed", .bool policy.effectPerformed),
    ("operational_authority", .bool policy.operationalAuthority),
    ("action_authority", .bool policy.actionAuthority),
    ("execution_authority", .bool policy.executionAuthority)]

structure GhostWalkLeasePolicyRegistry where
  policies : List GhostWalkLeasePolicy
  policySetSha256 : String

/-- `GhostWalkActionLeaseError(message)`. -/
def ghostWalkLeaseErr (message : String) : PyError := ⟨.ghostWalkActionLeaseError, message, []⟩

def GhostWalkLeasePolicyRegistry.forBinding (registry : GhostWalkLeasePolicyRegistry)
    (binding : GhostWalkExecutableBinding) : Except PyError (Option GhostWalkLeasePolicy) :=
  let found := registry.policies.filter fun policy =>
    policy.capabilityId = binding.capabilityId &&
      policy.capabilityVersion = binding.capabilityVersion &&
      policy.permissionsAuthorized = binding.permissionsRequired &&
      policy.effectsDeclared = binding.effectsDeclared
  if 1 < found.length then
    .error (ghostWalkLeaseErr "multiple lease policies match executable binding")
  else .ok found.head?

/-! ## Lease records -/

structure GhostWalkActionLeaseRecord where
  targetInferenceReceiptSha256 : String
  executableBindingSha256 : String
  policySha256 : String
  enforcementProfile : EnforcementProfile
  authorityEpoch : AuthorityEpoch
  actionLease : ActionLease
  recordedAt : String
  effectPerformed : Bool := false
  executionAuthority : Bool := false
  schemaVersion : String := ghostWalkActionLeaseRecordSchemaVersion

namespace GhostWalkActionLeaseRecord

variable (iso : Iso8601) (sha256 : Json → String)

def leaseRecordSha256 (record : GhostWalkActionLeaseRecord) : String :=
  sha256 <| .obj [("schema_version", .str record.schemaVersion),
    ("target_inference_receipt_sha256", .str record.targetInferenceReceiptSha256),
    ("executable_binding_sha256", .str record.executableBindingSha256),
    ("policy_sha256", .str record.policySha256),
    ("enforcement_profile", (record.enforcementProfile.bodyDict sha256).withField
      "profile_sha256" (.str (record.enforcementProfile.profileSha256 sha256))),
    ("authority_epoch", record.authorityEpoch.bodyDict.withField "authority_epoch_sha256"
      (.str (record.authorityEpoch.authorityEpochSha256 sha256))),
    ("action_lease", record.actionLease.bodyDict.withField "action_lease_sha256"
      (.str (record.actionLease.actionLeaseSha256 sha256))),
    ("recorded_at", .str record.recordedAt), ("effect_performed", .bool record.effectPerformed),
    ("execution_authority", .bool record.executionAuthority)]

def postInit (record : GhostWalkActionLeaseRecord) : Except PyError Unit := do
  let cls := ErrorClass.ghostWalkActionLeaseError
  raiseIf (record.schemaVersion ≠ ghostWalkActionLeaseRecordSchemaVersion)
    (ghostWalkLeaseErr "unsupported Ghost-Walk ActionLease record schema")
  let _ ← requireSha256 cls record.targetInferenceReceiptSha256 "target_inference_receipt_sha256"
  let _ ← requireSha256 cls record.executableBindingSha256 "executable_binding_sha256"
  let _ ← requireSha256 cls record.policySha256 "policy_sha256"
  let recorded ← parseTimeSaying " must include a timezone" iso cls record.recordedAt "recorded_at"
  raiseIf (record.recordedAt ≠ iso.isoformat recorded)
    (ghostWalkLeaseErr "recorded_at must use canonical UTC ISO-8601 form")
  raiseIf (record.enforcementProfile.profileSha256 sha256 ≠
      record.actionLease.enforcementProfileSha256)
    (ghostWalkLeaseErr "lease record enforcement profile differs from ActionLease")
  raiseIf (record.authorityEpoch.authorityEpochSha256 sha256 ≠
      record.actionLease.authorityEpochSha256)
    (ghostWalkLeaseErr "lease record AuthorityEpoch differs from ActionLease")
  raiseIf (record.effectPerformed = true ∨ record.executionAuthority = true)
    (ghostWalkLeaseErr "lease record cannot claim execution or performed effect")

end GhostWalkActionLeaseRecord

/-- A line of the record file: the three digests it is looked up by, as far as it has them, and
what `GhostWalkActionLeaseRecord.from_dict` makes of it. -/
structure LeaseRow where
  targetInferenceReceiptSha256 : Option String
  executableBindingSha256 : Option String
  actionLeaseSha256 : Option String
  parsed : Except PyError GhostWalkActionLeaseRecord

/-- The line that `to_dict` makes of a record, which `from_dict` reads back. -/
def LeaseRow.ofRecord (sha256 : Json → String) (record : GhostWalkActionLeaseRecord) :
    LeaseRow where
  targetInferenceReceiptSha256 := some record.targetInferenceReceiptSha256
  executableBindingSha256 := some record.executableBindingSha256
  actionLeaseSha256 := some (record.actionLease.actionLeaseSha256 sha256)
  parsed := .ok record

/-- The keyword a lookup in the record file is made by. -/
inductive LeaseQuery
  | target (sha256 : String)
  | binding (sha256 : String)
  | lease (sha256 : String)
  deriving DecidableEq

/-- The row answers the query. -/
def LeaseQuery.selects : LeaseQuery → LeaseRow → Bool
  | .target sha256, row => row.targetInferenceReceiptSha256 = some sha256
  | .binding sha256, row => row.executableBindingSha256 = some sha256
  | .lease sha256, row => row.actionLeaseSha256 = some sha256

/-! ## The operations behind the two services -/

structure GhostWalkLeaseExecutionReceipt where
  status : HandoffStatus
  reason : String
  actionLeaseSha256 : String
  attemptedAt : String
  leaseRecordSha256 : Option String
  targetInferenceReceiptSha256 : Option String
  executableBindingSha256 : Option String
  authorityEpochSha256 : Option String
  policySha256 : Option String
  enforcementProfileSha256 : Option String
  spineReceiptId : Option String
  spinePermissionStatus : Option PermissionStatus
  spineExecutionStatus : Option ExecutionStatus
  executorEntered : Bool
  leaseClaimed : Bool
  leaseConsumed : Bool
  replayBlocked : Bool
  effectPerformed : Option Bool
  actionAuthority : Bool := false
  executionAuthority : Bool := false
  schemaVersion : String := "phios.ghostwalk_lease_execution_receipt.v0.35"
  deriving DecidableEq

/-- What the services ask of the lock of their object, the clock, the binding port, the epoch
provider and the ledger directory. -/
inductive GhostWalkOp
  | acquire (service : ℕ)
  | release (service : ℕ)
  | clock
  | latestBinding (target : String)
  | bindingReadiness (target : String)
  | currentEpoch
  | leaseRecords (query : LeaseQuery)
  | appendLeaseRecord (record : GhostWalkActionLeaseRecord)
  | appendExecutionReceipt (receipt : GhostWalkLeaseExecutionReceipt)
  | ledger (o : LedgerOp)

/-- The replies: the ports and the record file may raise. -/
def GhostWalkOp.Reply : GhostWalkOp → Type
  | .acquire _ | .release _ => Unit
  | .clock => DateTime
  | .latestBinding _ => Except PyError (Option GhostWalkExecutableBinding)
  | .bindingReadiness _ => Except PyError BindingReadiness
  | .currentEpoch => Except PyError (Option AuthorityEpoch)
  | .leaseRecords _ => Except StorageFault (List LeaseRow)
  | .appendLeaseRecord _ | .appendExecutionReceipt _ => AppendReply
  | .ledger o => o.Reply

abbrev GhostWalkProg := Prog GhostWalkOp.Reply PyError

/-- The ledger directory with the record files of both services, and the locks of their objects. -/
structure GhostWalkState where
  ledger : LedgerState
  leaseRows : List LeaseRow
  executionReceipts : List GhostWalkLeaseExecutionReceipt
  locked : ℕ → Bool

namespace GhostWalkState

/-- The replies that are possible. A lock is only acquired when it is free; the ports and the clock
may answer anything. -/
def Admits (state : GhostWalkState) : (o : GhostWalkOp) → o.Reply → Prop
  | .acquire service, _ => state.locked service = false
  | .leaseRecords query, .ok rows => rows = state.leaseRows.filter query.selects
  | .ledger o, reply => state.ledger.Admits o reply
  | .leaseRecords _, .error _ | .release _, _ | .clock, _ | .latestBinding _, _
  | .bindingReadiness _, _ | .currentEpoch, _ | .appendLeaseRecord _, _
  | .appendExecutionReceipt _, _ => True

/-- The state after an operation. -/
def after (sha256 : Json → String) (state : GhostWalkState) : (o : GhostWalkOp) → o.Reply →
    GhostWalkState
  | .acquire service, _ => { state with locked := Function.update state.locked service true }
  | .release service, _ => { state with locked := Function.update state.locked service false }
  | .appendLeaseRecord record, reply =>
      { state with
        leaseRows := state.leaseRows ++
          if AppendReply.isStored reply then [LeaseRow.ofRecord sha256 record] else [] }
  | .appendExecutionReceipt receipt, reply =>
      { state with
        executionReceipts := state.executionReceipts ++
          if AppendReply.isStored reply then [receipt] else [] }
  | .ledger o, reply => { state with ledger := state.ledger.after o reply }
  | .clock, _ | .latestBinding _, _ | .bindingReadiness _, _ | .currentEpoch, _
  | .leaseRecords _, _ => state

/-- What an operation does to the state. -/
def Effect (sha256 : Json → String) (state : GhostWalkState) (o : GhostWalkOp) (reply : o.Reply)
    (state' : GhostWalkState) : Prop :=
  state.Admits o reply ∧ state' = state.after sha256 o reply

end GhostWalkState

namespace GhostWalk

/-- `with self._lock:`. -/
def withLock {α : Type} (service : ℕ) (body : GhostWalkProg α) : GhostWalkProg α := do
  let _ : Unit ← Prog.call (GhostWalkOp.acquire service)
  let result ← body.attempt
  let _ : Unit ← Prog.call (GhostWalkOp.release service)
  .ofExcept result

/-- `_now`, for the error on a clock without a timezone. -/
def now (naive : PyError) : GhostWalkProg ℤ := do
  let value : DateTime ← Prog.call GhostWalkOp.clock
  match value with
  | .naive => .raise naive
  | .aware utc => return utc

/-- `self._capability_bindings.latest`, with its exception as a value. -/
def tryLatestBinding (target : String) :
    GhostWalkProg (Except PyError (Option GhostWalkExecutableBinding)) :=
  Prog.call (GhostWalkOp.latestBinding target)

/-- `self._capability_bindings.readiness`, with its exception as a value. -/
def tryBindingReadiness (target : String) : GhostWalkProg (Except PyError BindingReadiness) :=
  Prog.call (GhostWalkOp.bindingReadiness target)

/-- `self._authority_epochs.current()`, with its exception as a value. -/
def tryCurrentEpoch : GhostWalkProg (Except PyError (Option AuthorityEpoch)) :=
  Prog.call GhostWalkOp.currentEpoch

/-- `self._ledger.ghostwalk_action_lease_records`. -/
def leaseRecords (query : LeaseQuery) : GhostWalkProg (List LeaseRow) := do
  let reply : Except StorageFault (List LeaseRow) ← Prog.call (GhostWalkOp.leaseRecords query)
  .ofExcept (reply.mapError (·.1))

/-- `self._ledger.append_ghostwalk_action_lease_record`. -/
def appendLeaseRecord (record : GhostWalkActionLeaseRecord) : GhostWalkProg Unit := do
  let reply : AppendReply ← Prog.call (GhostWalkOp.appendLeaseRecord record)
  .ofExcept (reply.result.mapError (·.1))

/-- `self._ledger.append_ghostwalk_lease_execution_receipt`. -/
def appendExecutionReceipt (receipt : GhostWalkLeaseExecutionReceipt) : GhostWalkProg Unit := do
  let reply : AppendReply ← Prog.call (GhostWalkOp.appendExecutionReceipt receipt)
  .ofExcept (reply.result.mapError (·.1))

/-- A program on the ledger directory. -/
def onLedger {α : Type} (program : LedgerProg α) : GhostWalkProg α :=
  program.hoist .ledger fun _ reply => reply

end GhostWalk

end PhiOS
