import PhiOS.Library.Program
import PhiOS.Model.Effects

/-!
# The execution spine

`PhiOSSpine.run` of `spine/runtime.py`, with the packets and receipts of `mandala/contracts.py`
and `mandala/receipts.py` it writes and the execution receipt of `spine/models.py` it returns.
A run is a program: fresh identifiers, the clock, the two ledgers and the executor registry are
operations, and a ledger append or a handler may answer with an exception.
-/

set_option autoImplicit false

namespace PhiOS

open Interaction

/-! ## Packets and receipts -/

inductive Gate
  | perception
  | deliberation
  | action
  | memory
  deriving DecidableEq

inductive MandalaStatus
  | accepted
  | rejected
  | quarantined
  | degraded
  | blocked
  | aborted
  | disputed
  | unknown
  deriving DecidableEq

/-- The value of the enumeration member. -/
def MandalaStatus.value : MandalaStatus → String
  | .accepted => "ACCEPTED"
  | .rejected => "REJECTED"
  | .quarantined => "QUARANTINED"
  | .degraded => "DEGRADED"
  | .blocked => "BLOCKED"
  | .aborted => "ABORTED"
  | .disputed => "DISPUTED"
  | .unknown => "UNKNOWN"

inductive OriginKind
  | human
  | subsystem
  | tool
  | model
  | file
  | device
  | service
  deriving DecidableEq

structure OriginRef where
  kind : OriginKind
  identifier : String
  deriving DecidableEq

def mandalaContractVersion : String := "phios.mandala.v0.1"

structure AuthorityContext where
  ceiling : List String
  grants : List String
  deriving DecidableEq

structure MandalaPacket where
  packetId : String
  parentId : Option String
  taskId : String
  gate : Gate
  origin : OriginRef
  payloadDigest : String
  authority : AuthorityContext
  evidenceRefs : List String
  claims : List (List (String × String))
  allowedDestinations : List Gate
  contractVersion : String := mandalaContractVersion
  payload : Json

/-- The fields of `ReceiptEnvelope`, as `receipt_meta` fills them. -/
structure ReceiptMeta where
  receiptId : String
  packetId : String
  taskId : String
  status : MandalaStatus
  producedBy : String
  timestampUtc : String
  contractVersion : String
  parentReceiptId : Option String
  deriving DecidableEq

structure EffectBoundaryReceipt extends ReceiptMeta where
  capabilityId : String
  capabilityVersion : String
  capabilityRisk : String
  capabilityEffects : List String
  executorEffects : List String
  activeEffects : List String
  effectContractMatch : Bool
  classificationComplete : Bool
  semanticReadLabelConflict : Bool
  effectPolicySha256 : String
  reason : String
  actionAuthority : Bool := false
  executionAuthority : Bool := false
  receiptSha256 : String := ""
  deriving DecidableEq

/-- `to_dict`, in the order of the fields. -/
def EffectBoundaryReceipt.toDict (receipt : EffectBoundaryReceipt) : Json :=
  .obj [("receipt_id", .str receipt.receiptId), ("packet_id", .str receipt.packetId),
    ("task_id", .str receipt.taskId), ("status", .str receipt.status.value),
    ("produced_by", .str receipt.producedBy), ("timestamp_utc", .str receipt.timestampUtc),
    ("contract_version", .str receipt.contractVersion),
    ("parent_receipt_id", .optStr receipt.parentReceiptId),
    ("receipt_type", .str "EffectBoundaryReceipt"),
    ("capability_id", .str receipt.capabilityId),
    ("capability_version", .str receipt.capabilityVersion),
    ("capability_risk", .str receipt.capabilityRisk),
    ("capability_effects", .strs receipt.capabilityEffects),
    ("executor_effects", .strs receipt.executorEffects),
    ("active_effects", .strs receipt.activeEffects),
    ("effect_contract_match", .bool receipt.effectContractMatch),
    ("classification_complete", .bool receipt.classificationComplete),
    ("semantic_read_label_conflict", .bool receipt.semanticReadLabelConflict),
    ("effect_policy_sha256", .str receipt.effectPolicySha256), ("reason", .str receipt.reason),
    ("action_authority", .bool receipt.actionAuthority),
    ("execution_authority", .bool receipt.executionAuthority),
    ("receipt_sha256", .str receipt.receiptSha256)]

structure GateReceipt extends ReceiptMeta where
  gate : Gate
  reason : String
  provenanceRefs : List String
  authority : AuthorityContext
  deriving DecidableEq

/-- What an action receipt says became of the action; the values of `execution_status` too. -/
inductive ExecutionStatus
  | notExecuted
  | succeeded
  | failed
  | outcomeUnknown
  deriving DecidableEq

/-- The text of the status. -/
def ExecutionStatus.value : ExecutionStatus → String
  | .notExecuted => "not_executed"
  | .succeeded => "succeeded"
  | .failed => "failed"
  | .outcomeUnknown => "outcome_unknown"

structure ActionReceipt extends ReceiptMeta where
  approvedGrant : List String
  sideEffect : List (String × String)
  outcome : ExecutionStatus
  externalIdentifiers : List (String × String)
  deriving DecidableEq

structure AbortReceipt extends ReceiptMeta where
  terminalReason : String
  eligibleArtifacts : List String
  quarantinedArtifacts : List String
  deriving DecidableEq

/-- The records of the Mandala ledger that a run appends. -/
inductive MandalaReceipt
  | effectBoundary (receipt : EffectBoundaryReceipt)
  | gate (receipt : GateReceipt)
  | action (receipt : ActionReceipt)
  | abort (receipt : AbortReceipt)
  deriving DecidableEq

structure ExecutionProvenance where
  schemaVersion : String
  planId : String
  planStateSha256 : String
  planRevision : ℤ
  transitionIndex : ℤ
  sourceStateId : String
  targetStateId : String
  actionBindingSha256 : String
  actionLeaseSha256 : Option String := none
  authorityEpochSha256 : Option String := none
  authorizationReceiptSha256 : Option String := none
  leaseVerificationSha256 : Option String := none
  deriving DecidableEq

structure GhostWalkExecutionProvenance where
  schemaVersion : String
  targetInferenceReceiptSha256 : String
  authorizationDecisionSha256 : String
  executableBindingSha256 : String
  leaseRecordSha256 : String
  actionLeaseSha256 : String
  authorityEpochSha256 : String
  policySha256 : String
  enforcementProfileSha256 : String
  deriving DecidableEq

/-- `ExecutionProvenance | GhostWalkExecutionProvenance`. -/
inductive GovernedProvenance
  | plan (provenance : ExecutionProvenance)
  | ghostWalk (provenance : GhostWalkExecutionProvenance)
  deriving DecidableEq

inductive PermissionStatus
  | allowed
  | denied
  deriving DecidableEq

/-- The text of the status. -/
def PermissionStatus.value : PermissionStatus → String
  | .allowed => "allowed"
  | .denied => "denied"

inductive ReconciliationStatus
  | notRequired
  | required
  deriving DecidableEq

structure ExecutionReceipt where
  schemaVersion : String
  receiptId : String
  timestampUtc : String
  capabilityId : String
  planner : String
  inputSha256 : String
  permissionsRequested : List String
  permissionStatus : PermissionStatus
  executionStatus : ExecutionStatus
  artifactPath : Option String := none
  artifactSha256 : Option String := none
  error : Option String := none
  packetId : Option String := none
  gateReceiptId : Option String := none
  actionReceiptId : Option String := none
  mandalaStatus : Option MandalaStatus := none
  governedProvenance : Option GovernedProvenance := none
  executorEntered : Bool := false
  reconciliationStatus : ReconciliationStatus := .notRequired
  deriving DecidableEq

/-- `receipt.action_receipt_id = action_receipt.receipt_id` and the status beside it. -/
def ExecutionReceipt.recordAction (receipt : ExecutionReceipt) (action : ActionReceipt) :
    ExecutionReceipt :=
  { receipt with
    actionReceiptId := some action.receiptId
    mandalaStatus := some action.status }

/-! ## The operations of a run -/

structure ArtifactResult where
  path : String
  sha256 : String
  deriving DecidableEq

/-- What a run asks of its environment. -/
inductive SpineOp
  | uuid4
  | now
  | mandalaAppend (receipt : MandalaReceipt)
  | ledgerAppend (receipt : ExecutionReceipt)
  | execute (capabilityId : String) (payload : Json)

/-- How an append to a ledger ends: the record is in the file and the append returns, the record
is in the file and the append raises (a failed sync), or the append raises and the file has no
such record. -/
inductive AppendReply
  | stored
  | storedRaised (fault : StorageFault)
  | lost (fault : StorageFault)

/-- Whether the record is in the file. -/
def AppendReply.isStored : AppendReply → Bool
  | .stored | .storedRaised _ => true
  | .lost _ => false

/-- What the caller sees. -/
def AppendReply.result : AppendReply → Except StorageFault Unit
  | .stored => .ok ()
  | .storedRaised fault | .lost fault => .error fault

/-- The replies: an append or a handler may raise. -/
def SpineOp.Reply : SpineOp → Type
  | .uuid4 | .now => String
  | .mandalaAppend _ | .ledgerAppend _ => AppendReply
  | .execute _ _ => Except PyError ArtifactResult

abbrev SpineProg := Prog SpineOp.Reply PyError

def uuid4 : SpineProg String := Prog.call SpineOp.uuid4

/-- `datetime.now(UTC).isoformat()`. -/
def utcNow : SpineProg String := Prog.call SpineOp.now

/-- `self.mandala_ledger.append(receipt)`, with its exception as a value. -/
def tryMandalaAppend (receipt : MandalaReceipt) : SpineProg (Except StorageFault Unit) := do
  let reply : AppendReply ← Prog.call (SpineOp.mandalaAppend receipt)
  return reply.result

/-- `self.mandala_ledger.append(receipt)`. -/
def mandalaAppend (receipt : MandalaReceipt) : SpineProg Unit := do
  match ← tryMandalaAppend receipt with
  | .ok () => return ()
  | .error e => .raise e.1

/-- `self.ledger.append(receipt)`, with its exception as a value. -/
def tryLedgerAppend (receipt : ExecutionReceipt) : SpineProg (Except StorageFault Unit) := do
  let reply : AppendReply ← Prog.call (SpineOp.ledgerAppend receipt)
  return reply.result

/-- `self.ledger.append(receipt)`. -/
def ledgerAppend (receipt : ExecutionReceipt) : SpineProg Unit := do
  match ← tryLedgerAppend receipt with
  | .ok () => return ()
  | .error e => .raise e.1

/-- `self.executors.execute(capability_id, payload)`, with its exception as a value. -/
def tryExecuteHandler (capabilityId : String) (payload : Json) :
    SpineProg (Except PyError ArtifactResult) :=
  Prog.call (SpineOp.execute capabilityId payload)

/-- The digests of the two modules: `canonical_digest` admits the JSON extensions that
`_hash_payload` refuses. Either raises on what it cannot encode. -/
structure Digests where
  canonicalDigest : Json → Except PyError String
  hashPayload : Json → Except PyError String

/-- `PhiPlan`, as `PhiVesselAdapter.plan` makes it. -/
structure PhiPlan where
  capabilityId : String
  payload : Json
  planner : String := "phivessel.spine.deterministic"
  plannerVersion : String := "0.1.0"

/-- `PhiOSSpine`, as far as a run reads it. -/
structure PhiOSSpine where
  registry : CapabilityRegistry
  effectPolicy : EffectBoundaryPolicy
  gate : PermissionGate
  executors : ExecutorRegistry
  taskId : String
  authority : AuthorityContext
  digests : Digests

namespace PhiOSSpine

variable (spine : PhiOSSpine)

def receiptMeta (packet : MandalaPacket) (status : MandalaStatus) (producedBy : String)
    (parentReceiptId : Option String) : SpineProg ReceiptMeta := do
  let receiptId ← uuid4
  let timestampUtc ← utcNow
  return {
    receiptId
    packetId := packet.packetId
    taskId := packet.taskId
    status, producedBy, timestampUtc
    contractVersion := packet.contractVersion
    parentReceiptId }

/-- `_action_packet`, with `MandalaPacket.create`. -/
def actionPacket (plan : PhiPlan) (capability : Capability) : SpineProg MandalaPacket := do
  let packetId ← uuid4
  let payloadDigest ← .ofExcept (spine.digests.canonicalDigest plan.payload)
  return {
    packetId
    parentId := none
    taskId := spine.taskId
    gate := .action
    origin := ⟨.subsystem, plan.planner⟩
    payloadDigest
    authority := spine.authority
    evidenceRefs := []
    claims := [[("kind", "action_request"), ("capability_id", capability.id)]]
    allowedDestinations := [.memory]
    payload := plan.payload }

/-- `self.executors.effects(capability.id)`, a missing executor declaring no effects. -/
def executorEffects (capability : Capability) : List String :=
  match spine.executors.effects capability.id with
  | .ok effects => effects
  | .error _ => []

def effectReceipt (packet : MandalaPacket) (capability : Capability) :
    SpineProg EffectBoundaryReceipt := do
  let decision ← .ofExcept
    (spine.effectPolicy.evaluate capability (spine.executorEffects capability))
  let envelope ← receiptMeta packet (if decision.allowed then .accepted else .blocked)
    "phios.effect_boundary" none
  let body : EffectBoundaryReceipt := {
    toReceiptMeta := envelope
    capabilityId := decision.capabilityId
    capabilityVersion := decision.capabilityVersion
    capabilityRisk := decision.capabilityRisk
    capabilityEffects := decision.capabilityEffects
    executorEffects := decision.executorEffects
    activeEffects := decision.activeEffects
    effectContractMatch := decision.effectContractMatch
    classificationComplete := decision.classificationComplete
    semanticReadLabelConflict := decision.semanticReadLabelConflict
    effectPolicySha256 := decision.policySha256
    reason := decision.reason }
  let receiptSha256 ← .ofExcept (spine.digests.hashPayload body.toDict)
  return { body with receiptSha256 }

def gateReceipt (packet : MandalaPacket) (allowed : Bool) (reason : String)
    (parentReceiptId : Option String) : SpineProg GateReceipt := do
  let envelope ← receiptMeta packet (if allowed then .accepted else .blocked)
    "phios.action_gate" parentReceiptId
  return {
    toReceiptMeta := envelope
    gate := .action
    reason
    provenanceRefs := packet.evidenceRefs
    authority := packet.authority }

/-- The `ActionReceipt` of a run, appended to the Mandala ledger. -/
def actionReceipt (packet : MandalaPacket) (gateReceiptId : String) (status : MandalaStatus)
    (approvedGrant : List String) (sideEffect : List (String × String))
    (outcome : ExecutionStatus) (externalIdentifiers : List (String × String)) :
    SpineProg ActionReceipt := do
  let envelope ← receiptMeta packet status "phios.action_gate" (some gateReceiptId)
  return { toReceiptMeta := envelope, approvedGrant, sideEffect, outcome, externalIdentifiers }

/-- The `ExecutionReceipt` of a run as it is first built. -/
def executionReceipt (plan : PhiPlan) (capability : Capability) (packet : MandalaPacket)
    (gateReceiptId : String) (permissionsRequested : List String)
    (permissionStatus : PermissionStatus) (provenance : Option GovernedProvenance)
    (error : Option String) : SpineProg ExecutionReceipt := do
  let receiptId ← uuid4
  let timestampUtc ← utcNow
  let inputSha256 ← .ofExcept (spine.digests.hashPayload plan.payload)
  return {
    schemaVersion := "phios.execution_receipt.v0.1"
    receiptId, timestampUtc
    capabilityId := capability.id
    planner := plan.planner
    inputSha256, permissionsRequested, permissionStatus
    executionStatus := .notExecuted
    packetId := some packet.packetId
    gateReceiptId := some gateReceiptId
    governedProvenance := provenance
    error }

/-- The last lines of every path: the receipt takes the action receipt's identity and status
and goes to the ledger. -/
def finish (receipt : ExecutionReceipt) (action : ActionReceipt) : SpineProg ExecutionReceipt := do
  let receipt := receipt.recordAction action
  ledgerAppend receipt
  return receipt

/-- The path of a run whose effects the boundary blocks. -/
def runBlocked (plan : PhiPlan) (capability : Capability) (packet : MandalaPacket)
    (effect : EffectBoundaryReceipt) (provenance : Option GovernedProvenance) :
    SpineProg ExecutionReceipt := do
  let gate ← gateReceipt packet false s!"Effect boundary blocked: {effect.reason}"
    (some effect.receiptId)
  mandalaAppend (.gate gate)
  let receipt ← spine.executionReceipt plan capability packet gate.receiptId
    capability.permissions .denied provenance (some s!"effect_boundary:{effect.reason}")
  let action ← actionReceipt packet gate.receiptId .blocked []
    [("capability_id", capability.id), ("effect_boundary_receipt_id", effect.receiptId)]
    .notExecuted []
  mandalaAppend (.action action)
  finish receipt action

/-- The path of a run that the permission gate denies. -/
def runDenied (capability : Capability) (packet : MandalaPacket) (gate : GateReceipt)
    (decision : PermissionDecision) (receipt : ExecutionReceipt) :
    SpineProg ExecutionReceipt := do
  let action ← actionReceipt packet gate.receiptId .blocked decision.granted
    [("capability_id", capability.id)] .notExecuted []
  mandalaAppend (.action action)
  finish { receipt with error := some decision.reason } action

/-- The `try` block: the handler, and the receipt of its success. The exception that leaves the
block comes with the execution receipt as the block had changed it by then. -/
def tryExecute (plan : PhiPlan) (capability : Capability) (packet : MandalaPacket)
    (gate : GateReceipt) (decision : PermissionDecision) (receipt : ExecutionReceipt) :
    SpineProg (Except (ExecutionReceipt × PyError) (ExecutionReceipt × ActionReceipt)) := do
  match ← tryExecuteHandler capability.id plan.payload with
  | .error e => return .error (receipt, e)
  | .ok artifact =>
      let receipt := { receipt with
        executionStatus := .succeeded
        artifactPath := some artifact.path
        artifactSha256 := some artifact.sha256 }
      let action ← actionReceipt packet gate.receiptId .accepted decision.granted
        [("capability_id", capability.id)] .succeeded
        [("artifact_path", artifact.path), ("artifact_sha256", artifact.sha256)]
      match ← tryMandalaAppend (.action action) with
      | .ok () => return .ok (receipt, action)
      | .error e => return .error (receipt, e.1)

/-- The two `except` clauses. What is no `Exception` is not caught. -/
def exceptClauses (capability : Capability) (packet : MandalaPacket) (gate : GateReceipt)
    (decision : PermissionDecision) (receipt : ExecutionReceipt) (e : PyError) :
    SpineProg (ExecutionReceipt × ActionReceipt) := do
  if e.cls = .outcomeUnknownError then
    let receipt := { receipt with
      executionStatus := .outcomeUnknown
      reconciliationStatus := .required
      error := some e.describe }
    let action ← actionReceipt packet gate.receiptId .unknown decision.granted
      [("capability_id", capability.id)] .outcomeUnknown e.externalIdentifiers
    mandalaAppend (.action action)
    return (receipt, action)
  else if e.cls.isException then
    let receipt := { receipt with executionStatus := .failed, error := some e.describe }
    let action ← actionReceipt packet gate.receiptId .aborted decision.granted
      [("capability_id", capability.id)] .failed []
    mandalaAppend (.action action)
    let envelope ← receiptMeta packet .aborted "phios.runtime" (some action.receiptId)
    mandalaAppend (.abort {
      toReceiptMeta := envelope
      terminalReason := e.describe
      eligibleArtifacts := []
      quarantinedArtifacts := [] })
    return (receipt, action)
  else .raise e

/-- The path of a run that both boundaries let through. -/
def runAllowed (plan : PhiPlan) (capability : Capability) (packet : MandalaPacket)
    (gate : GateReceipt) (decision : PermissionDecision) (receipt : ExecutionReceipt) :
    SpineProg ExecutionReceipt := do
  let receipt := { receipt with executorEntered := true }
  match ← tryExecute plan capability packet gate decision receipt with
  | .ok (receipt, action) => finish receipt action
  | .error (receipt, e) =>
      let (receipt, action) ← exceptClauses capability packet gate decision receipt e
      finish receipt action

def run (capabilityId : String) (payload : Json) (provenance : Option GovernedProvenance) :
    SpineProg ExecutionReceipt := do
  let plan : PhiPlan := { capabilityId, payload }
  let capability ← .ofExcept (spine.registry.get plan.capabilityId)
  let packet ← spine.actionPacket plan capability
  let effect ← spine.effectReceipt packet capability
  mandalaAppend (.effectBoundary effect)
  if effect.status = .blocked then
    spine.runBlocked plan capability packet effect provenance
  else
    let decision := spine.gate.evaluate capability
    let gate ← gateReceipt packet decision.allowed decision.reason (some effect.receiptId)
    mandalaAppend (.gate gate)
    let receipt ← spine.executionReceipt plan capability packet gate.receiptId decision.requested
      (if decision.allowed then .allowed else .denied) provenance none
    if !decision.allowed then
      runDenied capability packet gate decision receipt
    else
      runAllowed plan capability packet gate decision receipt

end PhiOSSpine

end PhiOS
