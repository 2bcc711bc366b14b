import PhiOS.Model.LeasedExecutionHandoff
import PhiOS.Model.MacroRunner
import PhiOS.Model.MacroRuntime

/-!
# The governed DO dispatcher

`macro_dispatcher.py` over `macro_spine_bridge.py`. A dispatch takes a runner state that waits for
an operation, executes the operation through the leased handoff, records two receipts, and hands
back the resolution with which the runner can go on.
-/

set_option autoImplicit false

namespace PhiOS

open Interaction

/-! ## The bridge to the spine -/

structure MacroSpineBinding where
  macroId : String
  macroVersion : String
  operationId : String
  operationVersion : String
  operationHash : String
  planId : String
  planStateSha256 : String
  actionBindingSha256 : String
  capabilityId : String
  payloadSha256 : String
  actionLeaseSha256 : String
  operationalAuthority : Bool := false
  actionAuthority : Bool := false
  executionAuthority : Bool := false
  schemaVersion : String := "phios.macro_spine_binding.v0.2"
  deriving DecidableEq

/-- `MacroSpineBridgeContractError(message)`. -/
def macroSpineErr (message : String) : PyError := ⟨.macroSpineBridgeContractError, message, []⟩

namespace MacroSpineBinding

def postInit (binding : MacroSpineBinding) : Except PyError Unit := do
  let cls := ErrorClass.macroSpineBridgeContractError
  raiseIf (binding.schemaVersion ≠ "phios.macro_spine_binding.v0.2")
    (macroSpineErr "unsupported macro spine binding schema")
  let _ ← requireText cls 256 binding.macroId "macro_id"
  let _ ← requireText cls 128 binding.macroVersion "macro_version"
  let _ ← requireText cls 256 binding.operationId "operation_id"
  let _ ← requireText cls 128 binding.operationVersion "operation_version"
  let _ ← requireText cls 256 binding.planId "plan_id"
  let _ ← requireText cls 256 binding.capabilityId "capability_id"
  let _ ← requireSha256 cls binding.operationHash "operation_hash"
  let _ ← requireSha256 cls binding.planStateSha256 "plan_state_sha256"
  let _ ← requireSha256 cls binding.actionBindingSha256 "action_binding_sha256"
  let _ ← requireSha256 cls binding.payloadSha256 "payload_sha256"
  let _ ← requireSha256 cls binding.actionLeaseSha256 "action_lease_sha256"
  raiseIf (binding.operationalAuthority ∨ binding.actionAuthority ∨ binding.executionAuthority)
    (macroSpineErr "macro spine binding cannot carry authority")

def bodyDict (binding : MacroSpineBinding) : Json :=
  .obj [("schema_version", .str binding.schemaVersion), ("macro_id", .str binding.macroId),
    ("macro_version", .str binding.macroVersion), ("operation_id", .str binding.operationId),
    ("operation_version", .str binding.operationVersion),
    ("operation_hash", .str binding.operationHash), ("plan_id", .str binding.planId),
    ("plan_state_sha256", .str binding.planStateSha256),
    ("action_binding_sha256", .str binding.actionBindingSha256),
    ("capability_id", .str binding.capabilityId), ("payload_sha256", .str binding.payloadSha256),
    ("action_lease_sha256", .str binding.actionLeaseSha256),
    ("operational_authority", .bool binding.operationalAuthority),
    ("action_authority", .bool binding.actionAuthority),
    ("execution_authority", .bool binding.executionAuthority)]

def bindingSha256 (sha256 : Json → String) (binding : MacroSpineBinding) : String :=
  sha256 binding.bodyDict

def build (sha256 : Json → String) (macroId macroVersion : String) (operation : Operation)
    (plan : PlanState) (binding : PlanActionBinding) (lease : ActionLease) :
    Except PyError MacroSpineBinding := do
  let built : MacroSpineBinding := {
    macroId, macroVersion
    operationId := operation.operationId
    operationVersion := operation.operationVersion
    operationHash := operation.operationHash sha256
    planId := plan.planId
    planStateSha256 := plan.stateSha256
    actionBindingSha256 := binding.bindingSha256
    capabilityId := binding.capabilityId
    payloadSha256 := binding.payloadSha256
    actionLeaseSha256 := lease.actionLeaseSha256 sha256 }
  built.postInit
  return built

end MacroSpineBinding

def ActionLeaseEvaluation.toDict (evaluation : ActionLeaseEvaluation) : Json :=
  .obj [("schema_version", .str "phios.action_lease_evaluation.v0.1"),
    ("lease_sha256", .str evaluation.leaseSha256), ("checked_at", .str evaluation.checkedAt),
    ("current_authority_epoch_sha256", .str evaluation.currentAuthorityEpochSha256),
    ("uses_consumed", .int evaluation.usesConsumed), ("usable", .bool evaluation.usable),
    ("reason", .str evaluation.reason), ("action_authority", .bool evaluation.actionAuthority),
    ("execution_authority", .bool false), ("effect_performed", .bool false)]

/-- `receipt_sha256` of a leased handoff. -/
def LeasedExecutionHandoffReceipt.receiptSha256 (sha256 : Json → String)
    (receipt : LeasedExecutionHandoffReceipt) : String :=
  sha256 <| .obj [("schema_version", .str receipt.schemaVersion),
    ("status", .str receipt.status.value), ("reason", .str receipt.reason),
    ("action_lease_sha256", .str receipt.actionLeaseSha256),
    ("authority_epoch_sha256", .str receipt.authorityEpochSha256),
    ("verification_evidence_sha256", .str receipt.verificationEvidenceSha256),
    ("lease_evaluation", (receipt.leaseEvaluation.map (·.toDict)).getD .null),
    ("lease_claimed", .bool receipt.leaseClaimed),
    ("lease_consumed", .bool receipt.leaseConsumed),
    ("replay_blocked", .bool receipt.replayBlocked),
    ("inner_handoff", (receipt.innerHandoff.map (·.toDict)).getD .null),
    ("action_authority", .bool receipt.actionAuthority),
    ("execution_authority", .bool receipt.executionAuthority),
    ("effect_performed", .bool receipt.effectPerformed)]

structure MacroSpineReceipt where
  status : HandoffStatus
  reason : String
  macroId : String
  macroVersion : String
  operationId : String
  operationHash : String
  macroSpineBindingSha256 : String
  actionBindingSha256 : String
  actionLeaseSha256 : String
  leasedHandoffReceiptSha256 : String
  spineReceiptId : Option String
  spineExecutionStatus : Option String
  leaseConsumed : Bool
  replayBlocked : Bool
  operationalAuthority : Bool := false
  actionAuthority : Bool := false
  executionAuthority : Bool := false
  effectPerformed : Bool := false
  schemaVersion : String := "phios.macro_spine_receipt.v0.2"
  deriving DecidableEq

namespace MacroSpineReceipt

def postInit (receipt : MacroSpineReceipt) : Except PyError Unit := do
  let cls := ErrorClass.macroSpineBridgeContractError
  raiseIf (receipt.schemaVersion ≠ "phios.macro_spine_receipt.v0.2")
    (macroSpineErr "unsupported macro spine receipt schema")
  let _ ← requireText cls 64 receipt.status.value "status"
  let _ ← requireText cls 256 receipt.reason "reason"
  let _ ← requireText cls 256 receipt.macroId "macro_id"
  let _ ← requireText cls 128 receipt.macroVersion "macro_version"
  let _ ← requireText cls 256 receipt.operationId "operation_id"
  let _ ← requireSha256 cls receipt.operationHash "operation_hash"
  let _ ← requireSha256 cls receipt.macroSpineBindingSha256 "macro_spine_binding_sha256"
  let _ ← requireSha256 cls receipt.actionBindingSha256 "action_binding_sha256"
  let _ ← requireSha256 cls receipt.actionLeaseSha256 "action_lease_sha256"
  let _ ← requireSha256 cls receipt.leasedHandoffReceiptSha256 "leased_handoff_receipt_sha256"
  match receipt.spineReceiptId with
  | none => pure ()
  | some text => do
      let _ ← requireText cls 256 text "spine_receipt_id"
  match receipt.spineExecutionStatus with
  | none => pure ()
  | some text => do
      let _ ← requireText cls 64 text "spine_execution_status"
  raiseIf (receipt.operationalAuthority ∨ receipt.actionAuthority ∨ receipt.executionAuthority ∨
      receipt.effectPerformed)
    (macroSpineErr "macro spine receipt cannot grant authority or claim effects")

def receiptSha256 (sha256 : Json → String) (receipt : MacroSpineReceipt) : String :=
  sha256 <| .obj [("schema_version", .str receipt.schemaVersion),
    ("status", .str receipt.status.value), ("reason", .str receipt.reason),
    ("macro_id", .str receipt.macroId), ("macro_version", .str receipt.macroVersion),
    ("operation_id", .str receipt.operationId), ("operation_hash", .str receipt.operationHash),
    ("macro_spine_binding_sha256", .str receipt.macroSpineBindingSha256),
    ("action_binding_sha256", .str receipt.actionBindingSha256),
    ("action_lease_sha256", .str receipt.actionLeaseSha256),
    ("leased_handoff_receipt_sha256", .str receipt.leasedHandoffReceiptSha256),
    ("spine_receipt_id", .optStr receipt.spineReceiptId),
    ("spine_execution_status", .optStr receipt.spineExecutionStatus),
    ("lease_consumed", .bool receipt.leaseConsumed),
    ("replay_blocked", .bool receipt.replayBlocked),
    ("operational_authority", .bool receipt.operationalAuthority),
    ("action_authority", .bool receipt.actionAuthority),
    ("execution_authority", .bool receipt.executionAuthority),
    ("effect_performed", .bool receipt.effectPerformed)]

end MacroSpineReceipt

def operationCapabilityId (operation : Operation) : Except PyError String :=
  if operation.adapterId = "phios.spine" then .ok operation.action
  else if (operation.adapterId, operation.action) = ("desktop.interaction", "click") then
    .ok "desktop.interaction.click"
  else .error
    (macroSpineErr "macro operation adapter/action has no governed Spine capability mapping")

/-! ## What a dispatch asks of the ledger -/

structure DoDispatchReceipt where
  macroId : String
  macroVersion : String
  macroPlanSha256 : String
  macroRunStateSha256 : String
  instructionPath : String
  operationHash : String
  workPackageSha256 : String
  macroSpineBindingSha256 : String
  macroSpineReceiptSha256 : String
  macroSpineStatus : HandoffStatus
  macroSpineReason : String
  spineReceiptId : Option String
  resolutionStatus : ResolutionStatus
  operationalAuthority : Bool := false
  actionAuthority : Bool := false
  executionAuthority : Bool := false
  effectPerformed : Bool := false
  schemaVersion : String := "phios.do_dispatch_receipt.v0.5"
  deriving DecidableEq

/-- The operations of a dispatch: those of the leased handoff, and the appends of its two
receipts. -/
inductive DispatchOp
  | ledger (o : LedgerOp)
  | appendMacroReceipt (receipt : MacroSpineReceipt)
  | appendMacroDispatchReceipt (receipt : DoDispatchReceipt)

/-- The replies: an append may raise. -/
def DispatchOp.Reply : DispatchOp → Type
  | .ledger o => o.Reply
  | .appendMacroReceipt _ | .appendMacroDispatchReceipt _ => AppendReply

/-- The operation enters the executor registry. -/
def DispatchOp.enters : DispatchOp → Bool
  | .ledger o => o.enters
  | .appendMacroReceipt _ | .appendMacroDispatchReceipt _ => false

abbrev DispatchProg := Prog DispatchOp.Reply PyError

/-- `spine.ledger.append_macro_receipt(receipt)`. -/
def appendMacroReceipt (receipt : MacroSpineReceipt) : DispatchProg Unit := do
  let reply : AppendReply ← Prog.call (DispatchOp.appendMacroReceipt receipt)
  .ofExcept (reply.result.mapError (·.1))

/-- `spine.ledger.append_macro_dispatch_receipt(receipt)`. -/
def appendMacroDispatchReceipt (receipt : DoDispatchReceipt) : DispatchProg Unit := do
  let reply : AppendReply ← Prog.call (DispatchOp.appendMacroDispatchReceipt receipt)
  .ofExcept (reply.result.mapError (·.1))

/-- The arguments of a dispatch that go to the leased handoff. -/
abbrev DispatchRequest := LeasedExecutionRequest

section Bridge

variable (iso : Iso8601) (sha256 : Json → String) (digest : Json → Except PyError String)

namespace MacroSpineBridge

/-- The nine fields that the bridge compares. -/
def scope (binding : MacroSpineBinding) : List String :=
  [binding.operationId, binding.operationVersion, binding.operationHash, binding.planId,
    binding.planStateSha256, binding.actionBindingSha256, binding.capabilityId,
    binding.payloadSha256, binding.actionLeaseSha256]

/-- `payload_sha256` of the binder. -/
def payloadSha256 (payload : Json) : Except PyError String :=
  payloadDigest digest .actionBindingContractError "action binding" payload

def validateScope (operation : Operation) (macroBinding : MacroSpineBinding)
    (request : DispatchRequest) : Except PyError Unit := do
  let expectedCapabilityId ← operationCapabilityId operation
  raiseIf (expectedCapabilityId ≠ request.binding.capabilityId)
    (macroSpineErr "macro operation adapter/action does not match bound Spine capability")
  raiseIf (operation.requiredCapabilities ≠ request.binding.permissionsRequested)
    (macroSpineErr "macro operation capabilities must equal bound permissions")
  let operationPayloadSha256 ← payloadSha256 digest operation.inputs
  let suppliedPayloadSha256 ← payloadSha256 digest request.payload
  raiseIf (operationPayloadSha256 ≠ suppliedPayloadSha256)
    (macroSpineErr "macro operation inputs differ from supplied execution payload")
  raiseIf (suppliedPayloadSha256 ≠ request.binding.payloadSha256)
    (macroSpineErr "macro execution payload differs from action binding")
  let expected := [operation.operationId, operation.operationVersion,
    operation.operationHash sha256, request.plan.planId, request.plan.stateSha256,
    request.binding.bindingSha256, request.binding.capabilityId, request.binding.payloadSha256,
    request.lease.actionLeaseSha256 sha256]
  raiseIf (scope macroBinding ≠ expected)
    (macroSpineErr "macro Spine binding does not match current execution scope")

def spineOutcome : Option ExecutionHandoffReceipt → Option String × Option String
  | none => (none, none)
  | some inner => (inner.spineReceiptId, inner.spineExecutionStatus.map (·.value))

/-- `MacroSpineBridge.execute`, in the mode `LIVE`. -/
def execute (operation : Operation) (macroBinding : MacroSpineBinding)
    (request : DispatchRequest) : DispatchProg MacroSpineReceipt := do
  .ofExcept (validateScope sha256 digest operation macroBinding request)
  let handoff ← (GovernedLeasedExecutionHandoff.execute iso sha256 digest request).hoist
    DispatchOp.ledger fun _ reply => reply
  let (spineReceiptId, spineExecutionStatus) := spineOutcome handoff.innerHandoff
  let receipt : MacroSpineReceipt := {
    status := handoff.status
    reason := handoff.reason
    macroId := macroBinding.macroId
    macroVersion := macroBinding.macroVersion
    operationId := operation.operationId
    operationHash := operation.operationHash sha256
    macroSpineBindingSha256 := macroBinding.bindingSha256 sha256
    actionBindingSha256 := request.binding.bindingSha256
    actionLeaseSha256 := request.lease.actionLeaseSha256 sha256
    leasedHandoffReceiptSha256 := handoff.receiptSha256 sha256
    spineReceiptId, spineExecutionStatus
    leaseConsumed := handoff.leaseConsumed
    replayBlocked := handoff.replayBlocked }
  .ofExcept receipt.postInit
  appendMacroReceipt receipt
  return receipt

end MacroSpineBridge

/-! ## The dispatcher -/

/-- `GovernedDoDispatcherContractError(message)`. -/
def dispatcherErr (message : String) : PyError := ⟨.governedDoDispatcherContractError, message, []⟩

/-- The text of the status. -/
def ResolutionStatus.value : ResolutionStatus → String
  | .succeeded => "SUCCEEDED"
  | .held => "HELD"
  | .failed => "FAILED"

namespace DoDispatchReceipt

def postInit (receipt : DoDispatchReceipt) : Except PyError Unit := do
  let cls := ErrorClass.governedDoDispatcherContractError
  raiseIf (receipt.schemaVersion ≠ "phios.do_dispatch_receipt.v0.5")
    (dispatcherErr "unsupported DO dispatch receipt schema")
  let _ ← requireText cls 512 receipt.macroId "macro_id"
  let _ ← requireText cls 128 receipt.macroVersion "macro_version"
  let _ ← requireSha256 cls receipt.macroPlanSha256 "macro_plan_sha256"
  let _ ← requireSha256 cls receipt.macroRunStateSha256 "macro_run_state_sha256"
  let _ ← requireText cls 512 receipt.instructionPath "instruction_path"
  let _ ← requireSha256 cls receipt.operationHash "operation_hash"
  let _ ← requireSha256 cls receipt.workPackageSha256 "work_package_sha256"
  let _ ← requireSha256 cls receipt.macroSpineBindingSha256 "macro_spine_binding_sha256"
  let _ ← requireSha256 cls receipt.macroSpineReceiptSha256 "macro_spine_receipt_sha256"
  let _ ← requireText cls 512 receipt.macroSpineStatus.value "macro_spine_status"
  let _ ← requireText cls 512 receipt.macroSpineReason "macro_spine_reason"
  match receipt.spineReceiptId with
  | none => pure ()
  | some text => do
      let _ ← requireText cls 512 text "spine_receipt_id"
  raiseIf (receipt.operationalAuthority ∨ receipt.actionAuthority ∨ receipt.executionAuthority ∨
      receipt.effectPerformed)
    (dispatcherErr "DoDispatchReceipt cannot grant authority or claim effects")

def receiptSha256 (receipt : DoDispatchReceipt) : String :=
  sha256 <| .obj [("schema_version", .str receipt.schemaVersion),
    ("macro_id", .str receipt.macroId), ("macro_version", .str receipt.macroVersion),
    ("macro_plan_sha256", .str receipt.macroPlanSha256),
    ("macro_run_state_sha256", .str receipt.macroRunStateSha256),
    ("instruction_path", .str receipt.instructionPath),
    ("operation_hash", .str receipt.operationHash),
    ("work_package_sha256", .str receipt.workPackageSha256),
    ("macro_spine_binding_sha256", .str receipt.macroSpineBindingSha256),
    ("macro_spine_receipt_sha256", .str receipt.macroSpineReceiptSha256),
    ("macro_spine_status", .str receipt.macroSpineStatus.value),
    ("macro_spine_reason", .str receipt.macroSpineReason),
    ("spine_receipt_id", .optStr receipt.spineReceiptId),
    ("resolution_status", .str receipt.resolutionStatus.value),
    ("operational_authority", .bool receipt.operationalAuthority),
    ("action_authority", .bool receipt.actionAuthority),
    ("execution_authority", .bool receipt.executionAuthority),
    ("effect_performed", .bool receipt.effectPerformed)]

end DoDispatchReceipt

structure OperationWorkPackage where
  macroId : String
  macroVersion : String
  macroPlanSha256 : String
  macroRunStateSha256 : String
  instructionIndex : ℕ
  instructionPath : String
  operationId : String
  operationVersion : String
  operationHash : String
  inputHash : String
  adapterId : String
  action : String
  requiredCapabilities : List String
  operationalAuthority : Bool := false
  actionAuthority : Bool := false
  executionAuthority : Bool := false
  schemaVersion : String := "phios.operation_work_package.v0.5"
  deriving DecidableEq

namespace OperationWorkPackage

def postInit (package : OperationWorkPackage) : Except PyError Unit := do
  let cls := ErrorClass.governedDoDispatcherContractError
  raiseIf (package.schemaVersion ≠ "phios.operation_work_package.v0.5")
    (dispatcherErr "unsupported operation work package schema")
  let _ ← requireText cls 512 package.macroId "macro_id"
  let _ ← requireText cls 128 package.macroVersion "macro_version"
  let _ ← requireSha256 cls package.macroPlanSha256 "macro_plan_sha256"
  let _ ← requireSha256 cls package.macroRunStateSha256 "macro_run_state_sha256"
  let _ ← requireText cls 512 package.instructionPath "instruction_path"
  let _ ← requireText cls 512 package.operationId "operation_id"
  let _ ← requireText cls 128 package.operationVersion "operation_version"
  let _ ← requireSha256 cls package.operationHash "operation_hash"
  let _ ← requireSha256 cls package.inputHash "input_hash"
  let _ ← requireText cls 512 package.adapterId "adapter_id"
  let _ ← requireText cls 512 package.action "action"
  let capabilities ← package.requiredCapabilities.mapM fun value =>
    requireText cls 512 value "required capability"
  raiseIf (sortedSet capabilities ≠ capabilities)
    (dispatcherErr "required capabilities must be sorted and unique")
  raiseIf (package.operationalAuthority ∨ package.actionAuthority ∨ package.executionAuthority)
    (dispatcherErr "OperationWorkPackage cannot carry authority")

def workPackageSha256 (package : OperationWorkPackage) : String :=
  sha256 <| .obj [("schema_version", .str package.schemaVersion),
    ("macro_id", .str package.macroId), ("macro_version", .str package.macroVersion),
    ("macro_plan_sha256", .str package.macroPlanSha256),
    ("macro_run_state_sha256", .str package.macroRunStateSha256),
    ("instruction_index", .int package.instructionIndex),
    ("instruction_path", .str package.instructionPath),
    ("operation_id", .str package.operationId),
    ("operation_version", .str package.operationVersion),
    ("operation_hash", .str package.operationHash), ("input_hash", .str package.inputHash),
    ("adapter_id", .str package.adapterId), ("action", .str package.action),
    ("required_capabilities", .strs package.requiredCapabilities),
    ("operational_authority", .bool package.operationalAuthority),
    ("action_authority", .bool package.actionAuthority),
    ("execution_authority", .bool package.executionAuthority)]

end OperationWorkPackage

structure DoDispatchResult where
  workPackage : OperationWorkPackage
  macroSpineReceipt : MacroSpineReceipt
  dispatchReceipt : DoDispatchReceipt
  operationResolution : OperationResolution

namespace GovernedDoDispatcher

/-- The dictionary has the text under the key. -/
def hasText (payload : List (String × Json)) (key text : String) : Bool :=
  match payload.lookup key with
  | some (.str value) => value = text
  | _ => false

/-- The dictionary has the list of texts under the key. -/
def hasTexts (payload : List (String × Json)) (key : String) (texts : List String) : Bool :=
  match payload.lookup key with
  | some (.arr items) =>
      match items.mapM fun | .str value => some value | _ => none with
      | some values => values = texts
      | none => false
  | _ => false

def validateInstructionOperation (instruction : PlanInstruction) (operation : Operation) :
    Except PyError Unit :=
  let payload := instruction.payload
  raiseIf (¬ (hasText payload "operation_id" operation.operationId &&
      hasText payload "operation_version" operation.operationVersion &&
      hasText payload "operation_hash" (operation.operationHash sha256) &&
      hasText payload "adapter_id" operation.adapterId &&
      hasText payload "action" operation.action &&
      hasTexts payload "required_capabilities" operation.requiredCapabilities))
    (dispatcherErr "operation does not match planned DO instruction")

def validateWaitingOperation (macroPlan : MacroPlan) (runState : MacroRunState)
    (operation : Operation) : Except PyError PlanInstruction := do
  raiseIf (runState.status ≠ .waitingOperation)
    (dispatcherErr "runner must be WAITING_OPERATION before DO dispatch")
  raiseIf (runState.planSha256 ≠ macroPlan.planSha256 sha256)
    (dispatcherErr "runner plan hash does not match macro plan")
  raiseIf (runState.macroId ≠ macroPlan.macroId ∨ runState.macroVersion ≠ macroPlan.macroVersion)
    (dispatcherErr "runner macro identity does not match macro plan")
  match macroPlan.instructions[runState.cursor]? with
  | none => .error (dispatcherErr "runner cursor does not reference an instruction")
  | some instruction => do
      raiseIf (instruction.opcode ≠ .doOp)
        (dispatcherErr "WAITING_OPERATION cursor must reference DO")
      raiseIf (¬ (hasText runState.waitingOn "instruction_path" instruction.path &&
          hasText runState.waitingOn "opcode" PlanOpcode.doOp.value))
        (dispatcherErr "runner waiting boundary does not match current DO")
      validateInstructionOperation sha256 instruction operation
      return instruction

def package (macroPlan : MacroPlan) (runState : MacroRunState) (operation : Operation) :
    Except PyError OperationWorkPackage := do
  let instruction ← validateWaitingOperation sha256 macroPlan runState operation
  let package : OperationWorkPackage := {
    macroId := macroPlan.macroId
    macroVersion := macroPlan.macroVersion
    macroPlanSha256 := macroPlan.planSha256 sha256
    macroRunStateSha256 := runState.stateSha256 sha256
    instructionIndex := instruction.index
    instructionPath := instruction.path
    operationId := operation.operationId
    operationVersion := operation.operationVersion
    operationHash := operation.operationHash sha256
    inputHash := operation.inputHash sha256
    adapterId := operation.adapterId
    action := operation.action
    requiredCapabilities := operation.requiredCapabilities }
  package.postInit
  return package

def resolutionStatus (receipt : MacroSpineReceipt) : ResolutionStatus :=
  match receipt.status with
  | .succeeded => .succeeded
  | .failed => .failed
  | .held | .denied | .outcomeUnknown => .held

/-- The arguments of `dispatch`. -/
structure Call where
  workPackage : OperationWorkPackage
  macroPlan : MacroPlan
  runState : MacroRunState
  operation : Operation
  request : DispatchRequest

/-- The part of `dispatch` after the bridge. -/
def conclude (call : Call) (macroBinding : MacroSpineBinding) (macroReceipt : MacroSpineReceipt) :
    DispatchProg DoDispatchResult := do
  let resolutionStatus := resolutionStatus macroReceipt
  let dispatchReceipt : DoDispatchReceipt := {
    macroId := call.macroPlan.macroId
    macroVersion := call.macroPlan.macroVersion
    macroPlanSha256 := call.macroPlan.planSha256 sha256
    macroRunStateSha256 := call.runState.stateSha256 sha256
    instructionPath := call.workPackage.instructionPath
    operationHash := call.operation.operationHash sha256
    workPackageSha256 := call.workPackage.workPackageSha256 sha256
    macroSpineBindingSha256 := macroBinding.bindingSha256 sha256
    macroSpineReceiptSha256 := macroReceipt.receiptSha256 sha256
    macroSpineStatus := macroReceipt.status
    macroSpineReason := macroReceipt.reason
    spineReceiptId := macroReceipt.spineReceiptId
    resolutionStatus }
  .ofExcept dispatchReceipt.postInit
  appendMacroDispatchReceipt dispatchReceipt
  return {
    workPackage := call.workPackage
    macroSpineReceipt := macroReceipt
    dispatchReceipt
    operationResolution := {
      instructionPath := call.workPackage.instructionPath
      operationHash := call.operation.operationHash sha256
      status := resolutionStatus
      receiptSha256 := dispatchReceipt.receiptSha256 sha256 } }

def dispatch (call : Call) : DispatchProg DoDispatchResult := do
  let expected ← .ofExcept (package sha256 call.macroPlan call.runState call.operation)
  .ofExcept (raiseIf (call.workPackage ≠ expected)
    (dispatcherErr "operation work package does not match current runner boundary"))
  let macroBinding ← .ofExcept (MacroSpineBinding.build sha256 call.macroPlan.macroId
    call.macroPlan.macroVersion call.operation call.request.plan call.request.binding
    call.request.lease)
  let macroReceipt ← MacroSpineBridge.execute iso sha256 digest call.operation macroBinding
    call.request
  conclude sha256 call macroBinding macroReceipt

end GovernedDoDispatcher

end Bridge

end PhiOS
