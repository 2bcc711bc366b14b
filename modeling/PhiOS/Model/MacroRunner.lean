import PhiOS.Library.Dict
import PhiOS.Model.MacroGraph

/-!
# The macro runner

`macro_runner.py`: `advance` passes instruction after instruction of a plan until the plan is
completed, a resolution is missing or does not fit, or the transition budget is used up. The
iteration counts of loops and the indices of `FOREACH` blocks are kept under the digest of the step
an instruction was made from.
-/

set_option autoImplicit false

namespace PhiOS

open KeyOrder

/-- `MacroRunnerContractError(message)`. -/
def macroRunnerErr (message : String) : PyError := ⟨.macroRunnerContractError, message, []⟩

inductive RunnerStatus
  | ready
  | running
  | waitingOperation
  | waitingCondition
  | waitingApproval
  | waitingCallee
  | checkpointing
  | waitingCollection
  | completed
  | held
  | failed
  | aborted
  deriving DecidableEq

def RunnerStatus.value : RunnerStatus → String
  | .ready => "READY"
  | .running => "RUNNING"
  | .waitingOperation => "WAITING_OPERATION"
  | .waitingCondition => "WAITING_CONDITION"
  | .waitingApproval => "WAITING_APPROVAL"
  | .waitingCallee => "WAITING_CALLEE"
  | .checkpointing => "CHECKPOINTING"
  | .waitingCollection => "WAITING_COLLECTION"
  | .completed => "COMPLETED"
  | .held => "HELD"
  | .failed => "FAILED"
  | .aborted => "ABORTED"

/-- `RunnerStatus(text)`. -/
def RunnerStatus.ofValue? (text : String) : Option RunnerStatus :=
  [ready, running, waitingOperation, waitingCondition, waitingApproval, waitingCallee,
    checkpointing, waitingCollection, completed, held, failed, aborted].find? (·.value = text)

/-- `status in TERMINAL_STATUSES`. -/
def RunnerStatus.terminal : RunnerStatus → Bool
  | .completed | .failed | .aborted => true
  | _ => false

inductive ResolutionStatus
  | succeeded
  | held
  | failed
  deriving DecidableEq

/-! ## Resolutions -/

structure ConditionResolution where
  conditionId : String
  value : Bool
  evidenceRefSha256 : String

structure OperationResolution where
  instructionPath : String
  operationHash : String
  status : ResolutionStatus
  receiptSha256 : String

structure ApprovalResolution where
  barrierId : String
  requiredCapabilities : List String
  approved : Bool
  evidenceRefSha256 : String

structure CallResolution where
  instructionPath : String
  macroId : String
  macroVersion : String
  argumentsSha256 : String
  status : ResolutionStatus
  receiptSha256 : String

structure CheckpointResolution where
  instructionPath : String
  label : String
  status : ResolutionStatus
  receiptSha256 : String

structure CollectionResolution where
  collectionRef : String
  items : List Json
  evidenceRefSha256 : String

structure RunnerInputs where
  conditions : List ConditionResolution := []
  operations : List OperationResolution := []
  approvals : List ApprovalResolution := []
  calls : List CallResolution := []
  checkpoints : List CheckpointResolution := []
  collections : List CollectionResolution := []

def uniqueIndex {α : Type} (key : α → String) (label : String) (values : List α) :
    Except PyError (Dict String α) :=
  values.foldlM (fun result value =>
    match result.get? (key value) with
    | some _ => .error (macroRunnerErr ("duplicate " ++ label ++ ": " ++ key value))
    | none => .ok (result.set (key value) value)) .empty

/-- The six dictionaries that `advance` makes of its inputs. -/
structure ResolutionIndex where
  conditions : Dict String ConditionResolution
  operations : Dict String OperationResolution
  approvals : Dict String ApprovalResolution
  calls : Dict String CallResolution
  checkpoints : Dict String CheckpointResolution
  collections : Dict String CollectionResolution

/-- The part of `advance` that makes them. -/
def RunnerInputs.index (inputs : RunnerInputs) : Except PyError ResolutionIndex := do
  let conditions ← uniqueIndex (·.conditionId) "condition resolution" inputs.conditions
  let operations ← uniqueIndex (·.instructionPath) "operation resolution" inputs.operations
  let approvals ← uniqueIndex (·.barrierId) "approval resolution" inputs.approvals
  let calls ← uniqueIndex (·.instructionPath) "call resolution" inputs.calls
  let checkpoints ← uniqueIndex (·.instructionPath) "checkpoint resolution" inputs.checkpoints
  let collections ← uniqueIndex (·.collectionRef) "collection resolution" inputs.collections
  return { conditions, operations, approvals, calls, checkpoints, collections }

/-! ## Run states -/

/-- `MacroRunState`. The variables are a dictionary. -/
structure MacroRunState where
  macroId : String
  macroVersion : String
  planSha256 : String
  cursor : ℕ
  status : RunnerStatus
  reason : String
  loopIterations : List (String × ℕ)
  foreachIndices : List (String × ℕ)
  runVariables : List (String × Json)
  waitingOn : List (String × Json)
  lastInstructionPath : Option String
  transitions : ℕ
  operationalAuthority : Bool := false
  actionAuthority : Bool := false
  executionAuthority : Bool := false
  schemaVersion : String := "phios.macro_run_state.v0.4"

namespace MacroRunState

def postInit (state : MacroRunState) : Except PyError Unit := do
  let cls := ErrorClass.macroRunnerContractError
  raiseIf (state.schemaVersion ≠ "phios.macro_run_state.v0.4")
    (macroRunnerErr "unsupported macro run state schema")
  let _ ← requireText cls 512 state.macroId "macro_id"
  let _ ← requireText cls 128 state.macroVersion "macro_version"
  let _ ← requireSha256 cls state.planSha256 "plan_sha256"
  let _ ← requireText cls 512 state.reason "reason"
  match state.lastInstructionPath with
  | none => pure ()
  | some path => do
      let _ ← requireText cls 512 path "last_instruction_path"
  state.loopIterations.forM fun entry => do
    let _ ← requireSha256 cls entry.1 "loop source_step_sha256"
  state.foreachIndices.forM fun entry => do
    let _ ← requireSha256 cls entry.1 "foreach source_step_sha256"
  raiseIf (state.operationalAuthority ∨ state.actionAuthority ∨ state.executionAuthority)
    (macroRunnerErr "MacroRunState cannot carry authority")

def bodyDict (state : MacroRunState) : List (String × Json) :=
  let counters := fun pairs : List (String × ℕ) =>
    Json.arr (pairs.map fun entry => .arr [.str entry.1, .int entry.2])
  [("schema_version", .str state.schemaVersion), ("macro_id", .str state.macroId),
    ("macro_version", .str state.macroVersion), ("plan_sha256", .str state.planSha256),
    ("cursor", .int state.cursor), ("status", .str state.status.value),
    ("reason", .str state.reason), ("loop_iterations", counters state.loopIterations),
    ("foreach_indices", counters state.foreachIndices),
    ("variables", .obj state.runVariables), ("waiting_on", .obj state.waitingOn),
    ("last_instruction_path", .optStr state.lastInstructionPath),
    ("transitions", .int state.transitions),
    ("operational_authority", .bool state.operationalAuthority),
    ("action_authority", .bool state.actionAuthority),
    ("execution_authority", .bool state.executionAuthority)]

def stateSha256 (sha256 : Json → String) (state : MacroRunState) : String :=
  sha256 (.obj state.bodyDict)

def toDict (sha256 : Json → String) (state : MacroRunState) : List (String × Json) :=
  state.bodyDict ++ [("state_sha256", .str (state.stateSha256 sha256))]

end MacroRunState

/-! ## The runner -/

/-- The instruction is a `DO`, `CALL`, `CHECKPOINT` or `APPROVE`. -/
def PlanOpcode.isBoundary : PlanOpcode → Bool
  | .doOp | .callOp | .checkpoint | .approve => true
  | _ => false

namespace MacroRunner

def maxAdvanceTransitions : ℕ := 50000

/-- What `advance` keeps in local variables. -/
structure Config where
  cursor : ℕ
  loops : Dict String ℕ
  foreach : Dict String ℕ
  runVariables : Dict String Json
  transitions : ℕ
  lastPath : Option String

def payloadText (instruction : PlanInstruction) (key : String) : Except PyError String :=
  let field := instruction.opcode.value ++ "." ++ key
  match instruction.payload.lookup key with
  | some (.str value) => requireText .macroRunnerContractError 512 value field
  | _ => .error (macroRunnerErr (field ++ " must be a non-empty string"))

def payloadInt (instruction : PlanInstruction) (key : String) : Except PyError ℤ :=
  match instruction.payload.lookup key with
  | some (.int value) => .ok value
  | _ => .error (macroRunnerErr (instruction.opcode.value ++ "." ++ key ++ " must be an integer"))

/-- The text of a JSON string that is not empty. -/
def nonEmptyText : Json → Option String
  | .str value => if value = "" then none else some value
  | _ => none

def payloadStringList (instruction : PlanInstruction) (key : String) :
    Except PyError (List String) :=
  let wrong := macroRunnerErr (instruction.opcode.value ++ "." ++ key ++ " must be a string list")
  match instruction.payload.lookup key with
  | some (.arr items) =>
      match items.mapM nonEmptyText with
      | some texts => .ok texts
      | none => .error wrong
  | _ => .error wrong

/-- A marker of the given opcode, made from the step with the given digest. -/
def isMarker (opcode : PlanOpcode) (sourceHash : String) (candidate : PlanInstruction) : Bool :=
  candidate.opcode = opcode && candidate.sourceStepSha256 = sourceHash

/-- The error of `_find_forward` and `_find_backward`. -/
def markerErr (opcode : PlanOpcode) : PyError :=
  macroRunnerErr ("matching " ++ opcode.value ++ " marker not found")

def findForward (plan : MacroPlan) (start : ℕ) (opcode : PlanOpcode) (sourceHash : String) :
    Except PyError ℕ :=
  match (plan.instructions.drop (start + 1)).findIdx? (isMarker opcode sourceHash) with
  | some offset => .ok (start + 1 + offset)
  | none => .error (markerErr opcode)

def findBackward (plan : MacroPlan) (start : ℕ) (opcode : PlanOpcode) (sourceHash : String) :
    Except PyError ℕ :=
  match (plan.instructions.take start).reverse.findIdx? (isMarker opcode sourceHash) with
  | some offset => .ok (start - 1 - offset)
  | none => .error (markerErr opcode)

def state (sha256 : Json → String) (plan : MacroPlan) (config : Config) (status : RunnerStatus)
    (reason : String) (waitingOn : List (String × Json)) : Except PyError MacroRunState := do
  let result : MacroRunState := {
    macroId := plan.macroId
    macroVersion := plan.macroVersion
    planSha256 := plan.planSha256 sha256
    cursor := config.cursor
    status, reason
    loopIterations := config.loops.entries
    foreachIndices := config.foreach.entries
    runVariables := config.runVariables.entries
    waitingOn
    lastInstructionPath := config.lastPath
    transitions := config.transitions }
  result.postInit
  return result

def validateResume (sha256 : Json → String) (plan : MacroPlan) (state : MacroRunState) :
    Except PyError Unit := do
  raiseIf (state.planSha256 ≠ plan.planSha256 sha256)
    (macroRunnerErr "run state plan hash does not match supplied plan")
  raiseIf (state.macroId ≠ plan.macroId ∨ state.macroVersion ≠ plan.macroVersion)
    (macroRunnerErr "run state macro identity does not match supplied plan")
  raiseIf (plan.instructions.length < state.cursor)
    (macroRunnerErr "run state cursor exceeds plan instruction count")

def start (sha256 : Json → String) (plan : MacroPlan) : Except PyError MacroRunState :=
  state sha256 plan ⟨0, .empty, .empty, .empty, 0, none⟩ .ready "plan_ready" []

def abort (sha256 : Json → String) (plan : MacroPlan) (state : MacroRunState) (reason : String) :
    Except PyError MacroRunState := do
  validateResume sha256 plan state
  let reason ← requireText .macroRunnerContractError 512 reason "abort reason"
  MacroRunner.state sha256 plan {
    cursor := state.cursor
    loops := .ofPairs state.loopIterations
    foreach := .ofPairs state.foreachIndices
    runVariables := .ofPairs state.runVariables
    transitions := state.transitions
    lastPath := state.lastInstructionPath } .aborted reason []

/-- What one instruction comes to: the run goes on, or `advance` returns a state. -/
inductive Passage
  | moved (config : Config)
  | returned (status : RunnerStatus) (reason : String) (extra : List (String × Json))

/-- `_resolution_boundary`, for an instruction that is passed by moving on. -/
def resolutionBoundary (config : Config) (status : ResolutionStatus)
    (heldReason failedReason : String) : Passage :=
  match status with
  | .succeeded => .moved { config with cursor := config.cursor + 1 }
  | .held => .returned .held heldReason []
  | .failed => .returned .failed failedReason []

/-- The body of the loop of `advance` for the instruction at the cursor. The transition is already
counted and the path already noted in `config`. -/
def passInstruction (plan : MacroPlan) (index : ResolutionIndex) (config : Config)
    (instruction : PlanInstruction) : Except PyError Passage := do
  let key := instruction.sourceStepSha256
  let next : Config := { config with cursor := config.cursor + 1 }
  match instruction.opcode with
  | .doOp =>
      match index.operations.get? instruction.path with
      | none => return .returned .waitingOperation "operation_resolution_required" []
      | some resolution =>
          let expected ← payloadText instruction "operation_hash"
          if resolution.operationHash ≠ expected then
            return .returned .held "operation_resolution_scope_mismatch" []
          return resolutionBoundary config resolution.status "operation_held" "operation_failed"
  | .ifBegin =>
      let conditionId ← payloadText instruction "condition_id"
      match index.conditions.get? conditionId with
      | none =>
          return .returned .waitingCondition "condition_resolution_required"
            [("condition_id", .str conditionId)]
      | some resolution =>
          if resolution.value then return .moved next
          let elseIndex ← findForward plan config.cursor .elseOp key
          return .moved { config with cursor := elseIndex + 1 }
  | .elseOp =>
      let endIndex ← findForward plan config.cursor .ifEnd key
      return .moved { config with cursor := endIndex + 1 }
  | .ifEnd => return .moved next
  | .loopBegin =>
      let maximum ← payloadInt instruction "max_iterations"
      if maximum ≤ config.loops.getD key 0 then
        let endIndex ← findForward plan config.cursor .loopEnd key
        return .moved { config with cursor := endIndex + 1 }
      return .moved next
  | .loopEnd =>
      let loops := config.loops.set key (config.loops.getD key 0 + 1)
      let beginIndex ← findBackward plan config.cursor .loopBegin key
      return .moved { config with loops, cursor := beginIndex }
  | .forEachBegin =>
      let collectionRef ← payloadText instruction "collection_ref"
      let itemName ← payloadText instruction "item_name"
      let maximum ← payloadInt instruction "max_items"
      match index.collections.get? collectionRef with
      | none =>
          return .returned .waitingCollection "collection_resolution_required"
            [("collection_ref", .str collectionRef)]
      | some resolution =>
          if maximum < resolution.items.length then
            return .returned .held "collection_bound_exceeded" []
          match resolution.items[config.foreach.getD key 0]? with
          | none =>
              let endIndex ← findForward plan config.cursor .forEachEnd key
              return .moved { config with
                runVariables := config.runVariables.erase itemName, cursor := endIndex + 1 }
          | some item => return .moved { next with runVariables := config.runVariables.set itemName item }
  | .forEachEnd =>
      let foreach := config.foreach.set key (config.foreach.getD key 0 + 1)
      let beginIndex ← findBackward plan config.cursor .forEachBegin key
      return .moved { config with foreach, cursor := beginIndex }
  | .callOp =>
      match index.calls.get? instruction.path with
      | none => return .returned .waitingCallee "callee_resolution_required" []
      | some resolution =>
          let macroId ← payloadText instruction "macro_id"
          let macroVersion ← payloadText instruction "macro_version"
          let argumentsSha256 ← payloadText instruction "arguments_sha256"
          if (resolution.macroId, resolution.macroVersion, resolution.argumentsSha256) ≠
              (macroId, macroVersion, argumentsSha256) then
            return .returned .held "callee_resolution_scope_mismatch" []
          return resolutionBoundary config resolution.status "callee_held" "callee_failed"
  | .checkpoint =>
      match index.checkpoints.get? instruction.path with
      | none => return .returned .checkpointing "checkpoint_resolution_required" []
      | some resolution =>
          let label ← payloadText instruction "label"
          if resolution.label ≠ label then
            return .returned .held "checkpoint_resolution_scope_mismatch" []
          return resolutionBoundary config resolution.status "checkpoint_held" "checkpoint_failed"
  | .approve =>
      let barrierId ← payloadText instruction "barrier_id"
      match index.approvals.get? barrierId with
      | none =>
          return .returned .waitingApproval "approval_resolution_required"
            [("barrier_id", .str barrierId)]
      | some resolution =>
          let required ← payloadStringList instruction "required_capabilities"
          if resolution.requiredCapabilities ≠ required then
            return .returned .held "approval_resolution_scope_mismatch" []
          if !resolution.approved then return .returned .held "approval_not_granted" []
          return .moved next

/-- The path of an instruction that is passed, if it is a `DO`, `CALL`, `CHECKPOINT` or
`APPROVE`. -/
def passedPath (instruction : PlanInstruction) : List String :=
  if instruction.opcode.isBoundary then [instruction.path] else []

/-- The loop of `advance` with `remaining` transitions left of the budget: the state it returns, and
the paths of the `DO`, `CALL`, `CHECKPOINT` and `APPROVE` instructions that it passed, which the
source does not keep. -/
def advanceLoop (sha256 : Json → String) (plan : MacroPlan) (index : ResolutionIndex) :
    (remaining : ℕ) → Config → Except PyError (List String × MacroRunState)
  | remaining, config =>
      match plan.instructions[config.cursor]? with
      | none => do
          return ([], ← state sha256 plan config .completed "plan_completed" [])
      | some instruction =>
          match remaining with
          | 0 => do
              return ([], ← state sha256 plan config .held "advance_transition_budget_exhausted"
                [("cursor", .int config.cursor)])
          | remaining + 1 => do
              let config := { config with
                transitions := config.transitions + 1
                lastPath := some instruction.path }
              match ← passInstruction plan index config instruction with
              | .moved config =>
                  let (passed, final) ← advanceLoop sha256 plan index remaining config
                  return (passedPath instruction ++ passed, final)
              | .returned status reason extra =>
                  let waiting := [("instruction_path", Json.str instruction.path),
                    ("opcode", .str instruction.opcode.value)]
                  return ([], ← state sha256 plan config status reason (waiting ++ extra))

/-- `advance`, with the paths passed. -/
def advancePassing (sha256 : Json → String) (plan : MacroPlan) (state : MacroRunState)
    (inputs : Option RunnerInputs) (maxTransitions : ℤ) :
    Except PyError (List String × MacroRunState) := do
  validateResume sha256 plan state
  if state.status.terminal then return ([], state)
  raiseIf (maxTransitions < 1 ∨ maxAdvanceTransitions < maxTransitions)
    (macroRunnerErr s!"max_transitions must be between 1 and {maxAdvanceTransitions}")
  let index ← (inputs.getD {}).index
  advanceLoop sha256 plan index maxTransitions.toNat {
    cursor := state.cursor
    loops := .ofPairs state.loopIterations
    foreach := .ofPairs state.foreachIndices
    runVariables := .ofPairs state.runVariables
    transitions := state.transitions
    lastPath := state.lastInstructionPath }

def advance (sha256 : Json → String) (plan : MacroPlan) (state : MacroRunState)
    (inputs : Option RunnerInputs) (maxTransitions : ℤ) : Except PyError MacroRunState := do
  let (_, final) ← advancePassing sha256 plan state inputs maxTransitions
  return final

end MacroRunner

end PhiOS
