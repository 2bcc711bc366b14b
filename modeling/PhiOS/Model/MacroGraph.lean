import PhiOS.Model.Ledger

/-!
# Macro definitions and plans

`macro_graph.py`: a `MacroDefinition` is a tree of steps; `MacroGraphPlanner.plan` validates it and
flattens it into a list of instructions. Every instruction carries the digest of the step it was
made from, by which the runner finds the other markers of a block.
-/

set_option autoImplicit false

namespace PhiOS

/-! ## Operations -/

inductive ExecutionMode
  | live
  | dryRun
  | replay
  deriving DecidableEq

def ExecutionMode.value : ExecutionMode → String
  | .live => "live"
  | .dryRun => "dry_run"
  | .replay => "replay"

inductive IdempotencyClass
  | idempotent
  | conditional
  | nonIdempotent
  | unknown
  deriving DecidableEq

def IdempotencyClass.value : IdempotencyClass → String
  | .idempotent => "idempotent"
  | .conditional => "conditional"
  | .nonIdempotent => "non_idempotent"
  | .unknown => "unknown"

inductive ReplayClass
  | deterministic
  | captureRequired
  | nonReplayable
  | unknown
  deriving DecidableEq

def ReplayClass.value : ReplayClass → String
  | .deterministic => "deterministic"
  | .captureRequired => "capture_required"
  | .nonReplayable => "non_replayable"
  | .unknown => "unknown"

inductive RollbackClass
  | reversible
  | compensating
  | none
  | unknown
  deriving DecidableEq

def RollbackClass.value : RollbackClass → String
  | .reversible => "reversible"
  | .compensating => "compensating"
  | .none => "none"
  | .unknown => "unknown"

inductive SideEffectClass
  | none
  | localReversible
  | localIrreversible
  | externalReversible
  | externalIrreversible
  | unknown
  deriving DecidableEq

def SideEffectClass.value : SideEffectClass → String
  | .none => "none"
  | .localReversible => "local_reversible"
  | .localIrreversible => "local_irreversible"
  | .externalReversible => "external_reversible"
  | .externalIrreversible => "external_irreversible"
  | .unknown => "unknown"

/-- `Operation` of `macro_runtime.py`. -/
structure Operation where
  operationId : String
  operationVersion : String
  adapterId : String
  action : String
  inputs : Json
  requiredCapabilities : List String := []
  executionModesSupported : List ExecutionMode := [.live, .dryRun]
  idempotencyClass : IdempotencyClass := .unknown
  replayClass : ReplayClass := .unknown
  rollbackClass : RollbackClass := .unknown
  sideEffectClass : SideEffectClass := .unknown
  idempotencyKey : Option String := none

def Operation.operationHash (sha256 : Json → String) (operation : Operation) : String :=
  sha256 <| .obj [("operation_id", .str operation.operationId),
    ("operation_version", .str operation.operationVersion),
    ("adapter_id", .str operation.adapterId), ("action", .str operation.action),
    ("inputs", operation.inputs), ("required_capabilities", .strs operation.requiredCapabilities),
    ("execution_modes_supported", .strs (operation.executionModesSupported.map (·.value))),
    ("idempotency_class", .str operation.idempotencyClass.value),
    ("replay_class", .str operation.replayClass.value),
    ("rollback_class", .str operation.rollbackClass.value),
    ("side_effect_class", .str operation.sideEffectClass.value),
    ("idempotency_key", .optStr operation.idempotencyKey)]

/-! ## Steps -/

inductive MacroStep
  | doStep (operation : Operation)
  | ifStep (conditionId : String) (thenSteps elseSteps : List MacroStep)
  | loopStep (loopId : String) (maxIterations : ℤ) (body : List MacroStep)
  | forEachStep (itemName collectionRef : String) (maxItems : ℤ) (body : List MacroStep)
  | callStep (macroId macroVersion : String) (arguments : Json)
  | checkpointStep (label : String)
  | approveStep (barrierId : String) (requiredCapabilities : List String) (reason : String)

mutual

def stepPayload (sha256 : Json → String) : MacroStep → Json
  | .doStep operation =>
      .obj [("kind", .str "DO"), ("operation_id", .str operation.operationId),
        ("operation_version", .str operation.operationVersion),
        ("operation_hash", .str (operation.operationHash sha256)),
        ("adapter_id", .str operation.adapterId), ("action", .str operation.action),
        ("required_capabilities", .strs operation.requiredCapabilities)]
  | .ifStep conditionId thenSteps elseSteps =>
      .obj [("kind", .str "IF"), ("condition_id", .str conditionId),
        ("then_steps", .arr (stepPayloads sha256 thenSteps)),
        ("else_steps", .arr (stepPayloads sha256 elseSteps))]
  | .loopStep loopId maxIterations body =>
      .obj [("kind", .str "LOOP"), ("loop_id", .str loopId),
        ("max_iterations", .int maxIterations), ("body", .arr (stepPayloads sha256 body))]
  | .forEachStep itemName collectionRef maxItems body =>
      .obj [("kind", .str "FOREACH"), ("item_name", .str itemName),
        ("collection_ref", .str collectionRef), ("max_items", .int maxItems),
        ("body", .arr (stepPayloads sha256 body))]
  | .callStep macroId macroVersion arguments =>
      .obj [("kind", .str "CALL"), ("macro_id", .str macroId),
        ("macro_version", .str macroVersion), ("arguments", arguments),
        ("arguments_sha256", .str (sha256 arguments))]
  | .checkpointStep label => .obj [("kind", .str "CHECKPOINT"), ("label", .str label)]
  | .approveStep barrierId requiredCapabilities reason =>
      .obj [("kind", .str "APPROVE"), ("barrier_id", .str barrierId),
        ("required_capabilities", .strs requiredCapabilities), ("reason", .str reason)]

/-- The payloads of a block. -/
def stepPayloads (sha256 : Json → String) : List MacroStep → List Json
  | [] => []
  | step :: steps => stepPayload sha256 step :: stepPayloads sha256 steps

end

/-- The digest that identifies a step, `_canonical_sha256(_step_payload(step))`. -/
def sourceHash (sha256 : Json → String) (step : MacroStep) : String :=
  sha256 (stepPayload sha256 step)

/-! ## Definitions and plans -/

/-- `MacroGraphContractError(message)`. -/
def macroGraphErr (message : String) : PyError := ⟨.macroGraphContractError, message, []⟩

def validateCanonicalNames (values : List String) (field : String) (allowEmpty : Bool) :
    Except PyError Unit := do
  raiseIf (allowEmpty = false ∧ values = []) (macroGraphErr (field ++ " must not be empty"))
  values.forM fun value => do
    let _ ← requireText .macroGraphContractError 256 value (field ++ " item")
  raiseIf (sortedSet values ≠ values) (macroGraphErr (field ++ " must be sorted and unique"))

structure MacroDefinition where
  macroId : String
  macroVersion : String
  steps : List MacroStep
  parameters : List String := []
  operationalAuthority : Bool := false
  actionAuthority : Bool := false
  executionAuthority : Bool := false
  schemaVersion : String := "phios.macro_definition.v0.3"

def MacroDefinition.definitionSha256 (sha256 : Json → String) (definition : MacroDefinition) :
    String :=
  sha256 <| .obj [("schema_version", .str definition.schemaVersion),
    ("macro_id", .str definition.macroId), ("macro_version", .str definition.macroVersion),
    ("parameters", .strs definition.parameters),
    ("steps", .arr (stepPayloads sha256 definition.steps)),
    ("operational_authority", .bool definition.operationalAuthority),
    ("action_authority", .bool definition.actionAuthority),
    ("execution_authority", .bool definition.executionAuthority)]

inductive PlanOpcode
  | doOp
  | ifBegin
  | elseOp
  | ifEnd
  | loopBegin
  | loopEnd
  | forEachBegin
  | forEachEnd
  | callOp
  | checkpoint
  | approve
  deriving DecidableEq

def PlanOpcode.value : PlanOpcode → String
  | .doOp => "DO"
  | .ifBegin => "IF_BEGIN"
  | .elseOp => "ELSE"
  | .ifEnd => "IF_END"
  | .loopBegin => "LOOP_BEGIN"
  | .loopEnd => "LOOP_END"
  | .forEachBegin => "FOREACH_BEGIN"
  | .forEachEnd => "FOREACH_END"
  | .callOp => "CALL"
  | .checkpoint => "CHECKPOINT"
  | .approve => "APPROVE"

/-- `PlanInstruction`. The payload is a dictionary. -/
structure PlanInstruction where
  index : ℕ
  path : String
  opcode : PlanOpcode
  payload : List (String × Json)
  sourceStepSha256 : String
  operationalAuthority : Bool := false
  actionAuthority : Bool := false
  executionAuthority : Bool := false

namespace PlanInstruction

def postInit (instruction : PlanInstruction) : Except PyError Unit := do
  let _ ← requireText .macroGraphContractError 512 instruction.path "instruction path"
  raiseIf (instruction.operationalAuthority ∨ instruction.actionAuthority ∨
      instruction.executionAuthority)
    (macroGraphErr "planned instructions cannot carry authority")

def toDict (instruction : PlanInstruction) : Json :=
  .obj [("index", .int instruction.index), ("path", .str instruction.path),
    ("opcode", .str instruction.opcode.value), ("payload", .obj instruction.payload),
    ("source_step_sha256", .str instruction.sourceStepSha256),
    ("operational_authority", .bool instruction.operationalAuthority),
    ("action_authority", .bool instruction.actionAuthority),
    ("execution_authority", .bool instruction.executionAuthority)]

end PlanInstruction

structure MacroPlan where
  macroId : String
  macroVersion : String
  definitionSha256 : String
  instructions : List PlanInstruction
  operationalAuthority : Bool := false
  actionAuthority : Bool := false
  executionAuthority : Bool := false
  schemaVersion : String := "phios.macro_plan.v0.3"

namespace MacroPlan

def postInit (plan : MacroPlan) : Except PyError Unit := do
  raiseIf (plan.schemaVersion ≠ "phios.macro_plan.v0.3")
    (macroGraphErr "unsupported macro plan schema")
  let _ ← requireText .macroGraphContractError 256 plan.macroId "macro_id"
  let _ ← requireText .macroGraphContractError 128 plan.macroVersion "macro_version"
  raiseIf (plan.definitionSha256.length ≠ 64)
    (macroGraphErr "definition_sha256 must be a SHA-256 digest")
  raiseIf (¬ readsBase16 ((stripChars plan.definitionSha256.toList).map Char.toLower))
    (macroGraphErr "definition_sha256 must be a SHA-256 digest")
  raiseIf (plan.operationalAuthority ∨ plan.actionAuthority ∨ plan.executionAuthority)
    (macroGraphErr "MacroPlan cannot carry authority")

def planSha256 (sha256 : Json → String) (plan : MacroPlan) : String :=
  sha256 <| .obj [("schema_version", .str plan.schemaVersion), ("macro_id", .str plan.macroId),
    ("macro_version", .str plan.macroVersion),
    ("definition_sha256", .str plan.definitionSha256),
    ("instructions", .arr (plan.instructions.map (·.toDict))),
    ("operational_authority", .bool plan.operationalAuthority),
    ("action_authority", .bool plan.actionAuthority),
    ("execution_authority", .bool plan.executionAuthority)]

end MacroPlan

/-! ## The planner -/

namespace MacroGraphPlanner

def maxNestingDepth : ℕ := 32
def maxStaticSteps : ℕ := 4096
def maxLoopIterations : ℤ := 10000
def maxForEachItems : ℤ := 10000

/-- The error on too many steps. -/
def staticStepsErr : PyError := macroGraphErr s!"macro definition exceeds {maxStaticSteps} static steps"

/-- `_require_text` with the default maximum. -/
def requireName (value field : String) : Except PyError Unit := do
  let _ ← requireText .macroGraphContractError 256 value field

def validateBound (value : ℤ) (field : String) (maximum : ℤ) : Except PyError Unit :=
  raiseIf (value < 1 ∨ maximum < value)
    (macroGraphErr s!"{field} must be between 1 and {maximum}")

/-- `_validate_operation`. The digest of the inputs cannot fail on a JSON value. -/
def validateOperation (operation : Operation) : Except PyError Unit := do
  requireName operation.operationId "operation_id"
  let _ ← requireText .macroGraphContractError 128 operation.operationVersion "operation_version"
  requireName operation.adapterId "adapter_id"
  requireName operation.action "action"

/-- The check of the depth with which `_validate_steps` begins. -/
def validateDepth (depth : ℕ) : Except PyError Unit :=
  raiseIf (maxNestingDepth < depth) (macroGraphErr s!"macro nesting exceeds {maxNestingDepth}")

mutual

/-- The loop of `_validate_steps` over the steps of one block, from the count so far. -/
def validateBlock (depth : ℕ) : List MacroStep → ℕ → Except PyError ℕ
  | [], count => .ok count
  | step :: steps, count => do
      let count ← validateStep depth step (count + 1)
      raiseIf (maxStaticSteps < count) staticStepsErr
      validateBlock depth steps count

/-- The body of that loop for one step. -/
def validateStep (depth : ℕ) : MacroStep → ℕ → Except PyError ℕ
  | .doStep operation, count => do
      validateOperation operation
      return count
  | .ifStep conditionId thenSteps elseSteps, count => do
      requireName conditionId "condition_id"
      raiseIf (thenSteps.isEmpty = true) (macroGraphErr "IF requires a non-empty then branch")
      validateDepth (depth + 1)
      let thenCount ← validateBlock (depth + 1) thenSteps 0
      let elseCount ← validateBlock (depth + 1) elseSteps 0
      return count + thenCount + elseCount
  | .loopStep loopId maxIterations body, count => do
      requireName loopId "loop_id"
      validateBound maxIterations "max_iterations" maxLoopIterations
      raiseIf (body.isEmpty = true) (macroGraphErr "LOOP requires a non-empty body")
      validateDepth (depth + 1)
      let bodyCount ← validateBlock (depth + 1) body 0
      return count + bodyCount
  | .forEachStep itemName collectionRef maxItems body, count => do
      requireName itemName "item_name"
      requireName collectionRef "collection_ref"
      validateBound maxItems "max_items" maxForEachItems
      raiseIf (body.isEmpty = true) (macroGraphErr "FOREACH requires a non-empty body")
      validateDepth (depth + 1)
      let bodyCount ← validateBlock (depth + 1) body 0
      return count + bodyCount
  | .callStep macroId macroVersion _, count => do
      requireName macroId "called macro_id"
      let _ ← requireText .macroGraphContractError 128 macroVersion "called macro_version"
      return count
  | .checkpointStep label, count => do
      requireName label "checkpoint label"
      return count
  | .approveStep barrierId requiredCapabilities reason, count => do
      requireName barrierId "approval barrier_id"
      let _ ← requireText .macroGraphContractError 512 reason "approval reason"
      validateCanonicalNames requiredCapabilities "approval required_capabilities" false
      return count

end

def validate (definition : MacroDefinition) : Except PyError Unit := do
  raiseIf (definition.steps.isEmpty = true)
    (macroGraphErr "macro definition requires at least one step")
  validateDepth 0
  let count ← validateBlock 0 definition.steps 0
  raiseIf (maxStaticSteps < count) staticStepsErr

mutual

/-- `_emit_steps`, for the rest of a block from its `localIndex`-th step on. The next instruction
gets the index `start`. -/
def emitSteps (sha256 : Json → String) (blockPath : String) :
    List MacroStep → (localIndex start : ℕ) → List PlanInstruction
  | [], _, _ => []
  | step :: steps, localIndex, start =>
      let code := emitStep sha256 step (blockPath ++ "." ++ toString localIndex) start
      code ++ emitSteps sha256 blockPath steps (localIndex + 1) (start + code.length)

/-- The instructions of one step. -/
def emitStep (sha256 : Json → String) : MacroStep → (path : String) → (start : ℕ) →
    List PlanInstruction
  | .doStep operation, path, start =>
      [⟨start, path, .doOp,
        [("operation_id", .str operation.operationId),
          ("operation_version", .str operation.operationVersion),
          ("operation_hash", .str (operation.operationHash sha256)),
          ("adapter_id", .str operation.adapterId), ("action", .str operation.action),
          ("required_capabilities", .strs operation.requiredCapabilities)],
        sourceHash sha256 (.doStep operation), false, false, false⟩]
  | .ifStep conditionId thenSteps elseSteps, path, start =>
      let hash := sourceHash sha256 (.ifStep conditionId thenSteps elseSteps)
      let payload := [("condition_id", Json.str conditionId)]
      let thenCode := emitSteps sha256 (path ++ ".then") thenSteps 0 (start + 1)
      let elseAt := start + 1 + thenCode.length
      let elseCode := emitSteps sha256 (path ++ ".else") elseSteps 0 (elseAt + 1)
      [⟨start, path, .ifBegin, payload, hash, false, false, false⟩] ++ thenCode ++
        [⟨elseAt, path ++ ".else", .elseOp, payload, hash, false, false, false⟩] ++ elseCode ++
        [⟨elseAt + 1 + elseCode.length, path ++ ".end", .ifEnd, payload, hash, false, false, false⟩]
  | .loopStep loopId maxIterations body, path, start =>
      let hash := sourceHash sha256 (.loopStep loopId maxIterations body)
      let payload := [("loop_id", Json.str loopId), ("max_iterations", .int maxIterations)]
      let bodyCode := emitSteps sha256 (path ++ ".body") body 0 (start + 1)
      [⟨start, path, .loopBegin, payload, hash, false, false, false⟩] ++ bodyCode ++
        [⟨start + 1 + bodyCode.length, path ++ ".end", .loopEnd, payload, hash,
          false, false, false⟩]
  | .forEachStep itemName collectionRef maxItems body, path, start =>
      let hash := sourceHash sha256 (.forEachStep itemName collectionRef maxItems body)
      let payload := [("item_name", Json.str itemName), ("collection_ref", .str collectionRef),
        ("max_items", .int maxItems)]
      let bodyCode := emitSteps sha256 (path ++ ".body") body 0 (start + 1)
      [⟨start, path, .forEachBegin, payload, hash, false, false, false⟩] ++ bodyCode ++
        [⟨start + 1 + bodyCode.length, path ++ ".end", .forEachEnd, payload, hash,
          false, false, false⟩]
  | .callStep macroId macroVersion arguments, path, start =>
      [⟨start, path, .callOp,
        [("macro_id", .str macroId), ("macro_version", .str macroVersion),
          ("arguments", arguments), ("arguments_sha256", .str (sha256 arguments))],
        sourceHash sha256 (.callStep macroId macroVersion arguments), false, false, false⟩]
  | .checkpointStep label, path, start =>
      [⟨start, path, .checkpoint, [("label", .str label)],
        sourceHash sha256 (.checkpointStep label), false, false, false⟩]
  | .approveStep barrierId requiredCapabilities reason, path, start =>
      [⟨start, path, .approve,
        [("barrier_id", .str barrierId), ("required_capabilities", .strs requiredCapabilities),
          ("reason", .str reason), ("grants_authority", .bool false)],
        sourceHash sha256 (.approveStep barrierId requiredCapabilities reason),
        false, false, false⟩]

end

def plan (sha256 : Json → String) (definition : MacroDefinition) : Except PyError MacroPlan := do
  validate definition
  let emitted := emitSteps sha256 "root" definition.steps 0 0
  emitted.forM (·.postInit)
  let plan : MacroPlan := {
    macroId := definition.macroId
    macroVersion := definition.macroVersion
    definitionSha256 := definition.definitionSha256 sha256
    instructions := emitted }
  plan.postInit
  return plan

end MacroGraphPlanner

end PhiOS
