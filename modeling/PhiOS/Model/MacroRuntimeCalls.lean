import PhiOS.Model.MacroRuntime
import PhiOS.Model.PythonValues

/-!
# Calls of the macro runtime that raise

`macro_runtime.py` once more, over inputs of any kind. `MacroRuntime` holds values that
`_canonical_sha256` hashes; here it may raise, and what has been done before that is done: every
call gives what it returns or raises together with the runtime it leaves behind.
-/

set_option autoImplicit false

namespace PhiOS

open KeyOrder

namespace PyMacro

/-- `CapabilityGrant`, as far as `authorize` reads it. -/
structure CapabilityGrant where
  grantId : PyText
  principalId : PyText
  capability : PyText
  revoked : Bool := false

structure Operation where
  operationId : PyText
  operationVersion : PyText
  adapterId : PyText
  action : PyText
  inputs : PyValue
  requiredCapabilities : List PyText := []
  executionModesSupported : List ExecutionMode := [.live, .dryRun]
  idempotencyClass : IdempotencyClass := .unknown
  replayClass : ReplayClass := .unknown
  rollbackClass : RollbackClass := .unknown
  sideEffectClass : SideEffectClass := .unknown
  idempotencyKey : Option PyText := none

structure AuthorityDecision where
  decision : RuntimeDecisionKind
  principalId : PyText
  operationId : PyText
  requiredCapabilities : List PyText
  matchedGrants : List PyText
  missingCapabilities : List PyText

def authorize (principalId : PyText) (operation : Operation) (grants : List CapabilityGrant) :
    AuthorityDecision :=
  let active := grants.filter fun grant => grant.principalId = principalId ∧ grant.revoked = false
  let matched := active.filter fun grant => grant.capability ∈ operation.requiredCapabilities
  let missing := operation.requiredCapabilities.filter fun capability =>
    capability ∉ active.map (·.capability)
  { decision := if missing = [] then .granted else .denied
    principalId, operationId := operation.operationId
    requiredCapabilities := operation.requiredCapabilities
    matchedGrants := (matched.map (·.grantId)).insertionSort (· ≤ ·)
    missingCapabilities := missing }

/-- A text as a value. -/
def text (value : String) : PyValue := .str (pyText value)

/-- A list of texts as a value. -/
def texts (values : List PyText) : PyValue := .seq (values.map .str)

/-- An optional text as a value. -/
def optText : Option PyText → PyValue
  | none => .null
  | some value => .str value

structure RuntimeReceipt where
  receiptId : String
  executionId : String
  operationId : PyText
  operationVersion : PyText
  principalId : PyText
  grantIds : List PyText
  executionMode : ExecutionMode
  executionState : ExecutionState
  inputHash : String
  operationHash : String
  preStateHash : String
  postStateHash : String
  resultHash : String
  committedSideEffectCount : ℕ
  checkpointId : Option String
  adapterId : PyText
  adapterVersion : PyText
  resultStatus : RuntimeResultStatus
  startedAt : String
  finishedAt : String
  parentReceiptId : Option String := none

structure ExecutionResult where
  state : ExecutionState
  status : RuntimeResultStatus
  authority : AuthorityDecision
  receipt : RuntimeReceipt
  output : PyFields

variable (json : PyJson)

namespace Operation

variable (operation : Operation)

def operationHash : Except PyError String :=
  json.canonicalSha256 <| dictOf [(pyText "operation_id", .str operation.operationId),
    (pyText "operation_version", .str operation.operationVersion),
    (pyText "adapter_id", .str operation.adapterId), (pyText "action", .str operation.action),
    (pyText "inputs", operation.inputs),
    (pyText "required_capabilities", texts operation.requiredCapabilities),
    (pyText "execution_modes_supported",
      .seq (operation.executionModesSupported.map fun mode => text mode.value)),
    (pyText "idempotency_class", text operation.idempotencyClass.value),
    (pyText "replay_class", text operation.replayClass.value),
    (pyText "rollback_class", text operation.rollbackClass.value),
    (pyText "side_effect_class", text operation.sideEffectClass.value),
    (pyText "idempotency_key", optText operation.idempotencyKey)]

def inputHash : Except PyError String := json.canonicalSha256 operation.inputs

/-- `operation.inputs.get(name)`. -/
def input (name : String) : Except PyError (Option PyValue) :=
  match operation.inputs with
  | .dict entries | .foreign _ true entries => .ok (entries.lookup (.text (pyText name)))
  | _ => .error ⟨.exception "AttributeError", "object has no attribute 'get'", []⟩

end Operation

def idempotencyIdentity (operation : Operation) : Except PyError (Option String) :=
  if operation.idempotencyClass = .idempotent ∨ operation.idempotencyClass = .conditional then
    if operation.idempotencyKey = none ∨ operation.idempotencyKey = some [] then
      .error ⟨.valueError, "idempotent operation requires idempotency_key", []⟩
    else do
      let inputHash ← operation.inputHash json
      let identity ← json.canonicalSha256 <| dictOf
        [(pyText "operation_id", .str operation.operationId),
          (pyText "operation_version", .str operation.operationVersion),
          (pyText "input_hash", text inputHash),
          (pyText "idempotency_key", optText operation.idempotencyKey)]
      return some identity
  else .ok none

/-! ## The adapter -/

structure AdapterResult where
  output : PyFields
  committedSideEffectCount : ℕ

structure InMemoryStateAdapter where
  adapterId : PyText := pyText "memory.state"
  version : PyText := pyText "0.1.0"
  state : PyFields := []
  committedEffects : ℕ := 0

namespace InMemoryStateAdapter

variable (adapter : InMemoryStateAdapter)

def stateHash : Except PyError String := json.canonicalSha256 (dictOf adapter.state)

def snapshot : Except PyError PyFields := json.reread adapter.state

def restore (snapshot : PyFields) : Except PyError InMemoryStateAdapter := do
  let state ← json.reread snapshot
  return { adapter with state }

/-- The key and the value that an operation sets, as `_apply` reads them. -/
def setting (operation : Operation) : Except PyError (PyText × PyValue) := do
  raiseIf (operation.action ≠ pyText "set") ⟨.valueError,
    "unsupported action: " ++ String.ofList (operation.action.map Char.ofNat), []⟩
  match (← operation.input "key") with
  | some (.str key) => do
      raiseIf (key = []) ⟨.valueError, "set requires non-empty string key", []⟩
      let value ← operation.input "value"
      return (key, value.getD .null)
  | _ => .error ⟨.valueError, "set requires non-empty string key", []⟩

/-- The state after a setting. -/
def predicted (setting : PyText × PyValue) : PyFields := adapter.state.set setting.1 setting.2

/-- The adapter after a setting. -/
def committed (setting : PyText × PyValue) : InMemoryStateAdapter :=
  { adapter with
    state := adapter.predicted setting, committedEffects := adapter.committedEffects + 1 }

/-- What `_apply` returns for a setting: the hash is taken last. -/
def output (setting : PyText × PyValue) : Except PyError PyFields := do
  let predictedStateHash ← json.canonicalSha256 (dictOf (adapter.predicted setting))
  return [(pyText "key", .str setting.1), (pyText "value", setting.2),
    (pyText "predicted_state_hash", text predictedStateHash)]

/-- `_apply`, with the adapter after it. -/
def apply (operation : Operation) (commit : Bool) : Except PyError PyFields × InMemoryStateAdapter :=
  match setting operation with
  | .error e => (.error e, adapter)
  | .ok setting =>
      (adapter.output json setting, if commit then adapter.committed setting else adapter)

/-- `execute`, with the adapter after it. -/
def execute (operation : Operation) : Except PyError AdapterResult × InMemoryStateAdapter :=
  let (output, after) := adapter.apply json operation true
  (output.map (⟨·, 1⟩), after)

/-- `simulate`, with the adapter after it. -/
def simulate (operation : Operation) : Except PyError AdapterResult × InMemoryStateAdapter :=
  let (output, after) := adapter.apply json operation false
  (output.map (⟨·, 0⟩), after)

end InMemoryStateAdapter

/-! ## The runtime -/

structure Checkpoint where
  checkpointId : String
  executionId : String
  stateHash : String
  snapshot : PyFields

structure MacroRuntime where
  adapters : Dict PyText InMemoryStateAdapter := .empty
  receipts : List RuntimeReceipt := []
  committedIdempotency : Dict String RuntimeReceipt := .empty
  checkpoints : Dict String Checkpoint := .empty

namespace MacroRuntime

variable (runtime : MacroRuntime)

/-- The adapter object under an identifier, after a call on it. -/
def update (adapterId : PyText) (adapter : InMemoryStateAdapter) : MacroRuntime :=
  { runtime with adapters := runtime.adapters.set adapterId adapter }

/-- `self.receipts.append(receipt)`. -/
def record (receipt : RuntimeReceipt) : MacroRuntime :=
  { runtime with receipts := runtime.receipts ++ [receipt] }

/-- The checkpoint among the checkpoints. -/
def hold : Option Checkpoint → MacroRuntime
  | none => runtime
  | some checkpoint =>
      { runtime with checkpoints := runtime.checkpoints.set checkpoint.checkpointId checkpoint }

/-- The receipt under the identity. -/
def commit (receipt : RuntimeReceipt) : Option String → MacroRuntime
  | none => runtime
  | some identity =>
      { runtime with
        committedIdempotency := runtime.committedIdempotency.set identity receipt }

def adapter (adapterId : PyText) : Except PyError InMemoryStateAdapter :=
  match runtime.adapters.get? adapterId with
  | some adapter => .ok adapter
  | none => .error (.keyError
      ("unknown adapter: " ++ String.ofList (adapterId.map Char.ofNat)))

def findReceipt (receiptId : String) : Except PyError RuntimeReceipt :=
  match runtime.receipts.find? (·.receiptId = receiptId) with
  | some receipt => .ok receipt
  | none => .error (.keyError ("unknown receipt: " ++ receiptId))

/-- The checkpoint that `_create_checkpoint` stores. -/
def createCheckpoint (adapter : InMemoryStateAdapter) (stamps : Stamps)
    (rollbackClass : RollbackClass) : Except PyError (Option Checkpoint) :=
  if rollbackClass ≠ .reversible then .ok none
  else do
    let stateHash ← adapter.stateHash json
    let snapshot ← adapter.snapshot json
    return some
      { checkpointId := stamps.checkpointId, executionId := stamps.executionId, stateHash, snapshot }

/-- The arguments of `execute`. -/
structure Request where
  principalId : PyText
  operation : Operation
  grants : List CapabilityGrant := []
  mode : ExecutionMode := .live
  parentReceiptId : Option String := none

def receipt (stamps : Stamps) (request : Request) (authority : AuthorityDecision)
    (state : ExecutionState) (preStateHash postStateHash : String) (output : PyFields)
    (sideEffectCount : ℕ) (checkpointId : Option String) (adapter : InMemoryStateAdapter)
    (status : RuntimeResultStatus) : Except PyError RuntimeReceipt := do
  let inputHash ← request.operation.inputHash json
  let operationHash ← request.operation.operationHash json
  let resultHash ← json.canonicalSha256 (dictOf output)
  return {
    receiptId := stamps.receiptId, executionId := stamps.executionId
    operationId := request.operation.operationId
    operationVersion := request.operation.operationVersion, principalId := request.principalId
    grantIds := authority.matchedGrants, executionMode := request.mode, executionState := state
    inputHash, operationHash, preStateHash, postStateHash, resultHash
    committedSideEffectCount := sideEffectCount, checkpointId, adapterId := adapter.adapterId
    adapterVersion := adapter.version, resultStatus := status, startedAt := stamps.startedAt
    finishedAt := stamps.finishedAt, parentReceiptId := request.parentReceiptId }

/-- Where `execute` goes, before it creates a checkpoint. -/
inductive Admission
  | denied
  | alreadyApplied (prior : RuntimeReceipt)
  | enters (identity : Option String)

/-- The checks of `execute` on the mode, the grants and the identity. -/
def admission (request : Request) : Except PyError Admission := do
  raiseIf (request.mode ∉ request.operation.executionModesSupported)
    ⟨.valueError, "execution mode " ++ request.mode.value ++ " is not supported", []⟩
  if (authorize request.principalId request.operation request.grants).decision ≠ .granted then
    return .denied
  else
    let identity ← idempotencyIdentity json request.operation
    match (if request.mode = .live then identity.bind runtime.committedIdempotency.get? else none)
      with
    | some prior => return .alreadyApplied prior
    | none => return .enters identity

/-- What `execute` has the adapter do, with the adapter after it. -/
def perform (adapter : InMemoryStateAdapter) (request : Request) :
    Except PyError (AdapterResult × RuntimeResultStatus) × InMemoryStateAdapter :=
  match request.mode with
  | .dryRun =>
      let (result, after) := adapter.simulate json request.operation
      (do
        let result ← result
        raiseIf (result.committedSideEffectCount ≠ 0)
          ⟨.runtimeError, "dry-run adapter committed a side effect", []⟩
        return (result, .dryRun), after)
  | .replay =>
      if request.operation.replayClass ≠ .deterministic then
        (.error ⟨.valueError, "operation is not declared deterministic", []⟩, adapter)
      else
        let (result, after) := adapter.simulate json request.operation
        (do
          let result ← result
          raiseIf (result.committedSideEffectCount ≠ 0)
            ⟨.runtimeError, "replay simulation committed a side effect", []⟩
          return (result, .succeeded), after)
  | .live =>
      let (result, after) := adapter.execute json request.operation
      (result.map (·, .succeeded), after)

/-- The part of `execute` that returns without entering the adapter. -/
def refuse (adapter : InMemoryStateAdapter) (preStateHash : String) (stamps : Stamps)
    (request : Request) (state : ExecutionState) (status : RuntimeResultStatus)
    (output : PyFields) : Except PyError ExecutionResult × MacroRuntime :=
  let authority := authorize request.principalId request.operation request.grants
  match receipt json stamps request authority state preStateHash preStateHash output 0 none
    adapter status with
  | .error e => (.error e, runtime)
  | .ok receipt => (.ok ⟨state, status, authority, receipt, output⟩, runtime.record receipt)

/-- The part of `execute` after the adapter has returned. -/
def settle (after : InMemoryStateAdapter) (preStateHash : String) (stamps : Stamps)
    (request : Request) (identity : Option String) (checkpoint : Option Checkpoint)
    (result : AdapterResult) (status : RuntimeResultStatus) :
    Except PyError ExecutionResult × MacroRuntime :=
  let authority := authorize request.principalId request.operation request.grants
  let settled : Except PyError RuntimeReceipt := do
    let postStateHash ← after.stateHash json
    receipt json stamps request authority .completed preStateHash postStateHash result.output
      result.committedSideEffectCount (checkpoint.map (·.checkpointId)) after status
  match settled with
  | .error e => (.error e, runtime)
  | .ok receipt =>
      (.ok ⟨.completed, status, authority, receipt, result.output⟩,
        (runtime.record receipt).commit receipt (if request.mode = .live then identity else none))

/-- The part of `execute` from the checkpoint on. -/
def enter (adapter : InMemoryStateAdapter) (preStateHash : String) (stamps : Stamps)
    (request : Request) (identity : Option String) :
    Except PyError ExecutionResult × MacroRuntime :=
  match createCheckpoint json adapter stamps request.operation.rollbackClass with
  | .error e => (.error e, runtime)
  | .ok checkpoint =>
      match perform json adapter request with
      | (performed, after) =>
          let runtime := (runtime.hold checkpoint).update request.operation.adapterId after
          match performed with
          | .error e => (.error e, runtime)
          | .ok (result, status) =>
              runtime.settle json after preStateHash stamps request identity checkpoint result
                status

/-- The adapter, and the hash of its state, with which `execute` begins. -/
def begin (request : Request) : Except PyError (InMemoryStateAdapter × String × Admission) := do
  let adapter ← runtime.adapter request.operation.adapterId
  let preStateHash ← adapter.stateHash json
  let admission ← runtime.admission json request
  return (adapter, preStateHash, admission)

/-- `execute`, with the runtime after it. -/
def execute (stamps : Stamps) (request : Request) : Except PyError ExecutionResult × MacroRuntime :=
  match runtime.begin json request with
  | .error e => (.error e, runtime)
  | .ok (adapter, preStateHash, .denied) =>
      runtime.refuse json adapter preStateHash stamps request .denied .denied
        [(pyText "missing_capabilities", texts
          (authorize request.principalId request.operation request.grants).missingCapabilities)]
  | .ok (adapter, preStateHash, .alreadyApplied prior) =>
      runtime.refuse json adapter preStateHash stamps request .completed .alreadyApplied
        [(pyText "prior_receipt_id", text prior.receiptId)]
  | .ok (adapter, preStateHash, .enters identity) =>
      runtime.enter json adapter preStateHash stamps request identity

/-- The receipt of a rollback. -/
def rollbackReceipt (stamps : Stamps) (original : RuntimeReceipt)
    (preStateHash postStateHash : String) : Except PyError RuntimeReceipt := do
  let resultHash ← json.canonicalSha256
    (dictOf [(pyText "restored_state_hash", text postStateHash)])
  return { original with
    receiptId := stamps.receiptId, executionState := .rolledBack, preStateHash, postStateHash
    resultHash, committedSideEffectCount := 0, resultStatus := .rolledBack
    startedAt := stamps.startedAt, finishedAt := stamps.startedAt
    parentReceiptId := some original.receiptId }

/-- The receipt, the checkpoint, the adapter and the hash of its state with which `rollback` works,
and the adapter with the state of the checkpoint. -/
def rollbackTarget (receiptId : String) : Except PyError
    (RuntimeReceipt × Checkpoint × InMemoryStateAdapter × String × InMemoryStateAdapter) := do
  let original ← runtime.findReceipt receiptId
  match original.checkpointId with
  | none => .error ⟨.valueError, "receipt has no reversible checkpoint", []⟩
  | some checkpointId =>
      match runtime.checkpoints.get? checkpointId with
      | none => .error (.keyError checkpointId)
      | some checkpoint => do
          let adapter ← runtime.adapter original.adapterId
          let preStateHash ← adapter.stateHash json
          let restored ← adapter.restore json checkpoint.snapshot
          return (original, checkpoint, adapter, preStateHash, restored)

/-- `rollback`, with the runtime after it. -/
def rollback (stamps : Stamps) (receiptId : String) : Except PyError RuntimeReceipt × MacroRuntime :=
  match runtime.rollbackTarget json receiptId with
  | .error e => (.error e, runtime)
  | .ok (original, checkpoint, _, preStateHash, restored) =>
      let runtime := runtime.update original.adapterId restored
      let settled : Except PyError RuntimeReceipt := do
        let postStateHash ← restored.stateHash json
        raiseIf (postStateHash ≠ checkpoint.stateHash)
          ⟨.runtimeError, "rollback did not restore checkpoint state", []⟩
        rollbackReceipt json stamps original preStateHash postStateHash
      match settled with
      | .error e => (.error e, runtime)
      | .ok receipt => (.ok receipt, runtime.record receipt)

/-- What `replay` has `execute` do. -/
def replayRequest (principalId : PyText) (operation : Operation) (original : RuntimeReceipt)
    (grants : List CapabilityGrant) : Request where
  principalId := principalId
  operation := operation
  grants := grants
  mode := .replay
  parentReceiptId := some original.receiptId

/-- The receipt that `replay` compares with. -/
def replayOriginal (operation : Operation) (originalReceiptId : String) :
    Except PyError RuntimeReceipt := do
  let original ← runtime.findReceipt originalReceiptId
  let operationHash ← operation.operationHash json
  raiseIf (operationHash ≠ original.operationHash)
    ⟨.valueError, "replay operation hash differs from original", []⟩
  return original

/-- `replay`, with the runtime after it. -/
def replay (stamps : Stamps) (principalId : PyText) (operation : Operation)
    (originalReceiptId : String) (grants : List CapabilityGrant) :
    Except PyError ExecutionResult × MacroRuntime :=
  match runtime.replayOriginal json operation originalReceiptId with
  | .error e => (.error e, runtime)
  | .ok original =>
      let (result, runtime) := runtime.execute json stamps
        (replayRequest principalId operation original grants)
      (do
        let result ← result
        raiseIf (result.receipt.resultHash ≠ original.resultHash)
          ⟨.runtimeError, "deterministic replay result hash mismatch", []⟩
        return result, runtime)

end MacroRuntime

end PyMacro

end PhiOS
