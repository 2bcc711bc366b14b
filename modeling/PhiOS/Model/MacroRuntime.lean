import PhiOS.Model.CanonicalJson
import PhiOS.Model.MacroGraph

/-!
# The macro runtime

`macro_runtime.py`: operations are executed, rolled back and replayed over in-memory adapters. The
runtime keeps the receipts, the checkpoints and, for idempotent operations, the receipt of the
execution that applied them. A call gives its result together with the runtime after it, since some
calls raise after a part of their work is done.
-/

set_option autoImplicit false

namespace PhiOS

open KeyOrder

/-- What a call draws from `uuid4` and from the clock. -/
structure Stamps where
  executionId : String
  receiptId : String
  checkpointId : String
  startedAt : String
  finishedAt : String

/-! ## Authority -/

/-- `CapabilityGrant`, as far as `authorize` reads it. -/
structure CapabilityGrant where
  grantId : String
  principalId : String
  capability : String
  revoked : Bool := false

/-- `AuthorityDecisionKind`, as far as `authorize` decides it. -/
inductive RuntimeDecisionKind
  | granted
  | denied
  deriving DecidableEq

/-- `AuthorityDecision`. -/
structure RuntimeAuthorityDecision where
  decision : RuntimeDecisionKind
  principalId : String
  operationId : String
  requiredCapabilities : List String
  matchedGrants : List String
  missingCapabilities : List String

def authorize (principalId : String) (operation : Operation) (grants : List CapabilityGrant) :
    RuntimeAuthorityDecision :=
  let active := grants.filter fun grant => grant.principalId = principalId ∧ grant.revoked = false
  let matched := active.filter fun grant => grant.capability ∈ operation.requiredCapabilities
  let missing := operation.requiredCapabilities.filter fun capability =>
    capability ∉ active.map (·.capability)
  { decision := if missing = [] then .granted else .denied
    principalId, operationId := operation.operationId
    requiredCapabilities := operation.requiredCapabilities
    matchedGrants := (matched.map (·.grantId)).insertionSort (· ≤ ·)
    missingCapabilities := missing }

/-! ## Receipts -/

/-- `ExecutionState`, as far as the runtime reports it. -/
inductive ExecutionState
  | denied
  | completed
  | rolledBack
  deriving DecidableEq

inductive RuntimeResultStatus
  | succeeded
  | denied
  | alreadyApplied
  | dryRun
  | failed
  | rolledBack
  deriving DecidableEq

structure RuntimeReceipt where
  receiptId : String
  executionId : String
  operationId : String
  operationVersion : String
  principalId : String
  grantIds : List String
  executionMode : ExecutionMode
  executionState : ExecutionState
  inputHash : String
  operationHash : String
  preStateHash : String
  postStateHash : String
  resultHash : String
  committedSideEffectCount : ℕ
  checkpointId : Option String
  adapterId : String
  adapterVersion : String
  resultStatus : RuntimeResultStatus
  startedAt : String
  finishedAt : String
  parentReceiptId : Option String := none
  deriving DecidableEq

structure ExecutionResult where
  state : ExecutionState
  status : RuntimeResultStatus
  authority : RuntimeAuthorityDecision
  receipt : RuntimeReceipt
  output : Row

/-! ## Operations -/

/-- `operation.inputs.get(name)`. -/
def Operation.input (operation : Operation) (name : String) : Option Json :=
  match operation.inputs with
  | .obj fields => fields.lookup name
  | _ => none

def Operation.inputHash (sha256 : Json → String) (operation : Operation) : String :=
  sha256 operation.inputs

def idempotencyIdentity (sha256 : Json → String) (operation : Operation) :
    Except PyError (Option String) :=
  if operation.idempotencyClass = .idempotent ∨ operation.idempotencyClass = .conditional then
    if operation.idempotencyKey = none ∨ operation.idempotencyKey = some "" then
      .error ⟨.valueError, "idempotent operation requires idempotency_key", []⟩
    else .ok <| some <| sha256 <| .obj [("operation_id", .str operation.operationId),
      ("operation_version", .str operation.operationVersion),
      ("input_hash", .str (operation.inputHash sha256)),
      ("idempotency_key", .optStr operation.idempotencyKey)]
  else .ok none

/-! ## The adapter -/

structure AdapterResult where
  output : Row
  committedSideEffectCount : ℕ

/-- `json.loads(json.dumps(state, sort_keys=True))`. -/
def reread (state : Dict String Json) : Dict String Json :=
  ⟨Json.canonicalFields state.entries, Json.ordered_canonicalFields state.entries⟩

structure InMemoryStateAdapter where
  adapterId : String := "memory.state"
  version : String := "0.1.0"
  state : Dict String Json := .empty
  committedEffects : ℕ := 0

namespace InMemoryStateAdapter

variable (sha256 : Json → String) (adapter : InMemoryStateAdapter)

def stateHash : String := sha256 (.obj adapter.state.entries)

def snapshot : Dict String Json := reread adapter.state

def restore (snapshot : Dict String Json) : InMemoryStateAdapter :=
  { adapter with state := reread snapshot }

/-- The key and the value that an operation sets, as `_apply` reads them. -/
def setting (operation : Operation) : Except PyError (String × Json) :=
  if operation.action ≠ "set" then
    .error ⟨.valueError, "unsupported action: " ++ operation.action, []⟩
  else match operation.input "key" with
    | some (.str key) =>
        if key = "" then .error ⟨.valueError, "set requires non-empty string key", []⟩
        else .ok (key, (operation.input "value").getD .null)
    | _ => .error ⟨.valueError, "set requires non-empty string key", []⟩

/-- `_apply`, with the adapter after it. -/
def apply (operation : Operation) (commit : Bool) : Except PyError (Row × InMemoryStateAdapter) := do
  let (key, value) ← setting operation
  let predicted := adapter.state.set key value
  let output : Row := [("key", .str key), ("value", value),
    ("predicted_state_hash", .str (sha256 (.obj predicted.entries)))]
  return (output, if commit then
    { adapter with state := predicted, committedEffects := adapter.committedEffects + 1 }
    else adapter)

/-- `execute`, with the adapter after it. -/
def execute (operation : Operation) : Except PyError (AdapterResult × InMemoryStateAdapter) := do
  let (output, after) ← adapter.apply sha256 operation true
  return (⟨output, 1⟩, after)

/-- `simulate`, with the adapter after it. -/
def simulate (operation : Operation) : Except PyError (AdapterResult × InMemoryStateAdapter) := do
  let (output, after) ← adapter.apply sha256 operation false
  return (⟨output, 0⟩, after)

end InMemoryStateAdapter

/-! ## The runtime -/

structure Checkpoint where
  checkpointId : String
  executionId : String
  stateHash : String
  snapshot : Dict String Json

/-- `MacroRuntime`: an adapter is registered under its own identifier. -/
structure MacroRuntime where
  adapters : Dict String InMemoryStateAdapter := .empty
  receipts : List RuntimeReceipt := []
  committedIdempotency : Dict String RuntimeReceipt := .empty
  checkpoints : Dict String Checkpoint := .empty
  registered : ∀ {id : String} {adapter : InMemoryStateAdapter}, adapters.get? id = some adapter →
    adapter.adapterId = id := by simp

theorem registered_set {adapters : Dict String InMemoryStateAdapter}
    (h : ∀ {id : String} {adapter : InMemoryStateAdapter}, adapters.get? id = some adapter →
      adapter.adapterId = id) (adapter : InMemoryStateAdapter) {id : String}
    {adapter' : InMemoryStateAdapter}
    (hget : (adapters.set adapter.adapterId adapter).get? id = some adapter') :
    adapter'.adapterId = id := by
  rw [Dict.get?_set] at hget
  by_cases hid : id = adapter.adapterId
  · rw [if_pos hid] at hget
    rw [← Option.some.inj hget, hid]
  · rw [if_neg hid] at hget
    exact h hget

namespace MacroRuntime

variable (sha256 : Json → String) (runtime : MacroRuntime)

/-- The adapter object after a call on it. -/
def update (adapter : InMemoryStateAdapter) : MacroRuntime :=
  { runtime with
    adapters := runtime.adapters.set adapter.adapterId adapter
    registered := registered_set runtime.registered adapter }

def registerAdapter (adapter : InMemoryStateAdapter) : Except PyError MacroRuntime := do
  raiseIf (adapter.adapterId = "") ⟨.valueError, "adapter_id must be non-empty", []⟩
  raiseIf (runtime.adapters.get? adapter.adapterId ≠ none)
    ⟨.valueError, "adapter already registered: " ++ adapter.adapterId, []⟩
  return runtime.update adapter

def adapter (adapterId : String) : Except PyError InMemoryStateAdapter :=
  match runtime.adapters.get? adapterId with
  | some adapter => .ok adapter
  | none => .error (.keyError ("unknown adapter: " ++ adapterId))

def findReceipt (receiptId : String) : Except PyError RuntimeReceipt :=
  match runtime.receipts.find? (·.receiptId = receiptId) with
  | some receipt => .ok receipt
  | none => .error (.keyError ("unknown receipt: " ++ receiptId))

/-- `self.receipts.append(receipt)`. -/
def record (receipt : RuntimeReceipt) : MacroRuntime :=
  { runtime with receipts := runtime.receipts ++ [receipt] }

/-- `_create_checkpoint`, with the runtime after it. -/
def createCheckpoint (adapter : InMemoryStateAdapter) (stamps : Stamps)
    (rollbackClass : RollbackClass) : Option Checkpoint × MacroRuntime :=
  if rollbackClass ≠ .reversible then (none, runtime)
  else
    let checkpoint : Checkpoint := {
      checkpointId := stamps.checkpointId, executionId := stamps.executionId
      stateHash := adapter.stateHash sha256, snapshot := adapter.snapshot }
    (some checkpoint,
      { runtime with checkpoints := runtime.checkpoints.set checkpoint.checkpointId checkpoint })

/-- The arguments of `execute`. -/
structure Request where
  principalId : String
  operation : Operation
  grants : List CapabilityGrant := []
  mode : ExecutionMode := .live
  parentReceiptId : Option String := none

def receipt (stamps : Stamps) (request : Request) (authority : RuntimeAuthorityDecision)
    (state : ExecutionState) (preStateHash postStateHash : String) (output : Row)
    (sideEffectCount : ℕ) (checkpointId : Option String) (adapter : InMemoryStateAdapter)
    (status : RuntimeResultStatus) : RuntimeReceipt where
  receiptId := stamps.receiptId
  executionId := stamps.executionId
  operationId := request.operation.operationId
  operationVersion := request.operation.operationVersion
  principalId := request.principalId
  grantIds := authority.matchedGrants
  executionMode := request.mode
  executionState := state
  inputHash := request.operation.inputHash sha256
  operationHash := request.operation.operationHash sha256
  preStateHash := preStateHash
  postStateHash := postStateHash
  resultHash := sha256 (.obj output)
  committedSideEffectCount := sideEffectCount
  checkpointId := checkpointId
  adapterId := adapter.adapterId
  adapterVersion := adapter.version
  resultStatus := status
  startedAt := stamps.startedAt
  finishedAt := stamps.finishedAt
  parentReceiptId := request.parentReceiptId

/-- Where `execute` goes, before it creates a checkpoint. -/
inductive Admission
  | denied
  | alreadyApplied (prior : RuntimeReceipt)
  | enters (identity : Option String)

/-- The checks of `execute` before it creates a checkpoint. -/
def admission (request : Request) : Except PyError Admission := do
  raiseIf (request.mode ∉ request.operation.executionModesSupported)
    ⟨.valueError, "execution mode " ++ request.mode.value ++ " is not supported", []⟩
  if (authorize request.principalId request.operation request.grants).decision ≠ .granted then
    return .denied
  else
    let identity ← idempotencyIdentity sha256 request.operation
    match (if request.mode = .live then identity.bind runtime.committedIdempotency.get? else none) with
    | some prior => return .alreadyApplied prior
    | none => return .enters identity

/-- What `execute` has the adapter do. -/
def perform (adapter : InMemoryStateAdapter) (request : Request) :
    Except PyError (AdapterResult × InMemoryStateAdapter × RuntimeResultStatus) :=
  match request.mode with
  | .dryRun => do
      let (result, after) ← adapter.simulate sha256 request.operation
      raiseIf (result.committedSideEffectCount ≠ 0)
        ⟨.runtimeError, "dry-run adapter committed a side effect", []⟩
      return (result, after, .dryRun)
  | .replay => do
      raiseIf (request.operation.replayClass ≠ .deterministic)
        ⟨.valueError, "operation is not declared deterministic", []⟩
      let (result, after) ← adapter.simulate sha256 request.operation
      raiseIf (result.committedSideEffectCount ≠ 0)
        ⟨.runtimeError, "replay simulation committed a side effect", []⟩
      return (result, after, .succeeded)
  | .live => do
      let (result, after) ← adapter.execute sha256 request.operation
      return (result, after, .succeeded)

/-- The part of `execute` that returns without entering the adapter. -/
def refuse (adapter : InMemoryStateAdapter) (stamps : Stamps) (request : Request)
    (state : ExecutionState) (status : RuntimeResultStatus) (output : Row) :
    Except PyError ExecutionResult × MacroRuntime :=
  let authority := authorize request.principalId request.operation request.grants
  let receipt := receipt sha256 stamps request authority state (adapter.stateHash sha256)
    (adapter.stateHash sha256) output 0 none adapter status
  (.ok ⟨state, status, authority, receipt, output⟩, runtime.record receipt)

/-- The part of `execute` from the checkpoint on. -/
def enter (adapter : InMemoryStateAdapter) (stamps : Stamps) (request : Request)
    (identity : Option String) : Except PyError ExecutionResult × MacroRuntime :=
  let authority := authorize request.principalId request.operation request.grants
  let (checkpoint, runtime) :=
    runtime.createCheckpoint sha256 adapter stamps request.operation.rollbackClass
  match perform sha256 adapter request with
  | .error e => (.error e, runtime)
  | .ok (result, after, status) =>
      let receipt := receipt sha256 stamps request authority .completed (adapter.stateHash sha256)
        (after.stateHash sha256) result.output result.committedSideEffectCount
        (checkpoint.map (·.checkpointId)) after status
      let runtime := (runtime.update after).record receipt
      let runtime := match (if request.mode = .live then identity else none) with
        | some identity => { runtime with
            committedIdempotency := runtime.committedIdempotency.set identity receipt }
        | none => runtime
      (.ok ⟨.completed, status, authority, receipt, result.output⟩, runtime)

/-- `execute`, with the runtime after it. -/
def execute (stamps : Stamps) (request : Request) : Except PyError ExecutionResult × MacroRuntime :=
  match runtime.adapter request.operation.adapterId with
  | .error e => (.error e, runtime)
  | .ok adapter =>
      match runtime.admission sha256 request with
      | .error e => (.error e, runtime)
      | .ok .denied =>
          let missing :=
            (authorize request.principalId request.operation request.grants).missingCapabilities
          runtime.refuse sha256 adapter stamps request .denied .denied
            [("missing_capabilities", .strs missing)]
      | .ok (.alreadyApplied prior) =>
          runtime.refuse sha256 adapter stamps request .completed .alreadyApplied
            [("prior_receipt_id", .str prior.receiptId)]
      | .ok (.enters identity) => runtime.enter sha256 adapter stamps request identity

/-- The receipt of a rollback. -/
def rollbackReceipt (stamps : Stamps) (original : RuntimeReceipt)
    (preStateHash postStateHash : String) : RuntimeReceipt :=
  { original with
    receiptId := stamps.receiptId, executionState := .rolledBack, preStateHash, postStateHash
    resultHash := sha256 (.obj [("restored_state_hash", .str postStateHash)])
    committedSideEffectCount := 0, resultStatus := .rolledBack, startedAt := stamps.startedAt
    finishedAt := stamps.startedAt, parentReceiptId := some original.receiptId }

/-- The receipt, the checkpoint and the adapter that `rollback` works on. -/
def rollbackTarget (receiptId : String) :
    Except PyError (RuntimeReceipt × Checkpoint × InMemoryStateAdapter) := do
  let original ← runtime.findReceipt receiptId
  match original.checkpointId with
  | none => .error ⟨.valueError, "receipt has no reversible checkpoint", []⟩
  | some checkpointId =>
      match runtime.checkpoints.get? checkpointId with
      | none => .error (.keyError checkpointId)
      | some checkpoint => do
          let adapter ← runtime.adapter original.adapterId
          return (original, checkpoint, adapter)

/-- `rollback`, with the runtime after it: a restored state with another hash stays. -/
def rollback (stamps : Stamps) (receiptId : String) : Except PyError RuntimeReceipt × MacroRuntime :=
  match runtime.rollbackTarget receiptId with
  | .error e => (.error e, runtime)
  | .ok (original, checkpoint, adapter) =>
      let restored := adapter.restore checkpoint.snapshot
      let runtime := runtime.update restored
      if restored.stateHash sha256 ≠ checkpoint.stateHash then
        (.error ⟨.runtimeError, "rollback did not restore checkpoint state", []⟩, runtime)
      else
        let receipt := rollbackReceipt sha256 stamps original (adapter.stateHash sha256)
          (restored.stateHash sha256)
        (.ok receipt, runtime.record receipt)

/-- `replay`, with the runtime after it. -/
def replay (stamps : Stamps) (principalId : String) (operation : Operation)
    (originalReceiptId : String) (grants : List CapabilityGrant) :
    Except PyError ExecutionResult × MacroRuntime :=
  match runtime.findReceipt originalReceiptId with
  | .error e => (.error e, runtime)
  | .ok original =>
      if operation.operationHash sha256 ≠ original.operationHash then
        (.error ⟨.valueError, "replay operation hash differs from original", []⟩, runtime)
      else
        let (result, runtime) := runtime.execute sha256 stamps
          { principalId, operation, grants, mode := .replay
            parentReceiptId := some original.receiptId }
        (result.bind fun result =>
          if result.receipt.resultHash ≠ original.resultHash then
            .error ⟨.runtimeError, "deterministic replay result hash mismatch", []⟩
          else .ok result, runtime)

end MacroRuntime

end PhiOS
