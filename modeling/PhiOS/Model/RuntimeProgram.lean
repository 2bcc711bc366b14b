import PhiOS.Library.CrashTriple
import PhiOS.Model.MacroRuntimeCalls

/-!
# Calls of the macro runtime as programs

`macro_runtime.py` a third time, over adapters of any kind. What the runtime asks of an adapter, and
what it looks up and keeps, are operations; an adapter may answer anything, or raise. `act` answers
for the in-memory adapters of `MacroRuntime`.
-/

set_option autoImplicit false

namespace PhiOS

open Interaction KeyOrder

namespace PyMacro

/-- `CapabilityGrant`, with the fields that `authorize` does not read. -/
structure ScopedGrant extends CapabilityGrant where
  scope : PyText := pyText "*"
  constraints : List PyText := []
  issuedBy : PyText := pyText "operator"
  issuedAt : PyText := []
  expiresAt : Option PyText := none

/-- The arguments of `execute`, with the whole grants. -/
structure ScopedRequest where
  principalId : PyText
  operation : Operation
  grants : List ScopedGrant := []
  mode : ExecutionMode := .live
  parentReceiptId : Option String := none

/-- A request, as far as it is read. -/
def ScopedRequest.request (asked : ScopedRequest) : MacroRuntime.Request where
  principalId := asked.principalId
  operation := asked.operation
  grants := asked.grants.map (·.toCapabilityGrant)
  mode := asked.mode
  parentReceiptId := asked.parentReceiptId

/-- `MacroAdapter`, as far as its attributes go. -/
structure MacroAdapter where
  adapterId : PyText
  version : PyText

/-- `Checkpoint`, with a snapshot of whatever kind the adapter takes. -/
structure AdapterCheckpoint (Snapshot : Type) where
  checkpointId : String
  executionId : String
  stateHash : String
  snapshot : Snapshot

/-- What the runtime asks for. An adapter is known by the identifier it is registered under. -/
inductive RuntimeOp (Snapshot : Type)
  | registered (adapterId : PyText)
  | register (adapter : MacroAdapter)
  | adapter (adapterId : PyText)
  | attributes (adapterId : PyText)
  | stateHash (adapterId : PyText)
  | snapshot (adapterId : PyText)
  | restore (adapterId : PyText) (snapshot : Snapshot)
  | execute (adapterId : PyText) (operation : Operation)
  | simulate (adapterId : PyText) (operation : Operation)
  | prior (identity : String)
  | commit (identity : String) (receipt : RuntimeReceipt)
  | findReceipt (receiptId : String)
  | record (receipt : RuntimeReceipt)
  | checkpoint (checkpointId : String)
  | hold (checkpoint : AdapterCheckpoint Snapshot)

/-- What an operation is answered with. -/
abbrev RuntimeReply (Snapshot : Type) : RuntimeOp Snapshot → Type
  | .registered _ => Bool
  | .register _ => Unit
  | .adapter _ => Except PyError Unit
  | .attributes _ => MacroAdapter
  | .stateHash _ => Except PyError String
  | .snapshot _ => Except PyError Snapshot
  | .restore .. => Except PyError Unit
  | .execute .. | .simulate .. => Except PyError AdapterResult
  | .prior _ => Option RuntimeReceipt
  | .commit .. => Unit
  | .findReceipt _ => Except PyError RuntimeReceipt
  | .record _ => Unit
  | .checkpoint _ => Except PyError (AdapterCheckpoint Snapshot)
  | .hold _ => Unit

/-- A program of the runtime. -/
abbrev RuntimeProg (Snapshot α : Type) : Type := Prog (RuntimeReply Snapshot) PyError α

section

variable {Snapshot : Type}

/-- An operation that raises what it is answered with, if that is an error. -/
def expect {α : Type} (p : RuntimeProg Snapshot (Except PyError α)) : RuntimeProg Snapshot α :=
  p.bind Prog.ofExcept

/-- `self._adapter(adapter_id)`. -/
def findAdapter (adapterId : PyText) : RuntimeProg Snapshot Unit :=
  expect (Prog.call (RuntimeOp.adapter adapterId))

/-- `adapter.state_hash()`. -/
def askStateHash (adapterId : PyText) : RuntimeProg Snapshot String :=
  expect (Prog.call (RuntimeOp.stateHash adapterId))

/-- `adapter.snapshot()`. -/
def askSnapshot (adapterId : PyText) : RuntimeProg Snapshot Snapshot :=
  expect (Prog.call (RuntimeOp.snapshot adapterId))

/-- `adapter.restore(snapshot)`. -/
def askRestore (adapterId : PyText) (snapshot : Snapshot) : RuntimeProg Snapshot Unit :=
  expect (Prog.call (RuntimeOp.restore adapterId snapshot))

/-- `adapter.execute(operation)`. -/
def askExecute (operation : Operation) : RuntimeProg Snapshot AdapterResult :=
  expect (Prog.call (RuntimeOp.execute operation.adapterId operation))

/-- `adapter.simulate(operation)`. -/
def askSimulate (operation : Operation) : RuntimeProg Snapshot AdapterResult :=
  expect (Prog.call (RuntimeOp.simulate operation.adapterId operation))

/-- `self._find_receipt(receipt_id)`. -/
def findReceiptCall (receiptId : String) : RuntimeProg Snapshot RuntimeReceipt :=
  expect (Prog.call (RuntimeOp.findReceipt receiptId))

/-- `self._checkpoints[checkpoint_id]`. -/
def findCheckpoint (checkpointId : String) : RuntimeProg Snapshot (AdapterCheckpoint Snapshot) :=
  expect (Prog.call (RuntimeOp.checkpoint checkpointId))

/-- A check without operations. -/
def check (bad : Prop) [Decidable bad] (e : PyError) : RuntimeProg Snapshot Unit :=
  Prog.ofExcept (raiseIf bad e)

/-- `register_adapter`. -/
def registerCall (adapter : MacroAdapter) : RuntimeProg Snapshot Unit := do
  check (adapter.adapterId = []) ⟨.valueError, "adapter_id must be non-empty", []⟩
  let registered : Bool ← Prog.call (RuntimeOp.registered adapter.adapterId)
  check (registered = true) ⟨.valueError, "adapter already registered: " ++
    String.ofList (adapter.adapterId.map Char.ofNat), []⟩
  Prog.call (RuntimeOp.register adapter)

variable (json : PyJson) (stamps : Stamps)

/-- `_receipt`: of the adapter it takes the attributes. The receipt is recorded, and a result of the
call is made with it. -/
def receiptCall (request : MacroRuntime.Request) (state : ExecutionState)
    (preStateHash postStateHash : String) (output : PyFields) (sideEffectCount : ℕ)
    (checkpointId : Option String) (status : RuntimeResultStatus) :
    RuntimeProg Snapshot ExecutionResult := do
  let attributes : MacroAdapter ← Prog.call (RuntimeOp.attributes request.operation.adapterId)
  let authority := authorize request.principalId request.operation request.grants
  let receipt ← Prog.ofExcept (MacroRuntime.receipt json stamps request authority state preStateHash
    postStateHash output sideEffectCount checkpointId
    { adapterId := attributes.adapterId, version := attributes.version } status)
  Prog.call (RuntimeOp.record receipt)
  return { state, status, authority, receipt, output }

/-- `_create_checkpoint`, with the identifier of the checkpoint. -/
def checkpointCall (adapterId : PyText) (rollbackClass : RollbackClass) :
    RuntimeProg Snapshot (Option String) :=
  if rollbackClass ≠ .reversible then return none
  else do
    let stateHash ← askStateHash adapterId
    let snapshot ← askSnapshot adapterId
    Prog.call (RuntimeOp.hold
      { checkpointId := stamps.checkpointId, executionId := stamps.executionId, stateHash, snapshot })
    return some stamps.checkpointId

/-- What `execute` has the adapter do. -/
def performCall (request : MacroRuntime.Request) :
    RuntimeProg Snapshot (AdapterResult × RuntimeResultStatus) :=
  match request.mode with
  | .dryRun => do
      let result ← askSimulate request.operation
      check (result.committedSideEffectCount ≠ 0)
        ⟨.runtimeError, "dry-run adapter committed a side effect", []⟩
      return (result, .dryRun)
  | .replay => do
      check (request.operation.replayClass ≠ .deterministic)
        ⟨.valueError, "operation is not declared deterministic", []⟩
      let result ← askSimulate request.operation
      check (result.committedSideEffectCount ≠ 0)
        ⟨.runtimeError, "replay simulation committed a side effect", []⟩
      return (result, .succeeded)
  | .live => do
      let result ← askExecute request.operation
      return (result, .succeeded)

/-- `self._committed_idempotency[identity] = receipt`. -/
def commitCall (receipt : RuntimeReceipt) : Option String → RuntimeProg Snapshot Unit
  | none => return ()
  | some identity => Prog.call (RuntimeOp.commit identity receipt)

/-- The part of `execute` from the checkpoint on. -/
def enterCall (request : MacroRuntime.Request) (preStateHash : String) (identity : Option String) :
    RuntimeProg Snapshot ExecutionResult := do
  let checkpointId ← checkpointCall stamps request.operation.adapterId request.operation.rollbackClass
  let performed ← performCall request
  let postStateHash ← askStateHash request.operation.adapterId
  let executed ← receiptCall json stamps request .completed preStateHash postStateHash
    performed.1.output performed.1.committedSideEffectCount checkpointId performed.2
  commitCall executed.receipt (if request.mode = .live then identity else none)
  return executed

/-- `self._committed_idempotency.get(identity)`. -/
def priorCall : Option String → RuntimeProg Snapshot (Option RuntimeReceipt)
  | none => return none
  | some identity => Prog.call (RuntimeOp.prior identity)

/-- The part of `execute` after the prior receipt has been looked up. -/
def freshCall (request : MacroRuntime.Request) (preStateHash : String) (identity : Option String) :
    Option RuntimeReceipt → RuntimeProg Snapshot ExecutionResult
  | some prior => receiptCall json stamps request .completed preStateHash preStateHash
      [(pyText "prior_receipt_id", text prior.receiptId)] 0 none .alreadyApplied
  | none => enterCall json stamps request preStateHash identity

/-- The part of `execute` with an authority that is granted. -/
def grantedCall (request : MacroRuntime.Request) (preStateHash : String) :
    RuntimeProg Snapshot ExecutionResult := do
  let identity ← Prog.ofExcept (idempotencyIdentity json request.operation)
  let prior ← priorCall (if request.mode = .live then identity else none)
  freshCall json stamps request preStateHash identity prior

/-- The part of `execute` after the checks of the mode and the authority. -/
def authorizedCall (request : MacroRuntime.Request) (preStateHash : String) :
    RuntimeProg Snapshot ExecutionResult :=
  if (authorize request.principalId request.operation request.grants).decision ≠ .granted then
    receiptCall json stamps request .denied preStateHash preStateHash
      [(pyText "missing_capabilities", texts
        (authorize request.principalId request.operation request.grants).missingCapabilities)]
      0 none .denied
  else grantedCall json stamps request preStateHash

/-- `execute`. -/
def executeCall (request : MacroRuntime.Request) : RuntimeProg Snapshot ExecutionResult := do
  findAdapter request.operation.adapterId
  let preStateHash ← askStateHash request.operation.adapterId
  check (request.mode ∉ request.operation.executionModesSupported)
    ⟨.valueError, "execution mode " ++ request.mode.value ++ " is not supported", []⟩
  authorizedCall json stamps request preStateHash

/-- `rollback`, of a receipt that has a checkpoint. -/
def restoreCall (original : RuntimeReceipt) (checkpointId : String) :
    RuntimeProg Snapshot RuntimeReceipt := do
  let checkpoint ← findCheckpoint checkpointId
  findAdapter original.adapterId
  let preStateHash ← askStateHash original.adapterId
  askRestore original.adapterId checkpoint.snapshot
  let postStateHash ← askStateHash original.adapterId
  check (postStateHash ≠ checkpoint.stateHash)
    ⟨.runtimeError, "rollback did not restore checkpoint state", []⟩
  let receipt ← Prog.ofExcept
    (MacroRuntime.rollbackReceipt json stamps original preStateHash postStateHash)
  Prog.call (RuntimeOp.record receipt)
  return receipt

/-- `rollback`. -/
def rollbackCall (receiptId : String) : RuntimeProg Snapshot RuntimeReceipt := do
  let original ← findReceiptCall receiptId
  match original.checkpointId with
  | none => .raise ⟨.valueError, "receipt has no reversible checkpoint", []⟩
  | some checkpointId => restoreCall json stamps original checkpointId

/-- `replay`. -/
def replayCall (principalId : PyText) (operation : Operation) (originalReceiptId : String)
    (grants : List CapabilityGrant) : RuntimeProg Snapshot ExecutionResult := do
  let original ← findReceiptCall originalReceiptId
  let operationHash ← Prog.ofExcept (operation.operationHash json)
  check (operationHash ≠ original.operationHash)
    ⟨.valueError, "replay operation hash differs from original", []⟩
  let result ← executeCall json stamps
    (MacroRuntime.replayRequest principalId operation original grants)
  check (result.receipt.resultHash ≠ original.resultHash)
    ⟨.runtimeError, "deterministic replay result hash mismatch", []⟩
  return result

end

/-- A call of the runtime. -/
inductive RuntimeCall
  | register (adapter : MacroAdapter)
  | execute (stamps : Stamps) (request : ScopedRequest)
  | rollback (stamps : Stamps) (receiptId : String)
  | replay (stamps : Stamps) (principalId : PyText) (operation : Operation)
      (originalReceiptId : String) (grants : List ScopedGrant)

/-- What a call does; what it returns is left out. -/
def RuntimeCall.program {Snapshot : Type} (json : PyJson) : RuntimeCall → RuntimeProg Snapshot Unit
  | .register adapter => registerCall adapter
  | .execute stamps request => do let _ ← executeCall json stamps request.request
  | .rollback stamps receiptId => do let _ ← rollbackCall json stamps receiptId
  | .replay stamps principalId operation originalReceiptId grants => do
      let _ ← replayCall json stamps principalId operation originalReceiptId
        (grants.map (·.toCapabilityGrant))

/-! ## In-memory adapters -/

namespace MacroRuntime

variable (json : PyJson) (runtime : MacroRuntime)

/-- What an adapter is asked, if it is registered. -/
def ask {α : Type} (adapterId : PyText)
    (answer : InMemoryStateAdapter → Except PyError α × InMemoryStateAdapter) :
    Except PyError α × MacroRuntime :=
  match runtime.adapter adapterId with
  | .error e => (.error e, runtime)
  | .ok adapter => ((answer adapter).1, runtime.update adapterId (answer adapter).2)

/-- The answer to an operation, and the runtime after it. An adapter that is registered begins with no
state. -/
def act : (o : RuntimeOp PyFields) → RuntimeReply PyFields o × MacroRuntime
  | .registered adapterId => ((runtime.adapters.get? adapterId).isSome, runtime)
  | .register adapter => ((), runtime.update adapter.adapterId
      { adapterId := adapter.adapterId, version := adapter.version })
  | .adapter adapterId => ((runtime.adapter adapterId).map fun _ => (), runtime)
  | .attributes adapterId =>
      let adapter := (runtime.adapters.get? adapterId).getD {}
      (⟨adapter.adapterId, adapter.version⟩, runtime)
  | .stateHash adapterId => (runtime.adapter adapterId >>= fun adapter => adapter.stateHash json, runtime)
  | .snapshot adapterId => (runtime.adapter adapterId >>= fun adapter => adapter.snapshot json, runtime)
  | .restore adapterId snapshot => runtime.ask adapterId fun adapter =>
      match adapter.restore json snapshot with
      | .error e => (.error e, adapter)
      | .ok restored => (.ok (), restored)
  | .execute adapterId operation => runtime.ask adapterId fun adapter => adapter.execute json operation
  | .simulate adapterId operation => runtime.ask adapterId fun adapter => adapter.simulate json operation
  | .prior identity => (runtime.committedIdempotency.get? identity, runtime)
  | .commit identity receipt => ((), runtime.commit receipt (some identity))
  | .findReceipt receiptId => (runtime.findReceipt receiptId, runtime)
  | .record receipt => ((), runtime.record receipt)
  | .checkpoint checkpointId =>
      (match runtime.checkpoints.get? checkpointId with
        | none => .error (.keyError checkpointId)
        | some checkpoint => .ok ⟨checkpoint.checkpointId, checkpoint.executionId,
            checkpoint.stateHash, checkpoint.snapshot⟩, runtime)
  | .hold checkpoint => ((), runtime.hold (some ⟨checkpoint.checkpointId, checkpoint.executionId,
      checkpoint.stateHash, checkpoint.snapshot⟩))

end MacroRuntime

end PyMacro

end PhiOS
