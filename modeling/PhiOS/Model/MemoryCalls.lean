import PhiOS.Library.CrashTriple
import PhiOS.Model.GovernedMemory

/-!
# Publishing receipts and indexing records

`publish_pending` of `memory/publisher.py` and `sync_index` of `memory/service.py`, as programs over
the calls they make: each call to the store is one transaction, and the ledger, the embedding
provider and the retrieval index are asked one call at a time. A program may be cut short between
any two of them.
-/

set_option autoImplicit false

namespace PhiOS

open Interaction

/-- A row of the retrieval index. -/
structure IndexEntry where
  recordId : String
  revision : ℕ
  recordSha256 : String
  vector : List ℚ
  deriving DecidableEq

/-- What the memory modules ask of the store, the ledger, the clock, the embedding provider and the
index. -/
inductive MemoryOp
  | putPending (record : MemoryRecord) (operationId requestSha256 : String)
      (receiptJson : ReceiptText)
  | recordOperationReceipt (operationId requestSha256 : String) (receiptJson : ReceiptText)
  | markReceiptPublished (operationId : String)
  | delete (recordId operationId deletedAt requestSha256 : String) (receiptJson : ReceiptText)
  | pendingReceipts
  | pendingIndexWork (limit : ℤ)
  | getIndexableRecord (recordId : String) (revision : ℕ)
  | markIndexWorkDone (workId : ℕ)
  | ledgerAppend (receipt : MemoryOperationReceipt)
  | now
  | embed (text : String)
  | embeddingIdentity
  | upsert (entry : IndexEntry) (identity : EmbeddingIdentity)
  | remove (recordId : String)

/-- What an operation is answered with. -/
def MemoryOp.Reply : MemoryOp → Type
  | .putPending .. | .recordOperationReceipt .. | .delete .. | .ledgerAppend _ =>
      Except PyError Bool
  | .markReceiptPublished _ | .markIndexWorkDone _ | .upsert _ _ | .remove _ => Except PyError Unit
  | .pendingReceipts => Except PyError (List Json)
  | .pendingIndexWork _ => Except PyError (List IndexWork)
  | .getIndexableRecord _ _ => Except PyError (Option MemoryRecord)
  | .now => ℤ
  | .embed _ => Except PyError (List ℚ)
  | .embeddingIdentity => Except PyError EmbeddingIdentity

abbrev MemoryProg := Prog MemoryOp.Reply PyError


/-! ## Publishing -/

/-- The loop of `publish_pending`. -/
def publishLoop (rt : MemoryRuntime) (published : ℕ) : List Json → MemoryProg ℕ
  | [] => return published
  | payload :: rest => do
      let receipt ← .ofExcept (MemoryOperationReceipt.fromPayload rt payload)
      let appended : Except PyError Bool ← Prog.call (MemoryOp.ledgerAppend receipt)
      let _ ← .ofExcept appended
      let marked : Except PyError Unit ← Prog.call (MemoryOp.markReceiptPublished receipt.operationId)
      let _ ← .ofExcept marked
      publishLoop rt (published + 1) rest

def publishPending (rt : MemoryRuntime) : MemoryProg ℕ := do
  let pending : Except PyError (List Json) ← Prog.call MemoryOp.pendingReceipts
  let payloads ← .ofExcept pending
  publishLoop rt 0 payloads

/-! ## Indexing -/

/-- The index that a service is made with. -/
structure RetrievalIndex where
  generationId : String
  embeddingIdentity : EmbeddingIdentity

/-- The arguments of `sync_index`. -/
structure SyncRequest where
  limit : ℤ := 100
  allowedScopes : Option (List String) := none
  allowedClassifications : Option (List String) := none

structure IndexSyncResult where
  status : String
  processed : ℕ := 0
  indexed : ℕ := 0
  removed : ℕ := 0
  stale : ℕ := 0
  errorCode : Option String := none

/-- What `sync_index` catches of the provider and the index: `RuntimeError`, `TimeoutError`,
`ValueError` and `OSError`. -/
def PyError.isIndexFault (e : PyError) : Bool :=
  e.cls.isValueError || e.cls = .osError || e.cls = .exception "TimeoutError" ||
    e.cls = .exception "RuntimeError" || e.cls = .exception "NotImplementedError" ||
    e.cls = .exception "RecursionError"

/-- The filters of `sync_index` let a record pass. -/
def SyncRequest.admits (request : SyncRequest) (record : MemoryRecord) : Bool :=
  (request.allowedScopes.all fun scopes => scopes.contains record.scopeId) &&
    (request.allowedClassifications.all fun allowed => allowed.contains record.classification)

/-- The digest of an index operation. -/
def indexSha256 (rt : MemoryRuntime) (record : MemoryRecord) (identity : EmbeddingIdentity) :
    String :=
  rt.sha256 (.obj [("operation", .str "index"), ("record_id", .str record.recordId),
    ("revision", .int record.revision), ("record_sha256", .str record.recordSha256),
    ("embedding_identity", .obj identity.toDict)])

/-- The name of an index operation. -/
def indexOperationId (index : RetrievalIndex) (workId : ℕ) (record : MemoryRecord) : String :=
  "index:" ++ index.generationId ++ ":" ++ toString workId ++ ":" ++ record.recordSha256

/-- The receipt of an index operation. -/
def indexReceipt (rt : MemoryRuntime) (index : RetrievalIndex) (workId : ℕ)
    (record : MemoryRecord) (identity : EmbeddingIdentity) (now : ℤ) : MemoryOperationReceipt :=
  .build rt (indexOperationId index workId record) "" "derived-index-maintenance" .accepted "index"
    (rt.iso.isoformat now) [record]
    (rt.sha256 (.obj [("policy", .str "derived-index-maintenance-v0.1")]))
    (indexSha256 rt record identity) "unchanged" "ready" (some identity) (some index.generationId)

/-- The body of the `try` of `sync_index` on a record to be indexed. -/
def indexRecord (rt : MemoryRuntime) (index : RetrievalIndex) (workId : ℕ)
    (record : MemoryRecord) : MemoryProg Unit := do
  let embedded : Except PyError (List ℚ) ← Prog.call (MemoryOp.embed record.text)
  let vector ← .ofExcept embedded
  let identified : Except PyError EmbeddingIdentity ← Prog.call MemoryOp.embeddingIdentity
  let identity ← .ofExcept identified
  let _ ← .ofExcept (raiseIf (identity ≠ index.embeddingIdentity) ⟨.exception "RuntimeError",
    "active index generation does not match embedding identity", []⟩)
  let upserted : Except PyError Unit ← Prog.call (MemoryOp.upsert
    ⟨record.recordId, record.revision, record.recordSha256, vector⟩ identity)
  let _ ← .ofExcept upserted
  let now : ℤ ← Prog.call MemoryOp.now
  let recorded : Except PyError Bool ← Prog.call (MemoryOp.recordOperationReceipt
    (indexOperationId index workId record) (indexSha256 rt record identity)
    (indexReceipt rt index workId record identity now).text)
  let _ ← .ofExcept recorded
  return ()

/-- The result of a `sync_index` that stops at a fault. -/
def IndexSyncResult.degrade (counts : IndexSyncResult) (code : String) : IndexSyncResult :=
  { counts with status := "degraded", errorCode := some code }

/-- `mark_index_work_done`, raising what it raises. -/
def markWorkDone (workId : ℕ) : MemoryProg Unit := do
  let marked : Except PyError Unit ← Prog.call (MemoryOp.markIndexWorkDone workId)
  .ofExcept marked

/-- What a fault does to `sync_index`. -/
def syncFault (counts : IndexSyncResult) (code : String) (e : PyError) : MemoryProg IndexSyncResult :=
  if e.isIndexFault then return counts.degrade code else .raise e

/-- The loop of `sync_index`. -/
def syncLoop (rt : MemoryRuntime) (index : RetrievalIndex) (request : SyncRequest)
    (counts : IndexSyncResult) : List IndexWork → MemoryProg IndexSyncResult
  | [] => return counts
  | work :: works =>
      match work.action with
      | .remove => do
          let removed : Except PyError Unit ← Prog.call (MemoryOp.remove work.recordId)
          match removed with
          | .error e => syncFault counts "INDEX_REMOVE_FAILED" e
          | .ok () => do
              markWorkDone work.workId
              syncLoop rt index request { counts with
                processed := counts.processed + 1
                removed := counts.removed + 1 } works
      | .upsert => do
          let found : Except PyError (Option MemoryRecord) ←
            Prog.call (MemoryOp.getIndexableRecord work.recordId work.revision)
          match ← .ofExcept found with
          | none => do
              markWorkDone work.workId
              syncLoop rt index request { counts with
                processed := counts.processed + 1
                stale := counts.stale + 1 } works
          | some record =>
              if request.admits record then do
                match ← (indexRecord rt index work.workId record).attempt with
                | .error e => syncFault counts "INDEX_UPSERT_FAILED" e
                | .ok () => do
                    markWorkDone work.workId
                    syncLoop rt index request { counts with
                      processed := counts.processed + 1
                      indexed := counts.indexed + 1 } works
              else syncLoop rt index request counts works

/-- `sync_index`; `available` says that there is an embedding provider and that the index is
available. -/
def syncIndex (rt : MemoryRuntime) (index : RetrievalIndex) (available : Bool)
    (request : SyncRequest) : MemoryProg IndexSyncResult :=
  if available then do
    let pending : Except PyError (List IndexWork) ←
      Prog.call (MemoryOp.pendingIndexWork request.limit)
    let works ← .ofExcept pending
    syncLoop rt index request { status := "ok" } works
  else return { status := "unavailable", errorCode := some "SEMANTIC_RETRIEVAL_UNAVAILABLE" }

/-! ## What the operations do -/

/-- The store, the Mandala ledger, the retrieval index and the last reading of the clock. -/
structure MemoryWorld where
  store : MemoryState
  ledger : List Row
  index : List IndexEntry
  clock : ℤ

/-- The row that a receipt is in the ledger. -/
def ledgerRow (receipt : MemoryOperationReceipt) : Row := Json.canonicalFields receipt.toDict

/-- The rows of a ledger with a receipt's identity. -/
def sameReceipt (ledger : List Row) (receiptId : String) : List Row :=
  ledger.filter fun row => match row.lookup "receipt_id" with
    | some (.str id) => id = receiptId
    | _ => false

/-- `append_if_absent`: a receipt is appended where there is none of its identity; a call that
raises may have appended it. -/
def appendIfAbsent (ledger : List Row) (receipt : MemoryOperationReceipt) :
    Except PyError Bool → List Row → Prop
  | .ok true, ledger' => sameReceipt ledger receipt.receiptId = [] ∧
      ledger' = ledger ++ [ledgerRow receipt]
  | .ok false, ledger' => sameReceipt ledger receipt.receiptId = [ledgerRow receipt] ∧
      ledger' = ledger
  | .error _, ledger' => ledger' = ledger ∨
      (sameReceipt ledger receipt.receiptId = [] ∧ ledger' = ledger ++ [ledgerRow receipt])

/-- An upsert puts a row in the place of the one with its key. -/
def upsertEntry (index : List IndexEntry) (entry : IndexEntry) : List IndexEntry :=
  index.filter (fun e => ¬ (e.recordId = entry.recordId ∧ e.revision = entry.revision)) ++ [entry]

/-- A removal takes away every row of a record. -/
def removeEntries (index : List IndexEntry) (recordId : String) : List IndexEntry :=
  index.filter (·.recordId ≠ recordId)

/-- A transaction gives its result and its store, or raises and leaves the store; the storage
itself may fail. -/
def Transaction {α : Type} (result : Except PyError (α × MemoryState)) (w : MemoryWorld)
    (reply : Except PyError α) (w' : MemoryWorld) : Prop :=
  match reply with
  | .ok a => ∃ store, result = .ok (a, store) ∧ w' = { w with store }
  | .error _ => w' = w

/-- What an operation does; `ticks` says which readings of the clock may follow one another. -/
def MemoryOp.effect (rt : MemoryRuntime) (ticks : ℤ → ℤ → Prop) (w : MemoryWorld) :
    (o : MemoryOp) → o.Reply → MemoryWorld → Prop
  | .putPending record operationId requestSha256 receiptJson, reply, w' =>
      Transaction (w.store.putPending record operationId requestSha256 receiptJson) w reply w'
  | .recordOperationReceipt operationId requestSha256 receiptJson, reply, w' =>
      Transaction (w.store.recordOperationReceipt operationId requestSha256 receiptJson) w reply w'
  | .markReceiptPublished operationId, reply, w' =>
      Transaction (((), ·) <$> w.store.markReceiptPublished rt operationId) w reply w'
  | .delete recordId operationId deletedAt requestSha256 receiptJson, reply, w' =>
      Transaction (w.store.delete recordId operationId deletedAt requestSha256 receiptJson) w
        reply w'
  | .pendingReceipts, reply, w' => Transaction ((·, w.store) <$> w.store.pendingReceipts) w reply w'
  | .pendingIndexWork limit, reply, w' =>
      Transaction (.ok (w.store.pendingIndexWork limit, w.store)) w reply w'
  | .getIndexableRecord recordId revision, reply, w' =>
      ∃ t : ℤ, ticks w.clock t ∧
        Transaction ((·, w.store) <$> w.store.getIndexableRecord rt recordId revision t)
          { w with clock := t } reply w'
  | .markIndexWorkDone workId, reply, w' =>
      Transaction (((), ·) <$> w.store.markIndexWorkDone workId) w reply w'
  | .ledgerAppend receipt, reply, w' =>
      ∃ ledger, appendIfAbsent w.ledger receipt reply ledger ∧ w' = { w with ledger }
  | .now, t, w' => ticks w.clock t ∧ w' = { w with clock := t }
  | .embed _, _, w' | .embeddingIdentity, _, w' => w' = w
  | .upsert entry _, .ok (), w' => w' = { w with index := upsertEntry w.index entry }
  | .upsert entry _, .error _, w' => w' = w ∨ w' = { w with index := upsertEntry w.index entry }
  | .remove recordId, .ok (), w' => w' = { w with index := removeEntries w.index recordId }
  | .remove recordId, .error _, w' =>
      w' = w ∨ w' = { w with index := removeEntries w.index recordId }

end PhiOS
