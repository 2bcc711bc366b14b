import PhiOS.Library.Dict
import PhiOS.Model.MemoryRecord

/-!
# The canonical memory store

`memory/store.py`: the revisions of the records, the head of each record and whether it is
published, tombstones, the outbox of receipts and the queue of index work. Every call is one
transaction of SQLite, so that it either does everything or, raising, nothing.
-/

set_option autoImplicit false

namespace PhiOS

open KeyOrder

/-- A receipt text as `json.loads` reads it, or what that raises. -/
abbrev ReceiptText := Except PyError Json

/-- A row of `record_heads`. -/
structure HeadRow where
  revision : ℕ
  published : Bool
  deriving DecidableEq

/-- A row of `tombstones`. -/
structure Tombstone where
  deletedAt : String
  operationId : String
  deriving DecidableEq

/-- A row of `receipt_outbox`. -/
structure OutboxRow where
  operationId : String
  requestSha256 : String
  receiptJson : ReceiptText
  published : Bool := false

/-- The actions of `index_work`. -/
inductive IndexAction
  | upsert
  | remove
  deriving DecidableEq

/-- A row of `index_work`. -/
structure IndexWork where
  workId : ℕ
  recordId : String
  revision : ℕ
  action : IndexAction
  done : Bool := false
  deriving DecidableEq

/-- The tables of the store; those without a key of their own in the order of their rows. -/
structure MemoryState where
  records : List MemoryRecord
  heads : Dict String HeadRow
  tombstones : Dict String Tombstone
  outbox : List OutboxRow
  indexWork : List IndexWork

namespace MemoryState

/-- A store with no rows. -/
def empty : MemoryState := ⟨[], .empty, .empty, [], []⟩

/-- The row of `records` with a key. -/
def row (state : MemoryState) (recordId : String) (revision : ℕ) : Option MemoryRecord :=
  state.records.find? fun record => record.recordId = recordId ∧ record.revision = revision

/-- The row of `receipt_outbox` with a key. -/
def outboxRow (state : MemoryState) (operationId : String) : Option OutboxRow :=
  state.outbox.find? (·.operationId = operationId)

/-! ## Writing -/

/-- Whether an operation is on file already, which it may be for the same request only. -/
def isReplay (state : MemoryState) (operationId requestSha256 : String) : Except PyError Bool :=
  match state.outboxRow operationId with
  | none => .ok false
  | some prior =>
      if prior.requestSha256 = requestSha256 then .ok true
      else .error ⟨.valueError, "operation_id was already used for a different request", []⟩

/-- `INSERT INTO receipt_outbox`. -/
def insertReceipt (state : MemoryState) (operationId requestSha256 : String)
    (receiptJson : ReceiptText) : MemoryState :=
  { state with outbox := state.outbox ++ [{ operationId, requestSha256, receiptJson }] }

/-- `INSERT INTO index_work`. -/
def insertWork (state : MemoryState) (recordId : String) (revision : ℕ) (action : IndexAction) :
    MemoryState :=
  { state with
    indexWork := state.indexWork ++
      [{ workId := state.indexWork.length + 1, recordId, revision, action }] }

/-- The revision that a new record must have. -/
def expectedRevision (state : MemoryState) (recordId : String) : ℕ :=
  match state.heads.get? recordId with
  | none => 1
  | some head => head.revision + 1

/-- The rows that `put_pending` writes. -/
def insertRevision (state : MemoryState) (record : MemoryRecord)
    (operationId requestSha256 : String) (receiptJson : ReceiptText) : MemoryState :=
  let state := { state with
    records := state.records ++ [record]
    heads := state.heads.set record.recordId ⟨record.revision, false⟩ }
  (state.insertReceipt operationId requestSha256 receiptJson).insertWork record.recordId
    record.revision .upsert

def putPending (state : MemoryState) (record : MemoryRecord) (operationId requestSha256 : String)
    (receiptJson : ReceiptText) : Except PyError (Bool × MemoryState) := do
  match ← state.isReplay operationId requestSha256 with
  | true => return (false, state)
  | false => do
      raiseIf ((state.tombstones.get? record.recordId).isSome = true)
        ⟨.valueError, "tombstoned record_id cannot be reused", []⟩
      raiseIf (record.revision ≠ state.expectedRevision record.recordId)
        ⟨.valueError, s!"revision must be {state.expectedRevision record.recordId}", []⟩
      raiseIf ((state.row record.recordId record.revision).isSome = true)
        ⟨.exception "IntegrityError",
          "UNIQUE constraint failed: records.record_id, records.revision", []⟩
      return (true, state.insertRevision record operationId requestSha256 receiptJson)

def recordOperationReceipt (state : MemoryState) (operationId requestSha256 : String)
    (receiptJson : ReceiptText) : Except PyError (Bool × MemoryState) := do
  match ← state.isReplay operationId requestSha256 with
  | true => return (false, state)
  | false => return (true, state.insertReceipt operationId requestSha256 receiptJson)

/-- `INSERT OR IGNORE INTO tombstones`, where both the record and the operation are unique. -/
def insertTombstone (state : MemoryState) (recordId deletedAt operationId : String) : MemoryState :=
  if (state.tombstones.get? recordId).isSome ∨
      state.tombstones.entries.any (·.2.operationId = operationId) then state
  else { state with tombstones := state.tombstones.set recordId ⟨deletedAt, operationId⟩ }

def delete (state : MemoryState) (recordId operationId deletedAt requestSha256 : String)
    (receiptJson : ReceiptText) : Except PyError (Bool × MemoryState) := do
  match ← state.isReplay operationId requestSha256 with
  | true => return (false, state)
  | false =>
      match state.heads.get? recordId with
      | none => .error (.keyError recordId)
      | some head =>
          let state := state.insertTombstone recordId deletedAt operationId
          return (true, (state.insertReceipt operationId requestSha256 receiptJson).insertWork
            recordId head.revision .remove)

/-! ## Publication -/

/-- `payload.get` needs a dictionary. -/
def asDict : Json → Except PyError Row
  | .obj fields => .ok fields
  | _ => .error ⟨.exception "AttributeError", "object has no attribute 'get'", []⟩

/-- `value[0]`. -/
def firstItem : Json → Except PyError Json
  | .arr (item :: _) => .ok item
  | .arr [] => .error ⟨.exception "IndexError", "list index out of range", []⟩
  | .obj _ => .error ⟨.keyError, "0", []⟩
  | .str s =>
      match s.toList with
      | c :: _ => .ok (.str (String.singleton c))
      | [] => .error ⟨.exception "IndexError", "string index out of range", []⟩
  | _ => .error ⟨.typeError, "object is not subscriptable", []⟩

/-- `value[key]`. -/
def fieldOf (value : Json) (key : String) : Except PyError Json :=
  match value with
  | .obj fields => Row.index fields key
  | .arr _ => .error ⟨.typeError, "list indices must be integers or slices, not str", []⟩
  | .str _ => .error ⟨.typeError, "string indices must be integers, not 'str'", []⟩
  | _ => .error ⟨.typeError, "object is not subscriptable", []⟩

/-- `payload.get("operation") in {"put", "revise"}`. -/
def putsRevision (payload : Row) : Except PyError Bool :=
  match payload.lookup "operation" with
  | some (.str operation) => .ok (operation = "put" || operation = "revise")
  | some (.arr _) => .error ⟨.typeError, "unhashable type: 'list'", []⟩
  | some (.obj _) | some (.keyed _) => .error ⟨.typeError, "unhashable type: 'dict'", []⟩
  | _ => .ok false

/-- The version that a receipt puts, as it is compared with the columns of `record_heads`. -/
def publishedVersion (rt : MemoryRuntime) (payload : Json) :
    Except PyError (Option (Option String × Option ℤ)) := do
  let fields ← asDict payload
  match ← putsRevision fields with
  | false => return none
  | true => do
      let version ← firstItem (← Row.index fields "record_versions")
      let recordId ← rt.bindText (← fieldOf version "record_id")
      let revision ← rt.bindInteger (← fieldOf version "revision")
      return some (recordId, revision)

/-- `UPDATE record_heads SET published=1`. -/
def publishHead (state : MemoryState) (version : Option String × Option ℤ) : MemoryState :=
  match version with
  | (some recordId, some revision) =>
      match state.heads.get? recordId with
      | some head =>
          if (head.revision : ℤ) = revision then
            { state with heads := state.heads.set recordId ⟨head.revision, true⟩ }
          else state
      | none => state
  | _ => state

/-- `UPDATE receipt_outbox SET published=1`. -/
def publishRow (state : MemoryState) (operationId : String) : MemoryState :=
  { state with
    outbox := state.outbox.map fun row =>
      if row.operationId = operationId then { row with published := true } else row }

def markReceiptPublished (rt : MemoryRuntime) (state : MemoryState) (operationId : String) :
    Except PyError MemoryState :=
  match state.outboxRow operationId with
  | none => .error (.keyError operationId)
  | some row => do
      let payload ← row.receiptJson
      match ← publishedVersion rt payload with
      | none => return state.publishRow operationId
      | some version => return (state.publishRow operationId).publishHead version

def pendingReceipts (state : MemoryState) : Except PyError (List Json) :=
  (state.outbox.filter fun row => !row.published).mapM (·.receiptJson)

/-! ## Reading -/

/-- The record of a published head without a tombstone. -/
def readableHead (state : MemoryState) (recordId : String) : Option MemoryRecord :=
  match state.heads.get? recordId, state.tombstones.get? recordId with
  | some head, none => if head.published then state.row recordId head.revision else none
  | _, _ => none

/-- `_live_record_from_row`. -/
def liveRecord (rt : MemoryRuntime) (record : Option MemoryRecord) (now : ℤ) :
    Except PyError (Option MemoryRecord) :=
  match record with
  | none => .ok none
  | some record => record.liveAt rt now

def get (rt : MemoryRuntime) (state : MemoryState) (recordId : String) (now : ℤ) :
    Except PyError (Option MemoryRecord) :=
  liveRecord rt (state.readableHead recordId) now

def getCurrentVersion (rt : MemoryRuntime) (state : MemoryState) (recordId : String)
    (revision : ℕ) (recordSha256 : String) (now : ℤ) : Except PyError (Option MemoryRecord) :=
  liveRecord rt ((state.readableHead recordId).filter fun record =>
    record.revision = revision ∧ record.recordSha256 = recordSha256) now

def getIndexableRecord (rt : MemoryRuntime) (state : MemoryState) (recordId : String)
    (revision : ℕ) (now : ℤ) : Except PyError (Option MemoryRecord) :=
  liveRecord rt ((state.readableHead recordId).filter (·.revision = revision)) now

/-- `list_eligible_versions`; the expiry is compared as the text it is. -/
def listEligibleVersions (rt : MemoryRuntime) (state : MemoryState)
    (allowedScopes allowedClassifications : List String) (now : ℤ) :
    List (String × ℕ × String) :=
  (state.heads.entries.filterMap fun head => state.readableHead head.1).filterMap fun record =>
    if allowedScopes.contains record.scopeId ∧
        allowedClassifications.contains record.classification ∧
        (∀ expiresAt ∈ record.expiresAt, rt.iso.isoformat now < expiresAt) then
      some (record.recordId, record.revision, record.recordSha256)
    else none

/-! ## The index queue -/

def pendingIndexWork (state : MemoryState) (limit : ℤ) : List IndexWork :=
  (state.indexWork.filter fun work => !work.done).take (max 1 (min limit 1000)).toNat

def markIndexWorkDone (state : MemoryState) (workId : ℕ) : Except PyError MemoryState :=
  if state.indexWork.any fun work => work.workId = workId ∧ work.done = false then
    .ok { state with
      indexWork := state.indexWork.map fun work =>
        if work.workId = workId then { work with done := true } else work }
  else .error ⟨.keyError, toString workId, []⟩

def enqueueReindex (rt : MemoryRuntime) (state : MemoryState)
    (allowedScopes allowedClassifications : List String) (now : ℤ) : ℕ × MemoryState :=
  let versions := state.listEligibleVersions rt allowedScopes allowedClassifications now
  (versions.length,
    versions.foldl (fun state version => state.insertWork version.1 version.2.1 .upsert) state)

end MemoryState

end PhiOS
