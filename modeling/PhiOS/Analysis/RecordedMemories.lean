import PhiOS.Library.Pool
import PhiOS.Model.SemanticSearch
import PhiOS.Analysis.MissedMemories
import PhiOS.Analysis.StoredRevisions

/-!
# No memory is readable before its receipt is in the ledger

A `put` leaves its revision unreadable and its receipt in the outbox; a publisher appends the receipt
to the Mandala ledger and makes the revision readable after that. `MemoryThread` are the calls whose
operations interleave here, any number of publishers among them, each of which may die between two
operations.
-/

set_option autoImplicit false

namespace PhiOS

open Interaction KeyOrder MemoryOperationReceipt

/-! ## Receipts of puts -/

/-- The text of a receipt of an operation; where it is a put, of a record among those given. -/
def Files (records : List MemoryRecord) (operationId : String) (text : ReceiptText) : Prop :=
  ∃ receipt : MemoryOperationReceipt, text = receipt.text ∧ receipt.operationId = operationId ∧
    receipt.operation ≠ "revise" ∧ (receipt.operation = "put" →
      ∃ record ∈ records, receipt.recordVersions = [versionOf record])

theorem Files.mono {records records' : List MemoryRecord} {operationId : String}
    {text : ReceiptText} (h : Files records operationId text)
    (hsub : ∀ record ∈ records, record ∈ records') : Files records' operationId text := by
  obtain ⟨receipt, htext, hid, hrevise, hputs⟩ := h
  refine ⟨receipt, htext, hid, hrevise, ?_⟩
  intro hput
  obtain ⟨record, hrecord, hone⟩ := hputs hput
  exact ⟨record, hsub record hrecord, hone⟩

/-- The ledger has the receipt of a put that names the record, its revision and its digest. -/
def RecordedIn (ledger : List Row) (record : MemoryRecord) : Prop :=
  ∃ row ∈ ledger, row.lookup "operation" = some (.str "put") ∧ ∃ version,
    row.lookup "record_versions" = some (.arr [.obj version]) ∧
    version.lookup "record_id" = some (.str record.recordId) ∧
    version.lookup "revision" = some (.int record.revision) ∧
    version.lookup "record_sha256" = some (.str record.recordSha256)

section Receipts

variable {rt : MemoryRuntime} {receipt read : MemoryOperationReceipt} {fields : Row}

theorem files_of_operation {name : String} (hname : receipt.operation = name)
    (hrevise : name ≠ "revise") (hput : name ≠ "put") :
    Files [] receipt.operationId receipt.text :=
  ⟨receipt, rfl, rfl, hname ▸ hrevise, fun h => absurd (hname.symm.trans h) hput⟩

/-- The fields that are read back of a receipt. -/
theorem fromPayload_reads (h : fromPayload rt (.obj fields) = .ok read) :
    textAt rt fields "operation_id" = .ok read.operationId ∧
      textAt rt fields "operation" = .ok read.operation ∧
      ∃ items, itemsAt fields "record_versions" = .ok items ∧
        read.recordVersions = items.filterMap MemoryOperationReceipt.dictOf := by
  unfold fromPayload at h
  obtain ⟨_, hfields, h⟩ := bind_eq_ok.mp h
  cases hfields
  obtain ⟨_, _, _, _, h⟩ := ok_past_four h
  obtain ⟨_, _, _, _, h⟩ := ok_past_four h
  obtain ⟨_, -, h⟩ := bind_eq_ok.mp h
  obtain ⟨operationId, hid, h⟩ := bind_eq_ok.mp h
  obtain ⟨operation, hoperation, h⟩ := bind_eq_ok.mp h
  obtain ⟨_, -, h⟩ := bind_eq_ok.mp h
  obtain ⟨items, hitems, h⟩ := bind_eq_ok.mp h
  obtain ⟨_, _, _, _, h⟩ := ok_past_four h
  cases h
  exact ⟨hid, hoperation, items, hitems, rfl⟩

/-- A receipt that is read back names its operation, and goes to the ledger with the
versions that it was made with. -/
theorem reads_text (hlaw : rt.Lawful)
    (h : fromPayload rt (Json.canonical (.obj receipt.toDict)) = .ok read) :
    read.operationId = receipt.operationId ∧ ∀ record, receipt.operation = "put" →
      receipt.recordVersions = [versionOf record] → ∀ ledger, ledgerRow read ∈ ledger →
        RecordedIn ledger record := by
  rw [Json.canonical] at h
  obtain ⟨hid, hoperation, items, hitems, hversions⟩ := fromPayload_reads h
  unfold textAt Row.index at hid hoperation
  unfold itemsAt at hitems
  rw [Json.lookup_canonicalFields] at hid hoperation hitems
  have hnamed : rt.pyStr (.str receipt.operationId) = read.operationId := Except.ok.inj hid
  have hput : rt.pyStr (.str receipt.operation) = read.operation := Except.ok.inj hoperation
  rw [hlaw.pyStr_str] at hnamed hput
  refine ⟨hnamed.symm, ?_⟩
  intro record hname hone ledger hmem
  have hitem : items = [.obj (Json.canonicalFields (versionOf record))] := by
    have hlist : Json.canonicals (receipt.recordVersions.map .obj) = items := Except.ok.inj hitems
    rw [← hlist, hone]
    rfl
  refine ⟨_, hmem, ?_, Json.canonicalFields (Json.canonicalFields (versionOf record)), ?_, ?_⟩
  · unfold ledgerRow
    rw [Json.lookup_canonicalFields]
    show some (Json.str read.operation) = _
    rw [← hput, hname]
  · unfold ledgerRow
    rw [Json.lookup_canonicalFields]
    show some (Json.canonical (.arr (read.recordVersions.map .obj))) = _
    rw [hversions, hitem]
    rfl
  · simp only [Json.lookup_canonicalFields]
    exact ⟨rfl, rfl, rfl⟩

/-- What is published of a receipt on file is the version of a put.
SOURCE: memory/store.py:208-226 -/
theorem publishedVersion_text (hlaw : rt.Lawful) {records : List MemoryRecord}
    (hrevise : receipt.operation ≠ "revise")
    (hputs : receipt.operation = "put" →
      ∃ record ∈ records, receipt.recordVersions = [versionOf record])
    {id : String} {revision : ℤ}
    (h : MemoryState.publishedVersion rt (Json.canonical (.obj receipt.toDict)) =
      .ok (some (some id, some revision))) :
    receipt.operation = "put" ∧ ∃ record ∈ records, receipt.recordVersions = [versionOf record] ∧
      id = record.recordId ∧ revision = record.revision := by
  rw [Json.canonical] at h
  unfold MemoryState.publishedVersion at h
  obtain ⟨fields, hfields, h⟩ := bind_eq_ok.mp h
  have hlookup : ∀ name, fields.lookup name = (receipt.toDict.lookup name).map Json.canonical := by
    intro name
    rw [← Except.ok.inj hfields, Json.lookup_canonicalFields]
  clear hfields
  obtain ⟨puts, hclass, h⟩ := bind_eq_ok.mp h
  have hput : puts = true → receipt.operation = "put" := by
    unfold MemoryState.putsRevision at hclass
    rw [hlookup] at hclass
    have heq : (decide (receipt.operation = "put") || decide (receipt.operation = "revise")) =
      puts := Except.ok.inj hclass
    intro htrue
    simpa [htrue, hrevise] using heq
  cases puts with
  | false => cases h
  | true =>
      obtain ⟨record, hrecord, hone⟩ := hputs (hput rfl)
      obtain ⟨items, hitems, h⟩ := bind_eq_ok.mp h
      obtain ⟨version, hfirst, h⟩ := bind_eq_ok.mp h
      unfold Row.index at hitems
      rw [hlookup] at hitems
      have hlist : Json.canonical (.arr (receipt.recordVersions.map .obj)) = items :=
        Except.ok.inj hitems
      rw [← hlist, hone] at hfirst
      have hnamed : Json.obj (Json.canonicalFields (versionOf record)) = version :=
        Except.ok.inj hfirst
      rw [← hnamed] at h
      unfold MemoryState.fieldOf Row.index at h
      simp only [Json.lookup_canonicalFields] at h
      obtain ⟨idItem, hidItem, h⟩ := bind_eq_ok.mp h
      obtain ⟨boundId, hid, h⟩ := bind_eq_ok.mp h
      obtain ⟨revisionItem, hrevisionItem, h⟩ := bind_eq_ok.mp h
      obtain ⟨boundRevision, hrevision, h⟩ := bind_eq_ok.mp h
      have hidText : Json.str record.recordId = idItem := Except.ok.inj hidItem
      have hnumber : Json.int record.revision = revisionItem := Except.ok.inj hrevisionItem
      have hpair := Prod.mk.inj (Option.some.inj (Except.ok.inj h))
      rw [hpair.1, ← hidText] at hid
      rw [hpair.2, ← hnumber] at hrevision
      exact ⟨hput rfl, record, hrecord, hone, hlaw.bindText_str hid, hlaw.bindInteger_int hrevision⟩

end Receipts

/-! ## The calls -/

/-- The calls that file receipts: the transaction of a `put`, of a `delete`, of a search or of an
indexing, on whatever the call found before it, and a publisher. -/
inductive MemoryThread
  | put (service : GovernedMemoryService) (request : GovernedMemoryService.PutRequest)
      (operationId : String) (decision : MemoryAccessDecision)
  | delete (request : GovernedMemoryService.DeleteRequest) (decision : MemoryAccessDecision)
      (current : MemoryRecord)
  | indexed (index : RetrievalIndex) (workId : ℕ) (record : MemoryRecord)
      (identity : EmbeddingIdentity) (now : ℤ)
  | search (env : SearchEnvironment) (request : SearchRequest)
      (ticket : GovernedMemoryService.SearchTicket) (status : MandalaStatus)
      (records : List MemoryRecord) (indexStatus : String) (identity : Option EmbeddingIdentity)
      (generation errorCode : Option String)
  | publish

/-- The operations of a call. -/
def MemoryThread.body (rt : MemoryRuntime) : MemoryThread → MemoryProg Unit
  | .put service request operationId decision =>
      .op (.putPending request.record operationId (service.putSha256 rt request)
        (service.putReceipt rt request operationId decision).text) fun _ => .ret ()
  | .delete request decision current =>
      .op (.delete request.recordId request.operationId (rt.iso.isoformat request.deletedAt)
        (GovernedMemoryService.deleteSha256 rt request)
        (GovernedMemoryService.deleteReceipt rt request decision current).text) fun _ => .ret ()
  | .indexed index workId record identity now =>
      .op (.recordOperationReceipt (indexOperationId index workId record)
        (indexSha256 rt record identity) (indexReceipt rt index workId record identity now).text)
        fun _ => .ret ()
  | .search env request ticket status records indexStatus identity generation errorCode =>
      .op (.recordOperationReceipt ticket.operationId ticket.requestSha256
        (GovernedMemoryService.searchReceipt rt env request ticket status records indexStatus
          identity generation errorCode).text) fun _ => .ret ()
  | .publish => (publishPending rt).bind fun _ => .ret ()

/-- Any number of these calls over one store and one ledger. -/
def memoryThreads (rt : MemoryRuntime) (ticks : ℤ → ℤ → Prop) :
    System MemoryOp.Reply PyError Unit MemoryWorld MemoryThread where
  body := MemoryThread.body rt
  effect := MemoryOp.effect rt ticks

/-- What a publisher knows: the payloads it read, and the receipt it appended last. -/
structure Publisher where
  payloads : List Json := []
  appended : Option MemoryOperationReceipt := none

namespace Publisher

/-- A call files receipts of its own, appends what it read, and marks what it appended. -/
def Allows (rt : MemoryRuntime) (l : Publisher) : MemoryOp → Prop
  | .putPending record operationId _ text => Files [record] operationId text
  | .recordOperationReceipt operationId _ text => Files [] operationId text
  | .delete _ operationId _ _ text => Files [] operationId text
  | .ledgerAppend receipt => ∃ payload ∈ l.payloads, fromPayload rt payload = .ok receipt
  | .markReceiptPublished operationId => ∃ receipt ∈ l.appended, receipt.operationId = operationId
  | .pendingReceipts => True
  | _ => False

/-- What a publisher knows after an operation. -/
def after (l : Publisher) : (o : MemoryOp) → o.Reply → Publisher
  | .pendingReceipts, .ok payloads => { payloads }
  | .ledgerAppend receipt, .ok _ => { l with appended := some receipt }
  | _, _ => l

open Classical in
/-- The protocol of a call. -/
noncomputable def next (rt : MemoryRuntime) (l : Publisher) (o : MemoryOp) (r : o.Reply) :
    Option Publisher :=
  if l.Allows rt o then some (l.after o r) else none

variable {rt : MemoryRuntime} {l l' : Publisher} {o : MemoryOp} {r : o.Reply}

theorem next_eq_some : l.next rt o r = some l' ↔ l.Allows rt o ∧ l' = l.after o r := by
  unfold next
  split
  · rename_i hallows
    simp [hallows, eq_comm]
  · rename_i hforbids
    simp [hforbids]

/-- The loop of a publisher keeps to the protocol. -/
theorem publishLoop_obeys (published : ℕ) (payloads : List Json)
    (hread : ∀ payload ∈ payloads, payload ∈ l.payloads) :
    (publishLoop rt published payloads).Obeys (fun _ _ => True) (next rt) (fun _ _ => True)
      (fun _ _ => True) l := by
  induction payloads generalizing published l with
  | nil => trivial
  | cons payload payloads ih =>
      apply Prog.obeys_ofExcept_bind (fun _ _ => trivial)
      intro receipt hreceipt
      apply Prog.obeys_call_bind
      intro appended _
      have happend : l.Allows rt (.ledgerAppend receipt) :=
        ⟨payload, hread payload List.mem_cons_self, hreceipt⟩
      refine ⟨_, next_eq_some.mpr ⟨happend, rfl⟩, ?_⟩
      apply Prog.obeys_ofExcept_bind (fun _ _ => trivial)
      rintro new rfl
      apply Prog.obeys_call_bind
      intro marked _
      refine ⟨_, next_eq_some.mpr ⟨⟨receipt, rfl, rfl⟩, rfl⟩, ?_⟩
      apply Prog.obeys_ofExcept_bind (fun _ _ => trivial)
      intro _ _
      apply ih
      intro payload' hpayload'
      exact hread payload' (List.mem_cons_of_mem payload hpayload')

/-- Every call keeps to the protocol. -/
theorem body_obeys (call : MemoryThread) :
    (call.body rt).Obeys (fun _ _ => True) (next rt) (fun _ _ => True) (fun _ _ => True) {} := by
  unfold MemoryThread.body
  cases call with
  | put service request operationId decision =>
      intro reply _
      have hfiles : Files [request.record] operationId
          (service.putReceipt rt request operationId decision).text := by
        refine ⟨_, rfl, rfl, ?_, fun _ => ⟨request.record, List.mem_singleton_self _, rfl⟩⟩
        show "put" ≠ "revise"
        decide
      exact ⟨_, next_eq_some.mpr ⟨hfiles, rfl⟩, trivial⟩
  | delete request decision current =>
      intro reply _
      have hfiles : Files [] request.operationId
          (GovernedMemoryService.deleteReceipt rt request decision current).text :=
        files_of_operation (rfl : _ = "delete") (by decide) (by decide)
      exact ⟨_, next_eq_some.mpr ⟨hfiles, rfl⟩, trivial⟩
  | indexed index workId record identity now =>
      intro reply _
      have hfiles : Files [] (indexOperationId index workId record)
          (indexReceipt rt index workId record identity now).text :=
        files_of_operation (rfl : _ = "index") (by decide) (by decide)
      exact ⟨_, next_eq_some.mpr ⟨hfiles, rfl⟩, trivial⟩
  | search env request ticket status records indexStatus identity generation errorCode =>
      intro reply _
      have hfiles : Files [] ticket.operationId (GovernedMemoryService.searchReceipt rt env request
          ticket status records indexStatus identity generation errorCode).text :=
        files_of_operation (rfl : _ = "retrieve") (by decide) (by decide)
      exact ⟨_, next_eq_some.mpr ⟨hfiles, rfl⟩, trivial⟩
  | publish =>
      apply Prog.Obeys.bind (Q := fun _ _ => True)
      · apply Prog.obeys_call_bind
        intro pending _
        refine ⟨_, next_eq_some.mpr ⟨trivial, rfl⟩, ?_⟩
        apply Prog.obeys_ofExcept_bind (fun _ _ => trivial)
        rintro payloads rfl
        exact publishLoop_obeys 0 payloads (fun _ hmem => hmem)
      · intro _ _ _
        trivial

end Publisher

/-! ## What an operation does to the outbox and the heads -/

namespace MemoryState

variable {rt : MemoryRuntime} {state state' : MemoryState}

/-- The texts in the outbox, each with the operation that filed it. -/
def texts (state : MemoryState) : List (String × ReceiptText) :=
  state.outbox.map fun row => (row.operationId, row.receiptJson)

theorem texts_marked {operationId : String}
    (h : state.markReceiptPublished rt operationId = .ok state') : state'.texts = state.texts := by
  unfold texts
  rw [outbox_marked h]
  unfold publishRow
  rw [List.map_map]
  apply List.map_congr_left
  intro row _
  simp only [Function.comp_apply]
  split <;> rfl

/-- A transaction files nothing, or the text of a receipt of its own; a head that is published was
before, or it is what an operation puts that the transaction marks. -/
structure Moves (rt : MemoryRuntime) (marks : Option String) (state state' : MemoryState) :
    Prop where
  step : state' = state ∨ StoreStep rt state state'
  records : ∀ record ∈ state.records, record ∈ state'.records
  texts : state'.texts = state.texts ∨ ∃ operationId text,
    Files state'.records operationId text ∧ state'.texts = state.texts ++ [(operationId, text)]
  heads : ∀ id head, state'.heads.get? id = some head → head.published = true →
    state.heads.get? id = some head ∨ ∃ operationId ∈ marks, ∃ row payload,
      state.outboxRow operationId = some row ∧ row.receiptJson = .ok payload ∧
      publishedVersion rt payload = .ok (some (some id, some head.revision))

theorem moves_same (marks : Option String) (hstep : state' = state ∨ StoreStep rt state state')
    (hrecords : state'.records = state.records) (houtbox : state'.outbox = state.outbox)
    (hheads : state'.heads = state.heads) : Moves rt marks state state' where
  step := hstep
  records := by
    rw [hrecords]
    exact fun _ hrecord => hrecord
  texts := by
    left
    unfold texts
    rw [houtbox]
  heads := by
    rw [hheads]
    exact fun _ _ hhead _ => .inl hhead

/-- `put_pending` files the receipt of the put. -/
theorem moves_put {record : MemoryRecord} {operationId requestSha256 : String} {text : ReceiptText}
    {stored : Bool} (hfiles : Files [record] operationId text)
    (h : state.putPending record operationId requestSha256 text = .ok (stored, state')) :
    Moves rt none state state' := by
  have hstep : StoreStep rt state state' := .put h
  rcases putPending_eq_ok.mp h with ⟨-, -, rfl⟩ | ⟨-, -, -, rfl⟩
  · exact moves_same none (.inr hstep) rfl rfl rfl
  · refine ⟨.inr hstep, ?_, ?_, ?_⟩
    · intro earlier hearlier
      exact List.mem_append_left _ hearlier
    · have hstored : Files (state.records ++ [record]) operationId text :=
        hfiles.mono fun _ hmem => List.mem_append_right _ hmem
      exact .inr ⟨operationId, text, hstored, by simp [texts]⟩
    · intro id head hhead hpublished
      rw [heads_insertRevision, Dict.get?_set] at hhead
      split at hhead
      · rw [← Option.some.inj hhead] at hpublished
        cases hpublished
      · exact .inl hhead

theorem moves_filed {operationId requestSha256 : String} {text : ReceiptText}
    (hfiles : Files [] operationId text) (hstep : StoreStep rt state state')
    (hrecords : state'.records = state.records) (hheads : state'.heads = state.heads)
    (houtbox : state'.outbox = state.outbox ++ [⟨operationId, requestSha256, text, false⟩]) :
    Moves rt none state state' where
  step := .inr hstep
  records := by
    rw [hrecords]
    exact fun _ hrecord => hrecord
  texts := .inr ⟨operationId, text, hfiles.mono nofun, by simp [texts, houtbox]⟩
  heads := by
    rw [hheads]
    exact fun _ _ hhead _ => .inl hhead

theorem moves_record {operationId requestSha256 : String} {text : ReceiptText} {stored : Bool}
    (hfiles : Files [] operationId text)
    (h : state.recordOperationReceipt operationId requestSha256 text = .ok (stored, state')) :
    Moves rt none state state' := by
  have hstep : StoreStep rt state state' := .recordReceipt h
  rcases recordOperationReceipt_eq_ok.mp h with ⟨-, -, rfl⟩ | ⟨-, -, rfl⟩
  · exact moves_same none (.inr hstep) rfl rfl rfl
  · exact moves_filed hfiles hstep rfl rfl rfl

theorem moves_delete {recordId operationId deletedAt requestSha256 : String} {text : ReceiptText}
    {stored : Bool} (hfiles : Files [] operationId text)
    (h : state.delete recordId operationId deletedAt requestSha256 text = .ok (stored, state')) :
    Moves rt none state state' := by
  have hstep : StoreStep rt state state' := .delete h
  rcases delete_eq_ok.mp h with ⟨-, -, rfl⟩ | ⟨-, -, head, -, rfl⟩
  · exact moves_same none (.inr hstep) rfl rfl rfl
  · exact moves_filed hfiles hstep records_insertRemoval heads_insertRemoval outbox_insertRemoval

/-- A head is published where it is the version that is published, or was before. -/
theorem get?_publishHead {version : Option String × Option ℤ} {id : String} {head : HeadRow}
    (h : (state.publishHead version).heads.get? id = some head) :
    state.heads.get? id = some head ∨ version = (some id, some (head.revision : ℤ)) := by
  unfold publishHead at h
  split at h
  · rename_i named revision
    split at h
    · rename_i before hbefore
      split at h
      · rename_i hrevision
        rw [Dict.get?_set] at h
        split at h
        · rename_i hid
          right
          rw [← Option.some.inj h, ← hid, ← hrevision]
        · exact .inl h
      · exact .inl h
    · exact .inl h
  · exact .inl h

/-- `mark_receipt_published` publishes what the marked operation puts. -/
theorem moves_mark {operationId : String}
    (h : state.markReceiptPublished rt operationId = .ok state') :
    Moves rt (some operationId) state state' := by
  have hstep : StoreStep rt state state' := .publish h
  obtain ⟨row, payload, version, hrow, hpayload, hversion, hstate⟩ :=
    markReceiptPublished_eq_ok.mp h
  cases version with
  | none =>
      have hmarked : state' = state.publishRow operationId := hstate
      refine ⟨.inr hstep, ?_, ?_, ?_⟩
      · rw [hmarked]
        exact fun _ hrecord => hrecord
      · exact .inl (texts_marked h)
      · rw [hmarked]
        exact fun _ _ hhead _ => .inl hhead
  | some version =>
      have hmarked : state' = (state.publishRow operationId).publishHead version := hstate
      refine ⟨.inr hstep, ?_, ?_, ?_⟩
      · rw [hmarked, records_publishHead]
        exact fun _ hrecord => hrecord
      · exact .inl (texts_marked h)
      · rw [hmarked]
        intro id head hhead _
        rcases get?_publishHead hhead with hbefore | hnamed
        · exact .inl hbefore
        · rw [hnamed] at hversion
          exact .inr ⟨operationId, rfl, row, payload, hrow, hpayload, hversion⟩

end MemoryState

/-! ## The invariant -/

section Invariant

variable {rt : MemoryRuntime} {ticks : ℤ → ℤ → Prop} {w w' : MemoryWorld}
  {g : ℕ → Option (MemoryThread × Publisher)} {l : Publisher} {o : MemoryOp} {r : o.Reply}

/-- The operation that is marked. -/
def MemoryOp.marks : MemoryOp → Option String
  | .markReceiptPublished operationId => some operationId
  | _ => none

/-- The ledger has the row of a receipt that is read from the outbox. -/
def AppendedFrom (rt : MemoryRuntime) (w : MemoryWorld) (receipt : MemoryOperationReceipt) : Prop :=
  ∃ operationId payload, (operationId, .ok payload) ∈ w.store.texts ∧
    fromPayload rt payload = .ok receipt ∧ ledgerRow receipt ∈ w.ledger

/-- What publishers know is so, and what is published is in the ledger. -/
structure RecordedInv (rt : MemoryRuntime) (w : MemoryWorld)
    (g : ℕ → Option (MemoryThread × Publisher)) : Prop where
  later : MemoryState.Later rt .empty w.store
  filed : ∀ text ∈ w.store.texts, Files w.store.records text.1 text.2
  read : ∀ i c l, g i = some (c, l) → ∀ payload ∈ l.payloads,
    ∃ operationId, (operationId, .ok payload) ∈ w.store.texts
  appended : ∀ i c l, g i = some (c, l) → ∀ receipt ∈ l.appended, AppendedFrom rt w receipt
  recorded : ∀ id head, w.store.heads.get? id = some head → head.published = true →
    ∃ record ∈ w.store.records, record.recordId = id ∧ record.revision = head.revision ∧
      RecordedIn w.ledger record

theorem forall_update {P : Publisher → Prop} {i : ℕ} {c : MemoryThread} (hl : P l)
    (hothers : ∀ j c l, g j = some (c, l) → P l) :
    ∀ j c' l', Function.update g i (some (c, l)) j = some (c', l') → P l' := by
  intro j c' l' hl'
  by_cases hj : j = i
  · subst hj
    rw [Function.update_self] at hl'
    rw [← (Prod.mk.inj (Option.some.inj hl')).2]
    exact hl
  · rw [Function.update_of_ne hj] at hl'
    exact hothers j c' l' hl'

/-- The ledger stays, or has one row more, of a receipt that it had no row of. -/
def LedgerMoves (ledger ledger' : List Row) : Prop :=
  ledger' = ledger ∨ ∃ receipt, sameReceipt ledger receipt.receiptId = [] ∧
    ledger' = ledger ++ [ledgerRow receipt]

theorem Transaction.moves {α : Type} {result : Except PyError (α × MemoryState)}
    {reply : Except PyError α} {marks : Option String} (h : Transaction result w reply w')
    (hdone : ∀ a store, result = .ok (a, store) → MemoryState.Moves rt marks w.store store) :
    MemoryState.Moves rt marks w.store w'.store ∧ LedgerMoves w.ledger w'.ledger := by
  cases reply with
  | ok a =>
      obtain ⟨store, hresult, hw⟩ := h
      rw [hw]
      exact ⟨hdone a store hresult, .inl rfl⟩
  | error e =>
      rw [show w' = w from h]
      exact ⟨MemoryState.moves_same marks (.inl rfl) rfl rfl rfl, .inl rfl⟩

/-- What is permitted moves the store and the ledger.
SOURCE: memory/store.py:111-233, 386-475, mandala/ledger.py:19-21 -/
theorem moves_effect (hallows : l.Allows rt o) (heffect : MemoryOp.effect rt ticks w o r w') :
    MemoryState.Moves rt o.marks w.store w'.store ∧ LedgerMoves w.ledger w'.ledger := by
  have hstay : MemoryState.Moves rt o.marks w.store w.store :=
    MemoryState.moves_same _ (.inl rfl) rfl rfl rfl
  cases o with
  | putPending record operationId requestSha256 text =>
      exact heffect.moves fun _ _ h => MemoryState.moves_put hallows h
  | recordOperationReceipt operationId requestSha256 text =>
      exact heffect.moves fun _ _ h => MemoryState.moves_record hallows h
  | delete recordId operationId deletedAt requestSha256 text =>
      exact heffect.moves fun _ _ h => MemoryState.moves_delete hallows h
  | markReceiptPublished operationId =>
      rcases transaction_write heffect with ⟨_, -, rfl⟩ | ⟨store, -, hmarked, rfl⟩
      · exact ⟨hstay, .inl rfl⟩
      · exact ⟨MemoryState.moves_mark hmarked, .inl rfl⟩
  | pendingReceipts =>
      rw [(transaction_read heffect).1]
      exact ⟨hstay, .inl rfl⟩
  | ledgerAppend receipt =>
      obtain ⟨ledger, happend, rfl⟩ := heffect
      refine ⟨hstay, ?_⟩
      cases r with
      | error e =>
          rcases happend with hsame | ⟨hnone, hnew⟩
          · exact .inl hsame
          · exact .inr ⟨receipt, hnone, hnew⟩
      | ok new =>
          cases new with
          | true => exact .inr ⟨receipt, happend.1, happend.2⟩
          | false => exact .inl happend.2
  | _ => exact hallows.elim

/-- What a publisher reads is in the outbox. -/
theorem read_after (heffect : MemoryOp.effect rt ticks w o r w')
    (h : ∀ payload ∈ l.payloads, ∃ operationId, (operationId, .ok payload) ∈ w.store.texts) :
    ∀ payload ∈ (l.after o r).payloads,
      ∃ operationId, (operationId, .ok payload) ∈ w.store.texts := by
  cases o with
  | pendingReceipts =>
      cases r with
      | error e => exact h
      | ok payloads =>
          have hread : Transaction ((·, w.store) <$> w.store.pendingReceipts) w (.ok payloads) w' :=
            heffect
          have hpending := (transaction_read (w := w) hread).2 payloads rfl
          intro payload hpayload
          obtain ⟨row, hrow, htext⟩ := (mem_of_mapM hpending).2 payload hpayload
          exact ⟨row.operationId, List.mem_map.mpr ⟨row, List.mem_of_mem_filter hrow, by rw [htext]⟩⟩
  | ledgerAppend receipt =>
      cases r with
      | error e => exact h
      | ok new => exact h
  | _ => exact h

theorem mem_of_appendIfAbsent {ledger ledger' : List Row} {receipt : MemoryOperationReceipt}
    {new : Bool} (h : appendIfAbsent ledger receipt (.ok new) ledger') :
    ledgerRow receipt ∈ ledger' ∧ ledger ⊆ ledger' := by
  cases new with
  | true =>
      rw [h.2]
      exact ⟨List.mem_append_right _ (List.mem_singleton_self _), List.subset_append_left _ _⟩
  | false =>
      have hmem : ledgerRow receipt ∈ sameReceipt ledger receipt.receiptId := by
        rw [h.1]
        exact List.mem_singleton_self _
      rw [h.2]
      exact ⟨List.mem_of_mem_filter hmem, List.Subset.refl _⟩

/-- What a publisher appends is in the ledger. -/
theorem appended_after (hallows : l.Allows rt o) (heffect : MemoryOp.effect rt ticks w o r w')
    (hread : ∀ payload ∈ l.payloads, ∃ operationId, (operationId, .ok payload) ∈ w.store.texts)
    (h : ∀ receipt ∈ l.appended, AppendedFrom rt w' receipt) :
    ∀ receipt ∈ (l.after o r).appended, AppendedFrom rt w' receipt := by
  cases o with
  | pendingReceipts =>
      cases r with
      | error e => exact h
      | ok payloads =>
          intro receipt hreceipt
          cases hreceipt
  | ledgerAppend receipt =>
      cases r with
      | error e => exact h
      | ok new =>
          obtain ⟨ledger, happend, rfl⟩ := heffect
          rintro _ ⟨⟩
          obtain ⟨payload, hpayload, hreceipt⟩ := hallows
          obtain ⟨operationId, htext⟩ := hread payload hpayload
          exact ⟨operationId, payload, htext, hreceipt, (mem_of_appendIfAbsent happend).1⟩
  | _ => exact h

/-- What a publisher marks is in the ledger. -/
theorem RecordedInv.marked (hlaw : rt.Lawful) (h : RecordedInv rt w g)
    {receipt : MemoryOperationReceipt} (happended : AppendedFrom rt w receipt) {row : OutboxRow}
    {payload : Json} (hrow : w.store.outboxRow receipt.operationId = some row)
    (hpayload : row.receiptJson = .ok payload) {id : String} {revision : ℕ}
    (hversion : MemoryState.publishedVersion rt payload =
      .ok (some (some id, some (revision : ℤ)))) :
    ∃ record ∈ w.store.records, record.recordId = id ∧ record.revision = revision ∧
      RecordedIn w.ledger record := by
  obtain ⟨operationId, payload', htext, hread, hledger⟩ := happended
  obtain ⟨filed, hfiled, hid, hrevise, hputs⟩ := h.filed _ htext
  have hcanonical : payload' = Json.canonical (.obj filed.toDict) := Except.ok.inj hfiled
  rw [hcanonical] at hread
  obtain ⟨hname, hrecorded⟩ := reads_text hlaw hread
  have hsame : payload = payload' := by
    have hmem : (operationId, .ok payload) ∈ w.store.texts := by
      refine List.mem_map.mpr ⟨row, List.mem_of_find?_eq_some hrow, ?_⟩
      have hkey : row.operationId = receipt.operationId := by simpa using List.find?_some hrow
      rw [hpayload, hkey, hname, hid]
    have hnodup : (w.store.texts.map Prod.fst).Nodup := by
      have hmap : w.store.texts.map Prod.fst = w.store.outbox.map (·.operationId) := by
        simp [MemoryState.texts]
      rw [hmap]
      exact (MemoryState.orderly_of_later h.later).filedOnce
    have hpair := List.inj_on_of_nodup_map hnodup hmem htext rfl
    exact Except.ok.inj (Prod.mk.inj hpair).2
  rw [hsame, hcanonical] at hversion
  obtain ⟨hput, record, hrecord, hone, hrecordId, hrevision⟩ :=
    publishedVersion_text hlaw hrevise hputs hversion
  exact ⟨record, hrecord, hrecordId.symm, by omega, hrecorded record hput hone _ hledger⟩

/-- The invariant is kept by a move of the protocol. -/
theorem RecordedInv.move (hlaw : rt.Lawful) (h : RecordedInv rt w g) {i : ℕ} {c : MemoryThread}
    (hl : g i = some (c, l)) (hallows : l.Allows rt o)
    (heffect : MemoryOp.effect rt ticks w o r w') :
    RecordedInv rt w' (Function.update g i (some (c, l.after o r))) := by
  obtain ⟨hmoves, hgrows⟩ := moves_effect hallows heffect
  have hledger : w.ledger ⊆ w'.ledger := by
    rcases hgrows with hsame | ⟨receipt, -, hnew⟩
    · rw [hsame]
      exact List.Subset.refl _
    · rw [hnew]
      exact List.subset_append_left _ _
  have htexts : w.store.texts ⊆ w'.store.texts := by
    rcases hmoves.texts with hsame | ⟨operationId, text, -, hnew⟩
    · rw [hsame]
      exact List.Subset.refl _
    · rw [hnew]
      exact List.subset_append_left _ _
  have happended : ∀ receipt, AppendedFrom rt w receipt → AppendedFrom rt w' receipt := by
    rintro receipt ⟨operationId, payload, htext, hread, hrow⟩
    exact ⟨operationId, payload, htexts htext, hread, hledger hrow⟩
  have hrecorded : ∀ record, RecordedIn w.ledger record → RecordedIn w'.ledger record := by
    rintro record ⟨row, hrow, hfields⟩
    exact ⟨row, hledger hrow, hfields⟩
  refine ⟨?_, ?_, ?_, ?_, ?_⟩
  · rcases hmoves.step with hsame | hstep
    · rw [hsame]
      exact h.later
    · exact h.later.tail hstep
  · have hfiled : ∀ text ∈ w.store.texts, Files w'.store.records text.1 text.2 :=
      fun text htext => (h.filed text htext).mono hmoves.records
    rcases hmoves.texts with hsame | ⟨operationId, text, hfiles, hnew⟩
    · rw [hsame]
      exact hfiled
    · rw [hnew]
      intro text' htext'
      rcases List.mem_append.mp htext' with hbefore | hadded
      · exact hfiled text' hbefore
      · rw [List.mem_singleton.mp hadded]
        exact hfiles
  · apply forall_update
    · intro payload hpayload
      obtain ⟨operationId, htext⟩ := read_after heffect (h.read i c l hl) payload hpayload
      exact ⟨operationId, htexts htext⟩
    · intro j c' l' hl' payload hpayload
      obtain ⟨operationId, htext⟩ := h.read j c' l' hl' payload hpayload
      exact ⟨operationId, htexts htext⟩
  · apply forall_update
    · have hknown := fun receipt hreceipt => happended receipt (h.appended i c l hl receipt hreceipt)
      exact appended_after hallows heffect (h.read i c l hl) hknown
    · intro j c' l' hl' receipt hreceipt
      exact happended receipt (h.appended j c' l' hl' receipt hreceipt)
  · intro id head hhead hpublished
    have hknown : ∃ record ∈ w.store.records, record.recordId = id ∧
        record.revision = head.revision ∧ RecordedIn w.ledger record := by
      rcases hmoves.heads id head hhead hpublished with
        hbefore | ⟨operationId, hmarks, row, payload, hrow, hpayload, hversion⟩
      · exact h.recorded id head hbefore hpublished
      · cases o with
        | markReceiptPublished marked =>
            obtain ⟨receipt, hreceipt, hid⟩ := hallows
            have hsame : marked = operationId := Option.some.inj hmarks
            rw [← hsame, ← hid] at hrow
            exact h.marked hlaw (h.appended i c l hl receipt hreceipt) hrow hpayload hversion
        | _ => cases hmarks
    obtain ⟨record, hrecord, hid, hrevision, hrow⟩ := hknown
    exact ⟨record, hmoves.records record hrecord, hid, hrevision, hrecorded record hrow⟩

/-- The invariant as one over pools. -/
theorem recordedInvariant (hlaw : rt.Lawful) :
    (memoryThreads rt ticks).LocalInvariant (fun w => w.store = .empty) (fun _ _ => True)
      (fun _ _ => True) (fun _ => Publisher.next rt) (fun _ => {})
      (fun w g _ => RecordedInv rt w g) where
  initial := by
    intro w hw
    refine ⟨hw ▸ .refl, ?_, ?_, ?_, ?_⟩
    · rw [hw]
      intro text htext
      cases htext
    · intro i c l hl
      cases hl
    · intro i c l hl
      cases hl
    · rw [hw]
      intro id head hhead
      cases hhead
  start := by
    intro w g _ i c h _
    refine ⟨h.later, h.filed, ?_, ?_, h.recorded⟩
    · apply forall_update
      · intro payload hpayload
        cases hpayload
      · exact h.read
    · apply forall_update
      · intro receipt hreceipt
        cases hreceipt
      · exact h.appended
  admitted := fun _ _ _ _ _ _ _ _ _ _ _ _ => trivial
  move := by
    intro s g i c l o r l' w' h hl _ hnext heffect
    obtain ⟨hallows, rfl⟩ := Publisher.next_eq_some.mp hnext
    exact h.move hlaw hl hallows heffect

/-- MAIN: **no memory is readable before its receipt is in the ledger.** In every run of puts,
deletions, indexing and publishers over one store, however their operations interleave and wherever a
call dies or an operation fails, the ledger has the receipt of the put of every record that the store
lets be read, with its revision and its digest.
SOURCE: memory/publisher.py:17-24, memory/store.py:111-254 -/
theorem readable_only_if_recorded (hlaw : rt.Lawful)
    {s : Pool MemoryOp.Reply PyError Unit MemoryWorld MemoryThread}
    (hs : (memoryThreads rt ticks).Reachable (fun w => w.store = .empty) (fun _ _ => True) s)
    {id : String} {record : MemoryRecord} (hread : s.world.store.readableHead id = some record) :
    RecordedIn s.world.ledger record := by
  obtain ⟨g, hinv, -⟩ := hs.locally (recordedInvariant hlaw) Publisher.body_obeys
  obtain ⟨head, hhead, -, hpublished, hrow⟩ := MemoryState.readableHead_eq_some.mp hread
  obtain ⟨put, hput, hid, hrevision, hrecorded⟩ := hinv.recorded id head hhead hpublished
  obtain ⟨hid', hrevision'⟩ := MemoryState.key_of_row hrow
  have hversions : ∀ version ∈ s.world.store.records, version.recordId = id →
      version ∈ s.world.store.versionsOf id := by
    intro version hversion hname
    exact List.mem_filter.mpr ⟨hversion, by simp [hname]⟩
  have hnodup : ((s.world.store.versionsOf id).map (·.revision)).Nodup := by
    rw [(MemoryState.orderly_of_later hinv.later).numbered id]
    exact List.nodup_range'
  have hsame : put = record := List.inj_on_of_nodup_map hnodup (hversions put hput hid)
    (hversions record (List.mem_of_find?_eq_some hrow) hid') (hrevision.trans hrevision'.symm)
  rw [← hsame]
  exact hrecorded

/-! ## Appending once -/

/-- The ledger goes on, with at most one new row of a receipt, and none of one that it had. -/
def AppendedOnce (ledger ledger' : List Row) : Prop :=
  ledger <+: ledger' ∧ ∀ receiptId, sameReceipt ledger' receiptId = sameReceipt ledger receiptId ∨
    (sameReceipt ledger receiptId = [] ∧ (sameReceipt ledger' receiptId).length = 1)

theorem AppendedOnce.moves {ledger ledger' ledger'' : List Row} (h : AppendedOnce ledger ledger')
    (hmoves : LedgerMoves ledger' ledger'') : AppendedOnce ledger ledger'' := by
  rcases hmoves with rfl | ⟨receipt, hnone, rfl⟩
  · exact h
  · refine ⟨h.1.trans (List.prefix_append _ _), ?_⟩
    intro receiptId
    have hlast : (ledgerRow receipt).lookup "receipt_id" = some (.str receipt.receiptId) := by
      unfold ledgerRow
      rw [Json.lookup_canonicalFields]
      rfl
    by_cases hid : receipt.receiptId = receiptId
    · rw [hid] at hnone hlast
      right
      refine ⟨?_, ?_⟩
      · rcases h.2 receiptId with hsame | ⟨hbefore, -⟩
        · exact hsame.symm.trans hnone
        · exact hbefore
      · unfold sameReceipt at hnone ⊢
        simp [List.filter_append, hnone, hlast]
    · have hother : sameReceipt (ledger' ++ [ledgerRow receipt]) receiptId =
          sameReceipt ledger' receiptId := by
        unfold sameReceipt
        simp [List.filter_append, hlast, hid]
      rw [hother]
      exact h.2 receiptId

/-- The rows of an operation are published. -/
def Done (w : MemoryWorld) (operationId : String) : Prop :=
  ∀ row ∈ w.store.outbox, row.operationId = operationId → row.published = true

/-- What publishing leaves as it is. -/
structure Publishes (w w' : MemoryWorld) : Prop where
  texts : w'.store.texts = w.store.texts
  ledger : w.ledger ⊆ w'.ledger
  done : ∀ operationId, Done w operationId → Done w' operationId

/-- A receipt is marked. -/
theorem publishes_mark {operationId : String} {store : MemoryState}
    (h : w.store.markReceiptPublished rt operationId = .ok store) :
    Publishes w { w with store } ∧ Done { w with store } operationId := by
  have hrow : ∀ row ∈ store.outbox, ∃ before ∈ w.store.outbox,
      row.operationId = before.operationId ∧
        (before.published = true ∨ before.operationId = operationId → row.published = true) := by
    rw [MemoryState.outbox_marked h]
    intro row hrow
    obtain ⟨before, hbefore, rfl⟩ := List.mem_map.mp hrow
    refine ⟨before, hbefore, ?_⟩
    split
    · exact ⟨rfl, fun _ => rfl⟩
    · rename_i hother
      exact ⟨rfl, fun h => h.resolve_right hother⟩
  refine ⟨⟨MemoryState.texts_marked h, List.Subset.refl _, ?_⟩, ?_⟩
  · intro named hdone row hmem hid
    obtain ⟨before, hbefore, hsame, hmarked⟩ := hrow row hmem
    exact hmarked (.inl (hdone before hbefore (hsame.symm.trans hid)))
  · intro row hmem hid
    obtain ⟨before, -, hsame, hmarked⟩ := hrow row hmem
    exact hmarked (.inr (hsame.symm.trans hid))

/-- The loop of a publisher appends and marks what it was given.
SOURCE: memory/publisher.py:17-24 -/
theorem publishLoop_drains (published : ℕ) (payloads : List Json) :
    (publishLoop rt published payloads).Holds (MemoryOp.effect rt ticks) (fun _ => True)
      (fun w' n => n = published + payloads.length ∧ Publishes w w' ∧
        ∀ payload ∈ payloads, ∃ receipt, fromPayload rt payload = .ok receipt ∧
          ledgerRow receipt ∈ w'.ledger ∧ Done w' receipt.operationId)
      (fun _ _ => True) w := by
  induction payloads generalizing published w with
  | nil => exact ⟨trivial, rfl, ⟨rfl, List.Subset.refl _, fun _ h => h⟩, nofun⟩
  | cons payload payloads ih =>
      unfold publishLoop
      apply Prog.holds_ofExcept_bind trivial (fun _ _ => trivial)
      intro receipt hreceipt
      apply Prog.holds_call_bind trivial
      rintro appended w₁ ⟨ledger, happend, rfl⟩
      apply Prog.holds_ofExcept_bind trivial (fun _ _ => trivial)
      rintro new rfl
      obtain ⟨hrow, hgrows⟩ := mem_of_appendIfAbsent happend
      apply Prog.holds_call_bind trivial
      intro marked w₂ hmarked
      rcases transaction_write hmarked with ⟨e, rfl, -⟩ | ⟨store, rfl, hmark, rfl⟩
      · exact ⟨trivial, trivial⟩
      · obtain ⟨hkeeps, hdone⟩ := publishes_mark hmark
        apply (ih (published + 1)).mono (fun _ _ => trivial) _ (fun _ _ _ => trivial)
        rintro w' n ⟨hcount, hrest, hall⟩
        refine ⟨by simp [hcount]; omega, ⟨?_, ?_, ?_⟩, ?_⟩
        · exact hrest.texts.trans hkeeps.texts
        · exact List.Subset.trans hgrows hrest.ledger
        · intro operationId hbefore
          exact hrest.done operationId (hkeeps.done operationId hbefore)
        · intro payload' hpayload'
          rcases List.mem_cons.mp hpayload' with rfl | hlater
          · exact ⟨receipt, hreceipt, hrest.ledger hrow, hrest.done _ hdone⟩
          · exact hall payload' hlater

end Invariant

/-! ## A run -/

/-- The environment in which nothing fails. -/
def plainEnvironment : (memoryThreads unaryMemoryRuntime (· ≤ ·)).Environment where
  answer w o := some (o.act unaryMemoryRuntime plainIndex.embeddingIdentity w).1
  after w o _ := (o.act unaryMemoryRuntime plainIndex.embeddingIdentity w).2
  sound := by
    intro w o r hanswer
    rw [← Option.some.inj hanswer]
    exact MemoryOp.effect_act (fun _ => le_refl _) plainIndex.embeddingIdentity w o

/-- Ann's memory is put and published. -/
def putAndPublished : Pool MemoryOp.Reply PyError Unit MemoryWorld MemoryThread :=
  plainEnvironment.play 4 0
    [.put GovernedMemoryService.twoScopes (GovernedMemoryService.plainPut "memory" 1 "ann" "op-1")
      "op-1" ⟨"ann", "task", "memory.write", ["ann"], ["internal"], "policy"⟩, .publish]
    (System.initial ⟨.empty, [], [], 5⟩)

theorem reachable_putAndPublished {init : MemoryWorld → Prop} (h : init ⟨.empty, [], [], 5⟩) :
    (memoryThreads unaryMemoryRuntime (· ≤ ·)).Reachable init (fun _ _ => True) putAndPublished :=
  (System.Reachable.initial _ h).play plainEnvironment (fun _ _ _ _ _ _ => trivial) 4 _
    (fun _ _ => rfl)

theorem lawful_unaryMemoryRuntime : unaryMemoryRuntime.Lawful where
  pyStr_str := fun _ => rfl
  bindText_str := fun h => (Option.some.inj (Except.ok.inj h)).symm
  bindInteger_int := fun h => (Option.some.inj (Except.ok.inj h)).symm

/-- WITNESS: The memory can be read, and it is in the ledger. -/
theorem readable_only_if_recorded_ann :
    putAndPublished.world.store.readableHead "memory" = some annsMemory ∧
      RecordedIn putAndPublished.world.ledger annsMemory := by
  have hread : putAndPublished.world.store.readableHead "memory" = some annsMemory := by
    decide +kernel
  exact ⟨hread, readable_only_if_recorded lawful_unaryMemoryRuntime
    (reachable_putAndPublished rfl) hread⟩

end PhiOS
