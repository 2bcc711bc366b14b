import PhiOS.Model.MemoryStore

/-!
# What each call to the memory store does

One lemma for each writing call says when it succeeds and what the store is afterwards; the lemmas
after them follow a row through the changes. `Reached` are the stores that calls lead to.
-/

set_option autoImplicit false

namespace PhiOS

namespace MemoryState

open KeyOrder

variable {rt : MemoryRuntime} {state state' : MemoryState}

/-! ## The calls -/

theorem isReplay_eq_true {operationId requestSha256 : String} :
    state.isReplay operationId requestSha256 = .ok true ↔
      ∃ prior, state.outboxRow operationId = some prior ∧ prior.requestSha256 = requestSha256 := by
  unfold isReplay
  split
  · rename_i hnone
    simp [hnone]
  · rename_i prior hprior
    split
    · rename_i heq
      simp [hprior, heq]
    · rename_i hne
      simp [hprior, hne]

theorem isReplay_eq_false {operationId requestSha256 : String} :
    state.isReplay operationId requestSha256 = .ok false ↔ state.outboxRow operationId = none := by
  unfold isReplay
  split
  · rename_i hnone
    simp [hnone]
  · rename_i prior hprior
    split
    · simp [hprior]
    · simp [hprior]

/-- A record may be put as the next revision of its memory. -/
structure Admits (state : MemoryState) (record : MemoryRecord) : Prop where
  alive : state.tombstones.get? record.recordId = none
  next : record.revision = state.expectedRevision record.recordId
  free : state.row record.recordId record.revision = none

/-- `put_pending` stores a revision or finds the request on file.
SOURCE: store.py:111-179 -/
theorem putPending_eq_ok {record : MemoryRecord} {operationId requestSha256 : String}
    {receiptJson : ReceiptText} {stored : Bool} :
    state.putPending record operationId requestSha256 receiptJson = .ok (stored, state') ↔
      (state.isReplay operationId requestSha256 = .ok true ∧ stored = false ∧ state' = state) ∨
      (state.outboxRow operationId = none ∧ state.Admits record ∧ stored = true ∧
        state' = state.insertRevision record operationId requestSha256 receiptJson) := by
  unfold putPending
  rw [bind_eq_ok]
  constructor
  · rintro ⟨replayed, hreplay, h⟩
    cases replayed with
    | true =>
        have heq : (false, state) = (stored, state') := Except.ok.inj h
        have hstored := (Prod.mk.inj heq).1
        have hstate := (Prod.mk.inj heq).2
        exact .inl ⟨hreplay, hstored.symm, hstate.symm⟩
    | false =>
        obtain ⟨_, halive, h⟩ := bind_eq_ok.mp h
        obtain ⟨_, hnext, h⟩ := bind_eq_ok.mp h
        obtain ⟨_, hfree, h⟩ := bind_eq_ok.mp h
        have heq := Prod.mk.inj (Except.ok.inj h)
        refine .inr ⟨isReplay_eq_false.mp hreplay, ⟨?_, ?_, ?_⟩, heq.1.symm, heq.2.symm⟩
        · simpa using halive
        · simpa using hnext
        · simpa using hfree
  · rintro (⟨hreplay, rfl, rfl⟩ | ⟨hnew, hadmits, rfl, rfl⟩)
    · exact ⟨true, hreplay, rfl⟩
    · refine ⟨false, isReplay_eq_false.mpr hnew, ?_⟩
      have halive := hadmits.alive
      have hfree := hadmits.free
      simp [raiseIf, halive, hfree, ← hadmits.next, bind, Except.bind, pure, Except.pure]

theorem putPending_of_replay {record : MemoryRecord} {operationId requestSha256 : String}
    (h : state.isReplay operationId requestSha256 = .ok true) (receiptJson : ReceiptText) :
    state.putPending record operationId requestSha256 receiptJson = .ok (false, state) :=
  putPending_eq_ok.mpr (.inl ⟨h, rfl, rfl⟩)

theorem putPending_of_admits {record : MemoryRecord} {operationId : String}
    (hnew : state.outboxRow operationId = none) (h : state.Admits record) (requestSha256 : String)
    (receiptJson : ReceiptText) :
    state.putPending record operationId requestSha256 receiptJson =
      .ok (true, state.insertRevision record operationId requestSha256 receiptJson) :=
  putPending_eq_ok.mpr (.inr ⟨hnew, h, rfl, rfl⟩)

/-- `record_operation_receipt` files a receipt or finds the request on file. -/
theorem recordOperationReceipt_eq_ok {operationId requestSha256 : String}
    {receiptJson : ReceiptText} {stored : Bool} :
    state.recordOperationReceipt operationId requestSha256 receiptJson = .ok (stored, state') ↔
      (state.isReplay operationId requestSha256 = .ok true ∧ stored = false ∧ state' = state) ∨
      (state.outboxRow operationId = none ∧ stored = true ∧
        state' = state.insertReceipt operationId requestSha256 receiptJson) := by
  unfold recordOperationReceipt
  rw [bind_eq_ok]
  constructor
  · rintro ⟨replayed, hreplay, h⟩
    cases replayed with
    | true =>
        have heq := Prod.mk.inj (Except.ok.inj h)
        exact .inl ⟨hreplay, heq.1.symm, heq.2.symm⟩
    | false =>
        have heq := Prod.mk.inj (Except.ok.inj h)
        exact .inr ⟨isReplay_eq_false.mp hreplay, heq.1.symm, heq.2.symm⟩
  · rintro (⟨hreplay, rfl, rfl⟩ | ⟨hnew, rfl, rfl⟩)
    · exact ⟨true, hreplay, rfl⟩
    · exact ⟨false, isReplay_eq_false.mpr hnew, rfl⟩

/-- The rows that `delete` writes for a head. -/
def insertRemoval (state : MemoryState) (recordId operationId deletedAt requestSha256 : String)
    (receiptJson : ReceiptText) (head : HeadRow) : MemoryState :=
  ((state.insertTombstone recordId deletedAt operationId).insertReceipt operationId requestSha256
    receiptJson).insertWork recordId head.revision .remove

/-- `delete` buries a record that has a head or finds the request on file. -/
theorem delete_eq_ok {recordId operationId deletedAt requestSha256 : String}
    {receiptJson : ReceiptText} {stored : Bool} :
    state.delete recordId operationId deletedAt requestSha256 receiptJson = .ok (stored, state') ↔
      (state.isReplay operationId requestSha256 = .ok true ∧ stored = false ∧ state' = state) ∨
      (state.outboxRow operationId = none ∧ stored = true ∧ ∃ head,
        state.heads.get? recordId = some head ∧
        state' = state.insertRemoval recordId operationId deletedAt requestSha256 receiptJson
          head) := by
  unfold delete
  rw [bind_eq_ok]
  constructor
  · rintro ⟨replayed, hreplay, h⟩
    cases replayed with
    | true =>
        have heq := Prod.mk.inj (Except.ok.inj h)
        exact .inl ⟨hreplay, heq.1.symm, heq.2.symm⟩
    | false =>
        dsimp only at h
        split at h
        · cases h
        · rename_i head hhead
          have heq := Prod.mk.inj (Except.ok.inj h)
          exact .inr ⟨isReplay_eq_false.mp hreplay, heq.1.symm, head, hhead, heq.2.symm⟩
  · rintro (⟨hreplay, rfl, rfl⟩ | ⟨hnew, rfl, head, hhead, rfl⟩)
    · exact ⟨true, hreplay, rfl⟩
    · refine ⟨false, isReplay_eq_false.mpr hnew, ?_⟩
      dsimp only
      rw [hhead]
      rfl

/-- `mark_receipt_published` marks a row that is there, and the head that the row's
receipt puts, if it puts one. -/
theorem markReceiptPublished_eq_ok {operationId : String} :
    state.markReceiptPublished rt operationId = .ok state' ↔
      ∃ row payload version, state.outboxRow operationId = some row ∧
        row.receiptJson = .ok payload ∧ publishedVersion rt payload = .ok version ∧
        state' = version.elim (state.publishRow operationId)
          fun version => (state.publishRow operationId).publishHead version := by
  unfold markReceiptPublished
  split
  · rename_i hnone
    simp [hnone]
  · rename_i row hrow
    rw [bind_eq_ok]
    constructor
    · rintro ⟨payload, hpayload, h⟩
      obtain ⟨version, hversion, h⟩ := bind_eq_ok.mp h
      refine ⟨row, payload, version, hrow, hpayload, hversion, ?_⟩
      cases version with
      | none => exact (Except.ok.inj h).symm
      | some version => exact (Except.ok.inj h).symm
    · rintro ⟨row', payload, version, hrow', hpayload, hversion, rfl⟩
      obtain rfl : row = row' := Option.some.inj (hrow.symm.trans hrow')
      refine ⟨payload, hpayload, bind_eq_ok.mpr ⟨version, hversion, ?_⟩⟩
      cases version with
      | none => rfl
      | some version => rfl

theorem markIndexWorkDone_eq_ok {workId : ℕ} (h : state.markIndexWorkDone workId = .ok state') :
    state' = { state with
      indexWork := state.indexWork.map fun work =>
        if work.workId = workId then { work with done := true } else work } := by
  unfold markIndexWorkDone at h
  split at h
  · exact (Except.ok.inj h).symm
  · cases h

/-! ## What the changes leave -/

section Rows

variable {record : MemoryRecord} {recordId operationId requestSha256 deletedAt : String}
  {receiptJson : ReceiptText} {head : HeadRow} {id : String}

@[simp] theorem records_insertRevision :
    (state.insertRevision record operationId requestSha256 receiptJson).records =
      state.records ++ [record] := rfl

@[simp] theorem heads_insertRevision :
    (state.insertRevision record operationId requestSha256 receiptJson).heads =
      state.heads.set record.recordId ⟨record.revision, false⟩ := rfl

@[simp] theorem tombstones_insertRevision :
    (state.insertRevision record operationId requestSha256 receiptJson).tombstones =
      state.tombstones := rfl

@[simp] theorem outbox_insertRevision :
    (state.insertRevision record operationId requestSha256 receiptJson).outbox =
      state.outbox ++ [⟨operationId, requestSha256, receiptJson, false⟩] := rfl

@[simp] theorem indexWork_insertRevision :
    (state.insertRevision record operationId requestSha256 receiptJson).indexWork =
      state.indexWork ++ [{ workId := state.indexWork.length + 1, recordId := record.recordId
                            revision := record.revision, action := .upsert }] := rfl

@[simp] theorem records_insertTombstone :
    (state.insertTombstone recordId deletedAt operationId).records = state.records := by
  unfold insertTombstone
  split <;> rfl

@[simp] theorem heads_insertTombstone :
    (state.insertTombstone recordId deletedAt operationId).heads = state.heads := by
  unfold insertTombstone
  split <;> rfl

@[simp] theorem outbox_insertTombstone :
    (state.insertTombstone recordId deletedAt operationId).outbox = state.outbox := by
  unfold insertTombstone
  split <;> rfl

@[simp] theorem indexWork_insertTombstone :
    (state.insertTombstone recordId deletedAt operationId).indexWork = state.indexWork := by
  unfold insertTombstone
  split <;> rfl

theorem tombstones_insertTombstone (h : (state.tombstones.get? id).isSome = true)
    (recordId deletedAt operationId : String) :
    ((state.insertTombstone recordId deletedAt operationId).tombstones.get? id).isSome = true := by
  unfold insertTombstone
  split
  · exact h
  · rw [Dict.get?_set]
    split
    · rfl
    · exact h

@[simp] theorem records_insertRemoval :
    (state.insertRemoval recordId operationId deletedAt requestSha256 receiptJson head).records =
      state.records := by
  simp [insertRemoval, insertReceipt, insertWork]

@[simp] theorem heads_insertRemoval :
    (state.insertRemoval recordId operationId deletedAt requestSha256 receiptJson head).heads =
      state.heads := by
  simp [insertRemoval, insertReceipt, insertWork]

@[simp] theorem tombstones_insertRemoval :
    (state.insertRemoval recordId operationId deletedAt requestSha256 receiptJson
      head).tombstones = (state.insertTombstone recordId deletedAt operationId).tombstones := rfl

@[simp] theorem outbox_insertRemoval :
    (state.insertRemoval recordId operationId deletedAt requestSha256 receiptJson head).outbox =
      state.outbox ++ [⟨operationId, requestSha256, receiptJson, false⟩] := by
  simp [insertRemoval, insertReceipt, insertWork]

@[simp] theorem indexWork_insertRemoval :
    (state.insertRemoval recordId operationId deletedAt requestSha256 receiptJson
      head).indexWork = state.indexWork ++
        [{ workId := state.indexWork.length + 1, recordId, revision := head.revision
           action := .remove }] := by
  simp [insertRemoval, insertReceipt, insertWork]

@[simp] theorem records_publishHead {version : Option String × Option ℤ} :
    (state.publishHead version).records = state.records := by
  unfold publishHead
  split
  · split
    · split <;> rfl
    · rfl
  · rfl

@[simp] theorem tombstones_publishHead {version : Option String × Option ℤ} :
    (state.publishHead version).tombstones = state.tombstones := by
  unfold publishHead
  split
  · split
    · split <;> rfl
    · rfl
  · rfl

@[simp] theorem outbox_publishHead {version : Option String × Option ℤ} :
    (state.publishHead version).outbox = state.outbox := by
  unfold publishHead
  split
  · split
    · split <;> rfl
    · rfl
  · rfl

@[simp] theorem indexWork_publishHead {version : Option String × Option ℤ} :
    (state.publishHead version).indexWork = state.indexWork := by
  unfold publishHead
  split
  · split
    · split <;> rfl
    · rfl
  · rfl

/-- A head keeps its revision when something is published. -/
theorem revision_publishHead {version : Option String × Option ℤ} :
    ((state.publishHead version).heads.get? id).map (·.revision) =
      (state.heads.get? id).map (·.revision) := by
  unfold publishHead
  split
  · split
    · rename_i named revision head hhead
      split
      · rw [Dict.get?_set]
        split
        · rename_i hid
          subst hid
          simp [hhead]
        · rfl
      · rfl
    · rfl
  · rfl

theorem row_insertRevision_of_ne (hne : record.recordId ≠ id) (revision : ℕ) :
    (state.insertRevision record operationId requestSha256 receiptJson).row id revision =
      state.row id revision := by
  unfold row
  rw [records_insertRevision, List.find?_append]
  have hother : List.find? (fun r : MemoryRecord => decide (r.recordId = id ∧ r.revision = revision))
      [record] = none := by
    simp [hne]
  rw [hother, Option.or_none]

theorem outboxRow_append {rows : List OutboxRow} {row : OutboxRow}
    (h : (rows.find? (·.operationId = operationId)).isSome = true) :
    ((rows ++ [row]).find? (·.operationId = operationId)).isSome = true := by
  simp only [List.find?_isSome] at h ⊢
  obtain ⟨found, hmem, hid⟩ := h
  exact ⟨found, List.mem_append_left _ hmem, hid⟩

end Rows

/-! ## Reached stores -/

/-- The stores that calls lead to from the empty one. -/
inductive Reached (rt : MemoryRuntime) : MemoryState → Prop
  | empty : Reached rt empty
  | put {state state' : MemoryState} {record : MemoryRecord} {operationId requestSha256 : String}
      {receiptJson : ReceiptText} {stored : Bool} (hs : Reached rt state)
      (h : state.putPending record operationId requestSha256 receiptJson = .ok (stored, state')) :
      Reached rt state'
  | recordReceipt {state state' : MemoryState} {operationId requestSha256 : String}
      {receiptJson : ReceiptText} {stored : Bool} (hs : Reached rt state)
      (h : state.recordOperationReceipt operationId requestSha256 receiptJson =
        .ok (stored, state')) : Reached rt state'
  | publish {state state' : MemoryState} {operationId : String} (hs : Reached rt state)
      (h : state.markReceiptPublished rt operationId = .ok state') : Reached rt state'
  | delete {state state' : MemoryState}
      {recordId operationId deletedAt requestSha256 : String} {receiptJson : ReceiptText}
      {stored : Bool} (hs : Reached rt state)
      (h : state.delete recordId operationId deletedAt requestSha256 receiptJson =
        .ok (stored, state')) : Reached rt state'
  | indexed {state state' : MemoryState} {workId : ℕ} (hs : Reached rt state)
      (h : state.markIndexWorkDone workId = .ok state') : Reached rt state'

end MemoryState

/-! ## A runtime to evaluate with -/

/-- A runtime whose timestamps are as long as the microseconds they stand for, and in which
everything has the same digest. -/
def unaryMemoryRuntime : MemoryRuntime where
  sha256 := fun _ => "digest"
  textSha256 := fun _ => "digest"
  uuid5 := id
  pyStr
    | .str s => s
    | _ => ""
  iso := {
    fromisoformat := fun text => some (.aware text.length)
    isoformat := fun t => String.ofList (List.replicate t.toNat 'I') }
  localInstant := fun _ => 0
  totalSeconds := fun n => n
  timestamp := fun n => n
  fromtimestamp := fun _ => .ok ""
  floatAdd := (· + ·)
  round12 := id
  floatText := fun _ => "0.0"
  bindText
    | .str s => .ok (some s)
    | _ => .ok none
  bindInteger
    | .int n => .ok (some n)
    | _ => .ok none

/-- A source record in that runtime. -/
def plainMemoryRecord (recordId : String) (revision : ℕ) (scopeId createdAt : String) : MemoryRecord where
  recordId := recordId
  revision := revision
  sourceId := "src"
  sourceKind := "human"
  provenanceRefs := ["evidence:" ++ toString revision]
  createdAt := createdAt
  scopeId := scopeId
  classification := "operator"
  retentionPolicyId := "retain"
  expiresAt := none
  epistemicKind := "source"
  text := "text"
  contentSha256 := "digest"
  recordSha256 := "digest"

end PhiOS
