import PhiOS.Analysis.IndexedMemories
import PhiOS.Analysis.MemoryReplays

/-!
# The revisions of a memory

Whatever is called, the stored revisions of a record are 1, 2, … up to its head, each in one row that
never changes, and an operation is on file once. With a tombstone a record is over: no call adds a
revision to it, and no call reads it.
-/

set_option autoImplicit false

namespace PhiOS

open KeyOrder

namespace MemoryState

variable {rt : MemoryRuntime} {state state' : MemoryState} {id : String}

/-- The stored revisions of a record, in the order of their rows. -/
def versionsOf (state : MemoryState) (id : String) : List MemoryRecord :=
  state.records.filter (·.recordId = id)

/-- The revision of a record's head, zero where it has none. -/
def headRevision (state : MemoryState) (id : String) : ℕ :=
  ((state.heads.get? id).map (·.revision)).getD 0

/-- The revisions are numbered up to the heads, and the operations are on file once. -/
structure Orderly (state : MemoryState) : Prop where
  numbered : ∀ id, (state.versionsOf id).map (·.revision) = List.range' 1 (state.headRevision id)
  filedOnce : (state.outbox.map (·.operationId)).Nodup

/-- No call reads the record, at any time. -/
structure Unreadable (rt : MemoryRuntime) (state : MemoryState) (id : String) : Prop where
  get : ∀ now, state.get rt id now = .ok none
  current : ∀ revision sha256 now, state.getCurrentVersion rt id revision sha256 now = .ok none
  indexable : ∀ revision now, state.getIndexableRecord rt id revision now = .ok none
  listed : ∀ scopes classifications now,
    ∀ version ∈ state.listEligibleVersions rt scopes classifications now, version.1 ≠ id

/-! ## One call -/

theorem enqueueReindex_keeps (state : MemoryState) (scopes classifications : List String) (now : ℤ) :
    (state.enqueueReindex rt scopes classifications now).2.records = state.records ∧
      (state.enqueueReindex rt scopes classifications now).2.heads = state.heads := by
  unfold enqueueReindex
  dsimp only
  generalize state.listEligibleVersions rt scopes classifications now = versions
  induction versions generalizing state with
  | nil => exact ⟨rfl, rfl⟩
  | cons version versions ih =>
      have hrest := ih (state.insertWork version.1 version.2.1 .upsert)
      rw [List.foldl_cons]
      exact hrest

/-- What a call does to the rows: it leaves them, and the revisions of the heads, or it adds
the next revision of a record without a tombstone.
SOURCE: memory/store.py:111-233, 440-475 -/
theorem StoreStep.rows (h : StoreStep rt state state') :
    (state'.records = state.records ∧ ∀ id, state'.headRevision id = state.headRevision id) ∨
      ∃ record : MemoryRecord, state.tombstones.get? record.recordId = none ∧
        record.revision = state.headRevision record.recordId + 1 ∧
        state'.records = state.records ++ [record] ∧
        state'.heads = state.heads.set record.recordId ⟨record.revision, false⟩ := by
  have hsame : state'.records = state.records → state'.heads = state.heads →
      state'.records = state.records ∧ ∀ id, state'.headRevision id = state.headRevision id := by
    intro hrecords hheads
    refine ⟨hrecords, ?_⟩
    intro id
    unfold headRevision
    rw [hheads]
  cases h with
  | @put _ record _ _ _ _ h =>
      rcases putPending_eq_ok.mp h with ⟨-, -, rfl⟩ | ⟨-, hadmits, -, rfl⟩
      · exact .inl (hsame rfl rfl)
      · have hnext : record.revision = state.headRevision record.recordId + 1 := by
          rw [hadmits.next]
          unfold expectedRevision headRevision
          cases state.heads.get? record.recordId with
          | none => rfl
          | some head => rfl
        exact .inr ⟨record, hadmits.alive, hnext, records_insertRevision, heads_insertRevision⟩
  | recordReceipt h =>
      rcases recordOperationReceipt_eq_ok.mp h with ⟨-, -, rfl⟩ | ⟨-, -, rfl⟩
      · exact .inl (hsame rfl rfl)
      · exact .inl (hsame rfl rfl)
  | publish h =>
      obtain ⟨-, -, version, -, -, -, hstate⟩ := markReceiptPublished_eq_ok.mp h
      left
      rw [hstate]
      cases version with
      | none => exact ⟨rfl, fun _ => rfl⟩
      | some version =>
          refine ⟨records_publishHead, ?_⟩
          intro id
          unfold headRevision
          exact congrArg (·.getD 0) revision_publishHead
  | delete h =>
      rcases delete_eq_ok.mp h with ⟨-, -, rfl⟩ | ⟨-, -, head, -, rfl⟩
      · exact .inl (hsame rfl rfl)
      · exact .inl (hsame records_insertRemoval heads_insertRemoval)
  | indexed h =>
      rw [markIndexWorkDone_eq_ok h]
      exact .inl ⟨rfl, fun _ => rfl⟩
  | reindex scopes classifications now =>
      obtain ⟨hrecords, hheads⟩ := @enqueueReindex_keeps rt state scopes classifications now
      exact .inl (hsame hrecords hheads)

theorem outbox_marked {operationId : String}
    (h : state.markReceiptPublished rt operationId = .ok state') :
    state'.outbox = (state.publishRow operationId).outbox := by
  obtain ⟨-, -, version, -, -, -, hstate⟩ := markReceiptPublished_eq_ok.mp h
  rw [hstate]
  cases version with
  | none => rfl
  | some version => exact outbox_publishHead

/-- What a call does to the names in the outbox: they stay, or a new one is added.
SOURCE: memory/store.py:111-233, 440-475 -/
theorem StoreStep.operations (h : StoreStep rt state state') :
    state'.outbox.map (·.operationId) = state.outbox.map (·.operationId) ∨
      ∃ operationId, state.outboxRow operationId = none ∧
        state'.outbox.map (·.operationId) = state.outbox.map (·.operationId) ++ [operationId] := by
  cases h with
  | @put _ _ operationId _ _ _ h =>
      rcases putPending_eq_ok.mp h with ⟨-, -, rfl⟩ | ⟨hnew, -, -, rfl⟩
      · exact .inl rfl
      · exact .inr ⟨operationId, hnew, by simp⟩
  | @recordReceipt _ operationId _ _ _ h =>
      rcases recordOperationReceipt_eq_ok.mp h with ⟨-, -, rfl⟩ | ⟨hnew, -, rfl⟩
      · exact .inl rfl
      · exact .inr ⟨operationId, hnew, by simp [insertReceipt]⟩
  | @publish _ operationId h =>
      left
      rw [outbox_marked h]
      unfold publishRow
      rw [List.map_map]
      apply List.map_congr_left
      intro row _
      simp only [Function.comp_apply]
      split <;> rfl
  | @delete _ _ operationId _ _ _ _ h =>
      rcases delete_eq_ok.mp h with ⟨-, -, rfl⟩ | ⟨hnew, -, head, -, rfl⟩
      · exact .inl rfl
      · exact .inr ⟨operationId, hnew, by simp⟩
  | indexed h =>
      rw [markIndexWorkDone_eq_ok h]
      exact .inl rfl
  | reindex scopes classifications now =>
      rw [(enqueueReindex_rows state scopes classifications now).1]
      exact .inl rfl

/-- A call keeps the order. -/
theorem Orderly.step (h : Orderly state) (hstep : StoreStep rt state state') : Orderly state' where
  numbered := by
    intro id
    rcases hstep.rows with ⟨hrecords, hheads⟩ | ⟨record, -, hnext, hrecords, hheads⟩
    · unfold versionsOf
      rw [hrecords, hheads id]
      exact h.numbered id
    · have hbefore := h.numbered id
      unfold versionsOf headRevision at hbefore ⊢
      rw [hrecords, hheads, Dict.get?_set, List.filter_append, List.map_append, hbefore]
      by_cases hid : record.recordId = id
      · subst hid
        unfold headRevision at hnext
        simp [hnext, List.range'_1_concat, Nat.add_comm 1]
      · simp [hid, Ne.symm hid]
  filedOnce := by
    rcases hstep.operations with hsame | ⟨operationId, hnew, hadded⟩
    · rw [hsame]
      exact h.filedOnce
    · rw [hadded]
      refine List.Nodup.append h.filedOnce (List.nodup_singleton _) ?_
      intro name hname hlast
      obtain ⟨row, hrow, hid⟩ := List.mem_map.mp hname
      unfold outboxRow at hnew
      have hother := List.find?_eq_none.mp hnew row hrow
      rw [List.mem_singleton.mp hlast] at hid
      simp [hid] at hother

theorem orderly_of_later (h : Later rt .empty state) : Orderly state := by
  induction h with
  | refl => exact ⟨fun _ => rfl, List.nodup_nil⟩
  | tail _ hstep ih => exact ih.step hstep

/-! ## What never changes -/

theorem versionsOf_later (hlater : Later rt state state') (id : String) :
    state.versionsOf id <+: state'.versionsOf id := by
  induction hlater with
  | refl => exact List.prefix_rfl
  | tail _ hstep ih =>
      apply ih.trans
      unfold versionsOf
      rcases hstep.rows with ⟨hrecords, -⟩ | ⟨record, -, -, hrecords, -⟩
      · exact ⟨[], by rw [hrecords, List.append_nil]⟩
      · rw [hrecords, List.filter_append]
        exact List.prefix_append _ _

theorem versionsOf_buried (h : (state.tombstones.get? id).isSome = true)
    (hlater : Later rt state state') : state'.versionsOf id = state.versionsOf id := by
  induction hlater with
  | refl => rfl
  | tail hbefore hstep ih =>
      have hburied := tombstone_later h hbefore
      rw [← ih]
      unfold versionsOf
      rcases hstep.rows with ⟨hrecords, -⟩ | ⟨record, halive, -, hrecords, -⟩
      · rw [hrecords]
      · have hother : record.recordId ≠ id := by
          intro hid
          rw [← hid, halive] at hburied
          cases hburied
        simp [hrecords, List.filter_append, hother]

/-- A record with a tombstone is not read.
SOURCE: memory/store.py:235-384 -/
theorem unreadable_of_buried (h : (state.tombstones.get? id).isSome = true) :
    Unreadable rt state id := by
  have hnone : state.readableHead id = none := by
    cases hhead : state.readableHead id with
    | none => rfl
    | some record =>
        obtain ⟨-, -, halive, -⟩ := readableHead_eq_some.mp hhead
        rw [halive] at h
        cases h
  refine ⟨?_, ?_, ?_, ?_⟩
  · intro now
    unfold MemoryState.get
    rw [hnone]
    rfl
  · intro revision sha256 now
    unfold getCurrentVersion
    rw [hnone]
    rfl
  · intro revision now
    unfold getIndexableRecord
    rw [hnone]
    rfl
  · intro scopes classifications now version hversion hid
    unfold listEligibleVersions at hversion
    obtain ⟨record, hrecord, hlisted⟩ := List.mem_filterMap.mp hversion
    obtain ⟨head, -, hread⟩ := List.mem_filterMap.mp hrecord
    obtain ⟨_, -, halive, -, hrow⟩ := readableHead_eq_some.mp hread
    have hkey := (key_of_row hrow).1
    split at hlisted
    · have hname : record.recordId = version.1 := by rw [← Option.some.inj hlisted]
      rw [← hkey, hname, hid] at halive
      rw [halive] at h
      cases h
    · cases hlisted

end MemoryState

end PhiOS
