import PhiOS.Analysis.MemoryPuts
import PhiOS.Model.CanonicalJson
import PhiOS.Model.MemoryCalls

/-!
# What the retrieval index misses

`IndexBase` is what every run of the memory service keeps: a record whose removal is done is not in
the index. `Covered` is what a run keeps that never consumes the work of an unpublished head: the
head of a memory is in the index, or waits to be put there, or has expired.
-/

set_option autoImplicit false

namespace PhiOS

open Interaction KeyOrder

/-! ## Records that are live -/

section Live

variable {rt : MemoryRuntime} {state : MemoryState} {record : MemoryRecord} {id : String}

theorem MemoryRecord.expiredAt_mono {t t' : ℤ} (h : record.expiredAt rt t = .ok true)
    (hle : t ≤ t') : record.expiredAt rt t' = .ok true := by
  unfold expiredAt at h ⊢
  split at h
  · cases h
  · cases h
  · obtain ⟨instant, hinstant, h⟩ := bind_eq_ok.mp h
    have hbefore : instant ≤ t := by simpa [pure, Except.pure] using h
    have hlater : instant ≤ t' := hbefore.trans hle
    refine bind_eq_ok.mpr ⟨instant, hinstant, ?_⟩
    simpa [pure, Except.pure] using hlater

theorem MemoryRecord.expired_of_liveAt {t : ℤ} (h : record.liveAt rt t = .ok none) :
    record.expiredAt rt t = .ok true := by
  unfold liveAt at h
  obtain ⟨expired, hexpired, h⟩ := bind_eq_ok.mp h
  cases expired with
  | true => exact hexpired
  | false =>
      obtain ⟨record', -, h⟩ := bind_eq_ok.mp h
      simp [pure, Except.pure] at h

theorem MemoryRecord.eq_of_liveAt {t : ℤ} {record' : MemoryRecord}
    (h : record.liveAt rt t = .ok (some record')) : record' = record := by
  unfold liveAt at h
  obtain ⟨expired, -, h⟩ := bind_eq_ok.mp h
  split at h
  · simp [pure, Except.pure] at h
  · obtain ⟨record'', hrecord, h⟩ := bind_eq_ok.mp h
    have heq := MemoryRecord.eq_of_fromPayload hrecord
    rw [← heq]
    exact (Option.some.inj (Except.ok.inj h)).symm

namespace MemoryState

theorem key_of_row {revision : ℕ} (h : state.row id revision = some record) :
    record.recordId = id ∧ record.revision = revision := by
  unfold row at h
  simpa using List.find?_some h

theorem readableHead_eq_some :
    state.readableHead id = some record ↔ ∃ head, state.heads.get? id = some head ∧
      state.tombstones.get? id = none ∧ head.published = true ∧
      state.row id head.revision = some record := by
  unfold readableHead
  split
  · rename_i head hhead htombstone
    simp [hhead, htombstone]
  · rename_i hneither
    constructor
    · intro h
      cases h
    · rintro ⟨head, hhead, htombstone, -⟩
      exact absurd htombstone (hneither head hhead)

theorem getIndexableRecord_some {revision : ℕ} {t : ℤ}
    (h : state.getIndexableRecord rt id revision t = .ok (some record)) :
    state.readableHead id = some record ∧ record.revision = revision := by
  unfold getIndexableRecord liveRecord at h
  split at h
  · cases h
  · rename_i found hfound
    have heq := MemoryRecord.eq_of_liveAt h
    rw [heq]
    simpa [Option.filter_eq_some_iff] using hfound

/-- There is no indexable record where the readable head has another revision or has
expired. -/
theorem getIndexableRecord_none {revision : ℕ} {t : ℤ}
    (h : state.getIndexableRecord rt id revision t = .ok none)
    (hhead : state.readableHead id = some record) (hrevision : record.revision = revision) :
    record.expiredAt rt t = .ok true := by
  unfold getIndexableRecord liveRecord at h
  rw [hhead] at h
  have hfilter : (some record).filter (fun r : MemoryRecord => decide (r.revision = revision)) =
      some record := by
    simp [hrevision]
  rw [hfilter] at h
  exact MemoryRecord.expired_of_liveAt h

end MemoryState

end Live

/-! ## The invariants -/

/-- A record's revision is in the index. -/
def IndexedIn (index : List IndexEntry) (record : MemoryRecord) : Prop :=
  ∃ entry ∈ index, entry.recordId = record.recordId ∧ entry.revision = record.revision ∧
    entry.recordSha256 = record.recordSha256

/-- The work of indexing a revision is pending. -/
def PendingIn (state : MemoryState) (record : MemoryRecord) : Prop :=
  ∃ work ∈ state.indexWork, work.recordId = record.recordId ∧ work.revision = record.revision ∧
    work.action = .upsert ∧ work.done = false

/-- No record whose removal is done is in the index. -/
def RemovedStayOut (w : MemoryWorld) : Prop :=
  ∀ id, (w.store.tombstones.get? id).isSome = true →
    (∃ work ∈ w.store.indexWork, work.recordId = id ∧ work.action = .remove ∧ work.done = true) →
    ∀ entry ∈ w.index, entry.recordId ≠ id

/-- Every live memory is in the index or waits to be put there. -/
def NeverMissed (rt : MemoryRuntime) (w : MemoryWorld) : Prop :=
  ∀ id record, w.store.readableHead id = some record →
    record.expiredAt rt w.clock ≠ .ok true →
    IndexedIn w.index record ∨ PendingIn w.store record

/-- What every run keeps of the queue and the index. -/
structure IndexBase (w : MemoryWorld) : Prop where
  numbered : w.store.indexWork.map (·.workId) = List.range' 1 w.store.indexWork.length
  buried : ∀ work ∈ w.store.indexWork, work.action = .remove →
    (w.store.tombstones.get? work.recordId).isSome = true
  filed : ∀ e ∈ w.store.tombstones.entries, (w.store.outboxRow e.2.operationId).isSome = true
  gone : ∀ work ∈ w.store.indexWork, work.action = .remove → work.done = true →
    ∀ entry ∈ w.index, entry.recordId ≠ work.recordId

/-- The head of every memory that was not deleted is in the index, or its work is pending, or it has
expired. -/
def Covered (rt : MemoryRuntime) (w : MemoryWorld) : Prop :=
  ∀ id head record, w.store.heads.get? id = some head → w.store.tombstones.get? id = none →
    w.store.row id head.revision = some record →
    IndexedIn w.index record ∨ PendingIn w.store record ∨ record.expiredAt rt w.clock = .ok true

/-- Both, the second where it is asked for. -/
structure IndexInvariant (rt : MemoryRuntime) (strict : Prop) (w : MemoryWorld) : Prop where
  base : IndexBase w
  covered : strict → Covered rt w

variable {rt : MemoryRuntime} {strict : Prop} {w w' : MemoryWorld}

theorem IndexInvariant.removedStayOut (h : IndexInvariant rt strict w) : RemovedStayOut w := by
  rintro id - ⟨work, hwork, hid, haction, hdone⟩ entry hentry
  rw [← hid]
  exact h.base.gone work hwork haction hdone entry hentry

theorem IndexInvariant.neverMissed (h : IndexInvariant rt strict w) (hstrict : strict) :
    NeverMissed rt w := by
  intro id record hreadable hlive
  obtain ⟨head, hhead, htombstone, -, hrow⟩ := MemoryState.readableHead_eq_some.mp hreadable
  rcases h.covered hstrict id head record hhead htombstone hrow with hindexed | hpending | hexpired
  · exact .inl hindexed
  · exact .inr hpending
  · exact absurd hexpired hlive

/-! ## The writing calls -/

theorem PendingIn.append {state state' : MemoryState} {record : MemoryRecord} {work : IndexWork}
    (h : PendingIn state record) (hwork : state'.indexWork = state.indexWork ++ [work]) :
    PendingIn state' record := by
  obtain ⟨found, hmem, hfound⟩ := h
  refine ⟨found, ?_, hfound⟩
  rw [hwork]
  exact List.mem_append_left _ hmem

theorem numbered_append {works : List IndexWork} {work : IndexWork}
    (h : works.map (·.workId) = List.range' 1 works.length) (hid : work.workId = works.length + 1) :
    (works ++ [work]).map (·.workId) = List.range' 1 (works ++ [work]).length := by
  have hlast : 1 + works.length = works.length + 1 := by omega
  simp [h, hid, List.range'_1_concat, hlast]

/-- Storing a revision keeps the invariants: its work is pending. -/
theorem IndexInvariant.insertRevision (h : IndexInvariant rt strict w) (record : MemoryRecord)
    (operationId requestSha256 : String) (receiptJson : ReceiptText) :
    IndexInvariant rt strict { w with
      store := w.store.insertRevision record operationId requestSha256 receiptJson } where
  base := by
    refine ⟨?_, ?_, ?_, ?_⟩
    · exact numbered_append h.base.numbered rfl
    · intro work hwork haction
      rcases List.mem_append.mp hwork with hold | hnew
      · exact h.base.buried work hold haction
      · rw [List.mem_singleton.mp hnew] at haction
        cases haction
    · intro e he
      exact MemoryState.outboxRow_append (h.base.filed e he)
    · intro work hwork haction hdone
      rcases List.mem_append.mp hwork with hold | hnew
      · exact h.base.gone work hold haction hdone
      · rw [List.mem_singleton.mp hnew] at haction
        cases haction
  covered := by
    intro hstrict id head found hhead htombstone hrow
    dsimp only at hhead htombstone hrow ⊢
    rw [MemoryState.heads_insertRevision, Dict.get?_set] at hhead
    split at hhead
    · rename_i hid
      have hkey := MemoryState.key_of_row hrow
      have hrevision : head.revision = record.revision := by rw [← Option.some.inj hhead]
      refine .inr (.inl ⟨_, List.mem_append_right _ (List.mem_singleton.mpr rfl), ?_, ?_, rfl, rfl⟩)
      · exact hid.symm.trans hkey.1.symm
      · exact hrevision.symm.trans hkey.2.symm
    · rename_i hid
      rw [MemoryState.row_insertRevision_of_ne (Ne.symm hid)] at hrow
      rcases h.covered hstrict id head found hhead htombstone hrow with hindexed | hpending | hgone
      · exact .inl hindexed
      · exact .inr (.inl (hpending.append (MemoryState.indexWork_insertRevision)))
      · exact .inr (.inr hgone)

/-- A delete buries the record, for its operation is new. -/
theorem IndexBase.tombstone (h : IndexBase w) {recordId operationId deletedAt : String}
    (hnew : w.store.outboxRow operationId = none) :
    ((w.store.insertTombstone recordId deletedAt operationId).tombstones.get? recordId).isSome =
      true := by
  have hunused : w.store.tombstones.entries.any (·.2.operationId = operationId) = false := by
    rw [List.any_eq_false]
    intro e he hsame
    have hfiled := h.filed e he
    rw [of_decide_eq_true hsame, hnew] at hfiled
    cases hfiled
  unfold MemoryState.insertTombstone
  split
  · rename_i hthere
    rcases hthere with hburied | hused
    · exact hburied
    · rw [hunused] at hused
      cases hused
  · rw [Dict.get?_set, if_pos rfl]
    rfl

theorem mem_insertTombstone {state : MemoryState} {recordId operationId deletedAt : String}
    {e : String × Tombstone}
    (he : e ∈ (state.insertTombstone recordId deletedAt operationId).tombstones.entries) :
    e ∈ state.tombstones.entries ∨ e.2.operationId = operationId := by
  unfold MemoryState.insertTombstone at he
  split at he
  · exact .inl he
  · rcases mem_insertEntry he with hnew | hold
    · right
      rw [hnew]
    · exact .inl hold

/-- Deleting a record keeps the invariants. -/
theorem IndexInvariant.insertRemoval (h : IndexInvariant rt strict w)
    {recordId operationId deletedAt requestSha256 : String} {receiptJson : ReceiptText}
    (head : HeadRow) (hnew : w.store.outboxRow operationId = none) (clock : ℤ)
    (hclock : strict → w.clock ≤ clock) :
    IndexInvariant rt strict { w with
      store := w.store.insertRemoval recordId operationId deletedAt requestSha256 receiptJson head
      clock } where
  base := by
    refine ⟨?_, ?_, ?_, ?_⟩
    · dsimp only
      rw [MemoryState.indexWork_insertRemoval]
      exact numbered_append h.base.numbered rfl
    · intro work hwork haction
      dsimp only at hwork ⊢
      rw [MemoryState.indexWork_insertRemoval] at hwork
      rw [MemoryState.tombstones_insertRemoval]
      rcases List.mem_append.mp hwork with hold | hlast
      · exact MemoryState.tombstones_insertTombstone (h.base.buried work hold haction) _ _ _
      · rw [List.mem_singleton.mp hlast]
        exact h.base.tombstone hnew
    · intro e he
      dsimp only at he ⊢
      rw [MemoryState.tombstones_insertRemoval] at he
      unfold MemoryState.outboxRow
      rw [MemoryState.outbox_insertRemoval]
      rcases mem_insertTombstone he with hold | hsame
      · exact MemoryState.outboxRow_append (h.base.filed e hold)
      · simp only [List.find?_isSome]
        refine ⟨_, List.mem_append_right _ (List.mem_singleton.mpr rfl), ?_⟩
        simp [hsame]
    · intro work hwork haction hdone
      dsimp only at hwork ⊢
      rw [MemoryState.indexWork_insertRemoval] at hwork
      rcases List.mem_append.mp hwork with hold | hlast
      · exact h.base.gone work hold haction hdone
      · rw [List.mem_singleton.mp hlast] at hdone
        cases hdone
  covered := by
    intro hstrict id found record hhead htombstone hrow
    dsimp only at hhead htombstone hrow ⊢
    rw [MemoryState.heads_insertRemoval] at hhead
    rw [MemoryState.tombstones_insertRemoval] at htombstone
    have hbefore : w.store.tombstones.get? id = none := by
      cases hget : w.store.tombstones.get? id with
      | none => rfl
      | some tombstone =>
          have hsome : (w.store.tombstones.get? id).isSome = true := by rw [hget]; rfl
          have hkept := MemoryState.tombstones_insertTombstone hsome recordId deletedAt operationId
          rw [htombstone] at hkept
          cases hkept
    have hrow' : w.store.row id found.revision = some record := by
      unfold MemoryState.row at hrow ⊢
      rw [MemoryState.records_insertRemoval] at hrow
      exact hrow
    rcases h.covered hstrict id found record hhead hbefore hrow' with hindexed | hpending | hgone
    · exact .inl hindexed
    · exact .inr (.inl (hpending.append MemoryState.indexWork_insertRemoval))
    · exact .inr (.inr (MemoryRecord.expiredAt_mono hgone (hclock hstrict)))

/-! ## Transactions -/

/-- A transaction that only reads. -/
theorem transaction_read {α : Type} {x : Except PyError α} {store : MemoryState}
    {reply : Except PyError α}
    (h : Transaction ((·, store) <$> x) { w with store } reply w') :
    w' = { w with store } ∧ ∀ a, reply = .ok a → x = .ok a := by
  cases reply with
  | error e =>
      refine ⟨h, ?_⟩
      intro a ha
      cases ha
  | ok a =>
      obtain ⟨store', hstore, hw⟩ := h
      cases x with
      | error e => simp [Functor.map, Except.map] at hstore
      | ok b =>
          have hboth : b = a ∧ store = store' := by
            simpa [Functor.map, Except.map] using hstore
          refine ⟨?_, ?_⟩
          · rw [hw, ← hboth.2]
          · intro c hc
            rw [hboth.1, Except.ok.inj hc]

theorem transaction_write {x : Except PyError MemoryState} {reply : Except PyError Unit}
    (h : Transaction (((), ·) <$> x) w reply w') :
    (∃ e, reply = .error e ∧ w' = w) ∨
      ∃ store, reply = .ok () ∧ x = .ok store ∧ w' = { w with store } := by
  cases reply with
  | error e => exact .inl ⟨e, rfl, h⟩
  | ok u =>
      obtain ⟨store, hstore, hw⟩ := h
      cases x with
      | error e => simp [Functor.map, Except.map] at hstore
      | ok store' =>
          have hsame : store' = store := by simpa [Functor.map, Except.map] using hstore
          exact .inr ⟨store, rfl, by rw [hsame], hw⟩

/-! ## Publishing -/

/-- Marking a receipt as published keeps the invariants: no head changes its revision. -/
theorem IndexInvariant.mark (h : IndexInvariant rt strict w) {operationId : String}
    {state' : MemoryState} (hmark : w.store.markReceiptPublished rt operationId = .ok state') :
    IndexInvariant rt strict { w with store := state' } := by
  obtain ⟨row, payload, version, -, -, -, hstate⟩ :=
    MemoryState.markReceiptPublished_eq_ok.mp hmark
  have hrecords : state'.records = w.store.records := by
    rw [hstate]
    cases version with
    | none => rfl
    | some version => exact MemoryState.records_publishHead
  have htombstones : state'.tombstones = w.store.tombstones := by
    rw [hstate]
    cases version with
    | none => rfl
    | some version => exact MemoryState.tombstones_publishHead
  have hwork : state'.indexWork = w.store.indexWork := by
    rw [hstate]
    cases version with
    | none => rfl
    | some version => exact MemoryState.indexWork_publishHead
  have houtbox : state'.outbox = (w.store.publishRow operationId).outbox := by
    rw [hstate]
    cases version with
    | none => rfl
    | some version => exact MemoryState.outbox_publishHead
  have hrevision : ∀ id, (state'.heads.get? id).map (·.revision) =
      (w.store.heads.get? id).map (·.revision) := by
    intro id
    rw [hstate]
    cases version with
    | none => rfl
    | some version => exact MemoryState.revision_publishHead
  refine ⟨⟨?_, ?_, ?_, ?_⟩, ?_⟩
  · dsimp only
    rw [hwork]
    exact h.base.numbered
  · intro work hmem haction
    dsimp only at hmem ⊢
    rw [hwork] at hmem
    rw [htombstones]
    exact h.base.buried work hmem haction
  · intro e he
    dsimp only at he ⊢
    rw [htombstones] at he
    have hfiled := h.base.filed e he
    unfold MemoryState.outboxRow at hfiled ⊢
    rw [houtbox]
    simp only [List.find?_isSome] at hfiled ⊢
    obtain ⟨found, hfound, hid⟩ := hfiled
    refine ⟨_, List.mem_map.mpr ⟨found, hfound, rfl⟩, ?_⟩
    split
    · exact hid
    · exact hid
  · intro work hmem haction hdone
    dsimp only at hmem ⊢
    rw [hwork] at hmem
    exact h.base.gone work hmem haction hdone
  · intro hstrict id head record hhead htombstone hrow
    dsimp only at hhead htombstone hrow ⊢
    have hsame := hrevision id
    rw [hhead] at hsame
    obtain ⟨before, hbefore, hrev⟩ := Option.map_eq_some_iff.mp hsame.symm
    rw [htombstones] at htombstone
    have hrow' : w.store.row id before.revision = some record := by
      rw [hrev]
      unfold MemoryState.row at hrow ⊢
      rw [hrecords] at hrow
      exact hrow
    have hcovered := h.covered hstrict id before record hbefore htombstone hrow'
    unfold PendingIn at hcovered ⊢
    rw [hwork]
    exact hcovered

section Triples

variable {ticks : ℤ → ℤ → Prop}

/-- Publishing keeps the invariants at every point, however it is cut short. -/
theorem publishLoop_holds (h : IndexInvariant rt strict w) (published : ℕ) (payloads : List Json) :
    (publishLoop rt published payloads).Holds (MemoryOp.effect rt ticks)
      (IndexInvariant rt strict) (fun _ _ => True) (fun _ _ => True) w := by
  induction payloads generalizing w published with
  | nil => exact ⟨h, trivial⟩
  | cons payload payloads ih =>
      unfold publishLoop
      apply Prog.holds_ofExcept_bind h (fun _ _ => trivial)
      intro receipt _
      apply Prog.holds_call_bind h
      rintro appended w₁ ⟨ledger, -, rfl⟩
      have hledger : IndexInvariant rt strict { w with ledger } := ⟨⟨h.base.numbered,
        h.base.buried, h.base.filed, h.base.gone⟩, h.covered⟩
      apply Prog.holds_ofExcept_bind hledger (fun _ _ => trivial)
      intro _ _
      apply Prog.holds_call_bind hledger
      intro marked w₂ hmarked
      have hnext : IndexInvariant rt strict w₂ := by
        rcases transaction_write hmarked with ⟨e, -, hsame⟩ | ⟨store, -, hmark, hstore⟩
        · rw [hsame]
          exact hledger
        · rw [hstore]
          exact hledger.mark hmark
      apply Prog.holds_ofExcept_bind hnext (fun _ _ => trivial)
      intro _ _
      exact ih hnext (published + 1)

theorem publishPending_holds (h : IndexInvariant rt strict w) :
    (publishPending rt).Holds (MemoryOp.effect rt ticks) (IndexInvariant rt strict)
      (fun _ _ => True) (fun _ _ => True) w := by
  unfold publishPending
  apply Prog.holds_call_bind h
  intro pending w₁ hpending
  have hsame : w₁ = w := (transaction_read hpending).1
  rw [hsame]
  apply Prog.holds_ofExcept_bind h (fun _ _ => trivial)
  intro payloads _
  exact publishLoop_holds h 0 payloads

end Triples

end PhiOS
