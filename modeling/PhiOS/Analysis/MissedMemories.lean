import PhiOS.Analysis.IndexRuns
import PhiOS.Analysis.MemoryIsolation

/-!
# Memories that the index misses

A `put` queues the work of indexing its revision before the receipt is published, and `sync_index`
counts the work of an unpublished head as stale. What `sync_index` so consumes is not queued again
when the receipt is published: the memory is live, and not in the index. Where no `sync_index` meets
the work of an unpublished head, and the clock does not go back, no live memory is missed.
-/

set_option autoImplicit false

namespace PhiOS

open Interaction KeyOrder

variable {rt : MemoryRuntime} {ticks : ℤ → ℤ → Prop} {strict : Prop}
  {ok : MemoryWorld → Bool → SyncRequest → Prop} {w w' : MemoryWorld}

/-- The worlds that calls lead to from an empty store. `ticks` says how the clock may go on, and
`ok` which calls of `sync_index` are made in which worlds. -/
inductive MemoryRun (rt : MemoryRuntime) (ticks : ℤ → ℤ → Prop)
    (ok : MemoryWorld → Bool → SyncRequest → Prop) : MemoryWorld → Prop
  | start (ledger : List Row) (clock : ℤ) : MemoryRun rt ticks ok ⟨.empty, ledger, [], clock⟩
  | put {w : MemoryWorld} (h : MemoryRun rt ticks ok w) (service : GovernedMemoryService)
      (request : GovernedMemoryService.PutRequest) :
      MemoryRun rt ticks ok { w with store := service.afterPut rt w.store request }
  | publish {w w' : MemoryWorld} {t : List (Prog.Event MemoryOp.Reply)} {q : MemoryProg ℕ}
      (h : MemoryRun rt ticks ok w) (hsteps : Prog.Steps (publishPending rt) t q)
      (hcarries : Prog.Carries (MemoryOp.effect rt ticks) w t w') : MemoryRun rt ticks ok w'
  | delete {w : MemoryWorld} (h : MemoryRun rt ticks ok w) (service : GovernedMemoryService)
      (request : GovernedMemoryService.DeleteRequest) (hread : ticks w.clock request.readAt)
      (hdeleted : ticks request.readAt request.deletedAt)
      (hstamped : ticks request.deletedAt request.stampedAt) :
      MemoryRun rt ticks ok { w with
        store := service.afterDelete rt w.store request, clock := request.stampedAt }
  | sync {w w' : MemoryWorld} {t : List (Prog.Event MemoryOp.Reply)} {q : MemoryProg IndexSyncResult}
      {index : RetrievalIndex} {available : Bool} {request : SyncRequest}
      (h : MemoryRun rt ticks ok w) (hok : ok w available request)
      (hsteps : Prog.Steps (syncIndex rt index available request) t q)
      (hcarries : Prog.Carries (MemoryOp.effect rt ticks) w t w') : MemoryRun rt ticks ok w'

/-- A call of `sync_index` selects no work of the head of a memory that is not published yet. -/
def SparesUnpublished (w : MemoryWorld) (available : Bool) (request : SyncRequest) : Prop :=
  available = true → ∀ work ∈ w.store.pendingIndexWork request.limit, work.action = .upsert →
    ∀ head, w.store.heads.get? work.recordId = some head → head.revision = work.revision →
      w.store.tombstones.get? work.recordId = none → head.published = true

theorem mem_of_pendingIndexWork {state : MemoryState} {limit : ℤ} {work : IndexWork}
    (h : work ∈ state.pendingIndexWork limit) : work ∈ state.indexWork := by
  unfold MemoryState.pendingIndexWork at h
  exact (List.mem_filter.mp (List.mem_of_mem_take h)).1

theorem IndexBase.eq_of_workId (h : IndexBase w) {row row' : IndexWork}
    (hrow : row ∈ w.store.indexWork) (hrow' : row' ∈ w.store.indexWork)
    (hid : row.workId = row'.workId) : row = row' := by
  have hnodup : (w.store.indexWork.map (·.workId)).Nodup := by
    rw [h.numbered]
    exact List.nodup_range'
  exact List.inj_on_of_nodup_map hnodup hrow hrow' hid

theorem IndexInvariant.syncing (h : IndexInvariant rt strict w) (limit : ℤ) :
    Syncing rt strict w.store (w.store.pendingIndexWork limit) w where
  invariant := h
  records := rfl
  heads := rfl
  tombstones := rfl
  tracked := by
    intro work hwork row hrow hid
    rw [h.base.eq_of_workId hrow (mem_of_pendingIndexWork hwork) hid]
    exact ⟨rfl, rfl, rfl⟩

/-- `sync_index` keeps the invariants, however it is cut short.
SOURCE: memory/service.py:485-619 -/
theorem syncIndex_holds (h : IndexInvariant rt strict w)
    (hticks : strict → ∀ t t', ticks t t' → t ≤ t') (index : RetrievalIndex) (available : Bool)
    (request : SyncRequest) (hok : strict → SparesUnpublished w available request) :
    (syncIndex rt index available request).Holds (MemoryOp.effect rt ticks)
      (IndexInvariant rt strict) (fun _ _ => True) (fun _ _ => True) w := by
  unfold syncIndex
  split
  · rename_i havailable
    apply Prog.holds_call_bind h
    intro pending w₁ hpending
    have hsame : w₁ = w ∧ ∀ works, pending = .ok works →
        works = w.store.pendingIndexWork request.limit := by
      cases pending with
      | error e =>
          refine ⟨hpending, ?_⟩
          intro works hworks
          cases hworks
      | ok works =>
          obtain ⟨store, hstore, hw⟩ := hpending
          obtain ⟨hworks, hstore⟩ := Prod.mk.inj (Except.ok.inj hstore)
          rw [← hstore] at hw
          refine ⟨hw, ?_⟩
          intro works' hworks'
          rw [hworks, Except.ok.inj hworks']
    rw [hsame.1]
    apply Prog.holds_ofExcept_bind h (fun _ _ => trivial)
    intro works hworks
    rw [hsame.2 works hworks]
    have hselected : Selected strict w.store (w.store.pendingIndexWork request.limit) := by
      refine ⟨?_, ?_⟩
      · intro work hwork haction
        exact h.base.buried work (mem_of_pendingIndexWork hwork) haction
      · intro hstrict
        exact hok hstrict havailable
    have hloop := syncLoop_holds hticks hselected index request _ (fun _ hwork => hwork)
      { status := "ok" } (h.syncing request.limit)
    exact hloop.mono (fun _ hcut => hcut.invariant) (fun _ _ hpost => hpost)
      (fun _ _ hexn => hexn)
  · exact ⟨h, trivial⟩

/-- The invariants hold in every world that calls lead to. -/
theorem MemoryRun.invariant (h : MemoryRun rt ticks ok w)
    (hticks : strict → ∀ t t', ticks t t' → t ≤ t')
    (hok : strict → ∀ w available request, ok w available request →
      SparesUnpublished w available request) : IndexInvariant rt strict w := by
  induction h with
  | start ledger clock =>
      refine ⟨⟨rfl, ?_, ?_, ?_⟩, ?_⟩
      · intro work hwork
        cases hwork
      · intro e he
        cases he
      · intro work hwork
        cases hwork
      · intro _ id head record hhead
        cases hhead
  | put _ service request ih =>
      rcases GovernedMemoryService.afterPut_cases rt service _ request with hsame | ⟨gate, hstores⟩
      · rw [hsame]
        exact ih
      · obtain ⟨decision, -, -, -, -, hafter⟩ := GovernedMemoryService.stores_iff.mp hstores
        rw [hafter]
        exact ih.insertRevision _ _ _ _
  | publish _ hsteps hcarries ih =>
      exact ((publishPending_holds ih).sound hsteps hcarries).start
  | @delete w₀ _ service request hread hdeleted hstamped ih =>
      have hclock : strict → w₀.clock ≤ request.stampedAt := by
        intro hstrict
        have h₁ := hticks hstrict _ _ hread
        have h₂ := hticks hstrict _ _ hdeleted
        have h₃ := hticks hstrict _ _ hstamped
        omega
      rcases GovernedMemoryService.afterDelete_cases rt service _ request with
        hsame | ⟨deletedAt, requestSha256, receiptJson, head, hnew, -, hafter⟩
      · rw [hsame]
        exact (ih.syncing 0).tick hclock |>.invariant
      · rw [hafter]
        exact ih.insertRemoval head hnew request.stampedAt hclock
  | sync _ hcall hsteps hcarries ih =>
      have hspares := fun hstrict => hok hstrict _ _ _ hcall
      exact ((syncIndex_holds ih hticks _ _ _ hspares).sound hsteps hcarries).start

/-- MAIN: **What the index never misses.** No record whose removal is done is in the index, in any
run. In a run in which no call of `sync_index` selects the work of an unpublished head, and the
clock does not go back, every live memory is in the index or waits to be put there. -/
theorem index_never_misses (rt : MemoryRuntime) :
    (∀ ticks ok w, MemoryRun rt ticks ok w → RemovedStayOut w) ∧
      ∀ w, MemoryRun rt (· ≤ ·) SparesUnpublished w → NeverMissed rt w := by
  constructor
  · intro ticks ok w hrun
    have hinvariant : IndexInvariant rt False w :=
      hrun.invariant (fun hfalse => hfalse.elim) (fun hfalse => hfalse.elim)
    exact hinvariant.removedStayOut
  · intro w hrun
    have hinvariant : IndexInvariant rt True w :=
      hrun.invariant (fun _ _ _ hle => hle) (fun _ _ _ _ hspares => hspares)
    exact hinvariant.neverMissed trivial

/-! ## A memory that is missed -/

/-- A transaction that the storage does not fail. -/
def transact {α : Type} (w : MemoryWorld) :
    Except PyError (α × MemoryState) → Except PyError α × MemoryWorld
  | .ok (a, store) => (.ok a, { w with store })
  | .error e => (.error e, w)

/-- The operations where nothing fails and the clock stands still. -/
def MemoryOp.act (rt : MemoryRuntime) (identity : EmbeddingIdentity) (w : MemoryWorld) :
    (o : MemoryOp) → o.Reply × MemoryWorld
  | .putPending record operationId requestSha256 receiptJson =>
      transact w (w.store.putPending record operationId requestSha256 receiptJson)
  | .recordOperationReceipt operationId requestSha256 receiptJson =>
      transact w (w.store.recordOperationReceipt operationId requestSha256 receiptJson)
  | .markReceiptPublished operationId =>
      transact w (((), ·) <$> w.store.markReceiptPublished rt operationId)
  | .delete recordId operationId deletedAt requestSha256 receiptJson =>
      transact w (w.store.delete recordId operationId deletedAt requestSha256 receiptJson)
  | .pendingReceipts => transact w ((·, w.store) <$> w.store.pendingReceipts)
  | .pendingIndexWork limit => transact w (.ok (w.store.pendingIndexWork limit, w.store))
  | .getIndexableRecord recordId revision =>
      transact w ((·, w.store) <$> w.store.getIndexableRecord rt recordId revision w.clock)
  | .markIndexWorkDone workId => transact w (((), ·) <$> w.store.markIndexWorkDone workId)
  | .ledgerAppend receipt =>
      if sameReceipt w.ledger receipt.receiptId = [] then
        (.ok true, { w with ledger := w.ledger ++ [ledgerRow receipt] })
      else (.error ⟨.valueError, "receipt identity is taken", []⟩, w)
  | .now => (w.clock, w)
  | .embed _ => (.ok [], w)
  | .embeddingIdentity => (.ok identity, w)
  | .upsert entry _ => (.ok (), { w with index := upsertEntry w.index entry })
  | .remove recordId => (.ok (), { w with index := removeEntries w.index recordId })

theorem transaction_transact {α : Type} (result : Except PyError (α × MemoryState)) :
    Transaction result w (transact w result).1 (transact w result).2 := by
  cases result with
  | ok done => exact ⟨done.2, rfl, rfl⟩
  | error e => exact rfl

/-- What the operations do here they may do. -/
theorem MemoryOp.effect_act (hticks : ∀ t, ticks t t) (identity : EmbeddingIdentity)
    (w : MemoryWorld) (o : MemoryOp) :
    MemoryOp.effect rt ticks w o (o.act rt identity w).1 (o.act rt identity w).2 := by
  cases o with
  | putPending record operationId requestSha256 receiptJson => exact transaction_transact _
  | recordOperationReceipt operationId requestSha256 receiptJson => exact transaction_transact _
  | markReceiptPublished operationId => exact transaction_transact _
  | delete recordId operationId deletedAt requestSha256 receiptJson => exact transaction_transact _
  | pendingReceipts => exact transaction_transact _
  | pendingIndexWork limit =>
      exact transaction_transact (.ok (w.store.pendingIndexWork limit, w.store))
  | getIndexableRecord recordId revision => exact ⟨w.clock, hticks _, transaction_transact _⟩
  | markIndexWorkDone workId => exact transaction_transact _
  | ledgerAppend receipt =>
      by_cases hnone : sameReceipt w.ledger receipt.receiptId = []
      · have hact : act rt identity w (.ledgerAppend receipt) =
            (.ok true, { w with ledger := w.ledger ++ [ledgerRow receipt] }) := if_pos hnone
        rw [hact]
        exact ⟨_, ⟨hnone, rfl⟩, rfl⟩
      · have hact : act rt identity w (.ledgerAppend receipt) =
            (.error ⟨.valueError, "receipt identity is taken", []⟩, w) := if_neg hnone
        rw [hact]
        exact ⟨_, .inl rfl, rfl⟩
  | now => exact ⟨hticks _, rfl⟩
  | embed text => exact rfl
  | embeddingIdentity => exact rfl
  | upsert entry identity' => exact rfl
  | remove recordId => exact rfl

/-- Publishing in a world, where nothing fails. -/
def MemoryWorld.published (rt : MemoryRuntime) (index : RetrievalIndex) (w : MemoryWorld) :
    MemoryWorld :=
  ((publishPending rt).run (fun w o => o.act rt index.embeddingIdentity w) w).2

/-- `sync_index` in a world, where nothing fails. -/
def MemoryWorld.synced (rt : MemoryRuntime) (index : RetrievalIndex) (w : MemoryWorld) :
    MemoryWorld :=
  ((syncIndex rt index true {}).run (fun w o => o.act rt index.embeddingIdentity w) w).2

theorem MemoryRun.published (h : MemoryRun rt ticks ok w) (hticks : ∀ t, ticks t t)
    (index : RetrievalIndex) : MemoryRun rt ticks ok (w.published rt index) := by
  obtain ⟨t, hsteps, hcarries⟩ := Prog.exists_steps_run
    (MemoryOp.effect_act hticks index.embeddingIdentity) (publishPending rt) w
  exact h.publish hsteps hcarries

theorem MemoryRun.synced (h : MemoryRun rt ticks ok w) (hticks : ∀ t, ticks t t)
    (index : RetrievalIndex) (hok : ok w true {}) : MemoryRun rt ticks ok (w.synced rt index) := by
  obtain ⟨t, hsteps, hcarries⟩ := Prog.exists_steps_run
    (MemoryOp.effect_act hticks index.embeddingIdentity) (syncIndex rt index true {}) w
  exact h.sync hok hsteps hcarries

/-- An index. -/
def plainIndex : RetrievalIndex where
  generationId := "generation"
  embeddingIdentity := ⟨"provider", "1", "model", "digest", 1, "text-v1", "l2"⟩

/-- Ann's memory. -/
def annsMemory : MemoryRecord := (GovernedMemoryService.plainPut "memory" 1 "ann" "op-1").record

/-- A world in which ann's memory was put and waits for its publication. -/
def putWorld : MemoryWorld where
  store := GovernedMemoryService.twoScopes.afterPut unaryMemoryRuntime .empty
    (GovernedMemoryService.plainPut "memory" 1 "ann" "op-1")
  ledger := []
  index := []
  clock := 5

theorem putWorld_run : MemoryRun unaryMemoryRuntime (· ≤ ·) ok putWorld :=
  (MemoryRun.start [] 5).put GovernedMemoryService.twoScopes _

/-- The world in which it was published. -/
def publishedWorld : MemoryWorld := putWorld.published unaryMemoryRuntime plainIndex

/-- The world in which `sync_index` was called before it was published. -/
def missedWorld : MemoryWorld :=
  (putWorld.synced unaryMemoryRuntime plainIndex).published unaryMemoryRuntime plainIndex

theorem worlds_run :
    (publishedWorld.store.heads.get? "memory" = some ⟨1, true⟩ ∧
      (publishedWorld.store.pendingIndexWork 100).all (·.recordId = "memory") = true) ∧
    (missedWorld.store.readableHead "memory" = some annsMemory ∧
      annsMemory.expiredAt unaryMemoryRuntime missedWorld.clock = .ok false ∧
      missedWorld.index = [] ∧ missedWorld.store.indexWork.all (·.done) = true) := by
  decide +kernel

/-- WITNESS: A memory that is published before `sync_index` is called is not missed. -/
theorem published_memory_not_missed :
    NeverMissed unaryMemoryRuntime (publishedWorld.synced unaryMemoryRuntime plainIndex) := by
  apply (index_never_misses unaryMemoryRuntime).2
  apply (putWorld_run.published (fun _ => le_refl _) plainIndex).synced (fun _ => le_refl _)
  intro _ work hwork _ head hhead _ _
  obtain ⟨hpublished, hall⟩ := worlds_run.1
  have hid : work.recordId = "memory" := of_decide_eq_true (List.all_eq_true.mp hall work hwork)
  have hheads : publishedWorld.store.heads.get? "memory" = some head := by
    rw [← hid]
    exact hhead
  rw [← Option.some.inj (hpublished.symm.trans hheads)]

/-- COUNTEREXAMPLE: A memory that `sync_index` meets before it is published is missed. -/
theorem unpublished_memory_missed :
    ∃ w, MemoryRun unaryMemoryRuntime (· ≤ ·) (fun _ _ _ => True) w ∧
      ¬ NeverMissed unaryMemoryRuntime w := by
  refine ⟨missedWorld, ?_, ?_⟩
  · exact (putWorld_run.synced (fun _ => le_refl _) plainIndex trivial).published
      (fun _ => le_refl _) plainIndex
  · intro h
    obtain ⟨hreadable, hlive, hindex, hdone⟩ := worlds_run.2
    have hnotExpired : annsMemory.expiredAt unaryMemoryRuntime missedWorld.clock ≠ .ok true := by
      rw [hlive]
      intro hfalse
      cases hfalse
    rcases h "memory" annsMemory hreadable hnotExpired with
      ⟨entry, hentry, -⟩ | ⟨work, hwork, -, -, -, hpending⟩
    · rw [hindex] at hentry
      cases hentry
    · have hworkDone := List.all_eq_true.mp hdone work hwork
      rw [hpending] at hworkDone
      cases hworkDone

end PhiOS
