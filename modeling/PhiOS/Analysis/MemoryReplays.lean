import PhiOS.Analysis.MemoryReconsolidation
import Mathlib.Logic.Relation

/-!
# Operations that are repeated

An operation that is on file is answered from the outbox, so that repeating it writes nothing. But
`put` and `delete` look at the head first: a repeated `delete` finds no memory to delete, and a
repeated `put` asks the horizon about the revision that it has stored itself, or a later one.
-/

set_option autoImplicit false

namespace PhiOS

open KeyOrder

/-! ## What stays on file -/

namespace MemoryState

variable {rt : MemoryRuntime} {state state' : MemoryState}

/-- A writing call to the store that succeeds. -/
inductive StoreStep (rt : MemoryRuntime) : MemoryState → MemoryState → Prop
  | put {state state' : MemoryState} {record : MemoryRecord} {operationId requestSha256 : String}
      {receiptJson : ReceiptText} {stored : Bool}
      (h : state.putPending record operationId requestSha256 receiptJson = .ok (stored, state')) :
      StoreStep rt state state'
  | recordReceipt {state state' : MemoryState} {operationId requestSha256 : String}
      {receiptJson : ReceiptText} {stored : Bool}
      (h : state.recordOperationReceipt operationId requestSha256 receiptJson =
        .ok (stored, state')) : StoreStep rt state state'
  | publish {state state' : MemoryState} {operationId : String}
      (h : state.markReceiptPublished rt operationId = .ok state') : StoreStep rt state state'
  | delete {state state' : MemoryState} {recordId operationId deletedAt requestSha256 : String}
      {receiptJson : ReceiptText} {stored : Bool}
      (h : state.delete recordId operationId deletedAt requestSha256 receiptJson =
        .ok (stored, state')) : StoreStep rt state state'
  | indexed {state state' : MemoryState} {workId : ℕ}
      (h : state.markIndexWorkDone workId = .ok state') : StoreStep rt state state'
  | reindex (state : MemoryState) (allowedScopes allowedClassifications : List String) (now : ℤ) :
      StoreStep rt state
        (state.enqueueReindex rt allowedScopes allowedClassifications now).2

/-- What a store becomes by later calls. -/
abbrev Later (rt : MemoryRuntime) : MemoryState → MemoryState → Prop :=
  Relation.ReflTransGen (StoreStep rt)

/-- A request is on file under an operation's name. -/
def OnFile (state : MemoryState) (operationId requestSha256 : String) : Prop :=
  ∃ row, state.outboxRow operationId = some row ∧ row.requestSha256 = requestSha256

/-- Every tombstone's operation is on file. -/
def TombstonesOnFile (state : MemoryState) : Prop :=
  ∀ id tombstone, state.tombstones.get? id = some tombstone →
    (state.outboxRow tombstone.operationId).isSome = true

theorem enqueueReindex_rows (state : MemoryState) (scopes classifications : List String)
    (now : ℤ) :
    (state.enqueueReindex rt scopes classifications now).2.outbox = state.outbox ∧
      (state.enqueueReindex rt scopes classifications now).2.tombstones = state.tombstones := by
  unfold enqueueReindex
  dsimp only
  generalize state.listEligibleVersions rt scopes classifications now = versions
  induction versions generalizing state with
  | nil => exact ⟨rfl, rfl⟩
  | cons version versions ih =>
      have hrest := ih (state.insertWork version.1 version.2.1 .upsert)
      rw [List.foldl_cons]
      exact hrest

theorem outboxRow_of_append {operationId : String} {row added : OutboxRow}
    (h : state.outboxRow operationId = some row)
    (houtbox : state'.outbox = state.outbox ++ [added]) :
    state'.outboxRow operationId = some row := by
  unfold outboxRow at h ⊢
  rw [houtbox, List.find?_append, h]
  rfl

theorem onFile_of_append {operationId requestSha256 : String} {receiptJson : ReceiptText}
    {published : Bool} (hnew : state.outboxRow operationId = none)
    (houtbox : state'.outbox =
      state.outbox ++ [⟨operationId, requestSha256, receiptJson, published⟩]) :
    OnFile state' operationId requestSha256 := by
  refine ⟨⟨operationId, requestSha256, receiptJson, published⟩, ?_, rfl⟩
  unfold outboxRow at hnew ⊢
  rw [houtbox, List.find?_append, hnew]
  simp

theorem outboxRow_publishRow (published operationId : String) :
    (state.publishRow published).outboxRow operationId =
      (state.outboxRow operationId).map fun row =>
        if row.operationId = published then { row with published := true } else row := by
  unfold outboxRow publishRow
  dsimp only
  rw [List.find?_map]
  have hsame : ((fun row : OutboxRow => decide (row.operationId = operationId)) ∘ fun row =>
      if row.operationId = published then { row with published := true } else row) =
        fun row => decide (row.operationId = operationId) := by
    funext row
    simp only [Function.comp_apply]
    split <;> rfl
  rw [hsame]

/-- What a call does to a row of the outbox: it stays, but for its mark. -/
theorem StoreStep.outboxRow (h : StoreStep rt state state') {operationId : String} {row : OutboxRow}
    (hrow : state.outboxRow operationId = some row) :
    ∃ row', state'.outboxRow operationId = some row' ∧ row'.requestSha256 = row.requestSha256 := by
  cases h with
  | put h =>
      rcases putPending_eq_ok.mp h with ⟨-, -, rfl⟩ | ⟨-, -, -, rfl⟩
      · exact ⟨row, hrow, rfl⟩
      · exact ⟨row, outboxRow_of_append hrow outbox_insertRevision, rfl⟩
  | recordReceipt h =>
      rcases recordOperationReceipt_eq_ok.mp h with ⟨-, -, rfl⟩ | ⟨-, -, rfl⟩
      · exact ⟨row, hrow, rfl⟩
      · exact ⟨row, outboxRow_of_append hrow rfl, rfl⟩
  | @publish _ published h =>
      obtain ⟨-, -, version, -, -, -, hstate⟩ := markReceiptPublished_eq_ok.mp h
      have houtbox : state'.outbox = (state.publishRow published).outbox := by
        cases version with
        | none => rw [hstate]; rfl
        | some version => rw [hstate]; exact outbox_publishHead
      have hfound : state'.outboxRow operationId =
          (state.publishRow published).outboxRow operationId := by
        unfold MemoryState.outboxRow
        rw [houtbox]
      rw [hfound, outboxRow_publishRow, hrow]
      refine ⟨_, rfl, ?_⟩
      dsimp only
      split <;> rfl
  | delete h =>
      rcases delete_eq_ok.mp h with ⟨-, -, rfl⟩ | ⟨-, -, head, -, rfl⟩
      · exact ⟨row, hrow, rfl⟩
      · exact ⟨row, outboxRow_of_append hrow outbox_insertRemoval, rfl⟩
  | indexed h =>
      rw [markIndexWorkDone_eq_ok h]
      exact ⟨row, hrow, rfl⟩
  | reindex scopes classifications now =>
      refine ⟨row, ?_, rfl⟩
      unfold MemoryState.outboxRow at hrow ⊢
      rw [(enqueueReindex_rows state scopes classifications now).1]
      exact hrow

theorem OnFile.later {operationId requestSha256 : String} (h : OnFile state operationId requestSha256)
    (hlater : Later rt state state') : OnFile state' operationId requestSha256 := by
  induction hlater with
  | refl => exact h
  | tail _ hstep ih =>
      obtain ⟨row, hrow, hrequest⟩ := ih
      obtain ⟨row', hrow', hrequest'⟩ := hstep.outboxRow hrow
      exact ⟨row', hrow', hrequest'.trans hrequest⟩

/-- What a call does to the tombstones: none, or one of an operation it files. -/
theorem StoreStep.tombstones (h : StoreStep rt state state') :
    state'.tombstones = state.tombstones ∨
      ∃ recordId deletedAt operationId, (state'.outboxRow operationId).isSome = true ∧
        state'.tombstones = (state.insertTombstone recordId deletedAt operationId).tombstones := by
  cases h with
  | put h =>
      rcases putPending_eq_ok.mp h with ⟨-, -, rfl⟩ | ⟨-, -, -, rfl⟩
      · exact .inl rfl
      · exact .inl rfl
  | recordReceipt h =>
      rcases recordOperationReceipt_eq_ok.mp h with ⟨-, -, rfl⟩ | ⟨-, -, rfl⟩
      · exact .inl rfl
      · exact .inl rfl
  | publish h =>
      obtain ⟨-, -, version, -, -, -, hstate⟩ := markReceiptPublished_eq_ok.mp h
      left
      cases version with
      | none => rw [hstate]; rfl
      | some version => rw [hstate]; exact tombstones_publishHead
  | @delete _ recordId operationId deletedAt requestSha256 receiptJson _ h =>
      rcases delete_eq_ok.mp h with ⟨-, -, rfl⟩ | ⟨-, -, head, -, rfl⟩
      · exact .inl rfl
      · refine .inr ⟨recordId, deletedAt, operationId, ?_, tombstones_insertRemoval⟩
        unfold MemoryState.outboxRow
        rw [outbox_insertRemoval]
        simp
  | indexed h =>
      rw [markIndexWorkDone_eq_ok h]
      exact .inl rfl
  | reindex scopes classifications now =>
      exact .inl (enqueueReindex_rows state scopes classifications now).2

theorem tombstone_later {id : String} (h : (state.tombstones.get? id).isSome = true)
    (hlater : Later rt state state') : (state'.tombstones.get? id).isSome = true := by
  induction hlater with
  | refl => exact h
  | tail _ hstep ih =>
      rcases hstep.tombstones with hsame | ⟨recordId, deletedAt, operationId, -, hrows⟩
      · rw [hsame]
        exact ih
      · rw [hrows]
        exact tombstones_insertTombstone ih recordId deletedAt operationId

/-- A call files the operation of every tombstone it leaves. -/
theorem TombstonesOnFile.step (h : TombstonesOnFile state) (hstep : StoreStep rt state state') :
    TombstonesOnFile state' := by
  have hkept : ∀ id tombstone, state.tombstones.get? id = some tombstone →
      (state'.outboxRow tombstone.operationId).isSome = true := by
    intro id tombstone hid
    obtain ⟨row, hrow⟩ := Option.isSome_iff_exists.mp (h id tombstone hid)
    obtain ⟨row', hrow', -⟩ := hstep.outboxRow hrow
    rw [hrow']
    rfl
  intro id tombstone hid
  rcases hstep.tombstones with hsame | ⟨recordId, deletedAt, operationId, hfiled, hrows⟩
  · rw [hsame] at hid
    exact hkept id tombstone hid
  · rw [hrows] at hid
    unfold insertTombstone at hid
    split at hid
    · exact hkept id tombstone hid
    · rw [Dict.get?_set] at hid
      split at hid
      · rw [← Option.some.inj hid]
        exact hfiled
      · exact hkept id tombstone hid

theorem tombstonesOnFile (h : Later rt .empty state) : TombstonesOnFile state := by
  induction h with
  | refl =>
      intro id tombstone hid
      cases hid
  | tail _ hstep ih => exact ih.step hstep

end MemoryState

/-! ## Repeated calls -/

namespace GovernedMemoryService

open MemoryState

/-- A call that writes. -/
inductive MemoryCall
  | put (request : PutRequest)
  | delete (request : DeleteRequest)

namespace MemoryCall

/-- What a call returns, and the store it leaves. -/
def run (rt : MemoryRuntime) (service : GovernedMemoryService) (state : MemoryState) :
    MemoryCall → Except PyError (MemoryResult × MemoryState)
  | put request => service.put rt state request
  | delete request => service.delete rt state request

/-- The store after a call, whether it raised or not. -/
def after (rt : MemoryRuntime) (service : GovernedMemoryService) (state : MemoryState)
    (call : MemoryCall) : MemoryState :=
  match call.run rt service state with
  | .ok (_, state) => state
  | .error _ => state

/-- The same call with the same arguments; the clock is read again. -/
def Repeats : MemoryCall → MemoryCall → Prop
  | put request, put again => again = request
  | delete request, delete again =>
      again = { request with
        readAt := again.readAt, deletedAt := again.deletedAt, stampedAt := again.stampedAt }
  | _, _ => False

/-- The name that a call's operation has in the outbox. -/
def operationId : MemoryCall → String
  | put request => operationOf request
  | delete request => request.operationId

/-- The digest of a call. -/
def requestSha256 (rt : MemoryRuntime) (service : GovernedMemoryService) : MemoryCall → String
  | put request => service.putSha256 rt request
  | delete request => deleteSha256 rt request

end MemoryCall

/-- A call is answered with the status, the record and the receipt of an earlier result. -/
def SameAnswer (rt : MemoryRuntime) (service : GovernedMemoryService) (state : MemoryState)
    (call : MemoryCall) (result : MemoryResult) : Prop :=
  ∃ result' state', call.run rt service state = .ok (result', state') ∧
    result'.status = result.status ∧ result'.record = result.record ∧
    result'.receiptId = result.receiptId

/-- The horizon lets a revision follow a head: the head may still be read at the time that the
revision gives as its own, or the gate accepts the revision inside the reactivation window. -/
def HorizonAdmits (rt : MemoryRuntime) (horizon : EvidenceHorizonPolicy) (head : MemoryRecord)
    (request : PutRequest) : Prop :=
  ∃ evaluation, horizon.evaluate rt head request.record.createdAt = .ok evaluation ∧
    (evaluation.horizon.readableAsContext = true ∨
      ∃ window, evaluation.reactivation = some window ∧ window.withinWindow = true ∧
        ∃ decision, ReconsolidationGate.evaluate rt head request.record
          request.reconsolidationEvidenceRefs = .ok decision ∧ decision.accepted = true)

/-- What a store must have for a call on file to be answered as before: for a `put`, a head that can
be read and that the horizon lets the record follow, or none; for a `delete`, a memory that can
still be read and deleted. -/
def CanRepeat (rt : MemoryRuntime) (service : GovernedMemoryService) (state : MemoryState) :
    MemoryCall → Prop
  | .put request => ∃ previous, previousOf rt state request.record = .ok previous ∧
      ∀ head ∈ previous, ∀ horizon ∈ service.evidenceHorizon, HorizonAdmits rt horizon head request
  | .delete request => ∃ decision current,
      service.policy.resolve rt request.principalId request.taskId "memory.delete"
        request.authority = .ok (some decision) ∧
      state.get rt request.recordId request.readAt = .ok (some current) ∧
      decision.permits current = true

variable {rt : MemoryRuntime} {service : GovernedMemoryService} {state state' : MemoryState}

/-- What the horizon and the gate let through.
SOURCE: service.py:140-167 -/
theorem reconsolidate_admits {request : PutRequest} {previous : Option MemoryRecord} :
    (∃ gate, service.reconsolidate rt request.record request.reconsolidationEvidenceRefs previous =
      .ok (.ok gate)) ↔
      ∀ head ∈ previous, ∀ horizon ∈ service.evidenceHorizon,
        HorizonAdmits rt horizon head request := by
  cases previous with
  | none => simp [reconsolidate, pure, Except.pure]
  | some head =>
      unfold reconsolidate
      cases hhorizon : service.evidenceHorizon with
      | none => simp [pure, Except.pure]
      | some horizon =>
          simp only [Option.mem_def, Option.some.injEq, forall_eq', HorizonAdmits, bind_eq_ok]
          constructor
          · rintro ⟨gate, evaluation, hevaluation, h⟩
            refine ⟨evaluation, hevaluation, ?_⟩
            split at h
            · rename_i hreadable
              exact .inl hreadable
            · cases h
            · rename_i window _ hwindow
              split at h
              · cases h
              · rename_i hwithin
                obtain ⟨decision, hdecision, h⟩ := bind_eq_ok.mp h
                refine .inr ⟨window, hwindow, hwithin, decision, hdecision, ?_⟩
                by_contra hnot
                rw [if_neg hnot] at h
                cases h
          · rintro ⟨evaluation, hevaluation, hadmits⟩
            rcases hadmits with hreadable | ⟨window, hwindow, hwithin, decision, hdecision, haccepted⟩
            · refine ⟨none, evaluation, hevaluation, ?_⟩
              rw [hreadable]
              rfl
            · cases hread : evaluation.horizon.readableAsContext with
              | true =>
                  refine ⟨none, evaluation, hevaluation, ?_⟩
                  rw [hread]
                  rfl
              | false =>
                  refine ⟨some decision, evaluation, hevaluation, ?_⟩
                  rw [hread, hwindow]
                  dsimp only
                  rw [hwithin]
                  refine bind_eq_ok.mpr ⟨decision, hdecision, ?_⟩
                  rw [if_pos haccepted]
                  rfl

/-- The answer to a `put` that is accepted. -/
def putAnswer (rt : MemoryRuntime) (request : PutRequest) : MemoryResult where
  status := .ok
  record := some request.record
  receiptId := some (rt.uuid5 ("phios.memory:" ++ operationOf request))

/-- The answer to a `delete` that is accepted. -/
def deleteAnswer (rt : MemoryRuntime) (request : DeleteRequest) : MemoryResult where
  status := .ok
  receiptId := some (rt.uuid5 ("phios.memory:" ++ request.operationId))

/-- A `put` returns "ok" exactly when its checks pass and the outbox takes it.
SOURCE: service.py:120-217 -/
theorem put_eq_ok {request : PutRequest} {result : MemoryResult} :
    (service.put rt state request = .ok (result, state') ∧ result.status = .ok) ↔
      ∃ decision gate stored, Admitted rt service state request decision gate ∧
        operationOf request ≠ "" ∧
        state.putPending request.record (operationOf request) (service.putSha256 rt request)
          (service.putReceipt rt request (operationOf request) decision).text =
            .ok (stored, state') ∧
        result = putAnswer rt request := by
  constructor
  · rintro ⟨hput, hok⟩
    unfold put putWith at hput
    obtain ⟨done, hdone, hput⟩ := bind_eq_ok.mp hput
    have hresult : done.2.2 = (result, state') := Except.ok.inj hput
    obtain ⟨admission, hadmit, h⟩ := bind_eq_ok.mp hdone
    cases admission with
    | inl refused =>
        have hdone' := Except.ok.inj h
        rw [← hdone'] at hresult
        have hrefused : refused = result := (Prod.mk.inj hresult).1
        rw [← hrefused] at hok
        exact absurd hok (status_of_admitPut_inl hadmit)
    | inr admitted =>
        obtain ⟨committed, hcommit, h⟩ := bind_eq_ok.mp h
        have hdone' := Except.ok.inj h
        rw [← hdone'] at hresult
        have hcommitted : committed = (committed.1, result, state') := by
          rw [← hresult]
        rw [hcommitted] at hcommit
        obtain ⟨hname, hpending, hanswer⟩ := commitPut_eq_ok.mp hcommit
        exact ⟨admitted.1, admitted.2, committed.1, admitPut_eq_inr.mp hadmit, hname, hpending,
          hanswer⟩
  · rintro ⟨decision, gate, stored, hadmitted, hname, hpending, rfl⟩
    have hcommit := commitPut_eq_ok.mpr ⟨hname, hpending, rfl⟩
    have hwith := putWith_of_commitPut hadmitted hcommit
    refine ⟨?_, rfl⟩
    unfold put
    rw [hwith]
    rfl

/-- A `delete` returns "ok" exactly when it finds a memory it may delete and the outbox
takes it.
SOURCE: service.py:621-667 -/
theorem delete_eq_ok {request : DeleteRequest} {result : MemoryResult} :
    (service.delete rt state request = .ok (result, state') ∧ result.status = .ok) ↔
      ∃ decision current stored,
        service.policy.resolve rt request.principalId request.taskId "memory.delete"
          request.authority = .ok (some decision) ∧
        state.get rt request.recordId request.readAt = .ok (some current) ∧
        decision.permits current = true ∧
        state.delete request.recordId request.operationId (rt.iso.isoformat request.deletedAt)
          (deleteSha256 rt request) (deleteReceipt rt request decision current).text =
            .ok (stored, state') ∧
        result = deleteAnswer rt request := by
  constructor
  · rintro ⟨hdelete, hok⟩
    unfold delete at hdelete
    obtain ⟨resolved, hresolved, h⟩ := bind_eq_ok.mp hdelete
    cases resolved with
    | none =>
        have hresult := (Prod.mk.inj (Except.ok.inj h)).1
        rw [← hresult] at hok
        cases hok
    | some decision =>
        obtain ⟨found, hfound, h⟩ := bind_eq_ok.mp h
        cases found with
        | none =>
            have hresult := (Prod.mk.inj (Except.ok.inj h)).1
            rw [← hresult] at hok
            cases hok
        | some current =>
            dsimp only at h
            split at h
            · have hresult := (Prod.mk.inj (Except.ok.inj h)).1
              rw [← hresult] at hok
              cases hok
            · rename_i hpermits
              obtain ⟨⟨stored, after⟩, hstore, h⟩ := bind_eq_ok.mp h
              have hresult := Prod.mk.inj (Except.ok.inj h)
              have hafter : after = state' := hresult.2
              rw [hafter] at hstore
              exact ⟨decision, current, stored, hresolved, hfound, hpermits, hstore,
                hresult.1.symm⟩
  · rintro ⟨decision, current, stored, hresolved, hfound, hpermits, hstore, rfl⟩
    refine ⟨?_, rfl⟩
    unfold delete
    refine bind_eq_ok.mpr ⟨some decision, hresolved, bind_eq_ok.mpr ⟨some current, hfound, ?_⟩⟩
    dsimp only
    rw [hpermits]
    exact bind_eq_ok.mpr ⟨(stored, state'), hstore, rfl⟩

theorem MemoryCall.onFile {call : MemoryCall} {result : MemoryResult}
    (h : call.run rt service state = .ok (result, state')) (hok : result.status = .ok) :
    OnFile state' call.operationId (call.requestSha256 rt service) := by
  cases call with
  | put request =>
      obtain ⟨decision, gate, stored, -, -, hpending, -⟩ := put_eq_ok.mp ⟨h, hok⟩
      rcases putPending_eq_ok.mp hpending with ⟨hreplay, -, rfl⟩ | ⟨hnew, -, -, rfl⟩
      · exact isReplay_eq_true.mp hreplay
      · exact onFile_of_append hnew outbox_insertRevision
  | delete request =>
      obtain ⟨decision, current, stored, -, -, -, hstore, -⟩ := delete_eq_ok.mp ⟨h, hok⟩
      rcases MemoryState.delete_eq_ok.mp hstore with ⟨hreplay, -, rfl⟩ | ⟨hnew, -, head, -, rfl⟩
      · exact isReplay_eq_true.mp hreplay
      · exact onFile_of_append hnew outbox_insertRemoval

/-- Repeating a call whose request is on file leaves the store alone. -/
theorem MemoryCall.after_of_onFile {call : MemoryCall}
    (h : OnFile state call.operationId (call.requestSha256 rt service)) :
    call.after rt service state = state := by
  have hreplay : state.isReplay call.operationId (call.requestSha256 rt service) = .ok true :=
    isReplay_eq_true.mpr h
  cases call with
  | put request =>
      rcases afterPut_cases rt service state request with hsame | ⟨gate, hstores⟩
      · exact hsame
      · obtain ⟨-, -, -, hnew, -⟩ := stores_iff.mp hstores
        obtain ⟨row, hrow, -⟩ := h
        rw [show MemoryCall.operationId (.put request) = operationOf request from rfl, hnew] at hrow
        cases hrow
  | delete request =>
      rcases afterDelete_cases rt service state request with
        hsame | ⟨-, -, -, -, hnew, -⟩
      · exact hsame
      · obtain ⟨row, hrow, -⟩ := h
        rw [show MemoryCall.operationId (.delete request) = request.operationId from rfl,
          hnew] at hrow
        cases hrow

/-- What a `put` asks before the outbox, apart from the horizon, depends on the service's
policy alone. -/
theorem Admitted.again {request : PutRequest} {decision : MemoryAccessDecision}
    {gate gate' : Option ReconsolidationGateDecision} {later : MemoryState}
    {previous : Option MemoryRecord} (indexAvailable : Bool)
    (h : Admitted rt service state request decision gate)
    (hprevious : previousOf rt later request.record = .ok previous)
    (hgate : service.reconsolidate rt request.record request.reconsolidationEvidenceRefs previous =
      .ok (.ok gate')) :
    Admitted rt { service with indexAvailable } later request decision gate' where
  resolved := h.resolved
  permitted := h.permitted
  lineage := h.lineage
  horizon := ⟨previous, hprevious, hgate⟩

/-- A repeated call is answered as before exactly when the store still lets it through.
SOURCE: service.py:131-177, service.py:631-644 -/
theorem sameAnswer_iff {call again : MemoryCall} {result : MemoryResult} {later : MemoryState}
    (indexAvailable : Bool) (hcall : call.run rt service state = .ok (result, state'))
    (hok : result.status = .ok) (hagain : call.Repeats again)
    (hfile : OnFile later again.operationId (again.requestSha256 rt service)) :
    SameAnswer rt { service with indexAvailable } later again result ↔
      CanRepeat rt { service with indexAvailable } later again := by
  have hreplay : later.isReplay again.operationId (again.requestSha256 rt service) = .ok true :=
    isReplay_eq_true.mpr hfile
  cases call with
  | put request =>
      cases again with
      | delete other => exact hagain.elim
      | put other =>
          obtain rfl : other = request := hagain
          obtain ⟨decision, gate, stored, hadmitted, hname, -, rfl⟩ := put_eq_ok.mp ⟨hcall, hok⟩
          constructor
          · rintro ⟨result', after, hrun, hstatus, -, -⟩
            obtain ⟨decision', gate', -, hadmitted', -⟩ := put_eq_ok.mp ⟨hrun, hstatus⟩
            obtain ⟨previous, hprevious, hgate⟩ := hadmitted'.horizon
            exact ⟨previous, hprevious, reconsolidate_admits.mp ⟨gate', hgate⟩⟩
          · rintro ⟨previous, hprevious, hadmits⟩
            obtain ⟨gate', hgate⟩ := reconsolidate_admits.mpr hadmits
            have hadmitted' := hadmitted.again indexAvailable hprevious hgate
            have hput := put_eq_ok.mpr ⟨decision, gate', false, hadmitted', hname,
              putPending_of_replay hreplay _, rfl⟩
            exact ⟨_, later, hput.1, rfl, rfl, rfl⟩
  | delete request =>
      cases again with
      | put other => exact hagain.elim
      | delete other =>
          have hother : deleteAnswer rt other = deleteAnswer rt request := by
            rw [show other = _ from hagain]
            rfl
          obtain ⟨-, -, -, -, -, -, -, rfl⟩ := delete_eq_ok.mp ⟨hcall, hok⟩
          rw [← hother]
          constructor
          · rintro ⟨result', after, hrun, hstatus, -, -⟩
            obtain ⟨decision, current, -, hresolved, hfound, hpermits, -⟩ :=
              delete_eq_ok.mp ⟨hrun, hstatus⟩
            exact ⟨decision, current, hresolved, hfound, hpermits⟩
          · rintro ⟨decision, current, hresolved, hfound, hpermits⟩
            have hdelete := delete_eq_ok.mpr ⟨decision, current, false, hresolved, hfound, hpermits,
              MemoryState.delete_eq_ok.mpr (.inl ⟨hreplay, rfl, rfl⟩), rfl⟩
            exact ⟨_, later, hdelete.1, rfl, rfl, rfl⟩

/-- A `delete` that is the first of its operation buries the memory. -/
theorem tombstone_of_delete {request : DeleteRequest} {result : MemoryResult}
    (hfiled : TombstonesOnFile state)
    (h : service.delete rt state request = .ok (result, state')) (hok : result.status = .ok)
    (hfirst : state.outboxRow request.operationId = none) :
    (state'.tombstones.get? request.recordId).isSome = true := by
  obtain ⟨decision, current, stored, -, -, -, hstore, -⟩ := delete_eq_ok.mp ⟨h, hok⟩
  rcases MemoryState.delete_eq_ok.mp hstore with ⟨hreplay, -⟩ | ⟨-, -, head, -, rfl⟩
  · obtain ⟨row, hrow, -⟩ := isReplay_eq_true.mp hreplay
    rw [hfirst] at hrow
    cases hrow
  · rw [tombstones_insertRemoval]
    unfold insertTombstone
    split
    · rename_i htaken
      rcases htaken with hburied | hused
      · exact hburied
      · obtain ⟨entry, hentry, hname⟩ := List.any_eq_true.mp hused
        have hrow := hfiled entry.1 entry.2 (Dict.mem_entries_iff.mp hentry)
        rw [of_decide_eq_true hname, hfirst] at hrow
        cases hrow
    · rw [Dict.get?_set, if_pos rfl]
      rfl

/-- MAIN: **When a call can be repeated.** In every store that calls lead to, for every `put` or
`delete` that is accepted and every later sequence of calls: the same call again leaves the store
alone, and it is answered with the same status, record and receipt exactly when the store still lets
it through (`CanRepeat`). After the first `delete` of its operation that is never so. -/
theorem repeated_call_iff (rt : MemoryRuntime) (service : GovernedMemoryService)
    {state state' later : MemoryState} {call again : MemoryCall} {result : MemoryResult}
    (indexAvailable : Bool) (hreached : Later rt .empty state)
    (hcall : call.run rt service state = .ok (result, state')) (hok : result.status = .ok)
    (hlater : Later rt state' later) (hagain : call.Repeats again) :
    ((again.after rt { service with indexAvailable } later = later ∧
        SameAnswer rt { service with indexAvailable } later again result) ↔
      CanRepeat rt { service with indexAvailable } later again) ∧
    again.after rt { service with indexAvailable } later = later ∧
    (∀ request, call = .delete request → state.outboxRow request.operationId = none →
      ¬ CanRepeat rt { service with indexAvailable } later again) := by
  have hnames : again.operationId = call.operationId ∧
      again.requestSha256 rt service = call.requestSha256 rt service := by
    cases call with
    | put request =>
        cases again with
        | put other => rw [show other = request from hagain]; exact ⟨rfl, rfl⟩
        | delete other => exact hagain.elim
    | delete request =>
        cases again with
        | put other => exact hagain.elim
        | delete other => rw [show other = _ from hagain]; exact ⟨rfl, rfl⟩
  have hfile : OnFile later again.operationId (again.requestSha256 rt service) := by
    rw [hnames.1, hnames.2]
    exact (MemoryCall.onFile hcall hok).later hlater
  have hkept : again.after rt { service with indexAvailable } later = later := by
    apply MemoryCall.after_of_onFile
    cases again with
    | put other => exact hfile
    | delete other => exact hfile
  have hanswer := sameAnswer_iff indexAvailable hcall hok hagain hfile
  refine ⟨⟨fun h => hanswer.mp h.2, fun h => ⟨hkept, hanswer.mpr h⟩⟩, hkept, ?_⟩
  rintro request rfl hfirst hrepeat
  have hburied := tombstone_of_delete (tombstonesOnFile hreached) hcall hok hfirst
  have hstill := tombstone_later hburied hlater
  cases again with
  | put other => exact hagain.elim
  | delete other =>
      obtain ⟨-, current, -, hfound, -⟩ := hrepeat
      have hid : other.recordId = request.recordId := by
        rw [show other = _ from hagain]
      obtain ⟨tombstone, htombstone⟩ := Option.isSome_iff_exists.mp hstill
      have hnone : later.readableHead other.recordId = none := by
        unfold readableHead
        rw [hid, htombstone]
        cases later.heads.get? request.recordId <;> rfl
      unfold MemoryState.get at hfound
      rw [hnone] at hfound
      cases hfound

/-! ## Calls repeated -/

/-- The `put` of ann's record. -/
def datedFirstPut : PutRequest := datedPut 1 "I" "op-1" []

/-- The store after the next revision was put and published as well. -/
def revisedStore : Except PyError MemoryState := do
  (horizonService.afterPut unaryMemoryRuntime (← datedStore) backdatedPut).markReceiptPublished
    unaryMemoryRuntime "op-2"

/-- Ann's `delete` of her memory. -/
def annsDelete : DeleteRequest where
  recordId := "memory"
  principalId := "ann"
  taskId := "task"
  authority := ⟨["memory.delete"], ["memory.delete"]⟩
  operationId := "op-3"
  readAt := 5
  deletedAt := 5
  stampedAt := 5

/-- The store after it. -/
def deletedStore : Except PyError MemoryState := do
  return horizonService.afterDelete unaryMemoryRuntime (← datedStore) annsDelete

theorem firstPut_runs :
    (horizonService.put unaryMemoryRuntime .empty datedFirstPut).toOption.map (·.1.status) =
        some .ok ∧
      ∃ published, datedStore = .ok published ∧
        (horizonService.put unaryMemoryRuntime published datedFirstPut).toOption.map (·.1.status) =
          some .ok ∧
        (horizonService.delete unaryMemoryRuntime published annsDelete).toOption.map (·.1.status) =
          some .ok := by
  constructor
  · decide +kernel
  · apply exists_ok_of_decide
    decide +kernel

theorem repeats_run :
    (∃ revised, revisedStore = .ok revised ∧
      (horizonService.put unaryMemoryRuntime revised datedFirstPut).toOption.isNone = true) ∧
    (∃ deleted, deletedStore = .ok deleted ∧
      (horizonService.delete unaryMemoryRuntime deleted annsDelete).toOption.map (·.1.status) =
        some .unavailable) := by
  constructor
  · apply exists_ok_of_decide
    decide +kernel
  · apply exists_ok_of_decide
    decide +kernel

theorem exists_of_status {outcome : Except PyError (MemoryResult × MemoryState)}
    {status : MemoryStatus} (h : outcome.toOption.map (·.1.status) = some status) :
    ∃ result after, outcome = .ok (result, after) ∧ result.status = status := by
  cases outcome with
  | ok done => exact ⟨done.1, done.2, rfl, Option.some.inj h⟩
  | error e => cases h

theorem later_afterPut (rt : MemoryRuntime) (service : GovernedMemoryService)
    (state : MemoryState) (request : PutRequest) :
    Later rt state (service.afterPut rt state request) := by
  rcases afterPut_cases rt service state request with hsame | ⟨gate, hstores⟩
  · rw [hsame]
  · obtain ⟨decision, -, -, hnew, hadmits, hafter⟩ := stores_iff.mp hstores
    rw [hafter]
    exact .single (.put (putPending_of_admits hnew hadmits _ _))

theorem later_datedStore {published : MemoryState} (h : datedStore = .ok published) :
    Later unaryMemoryRuntime
      (horizonService.afterPut unaryMemoryRuntime .empty datedFirstPut) published :=
  .single (.publish h)

theorem firstPut_accepted :
    ∃ result, (MemoryCall.put datedFirstPut).run unaryMemoryRuntime horizonService .empty =
      .ok (result, horizonService.afterPut unaryMemoryRuntime .empty datedFirstPut) ∧
      result.status = .ok := by
  obtain ⟨result, after, hput, hok⟩ := exists_of_status firstPut_runs.1
  refine ⟨result, ?_, hok⟩
  unfold afterPut
  rw [hput]
  exact hput

/-- WITNESS: The first `put` is repeated once its record is published, and is answered as before. -/
theorem put_repeated_while_readable :
    ∃ published result, datedStore = .ok published ∧
      (MemoryCall.put datedFirstPut).after unaryMemoryRuntime horizonService published =
        published ∧
      SameAnswer unaryMemoryRuntime horizonService published (.put datedFirstPut) result ∧
      result.record = some datedFirstPut.record := by
  obtain ⟨published, hpublished, hput, -⟩ := firstPut_runs.2
  obtain ⟨result, hcall, hok⟩ := firstPut_accepted
  obtain ⟨again, after, hagain, hagainOk⟩ := exists_of_status hput
  obtain ⟨decision, gate, -, hadmitted, -⟩ := put_eq_ok.mp ⟨hagain, hagainOk⟩
  obtain ⟨previous, hprevious, hgate⟩ := hadmitted.horizon
  have hsame : (MemoryCall.put datedFirstPut).Repeats (.put datedFirstPut) := rfl
  have hrepeat := (repeated_call_iff unaryMemoryRuntime horizonService false .refl hcall hok
    (later_datedStore hpublished) hsame).1.mpr
      ⟨previous, hprevious, reconsolidate_admits.mp ⟨gate, hgate⟩⟩
  obtain ⟨-, -, -, -, -, -, hresult⟩ := put_eq_ok.mp ⟨hcall, hok⟩
  exact ⟨published, result, hpublished, hrepeat.1, hrepeat.2, by rw [hresult]; rfl⟩

/-- COUNTEREXAMPLE: The first `put` raises when it is repeated behind the next revision, and a
`delete` that was accepted is answered "unavailable" when it is repeated. -/
theorem repeated_calls_fail :
    (∃ state result later, Later unaryMemoryRuntime .empty state ∧
      (MemoryCall.put datedFirstPut).run unaryMemoryRuntime horizonService .empty =
        .ok (result, state) ∧ result.status = .ok ∧ Later unaryMemoryRuntime state later ∧
      ¬ SameAnswer unaryMemoryRuntime horizonService later (.put datedFirstPut) result) ∧
    (∃ state result later, Later unaryMemoryRuntime .empty state ∧
      (MemoryCall.delete annsDelete).run unaryMemoryRuntime horizonService state =
        .ok (result, later) ∧ result.status = .ok ∧
      ¬ SameAnswer unaryMemoryRuntime horizonService later (.delete annsDelete) result) := by
  obtain ⟨published, hpublished, -, hdelete⟩ := firstPut_runs.2
  obtain ⟨⟨revised, hrevised, hraises⟩, deleted, hdeleted, hunavailable⟩ := repeats_run
  have hstart := later_afterPut unaryMemoryRuntime horizonService .empty datedFirstPut
  constructor
  · obtain ⟨result, hcall, hok⟩ := firstPut_accepted
    have hpublish : (horizonService.afterPut unaryMemoryRuntime published
        backdatedPut).markReceiptPublished unaryMemoryRuntime "op-2" = .ok revised := by
      unfold revisedStore at hrevised
      rw [hpublished] at hrevised
      exact hrevised
    refine ⟨_, result, revised, hstart, hcall, hok, ?_, ?_⟩
    · have hsecond := later_afterPut unaryMemoryRuntime horizonService published backdatedPut
      exact ((later_datedStore hpublished).trans hsecond).tail (.publish hpublish)
    · rintro ⟨again, after, hrun, -⟩
      rw [show horizonService.put unaryMemoryRuntime revised datedFirstPut = _ from hrun] at hraises
      cases hraises
  · obtain ⟨result, later, hrun, hok⟩ := exists_of_status hdelete
    have hlater : later = deleted := by
      unfold deletedStore at hdeleted
      rw [hpublished] at hdeleted
      have hafter : horizonService.afterDelete unaryMemoryRuntime published annsDelete = deleted :=
        Except.ok.inj hdeleted
      rw [← hafter]
      unfold afterDelete
      rw [hrun]
    refine ⟨published, result, later, hstart.trans (later_datedStore hpublished), hrun, hok, ?_⟩
    rintro ⟨again, after, hagain, hstatus, -⟩
    rw [hlater] at hagain
    rw [show horizonService.delete unaryMemoryRuntime deleted annsDelete = _ from hagain]
      at hunavailable
    have hstatus' : again.status = .unavailable := Option.some.inj hunavailable
    rw [hok, hstatus'] at hstatus
    cases hstatus

end GovernedMemoryService

end PhiOS
