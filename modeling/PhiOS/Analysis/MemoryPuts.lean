import PhiOS.Analysis.MemoryStoreSteps
import PhiOS.Model.GovernedMemory

/-!
# What a governed `put` does

`put` either leaves the store alone or stores one revision; `passesChecks_iff` spells out when it
is accepted, in terms of its checks alone.
-/

set_option autoImplicit false

namespace PhiOS

namespace GovernedMemoryService

variable {rt : MemoryRuntime} {service : GovernedMemoryService} {state state' : MemoryState}
  {request : PutRequest}

/-- The checks that stand before the outbox, and what they decide. -/
structure Admitted (rt : MemoryRuntime) (service : GovernedMemoryService) (state : MemoryState)
    (request : PutRequest) (decision : MemoryAccessDecision)
    (gate : Option ReconsolidationGateDecision) : Prop where
  resolved : service.writeDecision rt request = .ok (some decision)
  permitted : decision.permits request.record = true
  lineage : validateTransformationLineage rt request.record request.transformationLineage = none
  horizon : ∃ previous, previousOf rt state request.record = .ok previous ∧
    service.reconsolidate rt request.record request.reconsolidationEvidenceRefs previous =
      .ok (.ok gate)

/-- The checks let a `put` through with these decisions. -/
theorem admitPut_eq_inr {decision : MemoryAccessDecision}
    {gate : Option ReconsolidationGateDecision} :
    service.admitPut rt state request = .ok (.inr (decision, gate)) ↔
      Admitted rt service state request decision gate := by
  unfold admitPut
  rw [bind_eq_ok]
  constructor
  · rintro ⟨resolved, hresolved, h⟩
    cases resolved with
    | none => simp [pure, Except.pure] at h
    | some decision' =>
        dsimp only at h
        split at h
        · simp [pure, Except.pure] at h
        · simp [pure, Except.pure] at h
        · rename_i hpermits hlineage
          obtain ⟨previous, hprevious, h⟩ := bind_eq_ok.mp h
          obtain ⟨answer, hanswer, h⟩ := bind_eq_ok.mp h
          cases answer with
          | error code => simp [pure, Except.pure] at h
          | ok gate' =>
              have heq := Prod.mk.inj (Sum.inr.inj (Except.ok.inj h))
              obtain ⟨rfl, rfl⟩ := heq
              exact ⟨hresolved, hpermits, hlineage, previous, hprevious, hanswer⟩
  · rintro ⟨hresolved, hpermits, hlineage, previous, hprevious, hanswer⟩
    refine ⟨some decision, hresolved, ?_⟩
    simp only [hpermits, hlineage]
    refine bind_eq_ok.mpr ⟨previous, hprevious, bind_eq_ok.mpr ⟨.ok gate, hanswer, rfl⟩⟩

/-- A result that the checks return at once is a refusal. -/
theorem status_of_admitPut_inl {result : MemoryResult}
    (h : service.admitPut rt state request = .ok (.inl result)) : result.status ≠ .ok := by
  unfold admitPut at h
  obtain ⟨resolved, -, h⟩ := bind_eq_ok.mp h
  cases resolved with
  | none =>
      have heq := Sum.inl.inj (Except.ok.inj h)
      simp [← heq]
  | some decision =>
      dsimp only at h
      split at h
      · have heq := Sum.inl.inj (Except.ok.inj h)
        simp [← heq]
      · have heq := Sum.inl.inj (Except.ok.inj h)
        simp [← heq]
      · obtain ⟨previous, -, h⟩ := bind_eq_ok.mp h
        obtain ⟨answer, -, h⟩ := bind_eq_ok.mp h
        cases answer with
        | error code =>
            have heq := Sum.inl.inj (Except.ok.inj h)
            simp [← heq]
        | ok gate => simp [pure, Except.pure] at h

/-- The text of the operation's name that `put` uses. -/
def operationOf (request : PutRequest) : String := strip request.operationId

/-- What `commitPut` returns and leaves. -/
theorem commitPut_eq_ok {decision : MemoryAccessDecision} {stored : Bool} {result : MemoryResult} :
    service.commitPut rt state request decision = .ok (stored, result, state') ↔
      operationOf request ≠ "" ∧
      state.putPending request.record (operationOf request) (service.putSha256 rt request)
        (service.putReceipt rt request (operationOf request) decision).text = .ok (stored, state') ∧
      result = { status := .ok, record := some request.record
                 receiptId := some
                  (service.putReceipt rt request (operationOf request) decision).receiptId } := by
  unfold commitPut MemoryValidation.requireNonempty requireStripped operationOf
  split
  · rename_i hblank
    simp [hblank, bind, Except.bind]
  · rename_i hname
    simp only [bind_eq_ok, Except.ok.injEq, Prod.exists, pure, Except.pure, Prod.mk.injEq,
      exists_eq_left']
    constructor
    · rintro ⟨stored', after, hput, rfl, rfl, rfl⟩
      exact ⟨hname, hput, rfl⟩
    · rintro ⟨-, hput, rfl⟩
      exact ⟨stored, state', hput, rfl, rfl, rfl⟩

theorem putWith_of_commitPut {decision : MemoryAccessDecision}
    {gate : Option ReconsolidationGateDecision} {done : Bool × MemoryResult × MemoryState}
    (hadmitted : Admitted rt service state request decision gate)
    (hcommit : service.commitPut rt state request decision = .ok done) :
    service.putWith rt state request = .ok (gate, done) := by
  unfold putWith
  refine bind_eq_ok.mpr ⟨_, admitPut_eq_inr.mpr hadmitted, ?_⟩
  exact bind_eq_ok.mpr ⟨done, hcommit, rfl⟩

/-- A `put` is accepted: it returns with the status "ok". -/
def Accepted (rt : MemoryRuntime) (service : GovernedMemoryService) (state : MemoryState)
    (request : PutRequest) : Prop :=
  ∃ result after, service.put rt state request = .ok (result, after) ∧ result.status = .ok

/-- A `put` stores its record as a new revision, with what the gate decided if it was asked. -/
def Stores (rt : MemoryRuntime) (service : GovernedMemoryService) (state : MemoryState)
    (request : PutRequest) (gate : Option ReconsolidationGateDecision) (after : MemoryState) : Prop :=
  ∃ result, service.putWith rt state request = .ok (gate, true, result, after)

/-- The outbox takes the request: it is on file already, or it is new and its record is the next
revision of a memory that was not deleted. -/
def OutboxTakes (rt : MemoryRuntime) (service : GovernedMemoryService) (state : MemoryState)
    (request : PutRequest) : Prop :=
  state.isReplay (operationOf request) (service.putSha256 rt request) = .ok true ∨
    (state.outboxRow (operationOf request) = none ∧ state.Admits request.record)

/-- The checks that `put` makes, none of which asks whose the present head is. -/
def PassesChecks (rt : MemoryRuntime) (service : GovernedMemoryService) (state : MemoryState)
    (request : PutRequest) : Prop :=
  operationOf request ≠ "" ∧ OutboxTakes rt service state request ∧
    ∃ decision gate, Admitted rt service state request decision gate

/-- A `put` is accepted exactly when it passes its checks. -/
theorem accepted_iff_passesChecks :
    Accepted rt service state request ↔ PassesChecks rt service state request := by
  constructor
  · unfold Accepted put putWith
    simp only [bind_eq_ok]
    rintro ⟨result, after, ⟨⟨gate, stored, result', after'⟩, ⟨admission, hadmit, h⟩, hresult⟩, hok⟩
    have heq := Prod.mk.inj (Except.ok.inj hresult)
    obtain ⟨rfl, rfl⟩ := heq
    cases admission with
    | inl refused =>
        have hrefused : refused = result' := by
          have := Prod.mk.inj (Except.ok.inj h)
          exact (Prod.mk.inj (Prod.mk.inj this.2).2).1
        rw [← hrefused] at hok
        exact absurd hok (status_of_admitPut_inl hadmit)
    | inr admitted =>
        obtain ⟨decision, gate'⟩ := admitted
        obtain ⟨⟨stored', result'', after''⟩, hcommit, h⟩ := bind_eq_ok.mp h
        have hname := (commitPut_eq_ok.mp hcommit).1
        have hput := (commitPut_eq_ok.mp hcommit).2.1
        refine ⟨hname, ?_, decision, gate', admitPut_eq_inr.mp hadmit⟩
        rcases MemoryState.putPending_eq_ok.mp hput with ⟨hreplay, -⟩ | ⟨hnew, hadmits, -⟩
        · exact .inl hreplay
        · exact .inr ⟨hnew, hadmits⟩
  · rintro ⟨hname, htakes, decision, gate, hadmitted⟩
    have hput : ∃ stored after, state.putPending request.record (operationOf request)
        (service.putSha256 rt request)
        (service.putReceipt rt request (operationOf request) decision).text =
          .ok (stored, after) := by
      rcases htakes with hreplay | ⟨hnew, hadmits⟩
      · exact ⟨false, state, MemoryState.putPending_of_replay hreplay _⟩
      · exact ⟨true, _, MemoryState.putPending_of_admits hnew hadmits _ _⟩
    obtain ⟨stored, after, hput⟩ := hput
    have hcommit := commitPut_eq_ok.mpr ⟨hname, hput, rfl⟩
    have hput := putWith_of_commitPut hadmitted hcommit
    unfold Accepted put
    rw [hput]
    exact ⟨_, after, rfl, rfl⟩

/-- A `put` that stores has passed the checks, and leaves the rows of one revision. -/
theorem stores_iff {gate : Option ReconsolidationGateDecision} :
    Stores rt service state request gate state' ↔
      ∃ decision, Admitted rt service state request decision gate ∧ operationOf request ≠ "" ∧
        state.outboxRow (operationOf request) = none ∧ state.Admits request.record ∧
        state' = state.insertRevision request.record (operationOf request)
          (service.putSha256 rt request)
          (service.putReceipt rt request (operationOf request) decision).text := by
  constructor
  · unfold Stores putWith
    simp only [bind_eq_ok]
    rintro ⟨result, admission, hadmit, h⟩
    cases admission with
    | inl refused => simp [pure, Except.pure] at h
    | inr admitted =>
        obtain ⟨decision, gate'⟩ := admitted
        obtain ⟨⟨stored', result', after'⟩, hcommit, h⟩ := bind_eq_ok.mp h
        have heq := Prod.mk.inj (Except.ok.inj h)
        have hrest := Prod.mk.inj heq.2
        have hafter := (Prod.mk.inj hrest.2).2
        obtain ⟨hname, hput, -⟩ := commitPut_eq_ok.mp hcommit
        rcases MemoryState.putPending_eq_ok.mp hput with ⟨-, hfalse, -⟩ | ⟨hnew, hadmits, -, hstate⟩
        · rw [hfalse] at hrest
          simp at hrest
        · rw [← heq.1, ← hafter]
          exact ⟨decision, admitPut_eq_inr.mp hadmit, hname, hnew, hadmits, hstate⟩
  · rintro ⟨decision, hadmitted, hname, hnew, hadmits, rfl⟩
    have hput := MemoryState.putPending_of_admits hnew hadmits (service.putSha256 rt request)
      (service.putReceipt rt request (operationOf request) decision).text
    have hcommit := commitPut_eq_ok.mpr ⟨hname, hput, rfl⟩
    exact ⟨_, putWith_of_commitPut hadmitted hcommit⟩

/-- A `put` leaves the store alone or stores a revision. -/
theorem afterPut_cases (rt : MemoryRuntime) (service : GovernedMemoryService)
    (state : MemoryState) (request : PutRequest) :
    service.afterPut rt state request = state ∨
      ∃ gate, Stores rt service state request gate (service.afterPut rt state request) := by
  unfold afterPut
  split
  · rename_i result after hput
    unfold put at hput
    obtain ⟨⟨gate, stored, result', after'⟩, hwith, h⟩ := bind_eq_ok.mp hput
    have heq := Prod.mk.inj (Except.ok.inj h)
    obtain ⟨rfl, rfl⟩ := heq
    cases stored with
    | true => exact .inr ⟨gate, result', hwith⟩
    | false =>
        left
        unfold putWith at hwith
        obtain ⟨admission, -, hwith⟩ := bind_eq_ok.mp hwith
        cases admission with
        | inl refused =>
            have heq := Prod.mk.inj (Except.ok.inj hwith)
            exact (Prod.mk.inj (Prod.mk.inj heq.2).2).2.symm
        | inr admitted =>
            obtain ⟨⟨stored', result'', after''⟩, hcommit, hwith⟩ := bind_eq_ok.mp hwith
            have heq := Prod.mk.inj (Except.ok.inj hwith)
            have hrest := Prod.mk.inj heq.2
            have hafter := (Prod.mk.inj hrest.2).2
            have hput := (commitPut_eq_ok.mp hcommit).2.1
            rcases MemoryState.putPending_eq_ok.mp hput with ⟨-, -, hstate⟩ | ⟨-, -, htrue, -⟩
            · rw [← hafter, hstate]
            · rw [htrue] at hrest
              simp at hrest
  · exact .inl rfl

theorem Stores.accepted {gate : Option ReconsolidationGateDecision}
    (h : Stores rt service state request gate state') : Accepted rt service state request := by
  obtain ⟨decision, hadmitted, hname, hnew, hadmits, -⟩ := stores_iff.mp h
  exact accepted_iff_passesChecks.mpr ⟨hname, .inr ⟨hnew, hadmits⟩, decision, gate, hadmitted⟩

/-- A `delete` leaves the store alone or buries a record that is live. -/
theorem afterDelete_cases (rt : MemoryRuntime) (service : GovernedMemoryService)
    (state : MemoryState) (request : DeleteRequest) :
    service.afterDelete rt state request = state ∨
      ∃ deletedAt requestSha256 receiptJson head,
        state.outboxRow request.operationId = none ∧
        state.heads.get? request.recordId = some head ∧
        service.afterDelete rt state request = state.insertRemoval request.recordId
          request.operationId deletedAt requestSha256 receiptJson head := by
  unfold afterDelete
  split
  · rename_i result after hdelete
    unfold delete at hdelete
    obtain ⟨resolved, -, h⟩ := bind_eq_ok.mp hdelete
    cases resolved with
    | none => exact .inl (Prod.mk.inj (Except.ok.inj h)).2.symm
    | some decision =>
        obtain ⟨found, -, h⟩ := bind_eq_ok.mp h
        cases found with
        | none => exact .inl (Prod.mk.inj (Except.ok.inj h)).2.symm
        | some current =>
            dsimp only at h
            split at h
            · exact .inl (Prod.mk.inj (Except.ok.inj h)).2.symm
            · obtain ⟨⟨stored, after'⟩, hstore, h⟩ := bind_eq_ok.mp h
              have hafter := (Prod.mk.inj (Except.ok.inj h)).2
              rcases MemoryState.delete_eq_ok.mp hstore with
                ⟨-, -, hsame⟩ | ⟨hnew, -, head, hhead, hrows⟩
              · exact .inl (hafter.symm.trans hsame)
              · exact .inr ⟨_, _, _, head, hnew, hhead, hafter.symm.trans hrows⟩
  · exact .inl rfl

theorem reached_afterPut (h : MemoryState.Reached rt state) (service : GovernedMemoryService)
    (request : PutRequest) :
    MemoryState.Reached rt (service.afterPut rt state request) := by
  rcases afterPut_cases rt service state request with hsame | ⟨gate, hstores⟩
  · rw [hsame]
    exact h
  · obtain ⟨decision, -, -, hnew, hadmits, hafter⟩ := stores_iff.mp hstores
    rw [hafter]
    exact h.put (MemoryState.putPending_of_admits hnew hadmits _ _)

end GovernedMemoryService

end PhiOS
