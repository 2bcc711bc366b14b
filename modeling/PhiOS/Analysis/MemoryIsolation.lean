import PhiOS.Analysis.MemoryPuts

/-!
# Scopes and writers

`put` asks the policy about the record it is given, not about the record whose name that takes.
-/

set_option autoImplicit false

namespace PhiOS

/-- The policy gives a principal the scope and the classification of a record. -/
def MemoryAccessPolicy.covers (policy : MemoryAccessPolicy) (principalId : String)
    (record : MemoryRecord) : Bool :=
  match policy.ruleOf (strip principalId) with
  | some rule => rule.scopes.contains record.scopeId &&
      rule.classifications.contains record.classification
  | none => false

/-- A decision permits what the rule of its principal covers. -/
theorem MemoryAccessPolicy.permits_of_resolve {rt : MemoryRuntime} {policy : MemoryAccessPolicy}
    {principalId taskId operation : String} {authority : AuthorityContext}
    {decision : MemoryAccessDecision}
    (h : policy.resolve rt principalId taskId operation authority = .ok (some decision))
    (record : MemoryRecord) : decision.permits record = policy.covers principalId record := by
  unfold resolve MemoryValidation.requireNonempty requireStripped at h
  obtain ⟨principal, hprincipal, h⟩ := bind_eq_ok.mp h
  obtain ⟨_, _, h⟩ := ok_past_two h
  split at hprincipal
  · cases hprincipal
  have hstrip : strip principalId = principal := Except.ok.inj hprincipal
  unfold covers
  rw [hstrip]
  split at h
  · rename_i rule _ hrule
    rw [hrule]
    split at h
    · have heq := Option.some.inj (Except.ok.inj h)
      rw [← heq]
      rfl
    · simp [pure, Except.pure] at h
  · simp [pure, Except.pure] at h

namespace MemoryState

open KeyOrder

variable {rt : MemoryRuntime} {state state' : MemoryState} {id : String}

/-- The record at the head of a memory that was not deleted, published or not. -/
def headRecord (state : MemoryState) (recordId : String) : Option MemoryRecord :=
  match state.heads.get? recordId, state.tombstones.get? recordId with
  | some head, none => state.row recordId head.revision
  | _, _ => none

/-- Two stores have the same rows about a memory. -/
structure AgreesOn (id : String) (state state' : MemoryState) : Prop where
  head : state'.heads.get? id = state.heads.get? id
  tombstone : state'.tombstones.get? id = state.tombstones.get? id
  row : ∀ revision, state'.row id revision = state.row id revision

theorem AgreesOn.refl (state : MemoryState) : AgreesOn id state state := ⟨rfl, rfl, fun _ => rfl⟩

theorem AgreesOn.trans {state'' : MemoryState} (h : AgreesOn id state state')
    (h' : AgreesOn id state' state'') : AgreesOn id state state'' where
  head := h'.head.trans h.head
  tombstone := h'.tombstone.trans h.tombstone
  row := fun revision => (h'.row revision).trans (h.row revision)

theorem AgreesOn.readableHead (h : AgreesOn id state state') :
    state'.readableHead id = state.readableHead id := by
  unfold MemoryState.readableHead
  rw [h.head, h.tombstone]
  split
  · rw [h.row]
  · rfl

theorem AgreesOn.headRecord (h : AgreesOn id state state') :
    state'.headRecord id = state.headRecord id := by
  unfold MemoryState.headRecord
  rw [h.head, h.tombstone]
  split
  · rw [h.row]
  · rfl

theorem agreesOn_insertRevision {record : MemoryRecord} {operationId requestSha256 : String}
    {receiptJson : ReceiptText} (hne : record.recordId ≠ id) :
    AgreesOn id state (state.insertRevision record operationId requestSha256 receiptJson) where
  head := by
    rw [heads_insertRevision, Dict.get?_set, if_neg (Ne.symm hne)]
  tombstone := by
    rw [tombstones_insertRevision]
  row := row_insertRevision_of_ne hne

end MemoryState

namespace GovernedMemoryService

variable {rt : MemoryRuntime} {service : GovernedMemoryService} {state state' : MemoryState}

/-- The decision on a `put` permits the head that the memory has. -/
def HeadPermitted (rt : MemoryRuntime) (service : GovernedMemoryService) (state : MemoryState)
    (request : PutRequest) : Prop :=
  ∀ decision, service.writeDecision rt request = .ok (some decision) →
    ∀ head, state.headRecord request.record.recordId = some head → decision.permits head = true

/-- The store after a sequence of puts. -/
def afterPuts (rt : MemoryRuntime) (service : GovernedMemoryService) (state : MemoryState)
    (requests : List PutRequest) : MemoryState :=
  requests.foldl (fun state request => service.afterPut rt state request) state

@[simp] theorem afterPuts_cons {request : PutRequest} {requests : List PutRequest} :
    service.afterPuts rt state (request :: requests) =
      service.afterPuts rt (service.afterPut rt state request) requests := rfl

/-- Every put of a sequence finds a head it is permitted, or one of its own checks refuses it. -/
def KeepsToItsHeads (rt : MemoryRuntime) (service : GovernedMemoryService) :
    MemoryState → List PutRequest → Prop
  | _, [] => True
  | state, request :: requests =>
      (HeadPermitted rt service state request ∨ ¬ PassesChecks rt service state request) ∧
        KeepsToItsHeads rt service (service.afterPut rt state request) requests

theorem get_of_agreesOn {request : GetRequest}
    (h : MemoryState.AgreesOn request.recordId state state') :
    service.get rt state' request = service.get rt state request := by
  unfold get MemoryState.get
  rw [h.readableHead]

/-- One put by a principal leaves a memory alone whose head it does not cover. -/
theorem agreesOn_afterPut {request : PutRequest} {id : String} {head : MemoryRecord}
    (hkeeps : HeadPermitted rt service state request ∨ ¬ PassesChecks rt service state request)
    (hhead : state.headRecord id = some head)
    (houtside : service.policy.covers request.principalId head = false) :
    MemoryState.AgreesOn id state (service.afterPut rt state request) := by
  rcases afterPut_cases rt service state request with hsame | ⟨gate, hstores⟩
  · rw [hsame]
    exact .refl state
  · obtain ⟨decision, hadmitted, -, -, -, hafter⟩ := stores_iff.mp hstores
    have hother : request.record.recordId ≠ id := by
      intro heq
      rcases hkeeps with hpermitted | hrefused
      · have hpermits := hpermitted decision hadmitted.resolved head (by rw [heq]; exact hhead)
        have hcovers := MemoryAccessPolicy.permits_of_resolve hadmitted.resolved head
        rw [hcovers, houtside] at hpermits
        cases hpermits
      · exact hrefused (accepted_iff_passesChecks.mp hstores.accepted)
    rw [hafter]
    exact MemoryState.agreesOn_insertRevision hother

/-- The same of a sequence of puts. -/
theorem agreesOn_afterPuts {principalId id : String} {head : MemoryRecord}
    (requests : List PutRequest) {state : MemoryState}
    (hprincipal : ∀ request ∈ requests, request.principalId = principalId)
    (hkeeps : KeepsToItsHeads rt service state requests)
    (hhead : state.headRecord id = some head)
    (houtside : service.policy.covers principalId head = false) :
    MemoryState.AgreesOn id state (service.afterPuts rt state requests) := by
  induction requests generalizing state with
  | nil => exact .refl state
  | cons request requests ih =>
      obtain ⟨hfirst, hrest⟩ := hkeeps
      have hsame : request.principalId = principalId := hprincipal request List.mem_cons_self
      have hone : MemoryState.AgreesOn id state (service.afterPut rt state request) := by
        apply agreesOn_afterPut hfirst hhead
        rw [hsame]
        exact houtside
      have hlater : ∀ request ∈ requests, request.principalId = principalId :=
        fun r hr => hprincipal r (List.mem_cons_of_mem _ hr)
      have hmany := ih hlater hrest (by rw [hone.headRecord]; exact hhead)
      rw [afterPuts_cons]
      exact hone.trans hmany

/-- MAIN: **A `put` respects the scope of the head it replaces exactly where one of its own checks
does.** An accepted `put` has a permitted head if and only if the head is permitted or a check that
does not look at the head's scope refuses the `put`; and while every `put` of a principal is of
that kind, none changes what `get` returns of a record outside the principal's scopes and
classifications. -/
theorem put_respects_heads_iff (rt : MemoryRuntime) (service : GovernedMemoryService) :
    (∀ state request,
      (Accepted rt service state request → HeadPermitted rt service state request) ↔
        (HeadPermitted rt service state request ∨ ¬ PassesChecks rt service state request)) ∧
    (∀ principalId requests state,
      (∀ request ∈ requests, request.principalId = principalId) →
      KeepsToItsHeads rt service state requests →
      ∀ id head, state.headRecord id = some head →
        service.policy.covers principalId head = false →
        ∀ request : GetRequest, request.recordId = id →
          service.get rt (service.afterPuts rt state requests) request =
            service.get rt state request) := by
  constructor
  · intro state request
    rw [accepted_iff_passesChecks]
    constructor
    · intro h
      by_cases hpasses : PassesChecks rt service state request
      · exact .inl (h hpasses)
      · exact .inr hpasses
    · intro h hpasses
      rcases h with hpermitted | hrefused
      · exact hpermitted
      · exact absurd hpasses hrefused
  · intro principalId requests state hprincipal hkeeps id head hhead houtside request hid
    have hagrees := agreesOn_afterPuts requests hprincipal hkeeps hhead houtside
    rw [← hid] at hagrees
    exact get_of_agreesOn hagrees

/-! ## A foreign head -/

/-- Two principals, each with a scope of its own. -/
def twoScopes : GovernedMemoryService where
  policy := { rules := [{ principalId := "ann", scopes := ["ann"], classifications := ["operator"] },
    { principalId := "bob", scopes := ["bob"], classifications := ["operator"] }] }

/-- A `put` of a principal in its own scope. -/
def plainPut (recordId : String) (revision : ℕ) (principalId operationId : String) : PutRequest where
  record := plainMemoryRecord recordId revision principalId "II"
  principalId := principalId
  taskId := "task"
  authority := ⟨["memory.write", "memory.read"], ["memory.write", "memory.read"]⟩
  operationId := operationId

/-- Ann's record, stored and published. -/
def annsStore : Except PyError MemoryState :=
  (twoScopes.afterPut unaryMemoryRuntime .empty (plainPut "memory" 1 "ann" "op-1")).markReceiptPublished
    unaryMemoryRuntime "op-1"

/-- Bob's put of the next revision of it. -/
def bobsPut : PutRequest := plainPut "memory" 2 "bob" "op-2"

/-- A `get` of that record by its owner. -/
def annsGet : GetRequest where
  recordId := "memory"
  principalId := "ann"
  taskId := "task"
  authority := ⟨["memory.write", "memory.read"], ["memory.write", "memory.read"]⟩
  readAt := 4
  evaluatedAt := 4

theorem annsStore_runs :
    ∃ state, annsStore = .ok state ∧
      state.headRecord "memory" = some (plainMemoryRecord "memory" 1 "ann" "II") ∧
      state.headRecord "other" = none ∧
      (twoScopes.put unaryMemoryRuntime state bobsPut).toOption.map (·.1.status) = some .ok ∧
      (twoScopes.get unaryMemoryRuntime state annsGet).toOption.map (·.status) = some .ok ∧
      (twoScopes.get unaryMemoryRuntime (twoScopes.afterPuts unaryMemoryRuntime state [bobsPut])
        annsGet).toOption.map (·.status) = some .unavailable := by
  apply exists_ok_of_decide
  decide +kernel

/-- WITNESS: Bob's put of a record of his own leaves Ann's alone. -/
theorem own_put_keeps_record :
    ∃ state, annsStore = .ok state ∧
      twoScopes.get unaryMemoryRuntime (twoScopes.afterPuts unaryMemoryRuntime state
        [plainPut "other" 1 "bob" "op-2"]) annsGet =
      twoScopes.get unaryMemoryRuntime state annsGet := by
  obtain ⟨state, hstore, hann, hfree, -⟩ := annsStore_runs
  refine ⟨state, hstore, ?_⟩
  refine (put_respects_heads_iff unaryMemoryRuntime twoScopes).2 "bob"
    [plainPut "other" 1 "bob" "op-2"] state ?_ ⟨.inl ?_, trivial⟩ "memory" _
    hann (by decide +kernel) annsGet rfl
  · intro request hrequest
    rw [List.mem_singleton.mp hrequest]
    rfl
  · intro decision _ head hhead
    rw [show (plainPut "other" 1 "bob" "op-2").record.recordId = "other" from rfl, hfree] at hhead
    cases hhead

/-- COUNTEREXAMPLE: Bob, who has another scope, puts the next revision of Ann's published record;
the put is accepted, and Ann's `get`, which returned the record, finds nothing. -/
theorem foreign_put_hides_record :
    ∃ state, MemoryState.Reached unaryMemoryRuntime state ∧
      Accepted unaryMemoryRuntime twoScopes state bobsPut ∧
      ¬ HeadPermitted unaryMemoryRuntime twoScopes state bobsPut ∧
      (twoScopes.get unaryMemoryRuntime state annsGet).toOption.map (·.status) = some .ok ∧
      (twoScopes.get unaryMemoryRuntime (twoScopes.afterPuts unaryMemoryRuntime state [bobsPut])
        annsGet).toOption.map (·.status) = some .unavailable := by
  obtain ⟨state, hstore, hann, -, hput, hget, hafter⟩ := annsStore_runs
  have hempty : MemoryState.Reached unaryMemoryRuntime .empty := .empty
  have hfirst := reached_afterPut hempty twoScopes (plainPut "memory" 1 "ann" "op-1")
  refine ⟨state, hfirst.publish hstore, ?_, ?_, hget, hafter⟩
  · cases h : twoScopes.put unaryMemoryRuntime state bobsPut with
    | ok done =>
        obtain ⟨result, after⟩ := done
        rw [h] at hput
        exact ⟨result, after, h, Option.some.inj hput⟩
    | error e =>
        rw [h] at hput
        cases hput
  · intro hpermitted
    have hdecision : twoScopes.writeDecision unaryMemoryRuntime bobsPut = .ok (some
        { principalId := "bob", taskId := "task", operation := "memory.write"
          allowedScopes := ["bob"], allowedClassifications := ["operator"]
          policySha256 := "digest" }) := by
      decide +kernel
    have hpermits := hpermitted _ hdecision _ hann
    revert hpermits
    decide +kernel

end GovernedMemoryService

end PhiOS
