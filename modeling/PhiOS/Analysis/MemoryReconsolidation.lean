import PhiOS.Analysis.MemoryPuts

/-!
# Stale heads and the time a record gives itself

`get` asks for the age of a record at the time of the clock, `put` asks for the age of the head at
the time that the new record gives as its creation. The two agree on a head that is stale by the
clock only where the new record's own time makes it stale as well.
-/

set_option autoImplicit false

namespace PhiOS

namespace EvidenceHorizonPolicy

variable {rt : MemoryRuntime} {horizon : EvidenceHorizonPolicy} {record : MemoryRecord}

/-- A record is older at an instant than it may be to be served as context. -/
def StaleAt (rt : MemoryRuntime) (horizon : EvidenceHorizonPolicy) (record : MemoryRecord)
    (t : ℤ) : Prop :=
  ∃ created, EvidenceHorizon.parseTime rt record.createdAt "record.created_at" = .ok created ∧
    horizon.maxContextAgeSeconds < rt.totalSeconds (t - created)

/-- An instant is not past the end of the reactivation window of a record. -/
def WindowOpenAt (rt : MemoryRuntime) (horizon : EvidenceHorizonPolicy) (record : MemoryRecord)
    (t : ℤ) : Prop :=
  ∃ created, EvidenceHorizon.parseTime rt record.createdAt "record.created_at" = .ok created ∧
    rt.totalSeconds (t - created) ≤
      rt.floatAdd horizon.maxContextAgeSeconds horizon.reactivationWindowSeconds

/-- An evaluation reads the two times, and its statuses follow from the age. -/
theorem evaluate_eq_ok {evaluatedAtUtc : String} {evaluation : EvidenceHorizonEvaluation}
    (h : horizon.evaluate rt record evaluatedAtUtc = .ok evaluation) :
    ∃ created evaluated,
      EvidenceHorizon.parseTime rt record.createdAt "record.created_at" = .ok created ∧
      EvidenceHorizon.parseTime rt evaluatedAtUtc "evaluated_at_utc" = .ok evaluated ∧
      (evaluation.horizon.readableAsContext = true ↔
        rt.totalSeconds (evaluated - created) ≤ horizon.maxContextAgeSeconds) := by
  unfold evaluate at h
  obtain ⟨created, hcreated, h⟩ := bind_eq_ok.mp h
  obtain ⟨evaluated, hevaluated, h⟩ := bind_eq_ok.mp h
  obtain ⟨_, -, h⟩ := bind_eq_ok.mp h
  obtain ⟨reactivation, -, h⟩ := bind_eq_ok.mp h
  refine ⟨created, evaluated, hcreated, hevaluated, ?_⟩
  have heq := Except.ok.inj h
  rw [← heq]
  simp only [statusAt]
  split
  · simp_all
  · rename_i hold
    split <;> simp_all

end EvidenceHorizonPolicy

namespace ReconsolidationGate

variable {rt : MemoryRuntime} {previous candidate : MemoryRecord} {evidenceRefs : List String}
  {decision : ReconsolidationGateDecision}

/-- The gate accepts a revision only with provenance that the head did not have.
SOURCE: horizon.py:404-435 -/
theorem fresh_of_accepted (h : evaluate rt previous candidate evidenceRefs = .ok decision)
    (haccepted : decision.accepted = true) :
    ∃ ref ∈ decision.freshProvenanceRefs,
      ref ∈ candidate.provenanceRefs ∧ ref ∉ previous.provenanceRefs := by
  unfold evaluate at h
  obtain ⟨freshRefs, -, h⟩ := bind_eq_ok.mp h
  obtain ⟨blocked, hblocked, h⟩ := bind_eq_ok.mp h
  have heq := Except.ok.inj h
  rw [← heq] at haccepted ⊢
  have hnone : blocked = none := by
    cases blocked with
    | none => rfl
    | some reason => simp [ReconsolidationGateDecision.accepted] at haccepted
  rw [hnone] at hblocked
  unfold blockedBy at hblocked
  split at hblocked
  · simp [pure, Except.pure] at hblocked
  split at hblocked
  · simp [pure, Except.pure] at hblocked
  obtain ⟨candidateTime, -, hblocked⟩ := bind_eq_ok.mp hblocked
  obtain ⟨previousTime, -, hblocked⟩ := bind_eq_ok.mp hblocked
  have hchecks := Except.ok.inj hblocked
  split at hchecks
  · cases hchecks
  split at hchecks
  · cases hchecks
  split at hchecks
  · cases hchecks
  rename_i hbound
  split at hchecks
  · cases hchecks
  rename_i hfresh
  have hbound : freshRefs ⊆ candidate.provenanceRefs := by simpa using hbound
  obtain ⟨ref, hmem, hnew⟩ : ∃ ref ∈ freshRefs, ref ∉ previous.provenanceRefs := by
    by_contra hall
    push Not at hall
    exact hfresh hall
  exact ⟨ref, hmem, hbound hmem, hnew⟩

end ReconsolidationGate

namespace GovernedMemoryService

open EvidenceHorizonPolicy

variable {rt : MemoryRuntime} {service : GovernedMemoryService} {state state' : MemoryState}
  {request : PutRequest} {horizon : EvidenceHorizonPolicy} {head : MemoryRecord}
  {gate : Option ReconsolidationGateDecision}

/-- The gate accepted the revision of a head with provenance that the head did not have, inside the
head's reactivation window. -/
def ReconsolidatedAt (rt : MemoryRuntime) (horizon : EvidenceHorizonPolicy) (request : PutRequest)
    (gate : Option ReconsolidationGateDecision) (head : MemoryRecord) (t : ℤ) : Prop :=
  (∃ decision, gate = some decision ∧
    ReconsolidationGate.evaluate rt head request.record request.reconsolidationEvidenceRefs =
      .ok decision ∧
    decision.accepted = true ∧
    ∃ ref ∈ decision.freshProvenanceRefs,
      ref ∈ request.record.provenanceRefs ∧ ref ∉ head.provenanceRefs) ∧
  WindowOpenAt rt horizon head t

/-- At the time that the new record gives as its creation, the head is live and stale. -/
def StaleByItsOwnTime (rt : MemoryRuntime) (horizon : EvidenceHorizonPolicy) (state : MemoryState)
    (record head : MemoryRecord) : Prop :=
  previousOf rt state record = .ok (some head) ∧
    ∃ created, EvidenceHorizon.parseTime rt record.createdAt "evaluated_at_utc" = .ok created ∧
      StaleAt rt horizon head created

theorem eq_readableHead_of_get {id : String} {t : ℤ} {record : MemoryRecord}
    (h : state.get rt id t = .ok (some record)) : state.readableHead id = some record := by
  unfold MemoryState.get MemoryState.liveRecord at h
  split at h
  · cases h
  · rename_i stored hstored
    unfold MemoryRecord.liveAt at h
    obtain ⟨expired, -, h⟩ := bind_eq_ok.mp h
    split at h
    · simp [pure, Except.pure] at h
    · obtain ⟨record', hrecord', h⟩ := bind_eq_ok.mp h
      have heq := MemoryRecord.eq_of_fromPayload hrecord'
      have hsome := Option.some.inj (Except.ok.inj h)
      rw [hstored, ← hsome, heq]

/-- Where `put` finds a head that is stale at the new record's time, it has asked the
gate, and the gate has accepted.
SOURCE: service.py:147-177 -/
theorem gate_of_reconsolidate {evidenceRefs : List String} {record previous : MemoryRecord}
    (hhorizon : service.evidenceHorizon = some horizon)
    (h : service.reconsolidate rt record evidenceRefs (some previous) = .ok (.ok gate)) :
    ∃ created evaluated,
      EvidenceHorizon.parseTime rt previous.createdAt "record.created_at" = .ok created ∧
      EvidenceHorizon.parseTime rt record.createdAt "evaluated_at_utc" = .ok evaluated ∧
      ((gate = none ∧
          rt.totalSeconds (evaluated - created) ≤ horizon.maxContextAgeSeconds) ∨
        (horizon.maxContextAgeSeconds < rt.totalSeconds (evaluated - created) ∧
          ∃ decision, gate = some decision ∧
            ReconsolidationGate.evaluate rt previous record evidenceRefs = .ok decision ∧
            decision.accepted = true)) := by
  unfold reconsolidate at h
  dsimp only at h
  rw [hhorizon] at h
  obtain ⟨prior, hprior, h⟩ := bind_eq_ok.mp h
  obtain ⟨created, evaluated, hcreated, hevaluated, hreadable⟩ := evaluate_eq_ok hprior
  refine ⟨created, evaluated, hcreated, hevaluated, ?_⟩
  split at h
  · rename_i htrue
    have hgate := Except.ok.inj (Except.ok.inj h)
    exact .inl ⟨hgate.symm, hreadable.mp htrue⟩
  · simp [pure, Except.pure] at h
  · rename_i reactivation hfalse _
    split at h
    · simp [pure, Except.pure] at h
    · obtain ⟨decision, hdecision, h⟩ := bind_eq_ok.mp h
      have hanswer := Except.ok.inj h
      split at hanswer
      · rename_i haccepted
        have hgate := Except.ok.inj hanswer
        have hold : ¬ rt.totalSeconds (evaluated - created) ≤ horizon.maxContextAgeSeconds := by
          intro hyoung
          rw [hreadable.mpr hyoung] at hfalse
          cases hfalse
        exact .inr ⟨Rat.not_le.mp hold, decision, hgate.symm, hdecision, haccepted⟩
      · cases hanswer

/-- A stored revision of a live head passed the gate exactly where the head is live and
stale at the time that the new record gives as its creation. -/
theorem reconsolidatedAt_iff {t : ℤ} (hhorizon : service.evidenceHorizon = some horizon)
    (hstores : Stores rt service state request gate state')
    (hlive : state.get rt request.record.recordId t = .ok (some head)) :
    ReconsolidatedAt rt horizon request gate head t ↔
      StaleByItsOwnTime rt horizon state request.record head ∧ WindowOpenAt rt horizon head t := by
  obtain ⟨decision, hadmitted, -⟩ := stores_iff.mp hstores
  obtain ⟨previous, hprevious, hanswer⟩ := hadmitted.horizon
  constructor
  · rintro ⟨⟨accepted, hgate, -, -, -⟩, hwindow⟩
    refine ⟨?_, hwindow⟩
    cases previous with
    | none =>
        have hnone : gate = none := (Except.ok.inj (Except.ok.inj hanswer)).symm
        rw [hnone] at hgate
        cases hgate
    | some previous =>
        have hsame : previous = head := by
          obtain ⟨seenAt, -, hseen⟩ := bind_eq_ok.mp hprevious
          have hstored := eq_readableHead_of_get hseen
          rw [eq_readableHead_of_get hlive] at hstored
          exact (Option.some.inj hstored).symm
        rw [hsame] at hprevious hanswer
        obtain ⟨created, evaluated, hcreated, hevaluated, hcases⟩ :=
          gate_of_reconsolidate hhorizon hanswer
        rcases hcases with ⟨hnone, -⟩ | ⟨hold, -⟩
        · rw [hnone] at hgate
          cases hgate
        · exact ⟨hprevious, evaluated, hevaluated, created, hcreated, hold⟩
  · rintro ⟨⟨hseen, claimed, hclaimed, created, hcreated, hold⟩, hwindow⟩
    refine ⟨?_, hwindow⟩
    have hsame : previous = some head := Except.ok.inj (hprevious.symm.trans hseen)
    rw [hsame] at hanswer
    obtain ⟨created', evaluated, hcreated', hevaluated, hcases⟩ :=
      gate_of_reconsolidate hhorizon hanswer
    have hcreated_eq : created' = created := Except.ok.inj (hcreated'.symm.trans hcreated)
    have hclaimed_eq : evaluated = claimed := Except.ok.inj (hevaluated.symm.trans hclaimed)
    rcases hcases with ⟨-, hyoung⟩ | ⟨-, accepted, hgate, hevaluate, haccepted⟩
    · rw [hcreated_eq, hclaimed_eq] at hyoung
      exact absurd hyoung (Rat.not_le.mpr hold)
    · exact ⟨accepted, hgate, hevaluate, haccepted,
        ReconsolidationGate.fresh_of_accepted hevaluate haccepted⟩

/-- MAIN: **A stale head is reconsolidated exactly where the new record's own time says so.** Of a
`put` that stores a revision of a memory with a live head: if the head is stale by the clock, then
the gate accepted the revision with fresh provenance inside the reactivation window. That holds if
and only if the head is not stale by the clock, or it is live and stale at the time that the new
record gives as its creation and the clock is inside the window. -/
theorem stale_head_reconsolidated_iff {t : ℤ} (hhorizon : service.evidenceHorizon = some horizon)
    (hstores : Stores rt service state request gate state')
    (hlive : state.get rt request.record.recordId t = .ok (some head)) :
    (StaleAt rt horizon head t → ReconsolidatedAt rt horizon request gate head t) ↔
      (¬ StaleAt rt horizon head t ∨
        (StaleByItsOwnTime rt horizon state request.record head ∧
          WindowOpenAt rt horizon head t)) := by
  have hiff := reconsolidatedAt_iff hhorizon hstores hlive
  constructor
  · intro h
    by_cases hstale : StaleAt rt horizon head t
    · exact .inr (hiff.mp (h hstale))
    · exact .inl hstale
  · rintro (hyoung | hown) hstale
    · exact absurd hstale hyoung
    · exact hiff.mpr hown

/-! ## A backdated revision -/

/-- A service whose memories may be served for ten microseconds and reactivated for five more. -/
def shortHorizon : EvidenceHorizonPolicy := ⟨"policy", "v1", 10, 5⟩

def horizonService : GovernedMemoryService where
  policy := { rules := [{ principalId := "ann", scopes := ["ann"], classifications := ["operator"] }] }
  evidenceHorizon := some shortHorizon

/-- Ann's `put` of a revision that says when it was created. -/
def datedPut (revision : ℕ) (createdAt operationId : String) (evidenceRefs : List String) :
    PutRequest where
  record := plainMemoryRecord "memory" revision "ann" createdAt
  principalId := "ann"
  taskId := "task"
  authority := ⟨["memory.write"], ["memory.write"]⟩
  operationId := operationId
  reconsolidationEvidenceRefs := evidenceRefs

/-- Ann's record, created at the first microsecond, stored and published. -/
def datedStore : Except PyError MemoryState :=
  (horizonService.afterPut unaryMemoryRuntime .empty (datedPut 1 "I" "op-1" [])).markReceiptPublished
    unaryMemoryRuntime "op-1"

/-- A revision that says it was created two microseconds after the head. -/
def backdatedPut : PutRequest := datedPut 2 "III" "op-2" []

/-- A revision that says it was created inside the reactivation window. -/
def windowPut : PutRequest := datedPut 2 "IIIIIIIIIIIII" "op-2" ["evidence:2"]

theorem datedStore_runs :
    ∃ state, datedStore = .ok state ∧
      state.get unaryMemoryRuntime "memory" 100 =
        .ok (some (plainMemoryRecord "memory" 1 "ann" "I")) ∧
      state.get unaryMemoryRuntime "memory" 14 =
        .ok (some (plainMemoryRecord "memory" 1 "ann" "I")) ∧
      previousOf unaryMemoryRuntime state windowPut.record =
        .ok (some (plainMemoryRecord "memory" 1 "ann" "I")) ∧
      (horizonService.putWith unaryMemoryRuntime state backdatedPut).toOption.any (fun done =>
        done.1.isNone && done.2.1) = true ∧
      (horizonService.putWith unaryMemoryRuntime state windowPut).toOption.any (fun done =>
        done.2.1) = true := by
  apply exists_ok_of_decide
  decide +kernel

theorem parseTime_head :
    EvidenceHorizon.parseTime unaryMemoryRuntime
      (plainMemoryRecord "memory" 1 "ann" "I").createdAt "record.created_at" = .ok 1 := by
  decide +kernel

/-- WITNESS: A revision created inside the window is accepted by the gate. -/
theorem window_put_reconsolidated :
    ∃ state gate after, datedStore = .ok state ∧
      Stores unaryMemoryRuntime horizonService state windowPut gate after ∧
      ReconsolidatedAt unaryMemoryRuntime shortHorizon windowPut gate
        (plainMemoryRecord "memory" 1 "ann" "I") 14 := by
  obtain ⟨state, hstore, -, hlive, hprevious, -, hput⟩ := datedStore_runs
  cases hdone : horizonService.putWith unaryMemoryRuntime state windowPut with
  | error e =>
      rw [hdone] at hput
      cases hput
  | ok done =>
      obtain ⟨gate, stored, result, after⟩ := done
      rw [hdone] at hput
      have hstored : stored = true := hput
      rw [hstored] at hdone
      have hstores : Stores unaryMemoryRuntime horizonService state windowPut gate after :=
        ⟨result, hdone⟩
      refine ⟨state, gate, after, hstore, hstores, ?_⟩
      have hstale : StaleAt unaryMemoryRuntime shortHorizon
          (plainMemoryRecord "memory" 1 "ann" "I") 14 := ⟨1, parseTime_head, by decide +kernel⟩
      apply (stale_head_reconsolidated_iff rfl hstores hlive).mpr _ hstale
      refine .inr ⟨⟨hprevious, 13, by decide +kernel, 1, parseTime_head, by decide +kernel⟩, ?_⟩
      exact ⟨1, parseTime_head, by decide +kernel⟩

/-- COUNTEREXAMPLE: A hundred microseconds on, the head is far outside its horizon; a revision that
says it was created two microseconds after it is stored, and the gate is not asked. -/
theorem backdated_put_skips_gate :
    ∃ state gate after, MemoryState.Reached unaryMemoryRuntime state ∧
      Stores unaryMemoryRuntime horizonService state backdatedPut gate after ∧
      state.get unaryMemoryRuntime "memory" 100 =
        .ok (some (plainMemoryRecord "memory" 1 "ann" "I")) ∧
      StaleAt unaryMemoryRuntime shortHorizon (plainMemoryRecord "memory" 1 "ann" "I") 100 ∧
      ¬ ReconsolidatedAt unaryMemoryRuntime shortHorizon backdatedPut gate
        (plainMemoryRecord "memory" 1 "ann" "I") 100 := by
  obtain ⟨state, hstore, hlive, -, -, hput, -⟩ := datedStore_runs
  cases hdone : horizonService.putWith unaryMemoryRuntime state backdatedPut with
  | error e =>
      rw [hdone] at hput
      cases hput
  | ok done =>
      obtain ⟨gate, stored, result, after⟩ := done
      rw [hdone] at hput
      have hboth : (gate.isNone && stored) = true := hput
      obtain ⟨hnone, hstored⟩ := Bool.and_eq_true_iff.mp hboth
      rw [hstored] at hdone
      have hempty : MemoryState.Reached unaryMemoryRuntime .empty := .empty
      have hfirst := reached_afterPut hempty horizonService (datedPut 1 "I" "op-1" [])
      refine ⟨state, gate, after, hfirst.publish hstore, ⟨result, hdone⟩, hlive,
        ⟨1, parseTime_head, by decide +kernel⟩, ?_⟩
      rintro ⟨⟨decision, hgate, -⟩, -⟩
      rw [hgate] at hnone
      cases hnone

end GovernedMemoryService

end PhiOS
