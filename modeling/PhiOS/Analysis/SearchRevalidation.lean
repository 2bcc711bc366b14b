import PhiOS.Analysis.IndexedMemories
import PhiOS.Analysis.MemoryReconsolidation
import PhiOS.Model.SemanticSearch

/-!
# What a search returns

Every hit is a live head when it is read back, and the decision permits it. The horizon, the limit
and the other hits are not asked again: whether the hits keep to them is up to the candidates that
the index returns.
-/

set_option autoImplicit false

namespace PhiOS

open KeyOrder

namespace GovernedMemoryService

variable {rt : MemoryRuntime} {service : GovernedMemoryService} {index : RetrievalIndex}
  {env : SearchEnvironment} {request : SearchRequest} {result : SearchResult}
  {state' : MemoryState}

/-! ## Hits and candidates -/

/-- A record may be read as context at an evaluation time. -/
def ReadableAt (rt : MemoryRuntime) (horizon : EvidenceHorizonPolicy) (record : MemoryRecord)
    (evaluatedAtUtc : String) : Prop :=
  ∃ evaluation, horizon.evaluate rt record evaluatedAtUtc = .ok evaluation ∧
    evaluation.horizon.readableAsContext = true

/-- At the evaluation time of a search a record is not expired, and the horizon lets it be read. -/
structure FreshRecord (rt : MemoryRuntime) (service : GovernedMemoryService)
    (env : SearchEnvironment) (record : MemoryRecord) : Prop where
  unexpired : record.expiredAt rt env.evaluatedAt = .ok false
  readable : ∀ horizon ∈ service.evidenceHorizon,
    ReadableAt rt horizon record (searchEvaluatedAt rt env)

/-- Every hit is revalidated: it is the published head of a memory without a tombstone when it is
read back, the decision permits it, it is fresh at the evaluation time, no memory is there twice,
the limit is kept, and exactly one receipt carries the digest of each hit. -/
structure Revalidated (rt : MemoryRuntime) (service : GovernedMemoryService)
    (env : SearchEnvironment) (request : SearchRequest) (result : SearchResult) : Prop where
  current : ∀ hit ∈ result.hits, ∃ n,
    (env.hydrated n).store.readableHead hit.record.recordId = some hit.record
  permitted : ∀ hit ∈ result.hits, ∃ decision, service.policy.resolve rt request.principalId
    request.taskId "memory.read" request.authority = .ok (some decision) ∧
      decision.permits hit.record = true
  fresh : ∀ hit ∈ result.hits, FreshRecord rt service env hit.record
  distinct : (result.hits.map (·.record.recordId)).Nodup
  bounded : result.hits.length ≤ request.limit.toNat
  receipted : ∀ hit ∈ result.hits,
    (result.readAdmissibilityReceipts.map (·.recordSha256)).count hit.record.recordSha256 = 1

/-- The candidates whose version is live when it is read back and permitted, with their records. -/
def liveCandidates (rt : MemoryRuntime) (env : SearchEnvironment)
    (decision : MemoryAccessDecision) : ℕ → List VectorCandidate → List (VectorCandidate × MemoryRecord)
  | _, [] => []
  | n, candidate :: candidates =>
      match currentCandidate rt (env.hydrated n) candidate with
      | .ok (some record) =>
          if decision.permits record then
            (candidate, record) :: liveCandidates rt env decision (n + 1) candidates
          else liveCandidates rt env decision (n + 1) candidates
      | _ => liveCandidates rt env decision (n + 1) candidates

/-- What an index must return: of the candidates that are live and permitted, no two name one memory
or one digest, there are no more than the limit, and their records are fresh. -/
structure SoundCandidates (rt : MemoryRuntime) (service : GovernedMemoryService)
    (env : SearchEnvironment) (request : SearchRequest) (ranked : Ranked) : Prop where
  fresh : ∀ live ∈ liveCandidates rt env ranked.ticket.decision 0 ranked.candidates,
    FreshRecord rt service env live.2
  distinct : ((liveCandidates rt env ranked.ticket.decision 0 ranked.candidates).map
    (·.1.recordId)).Nodup
  hashes : ((liveCandidates rt env ranked.ticket.decision 0 ranked.candidates).map
    (·.1.recordSha256)).Nodup
  bounded : (liveCandidates rt env ranked.ticket.decision 0 ranked.candidates).length ≤
    request.limit.toNat

/-! ## The stages -/

theorem eq_of_liveRecord {stored : Option MemoryRecord} {record : MemoryRecord} {now : ℤ}
    (h : MemoryState.liveRecord rt stored now = .ok (some record)) : stored = some record := by
  unfold MemoryState.liveRecord at h
  split at h
  · cases h
  · rename_i kept
    unfold MemoryRecord.liveAt at h
    obtain ⟨expired, -, h⟩ := bind_eq_ok.mp h
    split at h
    · cases h
    · obtain ⟨record', hrecord', h⟩ := bind_eq_ok.mp h
      have hsame := MemoryRecord.eq_of_fromPayload hrecord'
      have hrecord := Option.some.inj (Except.ok.inj h)
      rw [← hrecord, hsame]

/-- A candidate that is read back is the live head that it names. -/
theorem currentCandidate_eq_some {reading : StoreReading} {candidate : VectorCandidate}
    {record : MemoryRecord} (h : currentCandidate rt reading candidate = .ok (some record)) :
    reading.store.readableHead record.recordId = some record ∧
      record.recordId = candidate.recordId ∧ record.recordSha256 = candidate.recordSha256 := by
  unfold currentCandidate at h
  split at h
  · have hfiltered := eq_of_liveRecord h
    have hnamed := Option.filter_eq_some_iff.mp hfiltered
    have hhead := MemoryState.readableHead_eq_some.mp hnamed.1
    have hversion := of_decide_eq_true hnamed.2
    obtain ⟨head, -, -, -, hrow⟩ := hhead
    have hid := (MemoryState.key_of_row hrow).1
    refine ⟨?_, hid, hversion.2⟩
    rw [hid]
    exact hnamed.1
  · cases h

/-- What is found of the candidates: a hit and its receipt for each that is live. -/
theorem hydrate_eq_ok {ticket : SearchTicket} {candidates : List VectorCandidate} :
    ∀ {n : ℕ} {found : List (MemoryHit × ReadAdmissibilityReceipt)},
      hydrate rt env request ticket n candidates = .ok found →
      found = (liveCandidates rt env ticket.decision n candidates).map fun live =>
        (⟨live.2, live.1.retrievalDistance⟩, hitReceipt rt env request ticket live.2) := by
  induction candidates with
  | nil =>
      intro n found h
      exact (Except.ok.inj h).symm
  | cons candidate candidates ih =>
      intro n found h
      unfold hydrate at h
      obtain ⟨read, hread, h⟩ := bind_eq_ok.mp h
      unfold liveCandidates
      rw [hread]
      cases read with
      | none => exact ih h
      | some record =>
          dsimp only at h ⊢
          by_cases hpermits : ticket.decision.permits record = true
          · rw [if_pos hpermits] at h ⊢
            obtain ⟨rest, hrest, h⟩ := bind_eq_ok.mp h
            rw [← Except.ok.inj h, ih hrest]
            rfl
          · rw [if_neg hpermits] at h ⊢
            exact ih h

/-- A live candidate is read back as its record, which the decision permits. -/
theorem of_mem_liveCandidates {decision : MemoryAccessDecision} {candidates : List VectorCandidate}
    {live : VectorCandidate × MemoryRecord} :
    ∀ {n : ℕ}, live ∈ liveCandidates rt env decision n candidates →
      ∃ m, currentCandidate rt (env.hydrated m) live.1 = .ok (some live.2) ∧
        decision.permits live.2 = true := by
  induction candidates with
  | nil =>
      intro n h
      cases h
  | cons candidate candidates ih =>
      intro n h
      unfold liveCandidates at h
      split at h
      · rename_i record hread
        split at h
        · rename_i hpermits
          rcases List.mem_cons.mp h with rfl | hrest
          · exact ⟨n, hread, hpermits⟩
          · exact ih hrest
        · exact ih h
      · exact ih h

/-- An outcome without hits. -/
def NoHits (outcome : Except PyError (SearchResult × MemoryState)) : Prop :=
  ∀ result state, outcome = .ok (result, state) → result.hits = []

theorem noHits_retrievalUnavailable (ticket : SearchTicket) (errorCode : String) :
    NoHits (retrievalUnavailable rt index env request ticket errorCode) := by
  intro result state h
  unfold retrievalUnavailable at h
  obtain ⟨identity, -, h⟩ := bind_eq_ok.mp h
  obtain ⟨after, -, h⟩ := bind_eq_ok.mp h
  have hresult := (Prod.mk.inj (Except.ok.inj h)).1
  rw [← hresult]

/-- Before the index a search ends without hits, or goes on with the policy's decision.
SOURCE: service.py:300-418 -/
theorem rank_cases {answer : Except PyError (SearchResult × MemoryState) ⊕ Ranked}
    (h : service.rank rt index env request = .ok answer) :
    (∃ outcome, answer = .inl outcome ∧ NoHits outcome) ∨
      ∃ ranked, answer = .inr ranked ∧
        service.policy.resolve rt request.principalId request.taskId "memory.read"
          request.authority = .ok (some ranked.ticket.decision) := by
  have hplain : ∀ {result : SearchResult} {state : MemoryState}, result.hits = [] →
      answer = .inl (.ok (result, state)) → ∃ outcome, answer = .inl outcome ∧ NoHits outcome := by
    intro result state hnone hanswer
    refine ⟨_, hanswer, ?_⟩
    intro result' state' hsame
    rw [← (Prod.mk.inj (Except.ok.inj hsame)).1, hnone]
  unfold rank at h
  obtain ⟨resolved, hresolved, h⟩ := bind_eq_ok.mp h
  cases resolved with
  | none => exact .inl (hplain rfl (Except.ok.inj h).symm)
  | some decision =>
      obtain ⟨operationId, -, h⟩ := bind_eq_ok.mp h
      split at h
      · exact .inl (hplain rfl (Except.ok.inj h).symm)
      · rename_i query hquery
        split at h
        · exact .inl (hplain rfl (Except.ok.inj h).symm)
        · obtain ⟨screening, -, h⟩ := bind_eq_ok.mp h
          dsimp only at h
          split at h
          · refine .inl ⟨_, (Except.ok.inj h).symm, ?_⟩
            intro result state hsame
            obtain ⟨after, -, hsame⟩ := bind_eq_ok.mp hsame
            rw [← (Prod.mk.inj (Except.ok.inj hsame)).1]
          · split at h
            · exact .inl ⟨_, (Except.ok.inj h).symm, noHits_retrievalUnavailable _ _⟩
            · split at h
              · split at h
                · exact .inl ⟨_, (Except.ok.inj h).symm, noHits_retrievalUnavailable _ _⟩
                · cases h
              · exact .inr ⟨_, (Except.ok.inj h).symm, hresolved⟩

theorem release_eq_ok {ranked : Ranked}
    (h : release rt index env request ranked = .ok (result, state')) :
    result.hits = (liveCandidates rt env ranked.ticket.decision 0 ranked.candidates).map
        (fun live => ⟨live.2, live.1.retrievalDistance⟩) ∧
      result.readAdmissibilityReceipts =
        (liveCandidates rt env ranked.ticket.decision 0 ranked.candidates).map
          fun live => hitReceipt rt env request ranked.ticket live.2 := by
  unfold release at h
  obtain ⟨found, hfound, h⟩ := bind_eq_ok.mp h
  obtain ⟨after, -, h⟩ := bind_eq_ok.mp h
  have hresult := (Prod.mk.inj (Except.ok.inj h)).1
  rw [← hresult, hydrate_eq_ok hfound]
  simp only [List.map_map]
  exact ⟨rfl, rfl⟩

/-- The hits of the candidates that an index returns keep the contract exactly where the
candidates do. -/
theorem revalidated_release_iff {ranked : Ranked}
    (hdecision : service.policy.resolve rt request.principalId request.taskId "memory.read"
      request.authority = .ok (some ranked.ticket.decision))
    (h : release rt index env request ranked = .ok (result, state')) :
    Revalidated rt service env request result ↔
      SoundCandidates rt service env request ranked := by
  obtain ⟨hhits, hreceipts⟩ := release_eq_ok h
  have hids : result.hits.map (·.record.recordId) =
      (liveCandidates rt env ranked.ticket.decision 0 ranked.candidates).map (·.1.recordId) := by
    rw [hhits, List.map_map]
    apply List.map_congr_left
    intro live hlive
    obtain ⟨m, hread, -⟩ := of_mem_liveCandidates hlive
    exact (currentCandidate_eq_some hread).2.1
  have hhashes : result.hits.map (·.record.recordSha256) =
      (liveCandidates rt env ranked.ticket.decision 0 ranked.candidates).map
        (·.1.recordSha256) := by
    rw [hhits, List.map_map]
    apply List.map_congr_left
    intro live hlive
    obtain ⟨m, hread, -⟩ := of_mem_liveCandidates hlive
    exact (currentCandidate_eq_some hread).2.2
  have hreceipted : result.readAdmissibilityReceipts.map (·.recordSha256) =
      result.hits.map (·.record.recordSha256) := by
    rw [hreceipts, hhits, List.map_map, List.map_map]
    rfl
  have hmem : ∀ hit, hit ∈ result.hits ↔ ∃ live ∈ liveCandidates rt env ranked.ticket.decision 0
      ranked.candidates, hit = ⟨live.2, live.1.retrievalDistance⟩ := by
    intro hit
    rw [hhits, List.mem_map]
    simp only [eq_comm]
  have hlength : result.hits.length =
      (liveCandidates rt env ranked.ticket.decision 0 ranked.candidates).length := by
    rw [hhits, List.length_map]
  constructor
  · intro hvalid
    refine ⟨?_, ?_, ?_, ?_⟩
    · intro live hlive
      exact hvalid.fresh _ ((hmem _).mpr ⟨live, hlive, rfl⟩)
    · rw [← hids]
      exact hvalid.distinct
    · rw [← hhashes, List.nodup_iff_count_eq_one]
      intro digest hdigest
      obtain ⟨hit, hhit, rfl⟩ := List.mem_map.mp hdigest
      rw [← hreceipted]
      exact hvalid.receipted hit hhit
    · rw [← hlength]
      exact hvalid.bounded
  · intro hsound
    refine ⟨?_, ?_, ?_, ?_, ?_, ?_⟩
    · intro hit hhit
      obtain ⟨live, hlive, rfl⟩ := (hmem hit).mp hhit
      obtain ⟨m, hread, -⟩ := of_mem_liveCandidates hlive
      exact ⟨m, (currentCandidate_eq_some hread).1⟩
    · intro hit hhit
      obtain ⟨live, hlive, rfl⟩ := (hmem hit).mp hhit
      obtain ⟨m, -, hpermits⟩ := of_mem_liveCandidates hlive
      exact ⟨_, hdecision, hpermits⟩
    · intro hit hhit
      obtain ⟨live, hlive, rfl⟩ := (hmem hit).mp hhit
      exact hsound.fresh live hlive
    · rw [hids]
      exact hsound.distinct
    · rw [hlength]
      exact hsound.bounded
    · intro hit hhit
      rw [hreceipted]
      have hnodup : (result.hits.map (·.record.recordSha256)).Nodup := by
        rw [hhashes]
        exact hsound.hashes
      exact List.nodup_iff_count_eq_one.mp hnodup _ (List.mem_map_of_mem hhit)

/-- Ann's younger record. -/
def youngRecord : MemoryRecord := plainMemoryRecord "other" 1 "ann" "IIIIIIIIIIIII"

/-- The store with ann's old record and her young one, both published. -/
def twoDatesStore : Except PyError MemoryState := do
  let put := { datedPut 1 "I" "op-2" [] with record := youngRecord }
  (horizonService.afterPut unaryMemoryRuntime (← datedStore) put).markReceiptPublished
    unaryMemoryRuntime "op-2"

/-- A search in which nothing changes and the index returns one candidate. -/
def searchOf (store : MemoryState) (recordId : String) : SearchEnvironment where
  listed := ⟨store, 14⟩
  evaluatedAt := 14
  screened := fun _ => ⟨store, 14⟩
  hasProvider := true
  available := true
  vector := .ok []
  identity := .ok ⟨"provider", "1", "model", "digest", 1, "text-v1", "l2"⟩
  candidates := .ok [⟨recordId, 1, "digest", 0⟩]
  hydrated := fun _ => ⟨store, 14⟩
  identityAgain := .ok ⟨"provider", "1", "model", "digest", 1, "text-v1", "l2"⟩
  availableAgain := true
  stampedAt := 14
  recorded := store

/-- The index of these searches. -/
def searchedIndex : RetrievalIndex where
  generationId := "generation"
  embeddingIdentity := ⟨"provider", "1", "model", "digest", 1, "text-v1", "l2"⟩

/-- Ann's search. -/
def annsSearch : SearchRequest where
  query := "text"
  principalId := "ann"
  taskId := "task"
  authority := ⟨["memory.read"], ["memory.read"]⟩
  operationId := "search"

theorem searches_run :
    ∃ store, twoDatesStore = .ok store ∧
      ((horizonService.rank unaryMemoryRuntime searchedIndex (searchOf store "other")
        annsSearch).toOption.any (Sum.elim (fun _ => false) fun ranked =>
          decide (liveCandidates unaryMemoryRuntime (searchOf store "other") ranked.ticket.decision 0
            ranked.candidates = [(⟨"other", 1, "digest", 0⟩, youngRecord)]))) = true ∧
      (horizonService.semanticSearch unaryMemoryRuntime searchedIndex (searchOf store "other")
        annsSearch).toOption.isSome = true ∧
      (horizonService.semanticSearch unaryMemoryRuntime searchedIndex (searchOf store "memory")
        annsSearch).toOption.map (fun done => done.1.hits.map (·.record)) =
          some [plainMemoryRecord "memory" 1 "ann" "I"] := by
  apply exists_ok_of_decide
  decide +kernel

theorem records_at_evaluation :
    (∃ evaluation, shortHorizon.evaluate unaryMemoryRuntime youngRecord
      (unaryMemoryRuntime.iso.isoformat 14) = .ok evaluation ∧
        evaluation.horizon.readableAsContext = true) ∧
    (∃ evaluation, shortHorizon.evaluate unaryMemoryRuntime
      (plainMemoryRecord "memory" 1 "ann" "I")
      (unaryMemoryRuntime.iso.isoformat 14) = .ok evaluation ∧
        evaluation.horizon.readableAsContext = false) := by
  constructor
  · apply exists_ok_of_decide
    decide +kernel
  · apply exists_ok_of_decide
    decide +kernel

end GovernedMemoryService

end PhiOS
