import PhiOS.Model.MemoryCalls

/-!
# Semantic search

`semantic_search` of `memory/service.py`. The search reads the store, the clock, the embedding
provider and the retrieval index many times, and anything may happen to the store in between: each
reading is given with the store and the clock that it finds.
-/

set_option autoImplicit false

namespace PhiOS

def maxTextBytes : ℕ := 64 * 1024

def MemoryValidation.validateText (value : String) : Except PyError String := do
  raiseIf (maxTextBytes < value.utf8ByteSize)
    ⟨.valueError, "text exceeds 65536 UTF-8 bytes", []⟩
  return value

structure VectorCandidate where
  recordId : String
  revision : ℤ
  recordSha256 : String
  retrievalDistance : ℚ
  deriving DecidableEq

structure MemoryHit where
  record : MemoryRecord
  retrievalDistance : ℚ

/-- A `MemoryResult` with hits. -/
structure SearchResult extends MemoryResult where
  hits : List MemoryHit := []

/-- The arguments of `semantic_search`; `embedding_timeout` only goes on to the provider. -/
structure SearchRequest where
  query : String
  principalId : String
  taskId : String
  authority : AuthorityContext
  operationId : String
  limit : ℤ := 10
  packetId : String := ""

/-- The store and the clock at a reading. -/
structure StoreReading where
  store : MemoryState
  now : ℤ

/-- What a search finds at its readings. -/
structure SearchEnvironment where
  /-- At `list_eligible_versions`. -/
  listed : StoreReading
  /-- The clock at `evaluated_at`. -/
  evaluatedAt : ℤ
  /-- At `get_current_version` of each eligible version. -/
  screened : ℕ → StoreReading
  /-- There is an embedding provider. -/
  hasProvider : Bool
  /-- `retrieval_index.available()`. -/
  available : Bool
  /-- `embedding_provider.embed(query)`. -/
  vector : Except PyError (List ℚ)
  /-- `embedding_provider.identity()`. -/
  identity : Except PyError EmbeddingIdentity
  /-- `retrieval_index.search(vector)`. -/
  candidates : Except PyError (List VectorCandidate)
  /-- At `get_current_version` of each candidate. -/
  hydrated : ℕ → StoreReading
  /-- The identity and the availability that `_retrieval_unavailable` asks for again. -/
  identityAgain : Except PyError EmbeddingIdentity
  availableAgain : Bool
  /-- The clock at the timestamp of the operation's receipt. -/
  stampedAt : ℤ
  /-- The store at `record_operation_receipt`. -/
  recorded : MemoryState

/-- `_read_admissibility_receipt`. -/
def ReadAdmissibilityReceipt.build (rt : MemoryRuntime)
    (operationId packetId taskId principalId : String) (record : MemoryRecord)
    (policySha256 : String) (authority : AuthorityContext) (evaluatedAt : String) :
    ReadAdmissibilityReceipt :=
  let body : ReadAdmissibilityReceipt := {
    receiptId := rt.uuid5 ("phios.memory.read-admissibility:" ++ operationId)
    packetId := if packetId = "" then "memory:" ++ operationId else packetId
    taskId
    status := .accepted
    producedBy := "phios.memory"
    timestampUtc := evaluatedAt
    operationId
    principalId
    recordId := record.recordId
    revision := record.revision
    recordSha256 := record.recordSha256
    readableAsContext := true
    currentness := "current"
    scopeId := record.scopeId
    classification := record.classification
    authorizationPolicySha256 := policySha256
    authorityContextSha256 := rt.sha256 authority.toDict
    epistemicKind := record.epistemicKind
    exactnessClass := record.exactnessClass
    transformationLineageSha256s := record.transformationLineageSha256s
    taintLabels := record.taintLabels }
  { body with receiptSha256 := rt.sha256 body.toDict }

namespace GovernedMemoryService

variable (rt : MemoryRuntime) (service : GovernedMemoryService) (index : RetrievalIndex)
  (env : SearchEnvironment) (request : SearchRequest)

/-! ## Before the index -/

/-- `evaluated_at`. -/
def searchEvaluatedAt : String := rt.iso.isoformat env.evaluatedAt

/-- The loop over the eligible versions: those that are still current, with their horizons. -/
def screenVersions (horizon : EvidenceHorizonPolicy) :
    ℕ → List (String × ℕ × String) →
      Except PyError (List ((String × ℕ × String) × EvidenceHorizonEvaluation))
  | _, [] => return []
  | n, version :: versions => do
      let reading := env.screened n
      match ← reading.store.getCurrentVersion rt version.1 version.2.1 version.2.2 reading.now with
      | none => screenVersions horizon (n + 1) versions
      | some record => do
          let evaluation ← horizon.evaluate rt record (searchEvaluatedAt rt env)
          return (version, evaluation) :: (← screenVersions horizon (n + 1) versions)

/-- The versions that may be ranked, and the receipts of their horizons. -/
structure Screening where
  eligible : List (String × ℕ × String)
  horizons : List EvidenceHorizonReceipt := []
  reactivations : List ReactivationWindowReceipt := []

/-- The versions that may be ranked. -/
def screen (decision : MemoryAccessDecision) : Except PyError Screening := do
  let eligible := env.listed.store.listEligibleVersions rt decision.allowedScopes
    decision.allowedClassifications env.listed.now
  match service.evidenceHorizon with
  | none => return { eligible }
  | some horizon => do
      let screened ← screenVersions rt env horizon 0 eligible
      return {
        eligible := (screened.filter (·.2.horizon.readableAsContext)).map (·.1)
        horizons := screened.map (·.2.horizon)
        reactivations := screened.filterMap (·.2.reactivation) }

/-- The digest of a search. -/
def searchSha256 (query : String) (decision : MemoryAccessDecision) : String :=
  rt.sha256 (.obj [("operation", .str "retrieve"),
    ("query_sha256", .str (rt.sha256 (.obj [("query", .str query)]))),
    ("principal_id", .str request.principalId), ("task_id", .str request.taskId),
    ("limit", .int request.limit), ("policy_sha256", .str decision.policySha256),
    ("evidence_horizon_policy_sha256",
      .optStr (service.evidenceHorizon.map (·.policySha256 rt)))])

/-- What the search asks of the provider and the index, and what they answer. -/
def askIndex : Except PyError (EmbeddingIdentity × List VectorCandidate) := do
  let _ ← env.vector
  let identity ← env.identity
  raiseIf (identity ≠ index.embeddingIdentity) ⟨.exception "RuntimeError",
    "active index generation does not match embedding identity", []⟩
  return (identity, ← env.candidates)

/-- The name, the policy and the digest that every receipt of a search carries. -/
structure SearchTicket where
  operationId : String
  decision : MemoryAccessDecision
  requestSha256 : String

/-- The operation receipt of a search. -/
def searchReceipt (ticket : SearchTicket) (status : MandalaStatus) (records : List MemoryRecord)
    (indexStatus : String) (identity : Option EmbeddingIdentity := none)
    (generation errorCode : Option String := none) : MemoryOperationReceipt :=
  .build rt ticket.operationId request.packetId request.taskId status "retrieve"
    (rt.iso.isoformat env.stampedAt) records ticket.decision.policySha256 ticket.requestSha256
    "unchanged" indexStatus identity generation errorCode

/-- `record_operation_receipt` of a search's receipt. -/
def fileReceipt (ticket : SearchTicket) (receipt : MemoryOperationReceipt) :
    Except PyError MemoryState :=
  Prod.snd <$> env.recorded.recordOperationReceipt ticket.operationId ticket.requestSha256
    receipt.text

/-- The identity that `_retrieval_unavailable` puts into its receipt. -/
def identityOfFault : Except PyError (Option EmbeddingIdentity) :=
  match env.hasProvider, env.identityAgain with
  | false, _ => .ok none
  | true, .ok identity => .ok (some identity)
  | true, .error e => if e.isIndexFault then .ok none else .error e

def retrievalUnavailable (ticket : SearchTicket) (errorCode : String) :
    Except PyError (SearchResult × MemoryState) := do
  let identity ← identityOfFault env
  let receipt := searchReceipt rt env request ticket .degraded [] "unavailable" identity
    (if env.availableAgain then some index.generationId else none) (some errorCode)
  let state ← fileReceipt env ticket receipt
  return ({ status := .unavailable, receiptId := some receipt.receiptId
            errorCode := some errorCode }, state)

/-- What a search that reaches the index has found until then. -/
structure Ranked where
  ticket : SearchTicket
  screening : Screening
  identity : EmbeddingIdentity
  candidates : List VectorCandidate

/-- The search until the candidates are there: the outcome where it ends before. -/
def rank : Except PyError (Except PyError (SearchResult × MemoryState) ⊕ Ranked) := do
  match ← service.policy.resolve rt request.principalId request.taskId "memory.read"
      request.authority with
  | none => return .inl (.ok
      ({ status := .blocked, errorCode := some "MEMORY_READ_DENIED" }, env.recorded))
  | some decision => do
      let operationId ← MemoryValidation.requireNonempty request.operationId "operation_id"
      match MemoryValidation.validateText request.query with
      | .error _ => return .inl (.ok
          ({ status := .invalid, errorCode := some "INVALID_MEMORY_QUERY" }, env.recorded))
      | .ok query =>
          if ¬ (1 ≤ request.limit ∧ request.limit ≤ 50) then
            return .inl (.ok
              ({ status := .invalid, errorCode := some "INVALID_MEMORY_LIMIT" }, env.recorded))
          else do
            let screening ← screen rt service env decision
            let ticket : SearchTicket := {
              operationId, decision
              requestSha256 := searchSha256 rt service request query decision }
            if screening.eligible = [] then
              let receipt := searchReceipt rt env request ticket .accepted [] "not_needed"
              return .inl (do
                let state ← fileReceipt env ticket receipt
                return ({ status := .ok, receiptId := some receipt.receiptId
                          evidenceHorizonReceipts := screening.horizons
                          reactivationWindowReceipts := screening.reactivations }, state))
            else if env.hasProvider = false ∨ env.available = false then
              return .inl (retrievalUnavailable rt index env request ticket
                "SEMANTIC_RETRIEVAL_UNAVAILABLE")
            else match askIndex index env with
              | .error e =>
                  if e.isIndexFault then
                    return .inl (retrievalUnavailable rt index env request ticket
                      "SEMANTIC_RETRIEVAL_FAILED")
                  else .error e
              | .ok (identity, candidates) =>
                  return .inr { ticket, screening, identity, candidates }

/-! ## After the index -/

/-- `get_current_version` of a candidate; no row has a negative revision. -/
def currentCandidate (reading : StoreReading) (candidate : VectorCandidate) :
    Except PyError (Option MemoryRecord) :=
  match candidate.revision with
  | .ofNat revision => reading.store.getCurrentVersion rt candidate.recordId revision
      candidate.recordSha256 reading.now
  | .negSucc _ => .ok none

/-- The receipt of a hit. -/
def hitReceipt (ticket : SearchTicket) (record : MemoryRecord) : ReadAdmissibilityReceipt :=
  .build rt (ticket.operationId ++ ":hit:" ++ record.recordId ++ ":" ++ toString record.revision)
    request.packetId request.taskId request.principalId record ticket.decision.policySha256
    request.authority (searchEvaluatedAt rt env)

/-- The loop over the candidates: a hit and its receipt for each that is current and permitted. -/
def hydrate (ticket : SearchTicket) :
    ℕ → List VectorCandidate → Except PyError (List (MemoryHit × ReadAdmissibilityReceipt))
  | _, [] => return []
  | n, candidate :: candidates => do
      match ← currentCandidate rt (env.hydrated n) candidate with
      | none => hydrate ticket (n + 1) candidates
      | some record =>
          if ticket.decision.permits record then do
            let rest ← hydrate ticket (n + 1) candidates
            return (⟨record, candidate.retrievalDistance⟩,
              hitReceipt rt env request ticket record) :: rest
          else hydrate ticket (n + 1) candidates

/-- The search from the candidates on. -/
def release (ranked : Ranked) : Except PyError (SearchResult × MemoryState) := do
  let found ← hydrate rt env request ranked.ticket 0 ranked.candidates
  let receipt := searchReceipt rt env request ranked.ticket .accepted (found.map (·.1.record))
    "ready" (some ranked.identity) (some index.generationId)
  let state ← fileReceipt env ranked.ticket receipt
  return ({ status := .ok, hits := found.map (·.1), receiptId := some receipt.receiptId
            readAdmissibilityReceipts := found.map (·.2)
            evidenceHorizonReceipts := ranked.screening.horizons
            reactivationWindowReceipts := ranked.screening.reactivations }, state)

/-- `semantic_search`: its result, and the store after its receipt is recorded. -/
def semanticSearch : Except PyError (SearchResult × MemoryState) := do
  match ← service.rank rt index env request with
  | .inl outcome => outcome
  | .inr ranked => release rt index env request ranked

end GovernedMemoryService

end PhiOS
