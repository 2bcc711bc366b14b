import PhiOS.Model.MemoryRecord

/-!
# The evidence horizon

`memory/horizon.py`: how long after its creation a memory may be served as context, the window
after that in which it may be reconsolidated, and the gate that a revision of a stale memory has to
pass.
-/

set_option autoImplicit false

namespace PhiOS

def evidenceHorizonPolicySchemaVersion : String := "phios.evidence_horizon_policy.v0.1"
def evidenceHorizonReceiptSchemaVersion : String := "phios.evidence_horizon_receipt.v0.1"
def reactivationWindowReceiptSchemaVersion : String := "phios.reactivation_window_receipt.v0.1"
def reconsolidationGateSchemaVersion : String := "phios.reconsolidation_gate.v0.1"

namespace EvidenceHorizon

/-- `EvidenceHorizonError(message)`. -/
def err (message : String) : PyError := ⟨.evidenceHorizonError, message, []⟩

def requireText (value label : String) : Except PyError String :=
  requireStripped .evidenceHorizonError " must be non-empty" value label

/-- `_require_nonnegative`, of a number that is finite. -/
def requireNonnegative (rt : MemoryRuntime) (value : ℚ) (label : String) : Except PyError ℚ := do
  raiseIf (value < 0) (err (label ++ " must be finite and non-negative"))
  return rt.round12 value

def parseTime (rt : MemoryRuntime) (value label : String) : Except PyError ℤ := do
  let raw ← requireText value label
  match rt.iso.fromisoformat (replaceZulu raw) with
  | none => .error (err (label ++ " must be ISO-8601"))
  | some .naive => .error (err (label ++ " must include a timezone"))
  | some (.aware utc) => return utc

def labels (values : List String) (label : String) : Except PyError (List String) := do
  return sortedSet (← values.mapM fun value => requireText value label)

end EvidenceHorizon

/-! ## Policies -/

structure EvidenceHorizonPolicy where
  policyId : String
  version : String
  maxContextAgeSeconds : ℚ
  reactivationWindowSeconds : ℚ
  deriving DecidableEq

namespace EvidenceHorizonPolicy

def normalized (rt : MemoryRuntime) (policy : EvidenceHorizonPolicy) :
    Except PyError EvidenceHorizonPolicy := do
  let policyId ← EvidenceHorizon.requireText policy.policyId "policy_id"
  let version ← EvidenceHorizon.requireText policy.version "version"
  let maxAge ← EvidenceHorizon.requireNonnegative rt policy.maxContextAgeSeconds
    "max_context_age_seconds"
  raiseIf (maxAge ≤ 0) (EvidenceHorizon.err "max_context_age_seconds must be > 0")
  let window ← EvidenceHorizon.requireNonnegative rt policy.reactivationWindowSeconds
    "reactivation_window_seconds"
  return { policyId, version, maxContextAgeSeconds := maxAge, reactivationWindowSeconds := window }

def toDict (rt : MemoryRuntime) (policy : EvidenceHorizonPolicy) : Json :=
  .obj [("schema", .str evidenceHorizonPolicySchemaVersion), ("policy_id", .str policy.policyId),
    ("version", .str policy.version),
    ("max_context_age_seconds", .float (rt.floatText policy.maxContextAgeSeconds)),
    ("reactivation_window_seconds", .float (rt.floatText policy.reactivationWindowSeconds))]

def policySha256 (rt : MemoryRuntime) (policy : EvidenceHorizonPolicy) : String :=
  rt.sha256 (policy.toDict rt)

end EvidenceHorizonPolicy

/-! ## Evaluating a record -/

/-- The statuses of a horizon receipt. -/
inductive HorizonStatus
  | admissible
  | reactivationRequired
  | outsideHorizon
  deriving DecidableEq

def HorizonStatus.value : HorizonStatus → String
  | .admissible => "ADMISSIBLE"
  | .reactivationRequired => "REACTIVATION_REQUIRED"
  | .outsideHorizon => "OUTSIDE_HORIZON"

structure EvidenceHorizonReceipt where
  receiptId : String
  policyId : String
  policySha256 : String
  recordId : String
  revision : ℕ
  recordSha256 : String
  createdAtUtc : String
  evaluatedAtUtc : String
  ageSeconds : ℚ
  maxContextAgeSeconds : ℚ
  status : HorizonStatus
  readableAsContext : Bool
  reactivationRequired : Bool
  operationalAuthority : Bool := false
  actionAuthority : Bool := false
  executionAuthority : Bool := false
  schema : String := evidenceHorizonReceiptSchemaVersion
  receiptSha256 : String := ""
  deriving DecidableEq

/-- The payload that `receipt_sha256` is taken of. -/
def EvidenceHorizonReceipt.payload (rt : MemoryRuntime) (receipt : EvidenceHorizonReceipt) :
    Json :=
  .obj [("schema", .str receipt.schema), ("receipt_id", .str receipt.receiptId),
    ("policy_id", .str receipt.policyId), ("policy_sha256", .str receipt.policySha256),
    ("record_id", .str receipt.recordId), ("revision", .int receipt.revision),
    ("record_sha256", .str receipt.recordSha256),
    ("created_at_utc", .str receipt.createdAtUtc),
    ("evaluated_at_utc", .str receipt.evaluatedAtUtc),
    ("age_seconds", .float (rt.floatText receipt.ageSeconds)),
    ("max_context_age_seconds", .float (rt.floatText receipt.maxContextAgeSeconds)),
    ("status", .str receipt.status.value), ("readable_as_context", .bool receipt.readableAsContext),
    ("reactivation_required", .bool receipt.reactivationRequired),
    ("operational_authority", .bool receipt.operationalAuthority),
    ("action_authority", .bool receipt.actionAuthority),
    ("execution_authority", .bool receipt.executionAuthority)]

structure ReactivationWindowReceipt where
  receiptId : String
  policyId : String
  policySha256 : String
  recordId : String
  revision : ℕ
  recordSha256 : String
  evaluatedAtUtc : String
  windowOpensAtUtc : String
  windowClosesAtUtc : String
  withinWindow : Bool
  reactivationAuthorized : Bool := false
  reactivationCompleted : Bool := false
  operationalAuthority : Bool := false
  actionAuthority : Bool := false
  executionAuthority : Bool := false
  schema : String := reactivationWindowReceiptSchemaVersion
  receiptSha256 : String := ""
  deriving DecidableEq

/-- The payload that `receipt_sha256` is taken of. -/
def ReactivationWindowReceipt.payload (receipt : ReactivationWindowReceipt) : Json :=
  .obj [("schema", .str receipt.schema), ("receipt_id", .str receipt.receiptId),
    ("policy_id", .str receipt.policyId), ("policy_sha256", .str receipt.policySha256),
    ("record_id", .str receipt.recordId), ("revision", .int receipt.revision),
    ("record_sha256", .str receipt.recordSha256),
    ("evaluated_at_utc", .str receipt.evaluatedAtUtc),
    ("window_opens_at_utc", .str receipt.windowOpensAtUtc),
    ("window_closes_at_utc", .str receipt.windowClosesAtUtc),
    ("within_window", .bool receipt.withinWindow),
    ("reactivation_authorized", .bool receipt.reactivationAuthorized),
    ("reactivation_completed", .bool receipt.reactivationCompleted),
    ("operational_authority", .bool receipt.operationalAuthority),
    ("action_authority", .bool receipt.actionAuthority),
    ("execution_authority", .bool receipt.executionAuthority)]

structure EvidenceHorizonEvaluation where
  horizon : EvidenceHorizonReceipt
  reactivation : Option ReactivationWindowReceipt := none

namespace EvidenceHorizonPolicy

/-- The status of a record of an age. -/
def statusAt (rt : MemoryRuntime) (policy : EvidenceHorizonPolicy) (age : ℚ) : HorizonStatus :=
  if age ≤ policy.maxContextAgeSeconds then .admissible
  else if age ≤ rt.floatAdd policy.maxContextAgeSeconds policy.reactivationWindowSeconds then
    .reactivationRequired
  else .outsideHorizon

def reactivationReceipt (rt : MemoryRuntime) (policy : EvidenceHorizonPolicy)
    (record : MemoryRecord) (evaluatedAt : ℤ) (withinWindow : Bool) :
    Except PyError ReactivationWindowReceipt := do
  let created ← EvidenceHorizon.parseTime rt record.createdAt "record.created_at"
  let opens := rt.floatAdd (rt.timestamp created) policy.maxContextAgeSeconds
  let closes := rt.floatAdd opens policy.reactivationWindowSeconds
  let opensAt ← rt.fromtimestamp opens
  let closesAt ← rt.fromtimestamp closes
  let evaluatedAtUtc := rt.iso.isoformat evaluatedAt
  let receipt : ReactivationWindowReceipt := {
    receiptId := rt.uuid5 ("phios.reactivation-window:" ++ record.recordSha256 ++ ":" ++
      evaluatedAtUtc ++ ":" ++ policy.policySha256 rt)
    policyId := policy.policyId
    policySha256 := policy.policySha256 rt
    recordId := record.recordId
    revision := record.revision
    recordSha256 := record.recordSha256
    evaluatedAtUtc
    windowOpensAtUtc := opensAt
    windowClosesAtUtc := closesAt
    withinWindow }
  return { receipt with receiptSha256 := rt.sha256 receipt.payload }

/-- The reactivation receipt that goes with a status. -/
def reactivationFor (rt : MemoryRuntime) (policy : EvidenceHorizonPolicy) (record : MemoryRecord)
    (evaluated : ℤ) (status : HorizonStatus) : Except PyError (Option ReactivationWindowReceipt) :=
  match status with
  | .admissible => .ok none
  | .reactivationRequired => some <$> policy.reactivationReceipt rt record evaluated true
  | .outsideHorizon => some <$> policy.reactivationReceipt rt record evaluated false

/-- `EvidenceHorizonController.evaluate`, under the controller's policy. -/
def evaluate (rt : MemoryRuntime) (policy : EvidenceHorizonPolicy) (record : MemoryRecord)
    (evaluatedAtUtc : String) : Except PyError EvidenceHorizonEvaluation := do
  let created ← EvidenceHorizon.parseTime rt record.createdAt "record.created_at"
  let evaluated ← EvidenceHorizon.parseTime rt evaluatedAtUtc "evaluated_at_utc"
  raiseIf (evaluated < created)
    (EvidenceHorizon.err "evaluated_at_utc cannot precede record.created_at")
  let age := rt.totalSeconds (evaluated - created)
  let status := policy.statusAt rt age
  let reactivation ← policy.reactivationFor rt record evaluated status
  let evaluatedAt := rt.iso.isoformat evaluated
  let receipt : EvidenceHorizonReceipt := {
    receiptId := rt.uuid5 ("phios.evidence-horizon:" ++ record.recordSha256 ++ ":" ++ evaluatedAt ++
      ":" ++ policy.policySha256 rt)
    policyId := policy.policyId
    policySha256 := policy.policySha256 rt
    recordId := record.recordId
    revision := record.revision
    recordSha256 := record.recordSha256
    createdAtUtc := rt.iso.isoformat created
    evaluatedAtUtc := evaluatedAt
    ageSeconds := age
    maxContextAgeSeconds := policy.maxContextAgeSeconds
    status
    readableAsContext := status = .admissible
    reactivationRequired := status ≠ .admissible }
  return { horizon := { receipt with receiptSha256 := rt.sha256 (receipt.payload rt) }
           reactivation }

end EvidenceHorizonPolicy

/-! ## The reconsolidation gate -/

structure ReconsolidationGateDecision where
  status : String
  reason : String
  previousRecordSha256 : String
  candidateRecordSha256 : String
  freshProvenanceRefs : List String
  promotionStatus : String := "not_promoted"
  operationalAuthority : Bool := false
  actionAuthority : Bool := false
  executionAuthority : Bool := false
  schema : String := reconsolidationGateSchemaVersion
  decisionSha256 : String := ""
  deriving DecidableEq

namespace ReconsolidationGateDecision

def accepted (decision : ReconsolidationGateDecision) : Bool := decision.status = "ACCEPTED"

/-- The payload that `decision_sha256` is taken of. -/
def payload (decision : ReconsolidationGateDecision) : Json :=
  .obj [("schema", .str decision.schema), ("status", .str decision.status),
    ("reason", .str decision.reason),
    ("previous_record_sha256", .str decision.previousRecordSha256),
    ("candidate_record_sha256", .str decision.candidateRecordSha256),
    ("fresh_provenance_refs", .strs decision.freshProvenanceRefs),
    ("promotion_status", .str decision.promotionStatus),
    ("operational_authority", .bool decision.operationalAuthority),
    ("action_authority", .bool decision.actionAuthority),
    ("execution_authority", .bool decision.executionAuthority)]

end ReconsolidationGateDecision

namespace ReconsolidationGate

/-- The reason for which `evaluate` blocks, if there is one. -/
def blockedBy (rt : MemoryRuntime) (previous candidate : MemoryRecord) (freshRefs : List String) :
    Except PyError (Option String) := do
  if candidate.recordId ≠ previous.recordId then return some "record_identity_mismatch"
  else if candidate.revision ≠ previous.revision + 1 then return some "candidate_revision_not_next"
  else do
    let candidateTime ← EvidenceHorizon.parseTime rt candidate.createdAt "candidate.created_at"
    let previousTime ← EvidenceHorizon.parseTime rt previous.createdAt "previous.created_at"
    return if candidateTime ≤ previousTime then some "candidate_not_newer_than_previous"
      else if freshRefs = [] then some "fresh_reconsolidation_evidence_required"
      else if ¬ freshRefs ⊆ candidate.provenanceRefs then
        some "reconsolidation_evidence_not_bound_to_candidate"
      else if freshRefs ⊆ previous.provenanceRefs then
        some "reconsolidation_requires_new_provenance"
      else none

def evaluate (rt : MemoryRuntime) (previous candidate : MemoryRecord)
    (evidenceRefs : List String) : Except PyError ReconsolidationGateDecision := do
  let freshRefs ← EvidenceHorizon.labels evidenceRefs "reconsolidation_evidence_ref"
  let blocked ← blockedBy rt previous candidate freshRefs
  let decision : ReconsolidationGateDecision := {
    status := if blocked.isSome then "BLOCKED" else "ACCEPTED"
    reason := blocked.getD "reconsolidation_requirements_satisfied"
    previousRecordSha256 := previous.recordSha256
    candidateRecordSha256 := candidate.recordSha256
    freshProvenanceRefs := freshRefs }
  return { decision with decisionSha256 := rt.sha256 decision.payload }

end ReconsolidationGate

end PhiOS
