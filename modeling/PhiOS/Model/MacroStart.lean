import PhiOS.Model.Value

/-!
# What a macro run is started on

`TriggerObservation` of `macro_start.py`, without the flags and the schema version, which have one
value each.
-/

set_option autoImplicit false

namespace PhiOS

/-- `MacroRunStartContractError(message)`. -/
def macroRunStartErr (message : String) : PyError := ⟨.macroRunStartContractError, message, []⟩

/-- `_require_timestamp`. -/
def requireStartTimestamp (iso : Iso8601) (value field : String) : Except PyError String := do
  let text ← requireText .macroRunStartContractError 64 value field
  match iso.fromisoformat (replaceZulu text) with
  | none => .error (macroRunStartErr (field ++ " must be an ISO-8601 timestamp"))
  | some .naive => .error (macroRunStartErr (field ++ " must include a timezone"))
  | some (.aware _) => return text

structure TriggerObservation where
  observationId : String
  triggerType : String
  sourceId : String
  sourceEventId : String
  observedAt : String
  payloadSha256 : String
  evidenceRefSha256s : List String
  deriving DecidableEq

/-- `__post_init__`. -/
def TriggerObservation.validate (iso : Iso8601) (observation : TriggerObservation) :
    Except PyError Unit := do
  let text := requireText .macroRunStartContractError 512
  let sha := requireSha256 .macroRunStartContractError
  let _ ← text observation.observationId "observation_id"
  let _ ← text observation.triggerType "trigger_type"
  let _ ← text observation.sourceId "source_id"
  let _ ← text observation.sourceEventId "source_event_id"
  let _ ← requireStartTimestamp iso observation.observedAt "observed_at"
  let _ ← sha observation.payloadSha256 "payload_sha256"
  for evidence in observation.evidenceRefSha256s do
    let _ ← sha evidence "evidence_ref_sha256"
  raiseIf (sortedSet observation.evidenceRefSha256s ≠ observation.evidenceRefSha256s)
    (macroRunStartErr "evidence_ref_sha256s must be sorted and unique")

end PhiOS
