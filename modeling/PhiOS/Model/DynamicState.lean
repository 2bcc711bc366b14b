import Mathlib.Data.Rat.Floor
import PhiOS.Model.DynamicField

/-!
# The lifecycle of a dynamic field state

`core/dynamic_state.py`: with age, the values of a state move towards the initial values of the law,
and at a maximum age the state is terminated. Ages and rates are rounded to twelve digits, which is
rounding to a multiple of 10⁻¹² with ties to even.
-/

set_option autoImplicit false

namespace PhiOS

/-- `DynamicStateContractError(message)`. -/
def dynamicStateErr (message : String) : PyError := ⟨.dynamicStateContractError, message, []⟩

/-- `round` to an integer: ties go to the even one. -/
def roundHalfEven (q : ℚ) : ℤ :=
  let below := ⌊q⌋
  if q - below < 1 / 2 then below
  else if 1 / 2 < q - below then below + 1
  else if below % 2 = 0 then below
  else below + 1

/-- `_stable_float`: `round(value, 12)`. -/
def stableFloat (value : ℚ) : ℚ := roundHalfEven (value * 10 ^ 12) / 10 ^ 12

/-- `_require_nonnegative_finite` of this module: one text for both checks, and rounding. -/
def requireStableNonnegative (value : PyReal) (label : String) : Except PyError ℚ := do
  match value with
  | .notNumeric => .error (dynamicStateErr (label ++ " must be numeric"))
  | .notFinite => .error (dynamicStateErr (label ++ " must be finite and non-negative"))
  | .number number =>
      raiseIf (number < 0) (dynamicStateErr (label ++ " must be finite and non-negative"))
      return stableFloat number

/-- `_require_positive_finite`. -/
def requireStablePositive (value : PyReal) (label : String) : Except PyError ℚ := do
  let number ← requireStableNonnegative value label
  raiseIf (number ≤ 0) (dynamicStateErr (label ++ " must be > 0"))
  return number

def moveToward (current target amount : ℚ) : ℚ :=
  if amount ≤ 0 ∨ current = target then current
  else if target < current then max target (current - amount)
  else min target (current + amount)

/-- `_parse_time`. -/
def parseStateTime (iso : Iso8601) (value label : String) : Except PyError ℤ := do
  raiseIf (strip value = "") (dynamicStateErr (label ++ " must be non-empty"))
  match iso.fromisoformat (replaceZulu (strip value)) with
  | none => .error (dynamicStateErr (label ++ " must be ISO-8601"))
  | some .naive => .error (dynamicStateErr (label ++ " must include an explicit UTC offset"))
  | some (.aware utc) => return utc

/-! ## Policies -/

structure DynamicStateDecayRule where
  fieldVariable : String
  graceSeconds : PyReal
  attenuationRatePerSecond : PyReal

/-- `to_dict`: the numbers of a policy are checked before it is digested. -/
def DynamicStateDecayRule.toDict (rt : FieldRuntime) (rule : DynamicStateDecayRule) : Row :=
  [("field_variable", .str rule.fieldVariable), ("grace_seconds", rt.float rule.graceSeconds.value),
    ("attenuation_rate_per_second", rt.float rule.attenuationRatePerSecond.value)]

structure DynamicStatePolicy where
  policyId : String
  version : String
  maxStateAgeSeconds : PyReal
  rules : List DynamicStateDecayRule

def DynamicStatePolicy.policySha256 (rt : FieldRuntime) (policy : DynamicStatePolicy) : String :=
  rt.sha256 (.obj [("schema", .str "phios.dynamic_state_policy.v0.1"),
    ("policy_id", .str policy.policyId), ("version", .str policy.version),
    ("max_state_age_seconds", rt.float policy.maxStateAgeSeconds.value),
    ("rules", .arr ((policy.rules.insertionSort fun a b => a.fieldVariable ≤ b.fieldVariable).map
      fun rule => .obj (rule.toDict rt)))])

/-! ## Records -/

structure DynamicStateValueChange where
  fieldVariable : String
  before : ℚ
  baseline : ℚ
  graceSeconds : ℚ
  attenuationRatePerSecond : ℚ
  elapsedAttenuationSeconds : ℚ
  after : ℚ
  deriving DecidableEq

def DynamicStateValueChange.toDict (rt : FieldRuntime) (change : DynamicStateValueChange) : Row :=
  [("field_variable", .str change.fieldVariable), ("before", rt.float change.before),
    ("baseline", rt.float change.baseline), ("grace_seconds", rt.float change.graceSeconds),
    ("attenuation_rate_per_second", rt.float change.attenuationRatePerSecond),
    ("elapsed_attenuation_seconds", rt.float change.elapsedAttenuationSeconds),
    ("after", rt.float change.after)]

/-- An optional integer as JSON, `None` being null. -/
def Json.optInteger : Option ℤ → Json
  | none => .null
  | some n => .int n

structure DynamicStateReceipt where
  schema : String := "phios.dynamic_state_receipt.v0.1"
  status : String
  reason : String
  policyId : String
  policySha256 : String
  fieldLawSha256 : String
  sourceFieldStateSha256 : String
  sourceFieldRevision : ℤ
  anchorEventId : String
  activatedAtUtc : String
  observedAtUtc : String
  ageSeconds : ℚ
  maxStateAgeSeconds : ℚ
  effectiveFieldStateSha256 : Option String
  effectiveFieldRevision : Option ℤ
  transitionId : Option String
  transitionSha256 : Option String
  changes : List DynamicStateValueChange
  stateConsumable : Bool
  terminated : Bool
  governingLawMutated : Bool := false
  operationalAuthority : Bool := false
  actionAuthority : Bool := false
  executionAuthority : Bool := false
  receiptSha256 : String := ""
  deriving DecidableEq

/-- `to_dict` without the digest. -/
def DynamicStateReceipt.payload (rt : FieldRuntime) (receipt : DynamicStateReceipt) : Row :=
  [("schema", .str receipt.schema), ("status", .str receipt.status), ("reason", .str receipt.reason),
    ("policy_id", .str receipt.policyId), ("policy_sha256", .str receipt.policySha256),
    ("field_law_sha256", .str receipt.fieldLawSha256),
    ("source_field_state_sha256", .str receipt.sourceFieldStateSha256),
    ("source_field_revision", .int receipt.sourceFieldRevision),
    ("anchor_event_id", .str receipt.anchorEventId),
    ("activated_at_utc", .str receipt.activatedAtUtc),
    ("observed_at_utc", .str receipt.observedAtUtc), ("age_seconds", rt.float receipt.ageSeconds),
    ("max_state_age_seconds", rt.float receipt.maxStateAgeSeconds),
    ("effective_field_state_sha256", .optStr receipt.effectiveFieldStateSha256),
    ("effective_field_revision", .optInteger receipt.effectiveFieldRevision),
    ("transition_id", .optStr receipt.transitionId),
    ("transition_sha256", .optStr receipt.transitionSha256),
    ("changes", .arr (receipt.changes.map fun change => .obj (change.toDict rt))),
    ("state_consumable", .bool receipt.stateConsumable), ("terminated", .bool receipt.terminated),
    ("governing_law_mutated", .bool receipt.governingLawMutated),
    ("operational_authority", .bool receipt.operationalAuthority),
    ("action_authority", .bool receipt.actionAuthority),
    ("execution_authority", .bool receipt.executionAuthority)]

structure DynamicStateEvaluation where
  sourceState : DynamicFieldState
  receipt : DynamicStateReceipt
  effectiveState : Option DynamicFieldState

def DynamicStateEvaluation.requireConsumableState (rt : FieldRuntime)
    (evaluation : DynamicStateEvaluation) : Except PyError DynamicFieldState := do
  let receipt := evaluation.receipt
  raiseIf (receipt.schema ≠ "phios.dynamic_state_receipt.v0.1")
    (dynamicStateErr "unsupported dynamic state receipt schema")
  raiseIf (receipt.sourceFieldStateSha256 ≠ evaluation.sourceState.stateSha256 ∨
      receipt.sourceFieldRevision ≠ evaluation.sourceState.revision)
    (dynamicStateErr "dynamic state receipt does not bind the source state")
  raiseIf (receipt.fieldLawSha256 ≠ evaluation.sourceState.lawSha256)
    (dynamicStateErr "dynamic state receipt does not bind the source field law")
  raiseIf (rt.sha256 (.obj (receipt.payload rt)) ≠ receipt.receiptSha256)
    (dynamicStateErr "dynamic state receipt hash does not match receipt contents")
  match evaluation.effectiveState with
  | none => .error (dynamicStateErr "dynamic state is terminated and cannot be consumed")
  | some effectiveState => do
      raiseIf (receipt.stateConsumable = false)
        (dynamicStateErr "dynamic state is terminated and cannot be consumed")
      raiseIf (receipt.terminated = true)
        (dynamicStateErr "terminated dynamic state cannot be consumed")
      raiseIf (receipt.effectiveFieldStateSha256 ≠ some effectiveState.stateSha256)
        (dynamicStateErr "dynamic state receipt does not bind the effective state")
      raiseIf (receipt.effectiveFieldRevision ≠ some effectiveState.revision)
        (dynamicStateErr "dynamic state receipt does not bind the effective revision")
      raiseIf (receipt.fieldLawSha256 ≠ effectiveState.lawSha256)
        (dynamicStateErr "dynamic state receipt does not bind the effective field law")
      raiseIf (receipt.actionAuthority = true ∨ receipt.executionAuthority = true ∨
          receipt.operationalAuthority = true)
        (dynamicStateErr "dynamic state receipt cannot carry operational authority")
      return effectiveState

/-! ## The controller -/

/-- One rule of `_validate_policy`. -/
def validateDecayRule (expected : List String) (maxAge : ℚ)
    (rules : List (String × DynamicStateDecayRule)) (raw : DynamicStateDecayRule) :
    Except PyError (List (String × DynamicStateDecayRule)) := do
  let variable_ := strip raw.fieldVariable
  raiseIf (variable_ = "") (dynamicStateErr "field_variable must be non-empty")
  raiseIf ((rules.lookup variable_).isSome)
    (dynamicStateErr "dynamic state policy variables must be unique")
  raiseIf (variable_ ∉ expected)
    (dynamicStateErr ("dynamic state policy references unknown variable '" ++ variable_ ++ "'"))
  let grace ← requireStableNonnegative raw.graceSeconds (variable_ ++ " grace_seconds")
  let rate ← requireStableNonnegative raw.attenuationRatePerSecond
    (variable_ ++ " attenuation_rate_per_second")
  raiseIf (maxAge < grace)
    (dynamicStateErr (variable_ ++ " grace_seconds cannot exceed max_state_age_seconds"))
  return rules ++ [(variable_, ⟨variable_, .number grace, .number rate⟩)]

/-- `_validate_policy`: the policy in its normal form, with its rules. -/
def validatePolicy (field : DynamicField) (policy : DynamicStatePolicy) :
    Except PyError (DynamicStatePolicy × List (String × DynamicStateDecayRule)) := do
  let policyId := strip policy.policyId
  let version := strip policy.version
  raiseIf (policyId = "") (dynamicStateErr "policy_id must be non-empty")
  raiseIf (version = "") (dynamicStateErr "policy version must be non-empty")
  let maxAge ← requireStablePositive policy.maxStateAgeSeconds "max_state_age_seconds"
  let expected := field.law.variableRules.map (·.name)
  let rules ← policy.rules.foldlM (validateDecayRule expected maxAge) []
  let missing := (sortedSet expected).filter fun name => (rules.lookup name).isNone
  raiseIf (sortedSet (rules.map (·.1)) ≠ sortedSet expected)
    (dynamicStateErr ("dynamic state policy must cover every field variable" ++
      if missing = [] then "" else ": missing " ++ String.intercalate "," missing))
  return (⟨policyId, version, .number maxAge,
    (rules.insertionSort fun a b => a.1 ≤ b.1).map (·.2)⟩, rules)

/-- `DynamicStateController`: a policy that has been checked against the law of a field. -/
structure DynamicStateController where
  field : DynamicField
  policy : DynamicStatePolicy
  rules : List (String × DynamicStateDecayRule)
  valid : ∃ raw, validatePolicy field raw = .ok (policy, rules)

namespace DynamicStateController

variable (rt : DynamicRuntime) (controller : DynamicStateController)

def requireFreshAnchor (state : DynamicFieldState) : Except PyError Unit :=
  raiseIf (state.appliedEventIds.getLast?.any (startsWith "dynamic-state:"))
    (dynamicStateErr ("lifecycle-derived state cannot reset its own temporal anchor; " ++
      "a fresh external field event is required"))

/-- `_receipt`. -/
def buildReceipt (status reason : String) (state : DynamicFieldState)
    (activatedAtUtc observedAtUtc : String) (ageSeconds : ℚ)
    (effectiveState : Option DynamicFieldState) (transition : Option (String × String))
    (changes : List DynamicStateValueChange) (stateConsumable terminated : Bool) :
    DynamicStateReceipt :=
  let receipt : DynamicStateReceipt := {
    status, reason, policyId := controller.policy.policyId
    policySha256 := controller.policy.policySha256 rt.toFieldRuntime
    fieldLawSha256 := controller.field.lawSha256 rt, sourceFieldStateSha256 := state.stateSha256
    sourceFieldRevision := state.revision
    anchorEventId := state.appliedEventIds.getLast?.getD "dynamic-field-initial-state"
    activatedAtUtc, observedAtUtc, ageSeconds
    maxStateAgeSeconds := controller.policy.maxStateAgeSeconds.value
    effectiveFieldStateSha256 := effectiveState.map (·.stateSha256)
    effectiveFieldRevision := effectiveState.map (·.revision)
    transitionId := transition.map (·.1), transitionSha256 := transition.map (·.2), changes
    stateConsumable, terminated }
  { receipt with receiptSha256 := rt.sha256 (.obj (receipt.payload rt.toFieldRuntime)) }

/-- What `evaluate` makes of the value of one variable. -/
def attenuate (ageSeconds : ℚ) (rule : DynamicStateDecayRule) (before baseline : ℚ) : ℚ :=
  let elapsed := max 0 (ageSeconds - rule.graceSeconds.value)
  let amount := rule.attenuationRatePerSecond.value * elapsed
  if amount ≤ 0 ∨ before = baseline then before
  else stableFloat (moveToward before baseline amount)

/-- `values[name]` of a mapping. -/
def indexed {α : Type} (name : String) (entries : List (String × α)) : Except PyError α :=
  match entries.lookup name with
  | some value => .ok value
  | none => .error (.keyError name)

/-- One variable of `evaluate`. -/
def assessVariable (ageSeconds : ℚ) (current : List (String × PyReal))
    (baselines : List (String × ℚ)) (entry : String × DynamicStateDecayRule) :
    Except PyError DynamicStateValueChange := do
  let (variable_, rule) := entry
  let before ← indexed variable_ current
  let baseline ← indexed variable_ baselines
  return {
    fieldVariable := variable_, before := before.value, baseline
    graceSeconds := rule.graceSeconds.value
    attenuationRatePerSecond := rule.attenuationRatePerSecond.value
    elapsedAttenuationSeconds := stableFloat (max 0 (ageSeconds - rule.graceSeconds.value))
    after := attenuate ageSeconds rule before.value baseline }

/-- `sorted(self._rules)` with the rules. -/
def sortedRules : List (String × DynamicStateDecayRule) :=
  controller.rules.insertionSort fun a b => a.1 ≤ b.1

/-- The payload of a transition. -/
def transitionPayload (state : DynamicFieldState) (activatedAtUtc observedAtUtc : String)
    (effective : List (String × ℚ)) : Row :=
  [("schema", .str "phios.dynamic_state_transition.v0.1"),
    ("policy_sha256", .str (controller.policy.policySha256 rt.toFieldRuntime)),
    ("source_field_state_sha256", .str state.stateSha256), ("activated_at_utc", .str activatedAtUtc),
    ("observed_at_utc", .str observedAtUtc),
    ("effective_values", .obj (effective.map fun (name, value) => (name, rt.float value)))]

def evaluate (state : DynamicFieldState) (activatedAtUtc observedAtUtc : String) :
    Except PyError DynamicStateEvaluation := do
  controller.field.validateState rt state
  requireFreshAnchor state
  let activated ← parseStateTime rt.iso activatedAtUtc "activated_at_utc"
  let observed ← parseStateTime rt.iso observedAtUtc "observed_at_utc"
  raiseIf (observed < activated)
    (dynamicStateErr "observed_at_utc cannot precede activated_at_utc")
  let ageSeconds := stableFloat ((observed - activated : ℤ) / 10 ^ 6)
  let activatedText := rt.iso.isoformat activated
  let observedText := rt.iso.isoformat observed
  if controller.policy.maxStateAgeSeconds.value ≤ ageSeconds then
    return ⟨state, controller.buildReceipt rt "TERMINATED" "max_state_age_reached" state activatedText
      observedText ageSeconds none none [] false true, none⟩
  else
    let baselines := controller.field.law.variableRules.map fun rule => (rule.name, rule.initial.value)
    let assessed ← controller.sortedRules.mapM (assessVariable ageSeconds state.values baselines)
    let changes := assessed.filter fun change => change.after ≠ change.before
    let effective := assessed.map fun change => (change.fieldVariable, change.after)
    if changes ≠ [] then
      let transitionSha256 := rt.sha256
        (.obj (controller.transitionPayload rt state activatedText observedText effective))
      let transitionId := "dynamic-state:" ++ String.ofList (transitionSha256.toList.take 32)
      let effectiveState ← controller.field.materializeTemporalTransition rt state transitionId
        transitionSha256 (effective.map fun (name, value) => (name, .number value))
      return ⟨state, controller.buildReceipt rt "ATTENUATED" "temporal_attenuation_applied" state
        activatedText observedText ageSeconds (some effectiveState)
        (some (transitionId, transitionSha256)) changes true false, some effectiveState⟩
    else
      return ⟨state, controller.buildReceipt rt "ACTIVE" "within_temporal_policy_without_attenuation"
        state activatedText observedText ageSeconds (some state) none [] true false, some state⟩

def validateEvaluation (evaluation : DynamicStateEvaluation) : Except PyError Unit := do
  let receipt := evaluation.receipt
  raiseIf (receipt.schema ≠ "phios.dynamic_state_receipt.v0.1")
    (dynamicStateErr "unsupported dynamic state receipt schema")
  raiseIf (receipt.policySha256 ≠ controller.policy.policySha256 rt.toFieldRuntime)
    (dynamicStateErr "dynamic state receipt is bound to another policy")
  raiseIf (receipt.fieldLawSha256 ≠ controller.field.lawSha256 rt)
    (dynamicStateErr "dynamic state receipt is bound to another field law")
  raiseIf (rt.sha256 (.obj (receipt.payload rt.toFieldRuntime)) ≠ receipt.receiptSha256)
    (dynamicStateErr "dynamic state receipt hash does not match receipt contents")
  controller.field.validateState rt evaluation.sourceState
  raiseIf (receipt.sourceFieldStateSha256 ≠ evaluation.sourceState.stateSha256 ∨
      receipt.sourceFieldRevision ≠ evaluation.sourceState.revision)
    (dynamicStateErr "dynamic state receipt does not bind the source state")
  let expected ← controller.evaluate rt evaluation.sourceState receipt.activatedAtUtc
    receipt.observedAtUtc
  raiseIf (expected.receipt ≠ receipt)
    (dynamicStateErr "dynamic state receipt does not match policy evaluation")
  if receipt.terminated then
    raiseIf (receipt.stateConsumable = true)
      (dynamicStateErr "terminated dynamic state cannot be consumable")
    raiseIf (evaluation.effectiveState.isSome)
      (dynamicStateErr "terminated dynamic state cannot carry effective state")
  else
    let state ← evaluation.requireConsumableState rt.toFieldRuntime
    controller.field.validateState rt state
    let expectedState ← expected.requireConsumableState rt.toFieldRuntime
    raiseIf (expectedState ≠ state)
      (dynamicStateErr "effective dynamic field state does not match policy evaluation")

end DynamicStateController

end PhiOS
