import PhiOS.Library.Dict
import PhiOS.Model.RelationalField

/-!
# Dynamic fields

`core/dynamic_field.py`: advisory variables with values inside the bounds of a law, the events that
change them and the states that they are read from. Numbers are exact rationals, each with one text
in a digest; a mapping is the list of its items, a law's rules are in the order of the law.
-/

set_option autoImplicit false

namespace PhiOS

/-- The digests of a JSON payload and of a text, the texts of floats and the library's timestamps. -/
structure DynamicRuntime extends FieldRuntime where
  textSha256 : String → String
  iso : Iso8601

/-- `DynamicFieldContractError(message)`. -/
def dynamicFieldErr (message : String) : PyError := ⟨.dynamicFieldContractError, message, []⟩

/-- `text.strip().lower()` of what is to be a digest. -/
def strippedLower (text : String) : String :=
  String.ofList ((stripChars text.toList).map Char.toLower)

/-- `text.startswith(lead)`. -/
def startsWith (lead text : String) : Bool := lead.toList.isPrefixOf text.toList

/-! ## Laws -/

structure FieldVariableRule where
  name : String
  minimum : PyReal
  maximum : PyReal
  initial : PyReal
  allowedEventKinds : List String
  maxAbsDelta : PyReal
  deriving DecidableEq

/-- `to_dict`: the numbers of a law are checked before it is digested. -/
def FieldVariableRule.toDict (rt : FieldRuntime) (rule : FieldVariableRule) : Row :=
  [("name", .str rule.name), ("minimum", rt.float rule.minimum.value),
    ("maximum", rt.float rule.maximum.value), ("initial", rt.float rule.initial.value),
    ("allowed_event_kinds", .strs (rule.allowedEventKinds.insertionSort (· ≤ ·))),
    ("max_abs_delta", rt.float rule.maxAbsDelta.value)]

/-- `DynamicFieldLaw`; its `variables` are `variableRules` here. -/
structure DynamicFieldLaw where
  lawId : String
  version : String
  variableRules : List FieldVariableRule
  deriving DecidableEq

def DynamicFieldLaw.toPayload (rt : FieldRuntime) (law : DynamicFieldLaw) : Row :=
  [("schema", .str "phios.dynamic_field_law.v0.3"), ("law_id", .str law.lawId),
    ("version", .str law.version),
    ("variables", .arr ((law.variableRules.insertionSort fun a b => a.name ≤ b.name).map
      fun rule => .obj (rule.toDict rt)))]

def DynamicFieldLaw.lawSha256 (rt : FieldRuntime) (law : DynamicFieldLaw) : String :=
  rt.sha256 (.obj (law.toPayload rt))

/-- `_rules`: the checked rules by their names. -/
abbrev FieldRules := List (String × FieldVariableRule)

/-- One variable of `_validate_law`. -/
def validateRule (rules : FieldRules) (rule : FieldVariableRule) : Except PyError FieldRules := do
  let name := strip rule.name
  raiseIf (name = "") (dynamicFieldErr "variable names must be non-empty")
  raiseIf ((rules.lookup name).isSome) (dynamicFieldErr "variable names must be unique")
  let cls := ErrorClass.dynamicFieldContractError
  let minimum ← requireFinite cls rule.minimum (name ++ " minimum")
  let maximum ← requireFinite cls rule.maximum (name ++ " maximum")
  let initial ← requireFinite cls rule.initial (name ++ " initial")
  let maxAbsDelta ← requireNonnegativeFinite cls rule.maxAbsDelta (name ++ " max_abs_delta")
  raiseIf (maximum < minimum) (dynamicFieldErr (name ++ " minimum must be <= maximum"))
  raiseIf (initial < minimum ∨ maximum < initial)
    (dynamicFieldErr (name ++ " initial value must be inside bounds"))
  let kinds := rule.allowedEventKinds.map strip
  raiseIf (kinds = [] ∨ "" ∈ kinds)
    (dynamicFieldErr (name ++ " must declare non-empty allowed event kinds"))
  raiseIf (¬ kinds.Nodup) (dynamicFieldErr (name ++ " allowed event kinds must be unique"))
  return rules ++ [(name, {
    name, minimum := .number minimum, maximum := .number maximum, initial := .number initial
    allowedEventKinds := kinds, maxAbsDelta := .number maxAbsDelta })]

def validateLaw (law : DynamicFieldLaw) : Except PyError FieldRules := do
  raiseIf (strip law.lawId = "") (dynamicFieldErr "law_id must be non-empty")
  raiseIf (strip law.version = "") (dynamicFieldErr "law version must be non-empty")
  raiseIf (law.variableRules = []) (dynamicFieldErr "law must define at least one variable")
  law.variableRules.foldlM validateRule []

/-- `DynamicField`: a law that has been checked, with its rules. -/
structure DynamicField where
  law : DynamicFieldLaw
  rules : FieldRules
  valid : validateLaw law = .ok rules

/-- `DynamicField(law)`. -/
def DynamicField.init (law : DynamicFieldLaw) : Except PyError DynamicField :=
  match h : validateLaw law with
  | .ok rules => .ok ⟨law, rules, h⟩
  | .error e => .error e

/-! ## States -/

structure DynamicFieldState where
  schema : String := "phios.dynamic_field_state.v0.3"
  lawSha256 : String
  revision : ℤ
  values : List (String × PyReal)
  appliedEventIds : List String
  eventChainSha256 : String
  actionAuthority : Bool := false
  stateSha256 : String
  deriving DecidableEq

structure FieldEvent where
  eventId : String
  kind : String
  deltas : List (String × PyReal)
  sourceLabel : String
  evidenceSha256 : Option String := none

/-- `to_payload`: the numbers of an event are checked before it is digested. -/
def FieldEvent.toPayload (rt : FieldRuntime) (event : FieldEvent) : Row :=
  [("schema", .str "phios.dynamic_field_event.v0.3"), ("event_id", .str event.eventId),
    ("kind", .str event.kind),
    ("deltas", .obj (event.deltas.map fun (name, delta) => (name, rt.float delta.value))),
    ("source_label", .str event.sourceLabel), ("evidence_sha256", .optStr event.evidenceSha256)]

def FieldEvent.eventSha256 (rt : FieldRuntime) (event : FieldEvent) : String :=
  rt.sha256 (.obj (event.toPayload rt))

structure FieldValueChange where
  name : String
  before : ℚ
  requestedDelta : ℚ
  after : ℚ

def FieldValueChange.toDict (rt : FieldRuntime) (change : FieldValueChange) : Row :=
  [("name", .str change.name), ("before", rt.float change.before),
    ("requested_delta", rt.float change.requestedDelta), ("after", rt.float change.after)]

structure FieldUpdateReceipt where
  schema : String := "phios.dynamic_field_update_receipt.v0.3"
  status : String
  eventId : String
  eventSha256 : String
  lawSha256 : String
  priorStateSha256 : String
  nextStateSha256 : String
  revisionBefore : ℤ
  revisionAfter : ℤ
  changes : List FieldValueChange
  blockedBy : List String
  governingLawMutated : Bool := false
  actionAuthority : Bool := false
  receiptSha256 : String := ""

/-- The payload that is digested. -/
def FieldUpdateReceipt.payload (rt : FieldRuntime) (receipt : FieldUpdateReceipt) : Row :=
  [("schema", .str receipt.schema), ("status", .str receipt.status),
    ("event_id", .str receipt.eventId), ("event_sha256", .str receipt.eventSha256),
    ("law_sha256", .str receipt.lawSha256), ("prior_state_sha256", .str receipt.priorStateSha256),
    ("next_state_sha256", .str receipt.nextStateSha256),
    ("revision_before", .int receipt.revisionBefore), ("revision_after", .int receipt.revisionAfter),
    ("changes", .arr (receipt.changes.map fun change => .obj (change.toDict rt))),
    ("blocked_by", .strs receipt.blockedBy), ("governing_law_mutated", .bool false),
    ("action_authority", .bool false)]

namespace DynamicField

variable (rt : DynamicRuntime) (field : DynamicField)

def lawSha256 : String := field.law.lawSha256 rt.toFieldRuntime

/-- `sorted(self._rules)`. -/
def sortedNames : List String := (field.rules.map (·.1)).insertionSort (· ≤ ·)

def stateDigest (revision : ℤ) (values : List (String × PyReal)) (appliedEventIds : List String)
    (eventChainSha256 : String) : String :=
  rt.sha256 (.obj [("schema", .str "phios.dynamic_field_state.v0.3"),
    ("law_sha256", .str (field.lawSha256 rt)), ("revision", .int revision),
    ("values", .obj (values.map fun (name, value) => (name, rt.float value.value))),
    ("applied_event_ids", .strs appliedEventIds), ("event_chain_sha256", .str eventChainSha256),
    ("action_authority", .bool false)])

def buildState (revision : ℤ) (values : List (String × PyReal)) (appliedEventIds : List String)
    (eventChainSha256 : String) : DynamicFieldState where
  lawSha256 := field.lawSha256 rt
  revision := revision
  values := values
  appliedEventIds := appliedEventIds
  eventChainSha256 := eventChainSha256
  stateSha256 := field.stateDigest rt revision values appliedEventIds eventChainSha256

/-- `self._rules[name]`. -/
def rule (name : String) : Except PyError FieldVariableRule :=
  match field.rules.lookup name with
  | some rule => .ok rule
  | none => .error (.keyError name)

/-- `initialize`. -/
def initialState : DynamicFieldState :=
  field.buildState rt 0
    ((field.rules.map fun (name, rule) => (name, rule.initial)).insertionSort fun a b => a.1 ≤ b.1)
    [] (rt.textSha256 "phios.dynamic_field_chain.v0.3")

/-- The value of one variable of a state or a transition: a number inside the bounds. -/
def validateValue (kind : String) (entry : String × PyReal) : Except PyError ℚ := do
  let (name, value) := entry
  let rule ← field.rule name
  let numeric ← requireFinite .dynamicFieldContractError value (name ++ " " ++ kind ++ " value")
  raiseIf (numeric < rule.minimum.value ∨ rule.maximum.value < numeric)
    (dynamicFieldErr (name ++ " " ++ kind ++ " value is outside governing bounds"))
  return numeric

def validateState (state : DynamicFieldState) : Except PyError Unit := do
  raiseIf (state.schema ≠ "phios.dynamic_field_state.v0.3")
    (dynamicFieldErr "unsupported dynamic field state schema")
  raiseIf (state.lawSha256 ≠ field.lawSha256 rt)
    (dynamicFieldErr "state is bound to a different governing law")
  raiseIf (state.actionAuthority = true)
    (dynamicFieldErr "dynamic field state cannot carry action authority")
  raiseIf (state.revision ≠ state.appliedEventIds.length)
    (dynamicFieldErr "state revision does not match applied event count")
  raiseIf (state.values.map (·.1) ≠ field.sortedNames)
    (dynamicFieldErr "state variables do not match governing law")
  raiseIf (¬ state.appliedEventIds.Nodup) (dynamicFieldErr "applied event IDs must be unique")
  state.values.forM fun entry => do
    let _ ← field.validateValue "state" entry
  let expected := field.stateDigest rt state.revision state.values state.appliedEventIds
    state.eventChainSha256
  raiseIf (expected ≠ state.stateSha256)
    (dynamicFieldErr "dynamic field state hash does not match state contents")

/-! ## Events -/

/-- One delta of `_validate_event`. -/
def validateDelta (entry : String × PyReal) : Except PyError (String × PyReal) := do
  let name := strip entry.1
  raiseIf ((field.rules.lookup name).isNone)
    (dynamicFieldErr ("event references unknown field variable '" ++ name ++ "'"))
  let delta ← requireFinite .dynamicFieldContractError entry.2 (name ++ " requested delta")
  return (name, .number delta)

/-- `_validate_event`: the deltas come out in the order of their names. -/
def validateEvent (event : FieldEvent) : Except PyError FieldEvent := do
  let eventId := strip event.eventId
  let kind := strip event.kind
  let sourceLabel := strip event.sourceLabel
  raiseIf (eventId = "") (dynamicFieldErr "event_id must be non-empty")
  raiseIf (kind = "") (dynamicFieldErr "event kind must be non-empty")
  raiseIf (sourceLabel = "") (dynamicFieldErr "event source_label must be non-empty")
  raiseIf (event.deltas = []) (dynamicFieldErr "event must update at least one field variable")
  let deltas ← event.deltas.mapM field.validateDelta
  let evidenceSha256 := event.evidenceSha256.map strippedLower
  raiseIf (evidenceSha256.any fun digest => ¬ isSha256Text digest)
    (dynamicFieldErr "evidence_sha256 must be a 64-character hexadecimal SHA-256")
  return { eventId, kind, sourceLabel, evidenceSha256
           deltas := deltas.foldl (fun dict (name, delta) => KeyOrder.insertEntry name delta dict) [] }

def buildReceipt (status : String) (event : FieldEvent) (eventSha256 : String)
    (prior nextState : DynamicFieldState) (changes : List FieldValueChange)
    (blockedBy : List String) : FieldUpdateReceipt :=
  let receipt : FieldUpdateReceipt := {
    status, eventId := event.eventId, eventSha256, lawSha256 := field.lawSha256 rt
    priorStateSha256 := prior.stateSha256, nextStateSha256 := nextState.stateSha256
    revisionBefore := prior.revision, revisionAfter := nextState.revision, changes, blockedBy }
  { receipt with receiptSha256 := rt.sha256 (.obj (receipt.payload rt.toFieldRuntime)) }

/-- What one delta of an event comes to: a reason why it is blocked, or a change. -/
def assessDelta (kind : String) (current : List (String × PyReal)) (entry : String × PyReal) :
    Except PyError (String ⊕ FieldValueChange) := do
  let (name, delta) := entry
  let rule ← field.rule name
  if kind ∉ rule.allowedEventKinds then
    return .inl (name ++ ":event_kind_not_allowed")
  else if rule.maxAbsDelta.value < |delta.value| then
    return .inl (name ++ ":delta_exceeds_rule")
  else
    match current.lookup name with
    | none => .error (.keyError name)
    | some before =>
        let after := before.value + delta.value
        if after < rule.minimum.value ∨ rule.maximum.value < after then
          return .inl (name ++ ":value_out_of_bounds")
        else return .inr ⟨name, before.value, delta.value, after⟩

def applyEvent (state : DynamicFieldState) (event : FieldEvent) :
    Except PyError (DynamicFieldState × FieldUpdateReceipt) := do
  field.validateState rt state
  let event ← field.validateEvent event
  let eventSha256 := event.eventSha256 rt.toFieldRuntime
  let replayed := if event.eventId ∈ state.appliedEventIds then ["event_replay"] else []
  let assessed ← event.deltas.mapM (field.assessDelta event.kind state.values)
  let blockedBy := replayed ++ assessed.filterMap Sum.getLeft?
  let pending := assessed.filterMap Sum.getRight?
  if blockedBy ≠ [] then
    return (state, field.buildReceipt rt "blocked" event eventSha256 state state []
      (sortedSet blockedBy))
  else
    let updated := pending.foldl
      (fun dict change => KeyOrder.insertEntry change.name (.number change.after) dict) state.values
    let nextState := field.buildState rt (state.revision + 1) updated
      (state.appliedEventIds ++ [event.eventId])
      (rt.textSha256 (state.eventChainSha256 ++ ":" ++ eventSha256))
    return (nextState, field.buildReceipt rt "applied" event eventSha256 state nextState pending [])

def materializeTemporalTransition (state : DynamicFieldState) (transitionId transitionSha256 : String)
    (values : List (String × PyReal)) : Except PyError DynamicFieldState := do
  field.validateState rt state
  let normalizedId := strip transitionId
  raiseIf (¬ startsWith "dynamic-state:" normalizedId)
    (dynamicFieldErr "temporal transition_id must use dynamic-state namespace")
  let normalizedSha := strippedLower transitionSha256
  raiseIf (¬ isSha256Text normalizedSha)
    (dynamicFieldErr "transition_sha256 must be a 64-character hexadecimal SHA-256")
  raiseIf (normalizedId ∈ state.appliedEventIds) (dynamicFieldErr "temporal transition replay")
  raiseIf (sortedSet (values.map (·.1)) ≠ field.sortedNames)
    (dynamicFieldErr "temporal transition values must cover every field variable")
  let nextValues ← field.sortedNames.mapM fun name => do
    match values.lookup name with
    | none => .error (.keyError name)
    | some value => return (name, PyReal.number (← field.validateValue "temporal" (name, value)))
  if nextValues = state.values then return state
  else
    return field.buildState rt (state.revision + 1) nextValues
      (state.appliedEventIds ++ [normalizedId])
      (rt.textSha256 (state.eventChainSha256 ++ ":" ++ normalizedSha))

end DynamicField

end PhiOS
