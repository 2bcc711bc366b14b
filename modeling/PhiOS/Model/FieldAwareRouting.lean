import PhiOS.Model.DynamicState

/-!
# Field-aware routing

`core/field_aware_routing.py`: a router reads the values of a dynamic field and prices transitions
by them; routes are searched and paths are assessed over the relational field that comes out.
-/

set_option autoImplicit false

namespace PhiOS

/-- `FieldAwareRoutingContractError(message)`. -/
def routingErr (message : String) : PyError := ⟨.fieldAwareRoutingContractError, message, []⟩

/-- `except RelationalFieldContractError as exc: raise FieldAwareRoutingContractError(str(exc))`. -/
def asRouting {α : Type} (result : Except PyError α) : Except PyError α :=
  match result with
  | .ok value => .ok value
  | .error e =>
      if e.cls = .relationalFieldContractError then .error (routingErr e.message) else .error e

/-! ## Records -/

structure DynamicCostBinding (σ : Type) where
  name : String
  fieldVariable : String
  evaluate : σ → σ → Except PyError PyReal
  scale : PyReal := .number 1

structure DynamicBindingSnapshot where
  name : String
  fieldVariable : String
  fieldValue : ℚ
  scale : ℚ
  deriving DecidableEq

def DynamicBindingSnapshot.toDict (rt : FieldRuntime) (snapshot : DynamicBindingSnapshot) : Row :=
  [("name", .str snapshot.name), ("field_variable", .str snapshot.fieldVariable),
    ("field_value", rt.float snapshot.fieldValue), ("scale", rt.float snapshot.scale)]

structure FieldAwarePathAssessmentReceipt where
  schema : String := "phios.field_aware_path_assessment.v0.5"
  status : String
  fieldLawSha256 : String
  fieldStateSha256 : String
  fieldRevision : ℤ
  bindings : List DynamicBindingSnapshot
  pathIds : List String
  transitionReceiptSha256s : List String
  blockedTransitionIndex : Option ℕ
  totalCost : Option ℚ
  actionAuthority : Bool := false
  receiptSha256 : String := ""
  deriving DecidableEq

/-- The payload that is digested. -/
def FieldAwarePathAssessmentReceipt.payload (rt : FieldRuntime)
    (receipt : FieldAwarePathAssessmentReceipt) : Row :=
  [("schema", .str receipt.schema), ("status", .str receipt.status),
    ("field_law_sha256", .str receipt.fieldLawSha256),
    ("field_state_sha256", .str receipt.fieldStateSha256),
    ("field_revision", .int receipt.fieldRevision),
    ("bindings", .arr (receipt.bindings.map fun item => .obj (item.toDict rt))),
    ("path_ids", .strs receipt.pathIds),
    ("transition_receipt_sha256s", .strs receipt.transitionReceiptSha256s),
    ("blocked_transition_index", .optInteger (receipt.blockedTransitionIndex.map Int.ofNat)),
    ("total_cost", rt.optFloat receipt.totalCost), ("action_authority", .bool false)]

structure FieldAwareRouteReceipt where
  schema : String := "phios.field_aware_route_receipt.v0.4"
  status : String
  fieldLawSha256 : String
  fieldStateSha256 : String
  fieldRevision : ℤ
  bindings : List DynamicBindingSnapshot
  pathReceiptSha256 : String
  pathIds : List String
  totalCost : Option ℚ
  optimalityScope : String := "least_declared_cost_over_observed_graph_at_exact_field_snapshot"
  actionAuthority : Bool := false
  receiptSha256 : String := ""
  deriving DecidableEq

/-- The payload that is digested. -/
def FieldAwareRouteReceipt.payload (rt : FieldRuntime) (receipt : FieldAwareRouteReceipt) : Row :=
  [("schema", .str receipt.schema), ("status", .str receipt.status),
    ("field_law_sha256", .str receipt.fieldLawSha256),
    ("field_state_sha256", .str receipt.fieldStateSha256),
    ("field_revision", .int receipt.fieldRevision),
    ("bindings", .arr (receipt.bindings.map fun item => .obj (item.toDict rt))),
    ("path_receipt_sha256", .str receipt.pathReceiptSha256), ("path_ids", .strs receipt.pathIds),
    ("total_cost", rt.optFloat receipt.totalCost), ("optimality_scope", .str receipt.optimalityScope),
    ("action_authority", .bool receipt.actionAuthority)]

/-! ## The router -/

/-- One binding of `__init__`: it names a variable of the law without negative values. -/
def validateDynamicBinding {σ : Type} (law : DynamicFieldLaw) (binding : DynamicCostBinding σ) :
    Except PyError Unit := do
  let fieldVariable := strip binding.fieldVariable
  -- of two rules with one name the later one counts
  match law.variableRules.reverse.find? fun rule => rule.name = fieldVariable with
  | none =>
      .error (routingErr ("binding '" ++ binding.name ++ "' references unknown field variable '" ++
        fieldVariable ++ "'"))
  | some rule => do
      raiseIf (rule.minimum.value < 0) (routingErr ("binding '" ++ binding.name ++
        "' requires a field variable with non-negative governing bounds"))
      let _ ← requireNonnegativeFinite .fieldAwareRoutingContractError binding.scale
        ("binding '" ++ binding.name ++ "' scale")

/-- The checks of `__init__`. -/
def validateRouter {σ : Type} (rt : DynamicRuntime) (field : DynamicField)
    (bindings : List (DynamicCostBinding σ)) (requireReceipt : Bool)
    (controller : Option DynamicStateController) : Except PyError Unit := do
  raiseIf (requireReceipt ∧ controller.isNone)
    (routingErr "hardened dynamic routing requires a DynamicStateController")
  raiseIf (controller.any fun controller => controller.field.lawSha256 rt ≠ field.lawSha256 rt)
    (routingErr "dynamic state controller is bound to another field law")
  let names := bindings.map fun binding => strip binding.name
  raiseIf ("" ∈ names) (routingErr "dynamic binding names must be non-empty")
  raiseIf (¬ names.Nodup) (routingErr "dynamic binding names must be unique")
  bindings.forM (validateDynamicBinding field.law)

/-- `FieldAwareRouter`: its arguments, which have been checked. -/
structure FieldAwareRouter (rt : DynamicRuntime) (σ : Type) where
  dynamicField : DynamicField
  stateId : σ → Except PyError String
  axes : List (FieldAxisSpec σ)
  relationCosts : List (RelationCostSpec σ)
  constraints : List (TransitionConstraintSpec σ)
  dynamicBindings : List (DynamicCostBinding σ)
  requireDynamicStateReceipt : Bool
  dynamicStateController : Option DynamicStateController
  valid : validateRouter rt dynamicField dynamicBindings requireDynamicStateReceipt
    dynamicStateController = .ok ()

/-- What a route or an assessment is given: a state, or an evaluation of one. -/
inductive FieldInput
  | state (state : DynamicFieldState)
  | evaluation (evaluation : DynamicStateEvaluation)

namespace FieldAwareRouter

variable {rt : DynamicRuntime} {σ : Type} (router : FieldAwareRouter rt σ)

/-- This module's class. -/
abbrev cls : ErrorClass := .fieldAwareRoutingContractError

def resolveFieldState (input : FieldInput) : Except PyError DynamicFieldState :=
  match input with
  | .evaluation evaluation => do
      match router.dynamicStateController with
      | none => pure ()
      | some controller =>
          match controller.validateEvaluation rt evaluation with
          | .ok _ => pure ()
          | .error e =>
              if e.cls = cls ∨ ¬ e.cls.isException then .error e else .error (routingErr e.message)
      let state ← evaluation.requireConsumableState rt.toFieldRuntime
      raiseIf (evaluation.receipt.fieldLawSha256 ≠ router.dynamicField.lawSha256 rt)
        (routingErr "dynamic state receipt is bound to another field law")
      return state
  | .state state => do
      raiseIf (router.requireDynamicStateReceipt = true)
        (routingErr "hardened dynamic routing requires a DynamicStateEvaluation")
      return state

def boundRelationMeasure (bindingName : String) (evaluator : σ → σ → Except PyError PyReal)
    (fieldValue : ℚ) (source target : σ) : Except PyError PyReal := do
  let susceptibility ← orWrapped cls ("binding '" ++ bindingName ++ "' could not be evaluated") do
    requireNonnegativeFinite cls (← evaluator source target)
      ("binding '" ++ bindingName ++ "' transition susceptibility")
  return .number (fieldValue * susceptibility)

/-- One binding of `_reasoner_for_state`. -/
def bindVariable (values : List (String × PyReal)) (binding : DynamicCostBinding σ) :
    Except PyError (DynamicBindingSnapshot × RelationCostSpec σ) := do
  let fieldVariable := strip binding.fieldVariable
  let value ← DynamicStateController.indexed fieldVariable values
  let fieldValue ← requireNonnegativeFinite cls value ("dynamic field '" ++ fieldVariable ++ "' value")
  let scale ← requireNonnegativeFinite cls binding.scale ("binding '" ++ binding.name ++ "' scale")
  return (⟨binding.name, fieldVariable, fieldValue, scale⟩,
    { name := "dynamic:" ++ binding.name
      evaluate := boundRelationMeasure binding.name binding.evaluate fieldValue
      weight := .number scale })

def reasonerForState (fieldState : DynamicFieldState) :
    Except PyError (RelationalField σ × List DynamicBindingSnapshot) := do
  router.dynamicField.validateState rt fieldState
  let bound ← (router.dynamicBindings.insertionSort fun a b => a.name ≤ b.name).mapM
    (bindVariable fieldState.values)
  let reasoner : RelationalField σ := {
    stateId := router.stateId, axes := router.axes, constraints := router.constraints
    relationCosts := router.relationCosts ++ bound.map (·.2) }
  reasoner.validate
  return (reasoner, bound.map (·.1))

def buildReceipt (rt : DynamicRuntime) (fieldState : DynamicFieldState)
    (snapshots : List DynamicBindingSnapshot) (path : FieldPathReceipt) : FieldAwareRouteReceipt :=
  let receipt : FieldAwareRouteReceipt := {
    status := path.status, fieldLawSha256 := fieldState.lawSha256
    fieldStateSha256 := fieldState.stateSha256, fieldRevision := fieldState.revision
    bindings := snapshots, pathReceiptSha256 := path.receiptSha256, pathIds := path.pathIds
    totalCost := path.totalCost }
  { receipt with receiptSha256 := rt.sha256 (.obj (receipt.payload rt.toFieldRuntime)) }

def route [DecidableEq σ] (input : FieldInput) (starts : List σ)
    (expand : σ → Except PyError (List σ)) (goal : σ → Except PyError Bool) (baseCost : PyReal)
    (maxStates : ℤ) : Except PyError FieldAwareRouteReceipt := do
  let resolvedState ← router.resolveFieldState input
  let (reasoner, snapshots) ← router.reasonerForState resolvedState
  let path ← asRouting
    (reasoner.leastCostPath rt.toFieldRuntime starts expand goal baseCost maxStates)
  return buildReceipt rt resolvedState snapshots path

/-- How the loop of `assess_path` ends. -/
structure PathSteps where
  transitionHashes : List String
  blockedIndex : Option ℕ
  total : Option ℚ

/-- The loop of `assess_path`, from the transition with this index on. -/
def assessSteps (rt : FieldRuntime) (reasoner : RelationalField σ) (baseCost : PyReal) :
    ℕ → List σ → List String → ℚ → Except PyError PathSteps
  | index, source :: target :: states, transitionHashes, totalCost => do
      let transition ← asRouting (reasoner.assessTransition rt source target baseCost)
      let transitionHashes := transitionHashes ++ [transition.receiptSha256]
      if transition.status = "blocked" then return ⟨transitionHashes, some index, none⟩
      else
        match transition.totalCost with
        | none => .error (routingErr "admissible transition must have total cost")
        | some cost =>
            assessSteps rt reasoner baseCost (index + 1) (target :: states) transitionHashes
              (totalCost + cost)
  | _, _, transitionHashes, totalCost => return ⟨transitionHashes, none, some totalCost⟩

def assessPath (input : FieldInput) (states : List σ) (baseCost : PyReal) :
    Except PyError FieldAwarePathAssessmentReceipt := do
  let resolvedState ← router.resolveFieldState input
  let (reasoner, snapshots) ← router.reasonerForState resolvedState
  raiseIf (states.isEmpty) (routingErr "path assessment requires at least one state")
  let pathIds ← states.mapM fun state => requireStateId cls (router.stateId state)
  let steps ← assessSteps rt.toFieldRuntime reasoner baseCost 0 states [] 0
  let receipt : FieldAwarePathAssessmentReceipt := {
    status := if steps.blockedIndex.isSome then "blocked" else "admissible"
    fieldLawSha256 := resolvedState.lawSha256, fieldStateSha256 := resolvedState.stateSha256
    fieldRevision := resolvedState.revision, bindings := snapshots, pathIds
    transitionReceiptSha256s := steps.transitionHashes
    blockedTransitionIndex := steps.blockedIndex, totalCost := steps.total }
  return { receipt with receiptSha256 := rt.sha256 (.obj (receipt.payload rt.toFieldRuntime)) }

end FieldAwareRouter

end PhiOS
