import Mathlib.Algebra.Order.Ring.Rat
import Mathlib.Data.List.Sort
import Mathlib.Logic.Function.Basic
import PhiOS.Model.Value

/-!
# Relational fields

`core/relational_field.py`: transitions between states that hard constraints block and soft
measures price, and the search for a path of least declared cost. States are of any type; the
measures, constraints, expansions and goals are functions of the caller that may raise. Costs are
exact rationals.

The names of a dictionary are kept as a function, a set as the list of what was added to it, and the
heap as the list of its entries in order. The loops are recursions; `searchLoop` is given one round
for each state that it may expand.
-/

set_option autoImplicit false

namespace PhiOS

/-- What a function of the caller gives for a number. -/
inductive PyReal
  | number (value : ℚ)
  | notFinite
  | notNumeric
  deriving DecidableEq

/-- The number. -/
def PyReal.value : PyReal → ℚ
  | .number value => value
  | _ => 0

def requireFinite (cls : ErrorClass) (value : PyReal) (label : String) : Except PyError ℚ :=
  match value with
  | .number value => .ok value
  | .notFinite => .error ⟨cls, label ++ " must be finite", []⟩
  | .notNumeric => .error ⟨cls, label ++ " must be numeric", []⟩

def requireNonnegativeFinite (cls : ErrorClass) (value : PyReal) (label : String) :
    Except PyError ℚ := do
  let number ← requireFinite cls value label
  raiseIf (number < 0) ⟨cls, label ++ " must be non-negative", []⟩
  return number

/-- `_require_state_id` of `str` of what the caller's function gives. -/
def requireStateId (cls : ErrorClass) (value : Except PyError String) : Except PyError String := do
  let stateId := strip (← value)
  raiseIf (stateId = "") ⟨cls, "state_id must be non-empty", []⟩
  return stateId

/-- `except Exception` around a function of the caller: the errors of the module's own class go
through. -/
def orWrapped {α : Type} (cls : ErrorClass) (message : String) (result : Except PyError α) :
    Except PyError α :=
  match result with
  | .ok value => .ok value
  | .error e =>
      if e.cls = cls ∨ ¬ e.cls.isException then .error e
      else .error ⟨cls, message ++ ": " ++ e.cls.name, []⟩

/-- The digest of canonical JSON, and the text of a float in it. -/
structure FieldRuntime where
  sha256 : Json → String
  floatText : ℚ → String

/-- A float as JSON. -/
def FieldRuntime.float (rt : FieldRuntime) (value : ℚ) : Json := .float (rt.floatText value)

/-- A float or `None` as JSON. -/
def FieldRuntime.optFloat (rt : FieldRuntime) : Option ℚ → Json
  | none => .null
  | some value => rt.float value

/-- `RelationalFieldContractError(message)`. -/
def relationalErr (message : String) : PyError := ⟨.relationalFieldContractError, message, []⟩

/-- `except Exception` around a function of the caller that wraps every error. -/
def wrapped {α : Type} (message : String) (result : Except PyError α) : Except PyError α :=
  match result with
  | .ok value => .ok value
  | .error e =>
      if e.cls.isException then .error (relationalErr (message ++ ": " ++ e.cls.name))
      else .error e

/-! ## Records -/

structure AxisChange where
  name : String
  sourceValue : ℚ
  targetValue : ℚ
  absoluteDelta : ℚ
  weightedCost : ℚ

def AxisChange.toDict (rt : FieldRuntime) (change : AxisChange) : Row :=
  [("name", .str change.name), ("source_value", rt.float change.sourceValue),
    ("target_value", rt.float change.targetValue),
    ("absolute_delta", rt.float change.absoluteDelta),
    ("weighted_cost", rt.float change.weightedCost)]

structure RelationCost where
  name : String
  rawCost : ℚ
  weightedCost : ℚ

def RelationCost.toDict (rt : FieldRuntime) (cost : RelationCost) : Row :=
  [("name", .str cost.name), ("raw_cost", rt.float cost.rawCost),
    ("weighted_cost", rt.float cost.weightedCost)]

structure TransitionReceipt where
  schema : String := "phios.relational_transition_receipt.v0.2"
  sourceId : String
  targetId : String
  status : String
  blockedBy : List String
  baseCost : ℚ
  axisChanges : List AxisChange
  relationCosts : List RelationCost
  totalCost : Option ℚ
  actionAuthority : Bool := false
  receiptSha256 : String := ""

/-- The payload that is digested. -/
def TransitionReceipt.payload (rt : FieldRuntime) (receipt : TransitionReceipt) : Row :=
  [("schema", .str receipt.schema), ("source_id", .str receipt.sourceId),
    ("target_id", .str receipt.targetId), ("status", .str receipt.status),
    ("blocked_by", .strs receipt.blockedBy), ("base_cost", rt.float receipt.baseCost),
    ("axis_changes", .arr (receipt.axisChanges.map fun item => .obj (item.toDict rt))),
    ("relation_costs", .arr (receipt.relationCosts.map fun item => .obj (item.toDict rt))),
    ("total_cost", rt.optFloat receipt.totalCost), ("action_authority", .bool false)]

/-- The receipt with its digest. -/
def TransitionReceipt.sealed (rt : FieldRuntime) (receipt : TransitionReceipt) : TransitionReceipt :=
  { receipt with receiptSha256 := rt.sha256 (.obj (receipt.payload rt)) }

structure FieldPathReceipt where
  schema : String := "phios.relational_field_path_receipt.v0.2"
  status : String
  startIds : List String
  goalId : Option String
  pathIds : List String
  totalCost : Option ℚ
  statesExpanded : ℕ
  transitionsEvaluated : ℕ
  blockedTransitions : ℕ
  maxStates : ℤ
  optimalityScope : String := "least_declared_cost_over_observed_graph"
  actionAuthority : Bool := false
  receiptSha256 : String := ""

/-- The payload that is digested. -/
def FieldPathReceipt.payload (rt : FieldRuntime) (receipt : FieldPathReceipt) : Row :=
  [("schema", .str receipt.schema), ("status", .str receipt.status),
    ("start_ids", .strs receipt.startIds), ("goal_id", .optStr receipt.goalId),
    ("path_ids", .strs receipt.pathIds), ("total_cost", rt.optFloat receipt.totalCost),
    ("states_expanded", .int receipt.statesExpanded),
    ("transitions_evaluated", .int receipt.transitionsEvaluated),
    ("blocked_transitions", .int receipt.blockedTransitions), ("max_states", .int receipt.maxStates),
    ("optimality_scope", .str receipt.optimalityScope), ("action_authority", .bool false)]

/-- The receipt with its digest. -/
def FieldPathReceipt.sealed (rt : FieldRuntime) (receipt : FieldPathReceipt) : FieldPathReceipt :=
  { receipt with receiptSha256 := rt.sha256 (.obj (receipt.payload rt)) }

/-! ## Fields -/

structure FieldAxisSpec (σ : Type) where
  name : String
  measure : σ → Except PyError PyReal
  weight : PyReal := .number 1

structure RelationCostSpec (σ : Type) where
  name : String
  evaluate : σ → σ → Except PyError PyReal
  weight : PyReal := .number 1

structure TransitionConstraintSpec (σ : Type) where
  name : String
  predicate : σ → σ → Except PyError Bool

/-- `RelationalField`: the arguments of its constructor. -/
structure RelationalField (σ : Type) where
  stateId : σ → Except PyError String
  axes : List (FieldAxisSpec σ)
  relationCosts : List (RelationCostSpec σ)
  constraints : List (TransitionConstraintSpec σ)

def requireUniqueNames (kind : String) (names : List String) : Except PyError Unit := do
  let normalized := names.map strip
  raiseIf ("" ∈ normalized) (relationalErr (kind ++ " names must be non-empty"))
  raiseIf (¬ normalized.Nodup) (relationalErr (kind ++ " names must be unique"))

namespace RelationalField

variable {σ : Type}

/-- This module's class. -/
abbrev cls : ErrorClass := .relationalFieldContractError

/-- The checks of `__init__`. -/
def validate (field : RelationalField σ) : Except PyError Unit := do
  requireUniqueNames "axis" (field.axes.map (·.name))
  requireUniqueNames "relation cost" (field.relationCosts.map (·.name))
  requireUniqueNames "constraint" (field.constraints.map (·.name))
  field.axes.forM fun spec => do
    let _ ← requireNonnegativeFinite cls spec.weight ("axis '" ++ spec.name ++ "' weight")
  field.relationCosts.forM fun spec => do
    let _ ← requireNonnegativeFinite cls spec.weight ("relation '" ++ spec.name ++ "' weight")

/-- The name of a state. -/
def requireId (field : RelationalField σ) (state : σ) : Except PyError String :=
  requireStateId cls (field.stateId state)

/-- One constraint of `_blocked_constraints`: what raises is not allowed. -/
def allows (spec : TransitionConstraintSpec σ) (source target : σ) : Except PyError Bool :=
  match spec.predicate source target with
  | .ok allowed => .ok allowed
  | .error e => if e.cls.isException then .ok false else .error e

def blockedConstraints (field : RelationalField σ) (source target : σ) :
    Except PyError (List String) := do
  let blocked ← field.constraints.mapM fun spec => do
    return if ← allows spec source target then [] else [spec.name]
  return blocked.flatten

/-- One axis of `assess_transition`. -/
def axisChange (source target : σ) (spec : FieldAxisSpec σ) : Except PyError AxisChange := do
  let (sourceValue, targetValue) ← orWrapped cls ("axis '" ++ spec.name ++ "' could not be evaluated")
    do
      let sourceValue ←
        requireFinite cls (← spec.measure source) ("axis '" ++ spec.name ++ "' source value")
      let targetValue ←
        requireFinite cls (← spec.measure target) ("axis '" ++ spec.name ++ "' target value")
      return (sourceValue, targetValue)
  let delta := |targetValue - sourceValue|
  return ⟨spec.name, sourceValue, targetValue, delta, delta * spec.weight.value⟩

/-- One relation of `assess_transition`. -/
def relationCost (source target : σ) (spec : RelationCostSpec σ) : Except PyError RelationCost := do
  let raw ← orWrapped cls ("relation '" ++ spec.name ++ "' could not be evaluated") do
    requireNonnegativeFinite cls (← spec.evaluate source target)
      ("relation '" ++ spec.name ++ "' cost")
  return ⟨spec.name, raw, raw * spec.weight.value⟩

def assessTransition (rt : FieldRuntime) (field : RelationalField σ) (source target : σ)
    (baseCost : PyReal) : Except PyError TransitionReceipt := do
  let base ← requireNonnegativeFinite cls baseCost "base_cost"
  let sourceId ← field.requireId source
  let targetId ← field.requireId target
  let blockedBy ← field.blockedConstraints source target
  if blockedBy ≠ [] then
    return TransitionReceipt.sealed rt {
      sourceId, targetId, status := "blocked", blockedBy, baseCost := base
      axisChanges := [], relationCosts := [], totalCost := none }
  else
    let axisChanges ← field.axes.mapM (axisChange source target)
    let relationCosts ← field.relationCosts.mapM (relationCost source target)
    let total ← requireNonnegativeFinite cls (.number (base + (axisChanges.map (·.weightedCost)).sum +
      (relationCosts.map (·.weightedCost)).sum)) "total transition cost"
    return TransitionReceipt.sealed rt {
      sourceId, targetId, status := "admissible", blockedBy, baseCost := base
      axisChanges, relationCosts, totalCost := some total }

/-! ## Paths -/

/-- The variables of `least_cost_path`. -/
structure Search (σ : Type) where
  frontier : List (ℚ × String × σ)
  bestCost : String → Option ℚ
  parent : String → Option (Option String)
  stateById : String → Option σ
  expanded : List String
  transitionsEvaluated : ℕ
  blockedTransitions : ℕ

/-- The order of the entries of the heap. -/
def entryLE (a b : ℚ × String × σ) : Prop := a.1 < b.1 ∨ a.1 = b.1 ∧ a.2.1 ≤ b.2.1

instance : DecidableRel (@entryLE σ) :=
  fun a b => inferInstanceAs (Decidable (a.1 < b.1 ∨ a.1 = b.1 ∧ a.2.1 ≤ b.2.1))

def heappush (frontier : List (ℚ × String × σ)) (entry : ℚ × String × σ) :
    List (ℚ × String × σ) :=
  frontier.orderedInsert entryLE entry

/-- States with their names, sorted by them: `sort(key=…)`. -/
def sortById (field : RelationalField σ) (states : List σ) : Except PyError (List (String × σ)) := do
  let named ← states.mapM fun state => do
    return (← field.requireId state, state)
  return named.insertionSort fun a b => a.1 ≤ b.1

/-- Before the loop. -/
def startSearch (starts : List (String × σ)) : Search σ where
  frontier := starts.foldl (fun frontier start => heappush frontier (0, start)) []
  bestCost := fun id => (starts.lookup id).map fun _ => 0
  parent := fun id => (starts.lookup id).map fun _ => none
  stateById := fun id => starts.lookup id
  expanded := []
  transitionsEvaluated := 0
  blockedTransitions := 0

/-- The entry that is expanded next, and what is left of the heap: entries that are out of date are
popped and dropped. -/
def Search.popFresh (search : Search σ) :
    List (ℚ × String × σ) → Option ((ℚ × String × σ) × List (ℚ × String × σ))
  | [] => none
  | entry :: frontier =>
      if entry.2.1 ∈ search.expanded ∨ search.bestCost entry.2.1 ≠ some entry.1 then
        search.popFresh frontier
      else some (entry, frontier)

/-- The body of the loop over the neighbours. -/
def relax [DecidableEq σ] (rt : FieldRuntime) (field : RelationalField σ) (base : ℚ)
    (currentCost : ℚ) (currentId : String) (current : σ) (search : Search σ)
    (neighbor : String × σ) : Except PyError (Search σ) := do
  let (neighborId, neighbor) := neighbor
  raiseIf ((search.stateById neighborId).any (· ≠ neighbor))
    (relationalErr ("state ID '" ++ neighborId ++ "' was reused for a different state"))
  let search := { search with
    stateById := Function.update search.stateById neighborId (some neighbor) }
  let receipt ← field.assessTransition rt current neighbor (.number base)
  let search := { search with transitionsEvaluated := search.transitionsEvaluated + 1 }
  if receipt.status = "blocked" then
    return { search with blockedTransitions := search.blockedTransitions + 1 }
  else
    match receipt.totalCost with
    | none => .error (relationalErr "admissible transition must have a total cost")
    | some totalCost =>
        let candidateCost := currentCost + totalCost
        if (search.bestCost neighborId).all (candidateCost < ·) then
          return { search with
            bestCost := Function.update search.bestCost neighborId (some candidateCost)
            parent := Function.update search.parent neighborId (some (some currentId))
            frontier := heappush search.frontier (candidateCost, neighborId, neighbor) }
        else return search

/-- How the loop of `least_cost_path` ends. -/
structure SearchEnd (σ : Type) where
  search : Search σ
  goalId : Option String
  status : String

/-- What `searchLoop` says when it is given too few rounds. -/
def outOfRounds : PyError := ⟨.runtimeError, "out of rounds", []⟩

/-- The loop of `least_cost_path`. -/
def searchLoop [DecidableEq σ] (rt : FieldRuntime) (field : RelationalField σ)
    (expand : σ → Except PyError (List σ)) (goal : σ → Except PyError Bool) (base : ℚ)
    (maxStates : ℤ) : ℕ → Search σ → Except PyError (SearchEnd σ)
  | 0, _ => .error outOfRounds
  | rounds + 1, search =>
      match search.popFresh search.frontier with
      | none => return ⟨{ search with frontier := [] }, none, "exhausted_over_observed_graph"⟩
      | some ((currentCost, currentId, current), frontier) => do
          let search := { search with frontier, expanded := currentId :: search.expanded }
          if ← wrapped "goal predicate could not be evaluated" (goal current) then
            return ⟨search, some currentId, "found"⟩
          else if maxStates ≤ search.expanded.length then
            return ⟨search, none, "limit_reached"⟩
          else
            let neighbors ← wrapped "state expansion failed" (expand current)
            let named ← field.sortById neighbors
            let search ←
              named.foldlM (relax rt field base currentCost currentId current) search
            searchLoop rt field expand goal base maxStates rounds search

/-- The loop that follows the parents from the goal. -/
def followParents (parent : String → Option (Option String)) :
    ℕ → Option String → Except PyError (List String)
  | _, none => .ok []
  | 0, some _ => .error outOfRounds
  | rounds + 1, some cursor =>
      match parent cursor with
      | none => .error (.keyError cursor)
      | some next => do
          let path ← followParents parent rounds next
          return cursor :: path

def leastCostPath [DecidableEq σ] (rt : FieldRuntime) (field : RelationalField σ) (starts : List σ)
    (expand : σ → Except PyError (List σ)) (goal : σ → Except PyError Bool) (baseCost : PyReal)
    (maxStates : ℤ) : Except PyError FieldPathReceipt := do
  let base ← requireNonnegativeFinite cls baseCost "base_cost"
  raiseIf (maxStates < 1) ⟨.valueError, "max_states must be >= 1", []⟩
  let startStates ← field.sortById starts
  let startIds := startStates.map (·.1)
  raiseIf (¬ startIds.Nodup) (relationalErr "start state IDs must be unique")
  let ⟨search, goalId, status⟩ ←
    searchLoop rt field expand goal base maxStates maxStates.toNat (startSearch startStates)
  let path ← followParents search.parent search.expanded.length goalId
  return FieldPathReceipt.sealed rt {
    status, startIds, goalId, pathIds := path.reverse, totalCost := goalId.bind search.bestCost
    statesExpanded := search.expanded.length
    transitionsEvaluated := search.transitionsEvaluated
    blockedTransitions := search.blockedTransitions, maxStates }

end RelationalField

end PhiOS
