import PhiOS.Model.Value

/-!
# Geometric reasoning

`core/geometric_reasoning.py`: the search over the equivalence classes of a state space. States are
of any type; identifiers, keys, constraints, expansions and goals are functions of the caller that
may raise. A digest is a function of the canonical JSON of a key.

The queue is a list, and the dictionary of the visited classes the list of its entries in the order
in which they were added. The loop is a recursion over its rounds, each the body of the `while`.
-/

set_option autoImplicit false

namespace PhiOS

/-- `GeometryContractError(message)`. -/
def geometryErr (message : String) : PyError := ⟨.geometryContractError, message, []⟩

structure ConstraintSpec (σ : Type) where
  name : String
  predicate : σ → Except PyError Bool

/-- `GeometricReasoner`: the arguments of its constructor. A key that `json.dumps` refuses is
`none`. -/
structure GeometricReasoner (σ : Type) where
  stateId : σ → Except PyError String
  equivalenceKey : σ → Except PyError (Option Json)
  constraints : List (ConstraintSpec σ) := []
  quotientSearchSafe : Bool := false

structure SearchReceipt where
  schema : String := "phios.geometric_search_receipt.v0.1"
  status : String
  rawStatesSeen : ℕ
  quotientClassesVisited : ℕ
  statesPruned : ℕ
  equivalentStatesSkipped : ℕ
  representativePathIds : List String
  solutionId : Option String
  quotientSearchSafeDeclared : Bool := true
  actionAuthority : Bool := false
  receiptSha256 : String := ""

/-- The payload that is digested. -/
def SearchReceipt.payload (receipt : SearchReceipt) : Row :=
  [("schema", .str receipt.schema), ("status", .str receipt.status),
    ("raw_states_seen", .int receipt.rawStatesSeen),
    ("quotient_classes_visited", .int receipt.quotientClassesVisited),
    ("states_pruned", .int receipt.statesPruned),
    ("equivalent_states_skipped", .int receipt.equivalentStatesSkipped),
    ("representative_path_ids", .strs receipt.representativePathIds),
    ("solution_id", .optStr receipt.solutionId),
    ("quotient_search_safe_declared", .bool receipt.quotientSearchSafeDeclared),
    ("action_authority", .bool receipt.actionAuthority)]

/-- The receipt with its digest. -/
def SearchReceipt.sealed (sha256 : Json → String) (receipt : SearchReceipt) : SearchReceipt :=
  { receipt with receiptSha256 := sha256 (.obj receipt.payload) }

/-- The variables of `search`. -/
structure QuotientSearch (σ : Type) where
  queue : List (σ × Option String)
  visited : List (String × String × Option String) := []
  rawStatesSeen : ℕ := 0
  statesPruned : ℕ := 0
  equivalentStatesSkipped : ℕ := 0

/-- How the loop of `search` ends. -/
structure QuotientSearchEnd (σ : Type) where
  search : QuotientSearch σ
  solutionClass : Option String
  status : String

/-- What a round of the loop comes to. -/
inductive QuotientRound (σ : Type)
  | next (search : QuotientSearch σ)
  | done (result : QuotientSearchEnd σ)

namespace GeometricReasoner

variable {σ : Type}

def requireUniqueNames (kind : String) (names : List String) : Except PyError Unit := do
  let normalized := names.map strip
  raiseIf ("" ∈ normalized) (geometryErr (kind ++ " names must be non-empty"))
  raiseIf (¬ normalized.Nodup) (geometryErr (kind ++ " names must be unique"))

/-- The checks of `__init__` on the constraints. -/
def validate (reasoner : GeometricReasoner σ) : Except PyError Unit :=
  requireUniqueNames "constraint" (reasoner.constraints.map (·.name))

def requireStateId (reasoner : GeometricReasoner σ) (state : σ) : Except PyError String := do
  let stateId := strip (← reasoner.stateId state)
  raiseIf (stateId = "") (geometryErr "state_id must be non-empty")
  return stateId

/-- `except Exception` around a function of the caller. -/
def wrapped {α : Type} (message : String) (result : Except PyError α) : Except PyError α :=
  match result with
  | .ok value => .ok value
  | .error e =>
      if e.cls.isException then .error (geometryErr (message ++ ": " ++ e.cls.name))
      else .error e

theorem wrapped_eq_ok {α : Type} {message : String} {result : Except PyError α} {value : α} :
    wrapped message result = .ok value ↔ result = .ok value := by
  unfold wrapped
  cases result with
  | ok value' => rfl
  | error e =>
      dsimp only
      split <;> simp

/-- One constraint of `_constraint_failures`: what raises is not accepted. -/
def accepts (spec : ConstraintSpec σ) (state : σ) : Except PyError Bool :=
  match spec.predicate state with
  | .ok accepted => .ok accepted
  | .error e => if e.cls.isException then .ok false else .error e

def constraintFailures (reasoner : GeometricReasoner σ) (state : σ) :
    Except PyError (List String) := do
  let failures ← reasoner.constraints.mapM fun spec => do
    return if ← accepts spec state then [] else [spec.name]
  return failures.flatten

/-- `_canonical_json` of a key. -/
def canonicalKey : Option Json → Except PyError Json
  | some key => .ok key
  | none => .error (geometryErr "geometric keys must be canonical JSON values")

def classDigest (sha256 : Json → String) (reasoner : GeometricReasoner σ) (state : σ) :
    Except PyError String := do
  let canonical ← wrapped "equivalence key could not be evaluated" do
    canonicalKey (← reasoner.equivalenceKey state)
  return sha256 canonical

/-- `sort(key=…)` by the identifiers. -/
def sortById (reasoner : GeometricReasoner σ) (states : List σ) : Except PyError (List σ) := do
  let named ← states.mapM fun state => do
    return (← reasoner.requireStateId state, state)
  return (named.insertionSort fun a b => a.1 ≤ b.1).map (·.2)

/-- The body of the loop of `search`, for the state at the front of the queue. -/
def round (sha256 : Json → String) (reasoner : GeometricReasoner σ)
    (expand : σ → Except PyError (List σ)) (goal : σ → Except PyError Bool) (maxClasses : ℤ)
    (search : QuotientSearch σ) (state : σ) (parentClass : Option String)
    (queue : List (σ × Option String)) : Except PyError (QuotientRound σ) := do
  let search := { search with queue, rawStatesSeen := search.rawStatesSeen + 1 }
  let stateId ← reasoner.requireStateId state
  let failures ← reasoner.constraintFailures state
  if failures ≠ [] then
    return .next { search with statesPruned := search.statesPruned + 1 }
  else
    let classSha ← classDigest sha256 reasoner state
    if (search.visited.lookup classSha).isSome then
      return .next { search with equivalentStatesSkipped := search.equivalentStatesSkipped + 1 }
    else
      let search :=
        { search with visited := search.visited ++ [(classSha, stateId, parentClass)] }
      let isGoal ← wrapped "goal predicate could not be evaluated" (goal state)
      if isGoal then return .done ⟨search, some classSha, "found"⟩
      else if maxClasses ≤ search.visited.length then return .done ⟨search, none, "limit_reached"⟩
      else
        let neighbors ← wrapped "state expansion failed" (expand state)
        let neighbors ← reasoner.sortById neighbors
        return .next { search with
          queue := search.queue ++ neighbors.map fun neighbor => (neighbor, some classSha) }

section Loop

variable {sha256 : Json → String} {reasoner : GeometricReasoner σ}
  {expand : σ → Except PyError (List σ)} {goal : σ → Except PyError Bool} {maxClasses : ℤ}
  {search search' : QuotientSearch σ} {state : σ} {parentClass : Option String}
  {queue : List (σ × Option String)}

/-- What a round of the loop has done: it has passed the state over, it has visited its class and
stopped there, or it has queued the neighbours.
SOURCE: core/geometric_reasoning.py:306-345 -/
theorem round_cases {result : QuotientRound σ}
    (h : round sha256 reasoner expand goal maxClasses search state parentClass queue = .ok result) :
    (∃ search', result = .next search' ∧ search'.queue = queue ∧ search'.visited = search.visited ∧
        (reasoner.constraintFailures state = .ok [] →
          ∃ classSha, classDigest sha256 reasoner state = .ok classSha ∧
            (search.visited.lookup classSha).isSome)) ∨
      ∃ stateId classSha, reasoner.requireStateId state = .ok stateId ∧
        reasoner.constraintFailures state = .ok [] ∧
        classDigest sha256 reasoner state = .ok classSha ∧ search.visited.lookup classSha = none ∧
        ∃ search', search'.visited = search.visited ++ [(classSha, stateId, parentClass)] ∧
          (goal state = .ok true ∧ result = .done ⟨search', some classSha, "found"⟩ ∨
            goal state = .ok false ∧ maxClasses ≤ search'.visited.length ∧
              result = .done ⟨search', none, "limit_reached"⟩ ∨
            goal state = .ok false ∧ search'.visited.length < maxClasses ∧
              ∃ neighbors sorted, expand state = .ok neighbors ∧
                reasoner.sortById neighbors = .ok sorted ∧
                search'.queue = queue ++ sorted.map (fun neighbor => (neighbor, some classSha)) ∧
                result = .next search') := by
  unfold round at h
  obtain ⟨stateId, hid, h⟩ := bind_eq_ok.mp h
  obtain ⟨failures, hfailures, h⟩ := bind_eq_ok.mp h
  by_cases hpruned : failures ≠ []
  · rw [if_pos hpruned] at h
    refine Or.inl ⟨_, (Except.ok.inj h).symm, rfl, rfl, fun hadmissible => ?_⟩
    exact absurd (Except.ok.inj (hfailures.symm.trans hadmissible)) hpruned
  · rw [if_neg hpruned] at h
    obtain rfl := not_not.mp hpruned
    obtain ⟨classSha, hclass, h⟩ := bind_eq_ok.mp h
    by_cases hvisited : (search.visited.lookup classSha).isSome = true
    · rw [if_pos hvisited] at h
      exact Or.inl ⟨_, (Except.ok.inj h).symm, rfl, rfl, fun _ => ⟨classSha, hclass, hvisited⟩⟩
    · rw [if_neg hvisited] at h
      obtain ⟨isGoal, hgoal, h⟩ := bind_eq_ok.mp h
      have hnew := Option.not_isSome_iff_eq_none.mp hvisited
      refine Or.inr ⟨stateId, classSha, hid, hfailures, hclass, hnew, ?_⟩
      cases isGoal with
      | true =>
          rw [if_pos rfl] at h
          exact ⟨_, rfl, Or.inl ⟨wrapped_eq_ok.mp hgoal, (Except.ok.inj h).symm⟩⟩
      | false =>
          rw [if_neg (by decide)] at h
          have hgoal := wrapped_eq_ok.mp hgoal
          split at h
          · rename_i hlimit
            exact ⟨_, rfl, Or.inr (Or.inl ⟨hgoal, hlimit, (Except.ok.inj h).symm⟩)⟩
          · rename_i hlimit
            obtain ⟨neighbors, hneighbors, h⟩ := bind_eq_ok.mp h
            obtain ⟨sorted, hsorted, h⟩ := bind_eq_ok.mp h
            refine ⟨_, ?_, Or.inr (Or.inr ⟨hgoal, ?_, neighbors, sorted,
              wrapped_eq_ok.mp hneighbors, hsorted, ?_, (Except.ok.inj h).symm⟩)⟩
            · rfl
            · exact not_le.mp hlimit
            · rfl

/-- A round that goes on visits a class or shortens the queue. -/
theorem round_decreases
    (hround : round sha256 reasoner expand goal maxClasses search state parentClass queue =
      .ok (.next search')) (hqueue : search.queue = (state, parentClass) :: queue) :
    Prod.Lex (· < ·) (· < ·) ((maxClasses - search'.visited.length).toNat, search'.queue.length)
      ((maxClasses - search.visited.length).toNat, search.queue.length) := by
  rcases round_cases hround with ⟨next, hnext, hq, hv, -⟩ | ⟨_, _, -, -, -, -, next, hv, hends⟩
  · obtain rfl : search' = next := QuotientRound.next.inj hnext
    rw [hq, hv, hqueue]
    exact Prod.Lex.right _ (Nat.lt_succ_self _)
  · rcases hends with ⟨-, hdone⟩ | ⟨-, -, hdone⟩ | ⟨-, hroom, _, _, -, -, -, hnext⟩
    · cases hdone
    · cases hdone
    · obtain rfl : search' = next := QuotientRound.next.inj hnext
      have hlength : search'.visited.length = search.visited.length + 1 := by
        rw [hv, List.length_append, List.length_singleton]
      refine Prod.Lex.left _ _ ?_
      omega

end Loop

/-- The loop of `search`. -/
def searchLoop (sha256 : Json → String) (reasoner : GeometricReasoner σ)
    (expand : σ → Except PyError (List σ)) (goal : σ → Except PyError Bool) (maxClasses : ℤ)
    (search : QuotientSearch σ) : Except PyError (QuotientSearchEnd σ) :=
  match _ : search.queue with
  | [] => .ok ⟨search, none, "exhausted_under_declared_geometry"⟩
  | (state, parentClass) :: queue =>
      match _ : round sha256 reasoner expand goal maxClasses search state parentClass queue with
      | .error e => .error e
      | .ok (.done result) => .ok result
      | .ok (.next search') => searchLoop sha256 reasoner expand goal maxClasses search'
termination_by ((maxClasses - search.visited.length).toNat, search.queue.length)
decreasing_by exact round_decreases (by assumption) (by assumption)

section Loop

variable {sha256 : Json → String} {reasoner : GeometricReasoner σ}
  {expand : σ → Except PyError (List σ)} {goal : σ → Except PyError Bool} {maxClasses : ℤ}
  {search : QuotientSearch σ} {state : σ} {parentClass : Option String}
  {queue : List (σ × Option String)}

theorem searchLoop_nil (hqueue : search.queue = []) :
    searchLoop sha256 reasoner expand goal maxClasses search =
      .ok ⟨search, none, "exhausted_under_declared_geometry"⟩ := by
  rw [searchLoop]
  split
  · rfl
  · rename_i hcons
    rw [hqueue] at hcons
    cases hcons

theorem searchLoop_cons (hqueue : search.queue = (state, parentClass) :: queue) :
    searchLoop sha256 reasoner expand goal maxClasses search =
      match round sha256 reasoner expand goal maxClasses search state parentClass queue with
      | .error e => .error e
      | .ok (.done result) => .ok result
      | .ok (.next search') => searchLoop sha256 reasoner expand goal maxClasses search' := by
  rw [searchLoop]
  split
  · rename_i hnil
    rw [hqueue] at hnil
    cases hnil
  · rename_i hcons
    obtain ⟨hhead, rfl⟩ := List.cons.inj (hqueue.symm.trans hcons)
    obtain ⟨rfl, rfl⟩ := Prod.mk.inj hhead
    split <;> rename_i hround <;> rw [hround]

end Loop

/-- What `pathIds` says when it is given too few rounds. -/
def outOfRounds : PyError := ⟨.runtimeError, "out of rounds", []⟩

/-- The loop that follows the parents from the class of the solution. -/
def pathIds (visited : List (String × String × Option String)) :
    ℕ → Option String → Except PyError (List String)
  | _, none => .ok []
  | 0, some _ => .error outOfRounds
  | rounds + 1, some cursor =>
      match visited.lookup cursor with
      | none => .error (.keyError cursor)
      | some (stateId, parent) => do
          let path ← pathIds visited rounds parent
          return stateId :: path

def search (sha256 : Json → String) (reasoner : GeometricReasoner σ) (starts : List σ)
    (expand : σ → Except PyError (List σ)) (goal : σ → Except PyError Bool)
    (maxClasses : ℤ := 10000) : Except PyError SearchReceipt := do
  raiseIf (reasoner.quotientSearchSafe = false)
    (geometryErr ("quotient search requires quotient_search_safe=True; " ++
      "the caller must declare that equivalence preserves relevant transitions and goals"))
  raiseIf (maxClasses < 1) ⟨.valueError, "max_classes must be >= 1", []⟩
  let startStates ← reasoner.sortById starts
  let ⟨search, solutionClass, status⟩ ← searchLoop sha256 reasoner expand goal maxClasses
    { queue := startStates.map fun state => (state, none) }
  let path ← pathIds search.visited search.visited.length solutionClass
  return SearchReceipt.sealed sha256 {
    status, rawStatesSeen := search.rawStatesSeen
    quotientClassesVisited := search.visited.length, statesPruned := search.statesPruned
    equivalentStatesSkipped := search.equivalentStatesSkipped
    representativePathIds := path.reverse
    solutionId := solutionClass.bind fun classSha => (search.visited.lookup classSha).map (·.1) }

end GeometricReasoner

end PhiOS
