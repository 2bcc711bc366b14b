import PhiOS.Library.UnionFind
import PhiOS.Model.Ledger
import PhiOS.Model.MemoryRecord

/-!
# Independence of evidence paths

`DeliberationEvidenceAssessor.assess` of `mandala/independence.py`, up to the independence receipt.
What the receipt says of its packet, its digests and the disagreement receipt that is made from it
are left out.
-/

set_option autoImplicit false

namespace PhiOS

/-- `_ALLOWED_STANCES`. -/
inductive EvidenceStance
  | supports
  | contradicts
  | uncertain
  deriving DecidableEq

/-- `_ALLOWED_RELATIONS`. -/
inductive PathRelation
  | independent
  | dependent
  | unknown
  deriving DecidableEq

/-- `EvidencePathDeclaration` as it is given. -/
structure EvidencePathDeclaration where
  pathId : String
  claimId : String
  actorId : String
  stance : String
  outputSha256 : String
  evidenceRefs : List String := []
  rootSourceRefs : List String := []
  parentPathIds : List String := []
  transformationLineageSha256s : List String := []
  contextSha256 : Option String := none
  method : String := "unspecified"

/-- `EvidencePathDeclaration` as `normalized` returns it. -/
structure EvidencePath where
  pathId : String
  claimId : String
  actorId : String
  stance : EvidenceStance
  outputSha256 : String
  evidenceRefs : List String
  rootSourceRefs : List String
  parentPathIds : List String
  transformationLineageSha256s : List String
  contextSha256 : Option String
  method : String

/-- `IndependenceAssertion` as it is given. -/
structure IndependenceAssertion where
  leftPathId : String
  rightPathId : String
  relation : String
  basisRefs : List String := []
  reason : String := ""

/-- `IndependenceAssertion` as `normalized` returns it. -/
structure PathAssertion where
  leftPathId : String
  rightPathId : String
  relation : PathRelation
  basisRefs : List String
  reason : String

/-- One of the `pairwise` relations. -/
structure PairwiseRelation where
  leftPathId : String
  rightPathId : String
  relation : PathRelation
  basisRefs : List String
  reasons : List String
  sharedContext : Bool

structure IndependenceReceipt where
  claimId : String
  evidencePaths : List EvidencePath
  pairwiseRelations : List PairwiseRelation
  independenceStatus : String
  independentPairCount : ℕ
  dependentPairCount : ℕ
  unknownPairCount : ℕ
  demonstratedIndependentGroupCount : ℕ
  dependencyGroups : List (List String)
  agreementWithoutIndependence : Bool

namespace DeliberationEvidence

/-- `IndependenceContractError(message)`. -/
def err (message : String) : PyError := ⟨.independenceContractError, message, []⟩

/-! ## Normalization -/

/-- `str.upper()`, for a comparison with letters of ASCII: two other characters have one of the
letters in question in upper case. -/
def upper (text : String) : String :=
  String.ofList <| text.toList.map fun c =>
    if c = 'ı' then 'I' else if c = 'ſ' then 'S' else c.toUpper

def requireText (value label : String) : Except PyError String :=
  requireStripped .independenceContractError " must be non-empty" value label

def requireSha (value label : String) : Except PyError String := do
  let value := (← requireText value label).toList.map Char.toLower
  raiseIf (value.length ≠ 64) (err (label ++ " must be SHA-256 hex"))
  raiseIf (¬ readsBase16 value) (err (label ++ " must be SHA-256 hex"))
  return String.ofList value

def labels (values : List String) (label : String) : Except PyError (List String) := do
  return sortedSet (← values.mapM fun value => requireText value label)

/-- The stance that a text names. -/
def stanceOf (text : String) : Except PyError EvidenceStance :=
  if text = "SUPPORTS" then .ok .supports
  else if text = "CONTRADICTS" then .ok .contradicts
  else if text = "UNCERTAIN" then .ok .uncertain
  else .error (err "stance must be one of ('SUPPORTS', 'CONTRADICTS', 'UNCERTAIN')")

/-- The relation that a text names. -/
def relationOf (text : String) : Except PyError PathRelation :=
  if text = "INDEPENDENT" then .ok .independent
  else if text = "DEPENDENT" then .ok .dependent
  else if text = "UNKNOWN" then .ok .unknown
  else .error (err "relation must be one of ('INDEPENDENT', 'DEPENDENT', 'UNKNOWN')")

/-- `EvidencePathDeclaration.normalized`. -/
def normalizedPath (path : EvidencePathDeclaration) : Except PyError EvidencePath := do
  let stance ← stanceOf (upper (← requireText path.stance "stance"))
  let contextSha256 ← match path.contextSha256 with
    | some context => some <$> requireSha context "context_sha256"
    | none => .ok none
  let pathId ← requireText path.pathId "path_id"
  let claimId ← requireText path.claimId "claim_id"
  let actorId ← requireText path.actorId "actor_id"
  let outputSha256 ← requireSha path.outputSha256 "output_sha256"
  let evidenceRefs ← labels path.evidenceRefs "evidence_ref"
  let rootSourceRefs ← labels path.rootSourceRefs "root_source_ref"
  let parentPathIds ← labels path.parentPathIds "parent_path_id"
  let lineage ← path.transformationLineageSha256s.mapM fun value =>
    requireSha value "transformation_lineage_sha256"
  let method ← requireText path.method "method"
  return { pathId, claimId, actorId, stance, outputSha256, evidenceRefs, rootSourceRefs
           parentPathIds, transformationLineageSha256s := sortedSet lineage, contextSha256, method }

/-- `IndependenceAssertion.normalized`. -/
def normalizedAssertion (assertion : IndependenceAssertion) : Except PyError PathAssertion := do
  let left ← requireText assertion.leftPathId "left_path_id"
  let right ← requireText assertion.rightPathId "right_path_id"
  raiseIf (left = right) (err "independence assertion requires two distinct paths")
  let relation ← relationOf (upper (← requireText assertion.relation "relation"))
  let basisRefs ← labels assertion.basisRefs "basis_ref"
  return { leftPathId := min left right, rightPathId := max left right, relation, basisRefs
           reason := strip assertion.reason }

/-! ## The parent graph -/

/-- `parents[path_id]`, or `path_map[path_id]`: the last path of the name. -/
def lookup (paths : List EvidencePath) (pathId : String) : Except PyError EvidencePath :=
  match paths.reverse.find? (·.pathId = pathId) with
  | some path => .ok path
  | none => .error ⟨.keyError, pathId, []⟩

/-- The calls of a function on the members of a list, each on what the one before it left. -/
def visitAll (visit : List String → String → Except PyError (List String)) :
    List String → List String → Except PyError (List String)
  | visited, [] => .ok visited
  | visited, pathId :: rest => do visitAll visit (← visit visited pathId) rest

/-- `visit` of `_validate_parent_graph`, with the paths that it has visited. The interpreter allows
so many calls within each other. -/
def visit (paths : List EvidencePath) :
    ℕ → List String → List String → String → Except PyError (List String)
  | 0, _, _, _ => .error ⟨.exception "RecursionError", "maximum recursion depth exceeded", []⟩
  | depth + 1, visiting, visited, pathId => do
      if pathId ∈ visited then return visited
      raiseIf (pathId ∈ visiting) (err "evidence path parent graph must be acyclic")
      let path ← lookup paths pathId
      let visited ← visitAll (visit paths depth (pathId :: visiting)) visited path.parentPathIds
      return pathId :: visited

def validateParentGraph (recursionLimit : ℕ) (paths : List EvidencePath) : Except PyError Unit := do
  let _ ← visitAll (visit paths recursionLimit []) [] (sortedSet (paths.map (·.pathId)))

/-! ## Relations of pairs -/

/-- `combinations(items, 2)`. -/
def combinations {α : Type} : List α → List (α × α)
  | [] => []
  | item :: rest => rest.map (fun other => (item, other)) ++ combinations rest

def forcedDependencyReasons (left right : EvidencePath) : List String :=
  (if left.actorId = right.actorId then ["same_actor"] else []) ++
  (if left.evidenceRefs.any (· ∈ right.evidenceRefs) then ["shared_evidence_ref"] else []) ++
  (if left.rootSourceRefs.any (· ∈ right.rootSourceRefs) then ["shared_root_source"] else []) ++
  (if left.transformationLineageSha256s.any (· ∈ right.transformationLineageSha256s) then
    ["shared_transformation_lineage"] else []) ++
  (if left.pathId ∈ right.parentPathIds ∨ right.pathId ∈ left.parentPathIds then
    ["direct_path_derivation"] else [])

/-- The reason of an assertion, or a default. -/
def reasonOr (assertion : Option PathAssertion) (default : String) : List String :=
  match assertion with
  | some assertion => if assertion.reason = "" then [default] else [assertion.reason]
  | none => [default]

/-- The references that an assertion rests on. -/
def basisOf (assertion : Option PathAssertion) : List String := (assertion.map (·.basisRefs)).getD []

/-- What the loop over the pairs adds to `pairwise` for one pair. -/
def pairwiseRelation (left right : EvidencePath) (assertion : Option PathAssertion) :
    Except PyError PairwiseRelation :=
  let forced := forcedDependencyReasons left right
  let asserted : Option PathRelation := assertion.map (·.relation)
  let pair : PairwiseRelation := {
    leftPathId := left.pathId, rightPathId := right.pathId, relation := .unknown
    basisRefs := basisOf assertion, reasons := reasonOr assertion "independence_not_demonstrated"
    sharedContext :=
      left.contextSha256.getD "" ≠ "" ∧ left.contextSha256 = right.contextSha256 }
  if forced ≠ [] then do
    raiseIf (asserted = some .independent)
      (err "path pair cannot be asserted independent while a shared dependency is present")
    return { pair with relation := .dependent, reasons := sortedSet forced }
  else if asserted = some .independent then do
    raiseIf (basisOf assertion = []) (err "INDEPENDENT assertions require explicit basis_refs")
    raiseIf (left.rootSourceRefs = [] ∨ right.rootSourceRefs = [])
      (err "INDEPENDENT assertions require explicit root_source_refs on both paths")
    return { pair with
      relation := .independent, reasons := reasonOr assertion "explicit_independence_basis" }
  else if asserted = some .dependent then
    return { pair with
      relation := .dependent, reasons := reasonOr assertion "explicit_dependency_assertion" }
  else return pair

/-- The assertion on file for a pair. -/
def assertionFor (assertions : List PathAssertion) (pair : String × String) : Option PathAssertion :=
  assertions.find? fun assertion => (assertion.leftPathId, assertion.rightPathId) = pair

/-- One assertion that is added to `assertion_map`. -/
def addAssertion (ids : List String) (filed : List PathAssertion) (raw : IndependenceAssertion) :
    Except PyError (List PathAssertion) := do
  let assertion ← normalizedAssertion raw
  raiseIf (assertion.leftPathId ∉ ids ∨ assertion.rightPathId ∉ ids)
    (err "independence assertion references unknown path")
  raiseIf (assertionFor filed (assertion.leftPathId, assertion.rightPathId)).isSome
    (err "duplicate independence assertion for path pair")
  return filed ++ [assertion]

/-! ## The assessment -/

/-- `_conservative_groups`: a pair that is not independent is united. -/
def conservativeGroups (pathIds : List String) (pairs : List PairwiseRelation) :
    List (List String) :=
  let united := (pairs.filter (·.relation ≠ .independent)).map fun pair =>
    (pair.leftPathId, pair.rightPathId)
  let parent := united.foldl
    (fun parent pair => UnionFind.union pathIds.length parent pair.1 pair.2) id
  let grouped := UnionFind.grouped pathIds.length parent [] pathIds
  (grouped.insertionSort (·.1 ≤ ·.1)).map fun group => group.2.insertionSort (· ≤ ·)

/-- How many of the pairs have a relation. -/
def pairCount (pairs : List PairwiseRelation) (relation : PathRelation) : ℕ :=
  pairs.countP (·.relation = relation)

def independenceStatus (pairs : List PairwiseRelation) : String :=
  if pairs.length = 0 then "SINGLE_PATH"
  else if pairCount pairs .unknown ≠ 0 then "UNRESOLVED"
  else if pairCount pairs .independent = pairs.length then "INDEPENDENT"
  else if pairCount pairs .dependent = pairs.length then "DEPENDENT"
  else "MIXED"

/-- The checks of a normalized path against the others. -/
def checkParents (ids : List String) (path : EvidencePath) : Except PyError Unit := do
  raiseIf (path.pathId ∈ path.parentPathIds) (err "path cannot be its own parent")
  raiseIf (∃ parent ∈ path.parentPathIds, parent ∉ ids)
    (err "parent_path_ids must reference paths in the same assessment")

def assess (recursionLimit : ℕ) (claimId : String) (paths : List EvidencePathDeclaration)
    (assertions : List IndependenceAssertion) : Except PyError IndependenceReceipt := do
  let claimId ← requireText claimId "claim_id"
  let paths ← paths.mapM normalizedPath
  raiseIf (paths.length = 0) (err "at least one evidence path is required")
  let ids := paths.map (·.pathId)
  raiseIf (¬ ids.Nodup) (err "path_id values must be unique")
  raiseIf (∃ path ∈ paths, path.claimId ≠ claimId)
    (err "all evidence paths must bind the assessed claim_id")
  paths.forM (checkParents ids)
  validateParentGraph recursionLimit paths
  let filed ← assertions.foldlM (addAssertion ids) []
  let pathIds := ids.insertionSort (· ≤ ·)
  let pairs ← (combinations pathIds).mapM fun pair => do
    let left ← lookup paths pair.1
    let right ← lookup paths pair.2
    pairwiseRelation left right (assertionFor filed pair)
  let groups := conservativeGroups pathIds pairs
  let unanimous : Prop := (paths.map (·.stance)).dedup.length = 1
  return {
    claimId
    evidencePaths := paths.insertionSort (·.pathId ≤ ·.pathId)
    pairwiseRelations := pairs
    independenceStatus := independenceStatus pairs
    independentPairCount := pairCount pairs .independent
    dependentPairCount := pairCount pairs .dependent
    unknownPairCount := pairCount pairs .unknown
    demonstratedIndependentGroupCount := groups.length
    dependencyGroups := groups
    agreementWithoutIndependence := unanimous ∧ groups.length < paths.length }

end DeliberationEvidence

end PhiOS
