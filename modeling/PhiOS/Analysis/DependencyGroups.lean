import PhiOS.Model.EvidenceIndependence
import Mathlib.Combinatorics.SimpleGraph.Connectivity.Connected

/-!
# Dependency groups of evidence paths

A pair of paths is independent only where that was asserted of it with a basis, and never where one
path is a direct parent of the other. A pair that is not independent is united, so that what is
derived along any chain of parents is in one group.

* `related_in_one_group`: the pairs, the groups and how many groups there are
* `skipped_generation_independent`: a path may be asserted independent of a parent's parent
-/

set_option autoImplicit false

namespace PhiOS

namespace DeliberationEvidence

/-- A path is a parent of another one. -/
def IsParent (paths : List EvidencePath) (parent child : String) : Prop :=
  ∃ path ∈ paths, path.pathId = child ∧ parent ∈ path.parentPathIds

instance {paths : List EvidencePath} {parent child : String} :
    Decidable (IsParent paths parent child) :=
  inferInstanceAs (Decidable (∃ path ∈ paths, path.pathId = child ∧ parent ∈ path.parentPathIds))

/-- A path is a direct or transitive ancestor of another one. -/
abbrev IsAncestor (paths : List EvidencePath) : String → String → Prop :=
  Relation.TransGen (IsParent paths)

/-- One path is an ancestor of the other, or they have a common ancestor. -/
def Related (paths : List EvidencePath) (a b : String) : Prop :=
  IsAncestor paths a b ∨ IsAncestor paths b a ∨ ∃ c, IsAncestor paths c a ∧ IsAncestor paths c b

/-- The parent graph without its directions. -/
def parentGraph (paths : List EvidencePath) :
    SimpleGraph {pathId // pathId ∈ paths.map (·.pathId)} :=
  SimpleGraph.fromRel fun a b => IsParent paths a.1 b.1

/-! ## Relations of pairs -/

theorem combinations_of_lt {α : Type} [LinearOrder α] {items : List α} {left right : α}
    (hsorted : items.Pairwise (· ≤ ·)) (hleft : left ∈ items) (hright : right ∈ items)
    (h : left < right) : (left, right) ∈ combinations items := by
  induction items with
  | nil => simp at hleft
  | cons item rest ih =>
      rw [List.pairwise_cons] at hsorted
      rcases List.mem_cons.mp hright with rfl | hrightRest
      · -- The greater one cannot come first.
        rcases List.mem_cons.mp hleft with rfl | hleftRest
        · exact absurd h (lt_irrefl _)
        · exact absurd h (not_lt.mpr (hsorted.1 left hleftRest))
      · rcases List.mem_cons.mp hleft with rfl | hleftRest
        · exact List.mem_append_left _ (List.mem_map.mpr ⟨right, hrightRest, rfl⟩)
        · exact List.mem_append_right _ (ih hsorted.2 hleftRest hrightRest)

theorem pairwiseRelation_ids {left right : EvidencePath} {assertion : Option PathAssertion}
    {pair : PairwiseRelation} (h : pairwiseRelation left right assertion = .ok pair) :
    pair.leftPathId = left.pathId ∧ pair.rightPathId = right.pathId := by
  unfold pairwiseRelation at h
  dsimp only at h
  split at h
  · obtain ⟨_, -, h⟩ := bind_eq_ok.mp h
    rw [← Except.ok.inj h]
    exact ⟨rfl, rfl⟩
  · split at h
    · obtain ⟨_, _, h⟩ := ok_past_two h
      rw [← Except.ok.inj h]
      exact ⟨rfl, rfl⟩
    · split at h <;> rw [← Except.ok.inj h] <;> exact ⟨rfl, rfl⟩

theorem pairwiseRelation_forced {left right : EvidencePath} {assertion : Option PathAssertion}
    {pair : PairwiseRelation} (h : pairwiseRelation left right assertion = .ok pair)
    (hforced : forcedDependencyReasons left right ≠ []) : pair.relation = .dependent := by
  unfold pairwiseRelation at h
  dsimp only at h
  rw [if_pos hforced] at h
  obtain ⟨_, -, h⟩ := bind_eq_ok.mp h
  rw [← Except.ok.inj h]

/-- An independent pair was asserted to be so, with a basis and with root sources. -/
theorem pairwiseRelation_independent {left right : EvidencePath}
    {assertion : Option PathAssertion} {pair : PairwiseRelation}
    (h : pairwiseRelation left right assertion = .ok pair) (hpair : pair.relation = .independent) :
    (∃ filed, assertion = some filed ∧ filed.relation = .independent ∧ filed.basisRefs ≠ []) ∧
      left.rootSourceRefs ≠ [] ∧ right.rootSourceRefs ≠ [] := by
  unfold pairwiseRelation at h
  dsimp only at h
  split at h
  · obtain ⟨_, -, h⟩ := bind_eq_ok.mp h
    rw [← Except.ok.inj h] at hpair
    cases hpair
  · split at h
    · rename_i hasserted
      obtain ⟨_, hbasis, h⟩ := bind_eq_ok.mp h
      obtain ⟨_, hroots, h⟩ := bind_eq_ok.mp h
      rw [raiseIf_eq_ok] at hbasis hroots
      rw [not_or] at hroots
      cases assertion with
      | none => cases hasserted
      | some filed => exact ⟨⟨filed, rfl, Option.some.inj hasserted, hbasis⟩, hroots⟩
    · split at h <;> rw [← Except.ok.inj h] at hpair <;> cases hpair

theorem forced_of_parent {left right : EvidencePath}
    (h : left.pathId ∈ right.parentPathIds ∨ right.pathId ∈ left.parentPathIds) :
    forcedDependencyReasons left right ≠ [] := by
  unfold forcedDependencyReasons
  rw [if_pos h]
  simp

/-! ## The parent graph -/

theorem lookup_spec {paths : List EvidencePath} {pathId : String} {path : EvidencePath}
    (h : lookup paths pathId = .ok path) : path ∈ paths ∧ path.pathId = pathId := by
  unfold lookup at h
  split at h
  · rename_i found hfound
    obtain rfl := Except.ok.inj h
    exact ⟨List.mem_reverse.mp (List.mem_of_find?_eq_some hfound),
      by simpa using List.find?_some hfound⟩
  · cases h

/-- Paths have been visited, each after its parents, without an ancestor that is its own. -/
def Visited (paths : List EvidencePath) (visited : List String) : Prop :=
  ∀ x ∈ visited, Acc (IsParent paths) x

/-- Where one call visits its path, the calls visit all of them. -/
theorem visitAll_visited {paths : List EvidencePath}
    {visit : List String → String → Except PyError (List String)}
    (hvisit : ∀ {visited visited' pathId}, Visited paths visited →
      visit visited pathId = .ok visited' →
      visited ⊆ visited' ∧ pathId ∈ visited' ∧ Visited paths visited')
    {rest visited visited' : List String} (hvisited : Visited paths visited)
    (h : visitAll visit visited rest = .ok visited') :
    visited ⊆ visited' ∧ rest ⊆ visited' ∧ Visited paths visited' := by
  induction rest generalizing visited with
  | nil =>
      obtain rfl := Except.ok.inj h
      exact ⟨fun _ hx => hx, by simp, hvisited⟩
  | cons first rest ih =>
      obtain ⟨middle, hfirst, hrest⟩ := bind_eq_ok.mp h
      obtain ⟨hkept, hmem, hmiddle⟩ := hvisit hvisited hfirst
      obtain ⟨hkept', hmem', hvisited'⟩ := ih hmiddle hrest
      exact ⟨fun x hx => hkept' (hkept hx), List.cons_subset.mpr ⟨hkept' hmem, hmem'⟩, hvisited'⟩

/-- A path is visited after its parents. The induction is on the depth of the calls.
SOURCE: mandala/independence.py:383-398. -/
theorem visit_visited {paths : List EvidencePath} (hids : (paths.map (·.pathId)).Nodup) {depth : ℕ}
    {visiting visited visited' : List String} {pathId : String} (hvisited : Visited paths visited)
    (h : visit paths depth visiting visited pathId = .ok visited') :
    visited ⊆ visited' ∧ pathId ∈ visited' ∧ Visited paths visited' := by
  induction depth generalizing visiting visited visited' pathId with
  | zero => cases h
  | succ depth ih =>
      unfold visit at h
      by_cases hmem : pathId ∈ visited
      · rw [if_pos hmem] at h
        obtain rfl := Except.ok.inj h
        exact ⟨fun _ hx => hx, hmem, hvisited⟩
      · rw [if_neg hmem] at h
        obtain ⟨_, -, h⟩ := bind_eq_ok.mp h
        obtain ⟨path, hpath, h⟩ := bind_eq_ok.mp h
        obtain ⟨middle, hparents, h⟩ := bind_eq_ok.mp h
        obtain rfl := Except.ok.inj h
        obtain ⟨hkept, hall, hmiddle⟩ := visitAll_visited ih hvisited hparents
        obtain ⟨hpathMem, hpathId⟩ := lookup_spec hpath
        have hself : Acc (IsParent paths) pathId := by
          refine Acc.intro _ ?_
          rintro parent ⟨other, hother, hotherId, hparent⟩
          have heq : other = path :=
            List.inj_on_of_nodup_map hids hother hpathMem (hotherId.trans hpathId.symm)
          rw [heq] at hparent
          exact hmiddle parent (hall hparent)
        refine ⟨fun x hx => List.mem_cons_of_mem _ (hkept hx), by simp, ?_⟩
        intro x hx
        rcases List.mem_cons.mp hx with rfl | hx
        · exact hself
        · exact hmiddle x hx

theorem not_isAncestor_self {paths : List EvidencePath} (hids : (paths.map (·.pathId)).Nodup)
    {recursionLimit : ℕ} {u : Unit} (h : validateParentGraph recursionLimit paths = .ok u)
    (pathId : String) : ¬ IsAncestor paths pathId pathId := by
  intro hself
  obtain ⟨visited, hall, -⟩ := bind_eq_ok.mp h
  obtain ⟨-, hmem, hvisited⟩ := visitAll_visited (visit_visited hids) (by simp [Visited]) hall
  have hacc : Acc (IsParent paths) pathId := by
    obtain ⟨child, -, path, hpath, hchild, -⟩ := Relation.TransGen.tail'_iff.mp hself
    refine hvisited pathId (hmem ?_)
    rw [mem_sortedSet, ← hchild]
    exact List.mem_map_of_mem hpath
  have hanc := hacc.transGen
  clear hacc
  induction hanc with
  | intro x _ ih => exact ih x hself hself

/-! ## What is accepted -/

/-- An accepted assessment relates every two of its paths, whose names differ and whose
parents are among them. -/
theorem assess_spec {recursionLimit : ℕ} {claimId : String} {paths : List EvidencePathDeclaration}
    {assertions : List IndependenceAssertion} {receipt : IndependenceReceipt}
    (h : assess recursionLimit claimId paths assertions = .ok receipt) :
    ∃ normalized filed, paths.mapM normalizedPath = .ok normalized ∧
      (normalized.map (·.pathId)).Nodup ∧
      normalized.forM (checkParents (normalized.map (·.pathId))) = .ok () ∧
      validateParentGraph recursionLimit normalized = .ok () ∧
      assertions.foldlM (addAssertion (normalized.map (·.pathId))) [] = .ok filed ∧
      receipt.evidencePaths = normalized.insertionSort (·.pathId ≤ ·.pathId) ∧
      (combinations ((normalized.map (·.pathId)).insertionSort (· ≤ ·))).mapM (fun pair => do
        let left ← lookup normalized pair.1
        let right ← lookup normalized pair.2
        pairwiseRelation left right (assertionFor filed pair)) = .ok receipt.pairwiseRelations ∧
      receipt.dependencyGroups =
        conservativeGroups ((normalized.map (·.pathId)).insertionSort (· ≤ ·))
          receipt.pairwiseRelations ∧
      receipt.demonstratedIndependentGroupCount = receipt.dependencyGroups.length := by
  unfold assess at h
  obtain ⟨_, -, h⟩ := bind_eq_ok.mp h
  obtain ⟨normalized, hnormalized, h⟩ := bind_eq_ok.mp h
  obtain ⟨_, -, h⟩ := bind_eq_ok.mp h
  obtain ⟨_, hids, h⟩ := bind_eq_ok.mp h
  obtain ⟨_, -, h⟩ := bind_eq_ok.mp h
  obtain ⟨_, hparents, h⟩ := bind_eq_ok.mp h
  obtain ⟨_, hgraph, h⟩ := bind_eq_ok.mp h
  obtain ⟨filed, hfiled, h⟩ := bind_eq_ok.mp h
  obtain ⟨pairs, hpairs, h⟩ := bind_eq_ok.mp h
  rw [raiseIf_eq_ok, not_not] at hids
  obtain rfl := Except.ok.inj h
  exact ⟨normalized, filed, hnormalized, hids, hparents, hgraph, hfiled, rfl, hpairs, rfl, rfl⟩

/-- What is on file was asserted. -/
theorem asserted_of_filed {ids : List String} {assertions : List IndependenceAssertion}
    {filed filed' : List PathAssertion} (h : assertions.foldlM (addAssertion ids) filed = .ok filed') :
    ∀ assertion ∈ filed', assertion ∈ filed ∨
      ∃ raw ∈ assertions, normalizedAssertion raw = .ok assertion := by
  induction assertions generalizing filed with
  | nil =>
      obtain rfl := Except.ok.inj h
      exact fun _ hassertion => .inl hassertion
  | cons raw assertions ih =>
      rw [List.foldlM_cons] at h
      obtain ⟨middle, hraw, hrest⟩ := bind_eq_ok.mp h
      obtain ⟨added, hadded, hraw⟩ := bind_eq_ok.mp hraw
      obtain ⟨_, _, hraw⟩ := ok_past_two hraw
      have hmiddle : filed ++ [added] = middle := Except.ok.inj hraw
      intro assertion hassertion
      rcases ih hrest assertion hassertion with hmem | ⟨other, hother, hnormalized⟩
      · rw [← hmiddle] at hmem
        rcases List.mem_append.mp hmem with hmem | hmem
        · exact .inl hmem
        · rw [List.mem_singleton.mp hmem]
          exact .inr ⟨raw, by simp, hadded⟩
      · exact .inr ⟨other, List.mem_cons_of_mem _ hother, hnormalized⟩

section

variable {recursionLimit : ℕ} {claimId : String} {paths : List EvidencePathDeclaration}
  {assertions : List IndependenceAssertion} {receipt : IndependenceReceipt}

theorem mem_evidencePaths {normalized : List EvidencePath} {path : EvidencePath}
    (h : receipt.evidencePaths = normalized.insertionSort (·.pathId ≤ ·.pathId)) :
    path ∈ receipt.evidencePaths ↔ path ∈ normalized := by
  rw [h, List.mem_insertionSort]

theorem assess_parents (h : assess recursionLimit claimId paths assertions = .ok receipt)
    {parent child : String} (hparent : IsParent receipt.evidencePaths parent child) :
    parent ∈ receipt.evidencePaths.map (·.pathId) ∧ child ∈ receipt.evidencePaths.map (·.pathId) ∧
      parent ≠ child := by
  obtain ⟨normalized, _, -, -, hparents, -, -, hpaths, -⟩ := assess_spec h
  obtain ⟨path, hpath, rfl, hmem⟩ := hparent
  have hcheck := forM_eq_ok.mp hparents path ((mem_evidencePaths hpaths).mp hpath)
  obtain ⟨_, hself, hknown⟩ := bind_eq_ok.mp hcheck
  rw [raiseIf_eq_ok] at hself hknown
  push Not at hknown
  refine ⟨?_, List.mem_map_of_mem hpath, ?_⟩
  · obtain ⟨other, hother, hotherId⟩ := List.mem_map.mp (hknown parent hmem)
    exact List.mem_map.mpr ⟨other, (mem_evidencePaths hpaths).mpr hother, hotherId⟩
  · intro heq
    exact hself (heq ▸ hmem)

/-- The pair of two paths, and what it was made from.
SOURCE: mandala/independence.py:229-291. -/
theorem assess_pair (h : assess recursionLimit claimId paths assertions = .ok receipt) :
    (∀ a b, a ∈ receipt.evidencePaths.map (·.pathId) → b ∈ receipt.evidencePaths.map (·.pathId) →
      a < b → ∃ pair ∈ receipt.pairwiseRelations, pair.leftPathId = a ∧ pair.rightPathId = b) ∧
    ∀ pair ∈ receipt.pairwiseRelations, ∃ left ∈ receipt.evidencePaths,
      ∃ right ∈ receipt.evidencePaths, ∃ assertion, pair.leftPathId = left.pathId ∧
        pair.rightPathId = right.pathId ∧ pairwiseRelation left right assertion = .ok pair ∧
        ∀ filed, assertion = some filed →
          (filed.leftPathId, filed.rightPathId) = (left.pathId, right.pathId) ∧
            ∃ raw ∈ assertions, normalizedAssertion raw = .ok filed := by
  obtain ⟨normalized, filed, -, -, -, -, hfiled, hpaths, hpairs, -⟩ := assess_spec h
  obtain ⟨hto, hfrom⟩ := mem_of_mapM hpairs
  have hmade : ∀ {names : String × String} {pair}, (do
      let left ← lookup normalized names.1
      let right ← lookup normalized names.2
      pairwiseRelation left right (assertionFor filed names)) = Except.ok pair →
      ∃ left ∈ normalized, ∃ right ∈ normalized, left.pathId = names.1 ∧ right.pathId = names.2 ∧
        pairwiseRelation left right (assertionFor filed names) = .ok pair := by
    intro names pair hpair
    obtain ⟨left, hleft, hpair⟩ := bind_eq_ok.mp hpair
    obtain ⟨right, hright, hpair⟩ := bind_eq_ok.mp hpair
    exact ⟨left, (lookup_spec hleft).1, right, (lookup_spec hright).1, (lookup_spec hleft).2,
      (lookup_spec hright).2, hpair⟩
  constructor
  · intro a b ha hb hlt
    have hids : ∀ {pathId}, pathId ∈ receipt.evidencePaths.map (·.pathId) →
        pathId ∈ (normalized.map (·.pathId)).insertionSort (· ≤ ·) := by
      intro pathId hpathId
      obtain ⟨path, hpath, rfl⟩ := List.mem_map.mp hpathId
      rw [List.mem_insertionSort]
      exact List.mem_map_of_mem ((mem_evidencePaths hpaths).mp hpath)
    have hcomb := combinations_of_lt (List.pairwise_insertionSort _ _) (hids ha) (hids hb) hlt
    obtain ⟨pair, hpair, hmk⟩ := hto _ hcomb
    obtain ⟨left, -, right, -, hleftId, hrightId, hrelation⟩ := hmade hmk
    have hpairIds := pairwiseRelation_ids hrelation
    exact ⟨pair, hpair, hpairIds.1.trans hleftId, hpairIds.2.trans hrightId⟩
  · intro pair hpair
    obtain ⟨names, -, hmk⟩ := hfrom pair hpair
    obtain ⟨left, hleft, right, hright, hleftId, hrightId, hrelation⟩ := hmade hmk
    have hpairIds := pairwiseRelation_ids hrelation
    refine ⟨left, (mem_evidencePaths hpaths).mpr hleft, right, (mem_evidencePaths hpaths).mpr hright,
      _, hpairIds.1, hpairIds.2, hrelation, ?_⟩
    intro assertion hassertion
    have hnames : (assertion.leftPathId, assertion.rightPathId) = names := by
      simpa using List.find?_some hassertion
    refine ⟨?_, ?_⟩
    · rw [hnames, hleftId, hrightId]
    · rcases asserted_of_filed hfiled assertion (List.mem_of_find?_eq_some hassertion) with hmem | hraw
      · exact absurd hmem (by simp)
      · exact hraw

end

theorem assess_acyclic {recursionLimit : ℕ} {claimId : String}
    {paths : List EvidencePathDeclaration} {assertions : List IndependenceAssertion}
    {receipt : IndependenceReceipt}
    (h : assess recursionLimit claimId paths assertions = .ok receipt) (pathId : String) :
    ¬ IsAncestor receipt.evidencePaths pathId pathId := by
  obtain ⟨normalized, _, -, hids, -, hgraph, -, hpaths, -⟩ := assess_spec h
  have hparent : IsParent receipt.evidencePaths = IsParent normalized := by
    funext parent child
    exact propext (exists_congr fun path => and_congr_left' (mem_evidencePaths hpaths))
  intro hself
  unfold IsAncestor at hself
  rw [hparent] at hself
  exact not_isAncestor_self hids hgraph pathId hself

/-! ## Groups -/

/-- The groups are what is gathered under the roots, after the pairs that are not
independent have been united.
SOURCE: mandala/independence.py:424-454. -/
theorem conservativeGroups_spec {pathIds : List String} {pairs : List PairwiseRelation}
    (hpairs : ∀ pair ∈ pairs, pair.leftPathId ∈ pathIds ∧ pair.rightPathId ∈ pathIds) :
    ∃ parent, UnionFind.Forest pathIds parent ∧
      (∀ pair ∈ pairs, pair.relation ≠ .independent →
        UnionFind.Same parent pair.leftPathId pair.rightPathId) ∧
      ∃ grouped, grouped = UnionFind.grouped pathIds.length parent [] pathIds ∧
        (conservativeGroups pathIds pairs).length = grouped.length ∧
        (∀ values ∈ conservativeGroups pathIds pairs, ∃ group ∈ grouped,
          ∀ x, x ∈ values ↔ x ∈ group.2) ∧
        ∀ group ∈ grouped, ∃ values ∈ conservativeGroups pathIds pairs,
          ∀ x, x ∈ values ↔ x ∈ group.2 := by
  have hunited : ∀ names ∈ (pairs.filter (·.relation ≠ .independent)).map (fun pair =>
      (pair.leftPathId, pair.rightPathId)), names.1 ∈ pathIds ∧ names.2 ∈ pathIds := by
    intro names hnames
    obtain ⟨pair, hpair, rfl⟩ := List.mem_map.mp hnames
    exact hpairs pair (List.mem_of_mem_filter hpair)
  obtain ⟨hforest, -, hsame⟩ :=
    UnionFind.united_foldl UnionFind.forest_id hunited (le_refl pathIds.length)
  refine ⟨_, hforest, ?_, _, rfl, ?_, ?_, ?_⟩
  · intro pair hpair hrelation
    refine hsame (pair.leftPathId, pair.rightPathId) (List.mem_map.mpr ⟨pair, ?_, rfl⟩)
    exact List.mem_filter.mpr ⟨hpair, by simpa using hrelation⟩
  · unfold conservativeGroups
    dsimp only
    rw [List.length_map, List.length_insertionSort]
  · intro values hvalues
    obtain ⟨group, hgroup, rfl⟩ := List.mem_map.mp hvalues
    exact ⟨group, (List.mem_insertionSort _).mp hgroup, fun x => List.mem_insertionSort _⟩
  · intro group hgroup
    refine ⟨_, List.mem_map_of_mem ((List.mem_insertionSort _).mpr hgroup), ?_⟩
    exact fun x => List.mem_insertionSort _

section

variable {recursionLimit : ℕ} {claimId : String} {paths : List EvidencePathDeclaration}
  {assertions : List IndependenceAssertion} {receipt : IndependenceReceipt}

/-- A parent and its child are related as dependent. -/
theorem dependent_of_parent (h : assess recursionLimit claimId paths assertions = .ok receipt)
    {pair : PairwiseRelation} (hpair : pair ∈ receipt.pairwiseRelations)
    (hparent : IsParent receipt.evidencePaths pair.leftPathId pair.rightPathId ∨
      IsParent receipt.evidencePaths pair.rightPathId pair.leftPathId) :
    pair.relation = .dependent := by
  obtain ⟨normalized, _, -, hids, -, -, -, hpaths, -⟩ := assess_spec h
  obtain ⟨left, hleft, right, hright, assertion, hleftId, hrightId, hrelation, -⟩ :=
    (assess_pair h).2 pair hpair
  have hunique : ∀ {path other}, path ∈ receipt.evidencePaths → other ∈ receipt.evidencePaths →
      path.pathId = other.pathId → path = other := by
    intro path other hpath hother heq
    exact List.inj_on_of_nodup_map hids ((mem_evidencePaths hpaths).mp hpath)
      ((mem_evidencePaths hpaths).mp hother) heq
  apply pairwiseRelation_forced hrelation
  apply forced_of_parent
  rcases hparent with ⟨path, hpath, hpathId, hmem⟩ | ⟨path, hpath, hpathId, hmem⟩
  · rw [hunique hpath hright (hpathId.trans hrightId), hleftId] at hmem
    exact .inl hmem
  · rw [hunique hpath hleft (hpathId.trans hleftId), hrightId] at hmem
    exact .inr hmem

/-- What is derived along parents leads to one root, in the forest whose groups the
receipt has.
SOURCE: mandala/independence.py:424-454. -/
theorem assess_groups (h : assess recursionLimit claimId paths assertions = .ok receipt) :
    ∃ pathIds parent, (∀ x, x ∈ pathIds ↔ x ∈ receipt.evidencePaths.map (·.pathId)) ∧
      UnionFind.Forest pathIds parent ∧
      (∀ {a b}, IsParent receipt.evidencePaths a b → UnionFind.Same parent a b) ∧
      receipt.demonstratedIndependentGroupCount =
        (UnionFind.grouped pathIds.length parent [] pathIds).length ∧
      (∀ values ∈ receipt.dependencyGroups,
        ∃ group ∈ UnionFind.grouped pathIds.length parent [] pathIds,
          ∀ x, x ∈ values ↔ x ∈ group.2) ∧
      ∀ group ∈ UnionFind.grouped pathIds.length parent [] pathIds,
        ∃ values ∈ receipt.dependencyGroups, ∀ x, x ∈ values ↔ x ∈ group.2 := by
  obtain ⟨normalized, _, -, -, -, -, -, hpaths, -, hgroups, hcount⟩ := assess_spec h
  obtain ⟨hto, hfrom⟩ := assess_pair h
  have hmem : ∀ x, x ∈ (normalized.map (·.pathId)).insertionSort (· ≤ ·) ↔
      x ∈ receipt.evidencePaths.map (·.pathId) := by
    intro x
    rw [List.mem_insertionSort, List.mem_map, List.mem_map]
    simp only [mem_evidencePaths hpaths]
  have hpairs : ∀ pair ∈ receipt.pairwiseRelations,
      pair.leftPathId ∈ (normalized.map (·.pathId)).insertionSort (· ≤ ·) ∧
        pair.rightPathId ∈ (normalized.map (·.pathId)).insertionSort (· ≤ ·) := by
    intro pair hpair
    obtain ⟨left, hleft, right, hright, _, hleftId, hrightId, -⟩ := hfrom pair hpair
    rw [hmem, hmem, hleftId, hrightId]
    exact ⟨List.mem_map_of_mem hleft, List.mem_map_of_mem hright⟩
  obtain ⟨parent, hforest, hsame, grouped, rfl, hlength, hvalues, hgrouped⟩ :=
    conservativeGroups_spec hpairs
  rw [← hgroups] at hlength hvalues hgrouped
  refine ⟨_, parent, hmem, hforest, ?_, hcount.trans hlength, hvalues, hgrouped⟩
  intro a b hparent
  obtain ⟨ha, hb, hne⟩ := assess_parents h hparent
  -- The pair of the two has the lesser name first.
  rcases lt_or_gt_of_ne hne with hlt | hlt
  · obtain ⟨pair, hpair, rfl, rfl⟩ := hto a b ha hb hlt
    refine hsame pair hpair ?_
    rw [dependent_of_parent h hpair (.inl hparent)]
    decide
  · obtain ⟨pair, hpair, rfl, rfl⟩ := hto b a hb ha hlt
    refine (hsame pair hpair ?_).symm
    rw [dependent_of_parent h hpair (.inr hparent)]
    decide

/-- An ancestor leads to the root of what is derived from it. The induction is on the chain
of parents. -/
theorem same_of_isAncestor {parent : String → String}
    (hsame : ∀ {a b}, IsParent receipt.evidencePaths a b → UnionFind.Same parent a b) {a b : String}
    (h : IsAncestor receipt.evidencePaths a b) : UnionFind.Same parent a b := by
  induction h with
  | single hparent => exact hsame hparent
  | tail _ hparent ih => exact ih.trans (hsame hparent)

theorem same_of_related {parent : String → String}
    (hsame : ∀ {a b}, IsParent receipt.evidencePaths a b → UnionFind.Same parent a b) {a b : String}
    (h : Related receipt.evidencePaths a b) : UnionFind.Same parent a b := by
  rcases h with h | h | ⟨c, ha, hb⟩
  · exact same_of_isAncestor hsame h
  · exact (same_of_isAncestor hsame h).symm
  · exact (same_of_isAncestor hsame ha).symm.trans (same_of_isAncestor hsame hb)

theorem mem_of_isAncestor (h : assess recursionLimit claimId paths assertions = .ok receipt)
    {a b : String} (hancestor : IsAncestor receipt.evidencePaths a b) :
    a ∈ receipt.evidencePaths.map (·.pathId) ∧ b ∈ receipt.evidencePaths.map (·.pathId) := by
  induction hancestor with
  | single hparent => exact ⟨(assess_parents h hparent).1, (assess_parents h hparent).2.1⟩
  | tail _ hparent ih => exact ⟨ih.1, (assess_parents h hparent).2.1⟩

theorem mem_of_related (h : assess recursionLimit claimId paths assertions = .ok receipt)
    {a b : String} (hrelated : Related receipt.evidencePaths a b) :
    a ∈ receipt.evidencePaths.map (·.pathId) ∧ b ∈ receipt.evidencePaths.map (·.pathId) := by
  rcases hrelated with hab | hba | ⟨c, ha, hb⟩
  · exact mem_of_isAncestor h hab
  · exact (mem_of_isAncestor h hba).symm
  · exact ⟨(mem_of_isAncestor h ha).2, (mem_of_isAncestor h hb).2⟩

/-- There are no more groups than weakly connected components: what is connected leads to
one root. -/
theorem groupCount_le (h : assess recursionLimit claimId paths assertions = .ok receipt) :
    receipt.demonstratedIndependentGroupCount ≤
      Nat.card (parentGraph receipt.evidencePaths).ConnectedComponent := by
  obtain ⟨pathIds, parent, hmem, hforest, hsame, hcount, -⟩ := assess_groups h
  have hfinite : Finite {pathId // pathId ∈ receipt.evidencePaths.map (·.pathId)} :=
    (List.finite_toSet _).to_subtype
  rw [hcount]
  apply hforest.length_grouped_le (le_refl _) fun x =>
    (parentGraph receipt.evidencePaths).connectedComponentMk ⟨x.1, (hmem x.1).mp x.2⟩
  intro a b hcls
  have hreach := SimpleGraph.ConnectedComponent.exact hcls
  rw [SimpleGraph.reachable_iff_reflTransGen] at hreach
  have hlead : ∀ {x y : {pathId // pathId ∈ receipt.evidencePaths.map (·.pathId)}},
      Relation.ReflTransGen (parentGraph receipt.evidencePaths).Adj x y →
        UnionFind.Same parent x.1 y.1 := by
    intro x y hxy
    induction hxy with
    | refl => exact hforest.same_refl ((hmem x.1).mpr x.2)
    | tail _ hadj ih =>
        rcases ((SimpleGraph.fromRel_adj _ _ _).mp hadj).2 with hparent | hparent
        · exact ih.trans (hsame hparent)
        · exact ih.trans (hsame hparent).symm
  exact hlead hreach

/-- MAIN: **What is derived from one path is in one group.** A parent and its child are related as
dependent. Paths of which one is an ancestor of the other, or that have a common ancestor, are
related as independent only where that was asserted of them with a basis, and each has root
sources; in any case they are in the same dependency group. So there are no more groups than weakly
connected components of the parent graph. -/
theorem related_in_one_group (h : assess recursionLimit claimId paths assertions = .ok receipt) :
    (∃ normalized, paths.mapM normalizedPath = .ok normalized ∧
      receipt.evidencePaths.Perm normalized) ∧
    (∀ pair ∈ receipt.pairwiseRelations,
      IsParent receipt.evidencePaths pair.leftPathId pair.rightPathId ∨
        IsParent receipt.evidencePaths pair.rightPathId pair.leftPathId →
      pair.relation = .dependent) ∧
    (∀ pair ∈ receipt.pairwiseRelations,
      Related receipt.evidencePaths pair.leftPathId pair.rightPathId →
      pair.relation = .independent →
      (∃ raw ∈ assertions, ∃ assertion, normalizedAssertion raw = .ok assertion ∧
        (assertion.leftPathId, assertion.rightPathId) = (pair.leftPathId, pair.rightPathId) ∧
        assertion.relation = .independent ∧ assertion.basisRefs ≠ []) ∧
      ∀ path ∈ receipt.evidencePaths,
        path.pathId = pair.leftPathId ∨ path.pathId = pair.rightPathId →
          path.rootSourceRefs ≠ []) ∧
    (∀ a b, Related receipt.evidencePaths a b →
      (∃ group ∈ receipt.dependencyGroups, a ∈ group ∧ b ∈ group) ∧
        ∀ group ∈ receipt.dependencyGroups, a ∈ group ↔ b ∈ group) ∧
    receipt.demonstratedIndependentGroupCount ≤
      Nat.card (parentGraph receipt.evidencePaths).ConnectedComponent := by
  obtain ⟨normalized, _, hnormalized, hids, -, -, -, hpaths, -⟩ := assess_spec h
  refine ⟨⟨normalized, hnormalized, ?_⟩, ?_, ?_, ?_, groupCount_le h⟩
  · rw [hpaths]
    exact List.perm_insertionSort _ _
  · intro pair hpair hparent
    exact dependent_of_parent h hpair hparent
  · intro pair hpair _ hindependent
    obtain ⟨left, hleft, right, hright, assertion, hleftId, hrightId, hrelation, hasserted⟩ :=
      (assess_pair h).2 pair hpair
    obtain ⟨⟨filed, rfl, hfiled, hbasis⟩, hleftRoots, hrightRoots⟩ :=
      pairwiseRelation_independent hrelation hindependent
    obtain ⟨hnames, raw, hraw, hrawNormalized⟩ := hasserted filed rfl
    rw [← hleftId, ← hrightId] at hnames
    refine ⟨⟨raw, hraw, filed, hrawNormalized, hnames, hfiled, hbasis⟩, ?_⟩
    have hunique : ∀ {path other}, path ∈ receipt.evidencePaths → other ∈ receipt.evidencePaths →
        path.pathId = other.pathId → path = other := by
      intro path other hpath hother heq
      exact List.inj_on_of_nodup_map hids ((mem_evidencePaths hpaths).mp hpath)
        ((mem_evidencePaths hpaths).mp hother) heq
    intro path hpath hpathId
    rcases hpathId with hpathId | hpathId
    · rwa [hunique hpath hleft (hpathId.trans hleftId)]
    · rwa [hunique hpath hright (hpathId.trans hrightId)]
  · intro a b hrelated
    obtain ⟨pathIds, parent, hmem, hforest, hsame, -, hgroups, hgrouped⟩ := assess_groups h
    obtain ⟨ha, hb⟩ := mem_of_related h hrelated
    have hsameAB := same_of_related hsame hrelated
    have hiff : ∀ group ∈ receipt.dependencyGroups, a ∈ group ↔ b ∈ group := by
      intro group hgroup
      obtain ⟨⟨key, values⟩, hvalues, heq⟩ := hgroups group hgroup
      rw [heq, heq]
      exact hforest.mem_grouped_iff (le_refl _) hvalues hsameAB ((hmem a).mpr ha) ((hmem b).mpr hb)
    obtain ⟨root, haroot, -⟩ := hsameAB
    obtain ⟨values, hvalues, haValues⟩ :=
      (hforest.grouped_items (le_refl _)).2.mpr ⟨(hmem a).mpr ha, haroot⟩
    obtain ⟨group, hgroup, heq⟩ := hgrouped _ hvalues
    have haGroup : a ∈ group := (heq a).mpr haValues
    exact ⟨⟨group, hgroup, haGroup, (hiff group hgroup).mp haGroup⟩, hiff⟩

end

/-! ## A chain of three paths -/

/-- A path by an actor of its own, from a source of its own. -/
def chainPath (pathId : String) (parentPathIds : List String) : EvidencePathDeclaration :=
  { pathId, claimId := "claim", actorId := "actor " ++ pathId, stance := "SUPPORTS"
    outputSha256 := String.ofList (List.replicate 64 'a'), rootSourceRefs := ["source " ++ pathId]
    parentPathIds }

/-- A path, one derived from it, and one derived from that. -/
def chainPaths : List EvidencePathDeclaration :=
  [chainPath "a" [], chainPath "b" ["a"], chainPath "c" ["b"]]

/-- The first and the last of the chain are independent. -/
def chainAssertion : IndependenceAssertion :=
  { leftPathId := "a", rightPathId := "c", relation := "INDEPENDENT", basisRefs := ["basis"] }

/-- COUNTEREXAMPLE: The parent graph is acyclic and the assertion is accepted, though the one path is
derived from the other by way of a third. -/
theorem skipped_generation_independent :
    ∃ receipt, assess 1000 "claim" chainPaths [chainAssertion] = .ok receipt ∧
      (∀ pathId, ¬ IsAncestor receipt.evidencePaths pathId pathId) ∧
      IsAncestor receipt.evidencePaths "a" "c" ∧
      ∃ pair ∈ receipt.pairwiseRelations, pair.leftPathId = "a" ∧ pair.rightPathId = "c" ∧
        pair.relation = .independent := by
  have hrun : ∃ receipt, assess 1000 "claim" chainPaths [chainAssertion] = .ok receipt ∧
      (IsParent receipt.evidencePaths "a" "b" ∧ IsParent receipt.evidencePaths "b" "c") ∧
      ∃ pair ∈ receipt.pairwiseRelations, pair.leftPathId = "a" ∧ pair.rightPathId = "c" ∧
        pair.relation = .independent :=
    exists_ok_of_decide (by decide +kernel)
  obtain ⟨receipt, hreceipt, ⟨hab, hbc⟩, hpair⟩ := hrun
  refine ⟨receipt, hreceipt, ?_, .tail (.single hab) hbc, hpair⟩
  exact assess_acyclic hreceipt

/-- WITNESS: The chain is in one group. -/
theorem related_in_one_group_chain :
    ∃ receipt, assess 1000 "claim" chainPaths [chainAssertion] = .ok receipt ∧
      ∃ group ∈ receipt.dependencyGroups, "a" ∈ group ∧ "c" ∈ group := by
  have hrun : ∃ receipt, assess 1000 "claim" chainPaths [chainAssertion] = .ok receipt ∧
      IsParent receipt.evidencePaths "a" "b" ∧ IsParent receipt.evidencePaths "b" "c" :=
    exists_ok_of_decide (by decide +kernel)
  obtain ⟨receipt, hreceipt, hab, hbc⟩ := hrun
  obtain ⟨-, -, -, hgroups, -⟩ := related_in_one_group hreceipt
  exact ⟨receipt, hreceipt, (hgroups "a" "c" (.inl (.tail (.single hab) hbc))).1⟩

end DeliberationEvidence

end PhiOS
